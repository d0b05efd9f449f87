import StoryScript.Proofs.Grammar.Declarations

set_option autoImplicit false

namespace StoryScript

open Grammar (Reading)

namespace Walk

section Requests

variable {v : Ended}

-- What a request comes to, as a reading of the tokens that are left.
def answered (tokens : List Token) : Parser.Request → Reading Parser.Answer (tokens.length + 1)
  | .program => (listing (Grammar.program tokens)).map .program
  | .declaration => (recovered (Grammar.declaration tokens)).map .statement
  | .statement => (heard (Grammar.statement tokens)).map .statement
  | .expression => (heard (Grammar.expression 0 tokens)).map .expression

def answeredAll : List Parser.Request → (tokens : List Token) → Reading (List Parser.Answer) (tokens.length + 1)
  | [], tokens => .read [] [] tokens (Grammar.self_lt tokens)
  | request :: rest, tokens =>
    (answered tokens request).bind fun answer left fewer =>
      ((answeredAll rest left).map fun answers => answer :: answers).widen fewer

theorem follows_serve (request : Parser.Request) (tokens : List Token) (fuel : Nat) :
    Follows v (serve fuel request) tokens (answered tokens request) (8 * tokens.length + 10 < fuel) := by
  cases request with
  | program => exact follows_map Parser.Answer.program (follows_program tokens fuel)
  | declaration =>
    exact follows_map Parser.Answer.statement (follows_less ((statements v fuel).declaration tokens) (by omega))
  | statement =>
    exact follows_map Parser.Answer.statement
      (follows_attempt (follows_less ((statements v fuel).statement tokens) (by omega)))
  | expression =>
    exact follows_map Parser.Answer.expression
      (follows_attempt (follows_less ((phrases v fuel).expression 0 tokens) (by omega)))

theorem follows_serveAll (requests : List Parser.Request) (tokens : List Token) (fuel : Nat) :
    Follows v (serveAll fuel requests) tokens (answeredAll requests tokens) (8 * tokens.length + 10 < fuel) := by
  induction requests generalizing tokens with
  | nil => exact follows_pure [] tokens _ _
  | cons request rest ih =>
    refine follows_bind (follows_serve request tokens fuel) ?_
    intro answer left fewer
    exact follows_widen fewer (follows_map (fun answers => answer :: answers) (follows_less (ih left) (by omega)))

end Requests

theorem answered_read (p : Parser) (request : Parser.Request) :
    ∃ faults fewer, answered p.tokens request = .read (p.serve request).1 faults (p.serve request).2.tokens fewer ∧
      (p.serve request).2.diagnostics = p.diagnostics ++ faults.map (Grammar.Fault.diagnostic p.endLine) := by
  cases request with
  | program => exact ⟨_, _, rfl, rfl⟩
  | declaration =>
    unfold answered Parser.serve Parser.readDeclaration
    cases Grammar.declaration p.tokens <;> exact ⟨_, _, rfl, rfl⟩
  | statement =>
    unfold answered Parser.serve Parser.readStatement
    cases Grammar.statement p.tokens <;> exact ⟨_, _, rfl, rfl⟩
  | expression =>
    unfold answered Parser.serve Parser.readExpression
    cases Grammar.expression 0 p.tokens <;> exact ⟨_, _, rfl, rfl⟩

theorem answeredAll_read (p : Parser) (requests : List Parser.Request) :
    ∃ faults fewer, answeredAll requests p.tokens =
        .read (p.serveAll requests).1 faults (p.serveAll requests).2.tokens fewer ∧
      (p.serveAll requests).2.diagnostics = p.diagnostics ++ faults.map (Grammar.Fault.diagnostic p.endLine) := by
  induction requests generalizing p with
  | nil => exact ⟨[], _, rfl, by simp [Parser.serveAll]⟩
  | cons request rest ih =>
    obtain ⟨faults, fewer, read, told⟩ := answered_read p request
    obtain ⟨others, _, later, toldLater⟩ := ih (p.serve request).2
    rw [Parser.serve_endLine] at toldLater
    refine ⟨faults ++ others, ?_, ?_, ?_⟩
    · have few := (Parser.serveAll_forwards p (request :: rest)).1.length_le
      omega
    · rw [answeredAll, read, Reading.bind, later]
      rfl
    · change ((p.serve request).2.serveAll rest).2.diagnostics = _
      rw [toldLater, told, List.map_append, List.append_assoc]

end Walk

namespace Cursor

def Returns (c : Cursor) (requests : List Parser.Request) (answers : List Parser.Answer) (last : Cursor) : Prop :=
  ∃ fuel, (Walk.serveAll fuel requests c).2 = .done answers last

structure FirstEnd (tokens : List Token) (stop : Nat) : Prop where
  isEnd : ∃ t, tokens[stop]? = some t ∧ t.kind = .eof
  unended : ∀ i t, i < stop → tokens[i]? = some t → t.kind ≠ .eof

-- A course over the same tokens that never goes back and never goes beyond a place.
structure Within (c : Cursor) (stop : Nat) (course : List Cursor) : Prop where
  unchanged : ∀ c' ∈ course, c'.tokens = c.tokens
  inside : ∀ c' ∈ course, c'.current ≤ stop
  forwards : (c :: course).Pairwise fun earlier later => earlier.current ≤ later.current

theorem step_tokens (c next : Cursor) (step : Step c next) : next.tokens = c.tokens := by
  cases step <;> rfl

theorem step_forwards (c next : Cursor) (step : Step c next) : c.current ≤ next.current := by
  cases step with
  | passed => exact Nat.le_succ _
  | _ => exact Nat.le_refl _

theorem step_inside (c next : Cursor) (stop : Nat) (step : Step c next) (first : FirstEnd c.tokens stop)
    (inside : c.current ≤ stop) : next.current ≤ stop := by
  cases step with
  | looked => exact inside
  | reported => exact inside
  | passed t ahead other =>
    obtain ⟨last, found, isEnd⟩ := first.isEnd
    have before : c.current ≠ stop := by
      intro same
      rw [same, found] at ahead
      cases ahead
      exact other isEnd
    exact Nat.lt_of_le_of_ne inside before

theorem steps_within (c last : Cursor) (course : List Cursor) (stop : Nat) (steps : Steps c course last)
    (first : FirstEnd c.tokens stop) (inside : c.current ≤ stop) : Within c stop course := by
  induction steps with
  | none c => exact ⟨by simp, by simp, by simp⟩
  | cons c next last course step further ih =>
    have same := step_tokens c next step
    have moved := step_forwards c next step
    have stays := step_inside c next stop step first inside
    have rest := ih (same ▸ first) stays
    refine ⟨?_, ?_, ?_⟩
    · exact List.forall_mem_cons.2 ⟨same, fun c' among => (rest.unchanged c' among).trans same⟩
    · exact List.forall_mem_cons.2 ⟨stays, rest.inside⟩
    · refine List.pairwise_cons.2 ⟨?_, rest.forwards⟩
      have ahead := (List.pairwise_cons.1 rest.forwards).1
      exact List.forall_mem_cons.2 ⟨moved, fun c' among => Nat.le_trans moved (ahead c' among)⟩

theorem firstEnd_tokens (v : Ended) : FirstEnd v.tokens v.before.length := by
  refine ⟨⟨v.last, ?_, v.isEnd⟩, ?_⟩
  · simp [Ended.tokens]
  · intro i t before found
    rw [Ended.tokens, List.getElem?_append_left before] at found
    exact v.unended t (List.mem_of_getElem? found)

theorem ended_ofTokens (startLine : Nat) (diagnostics : List Diagnostic) (tokens : List Token) :
    ∃ v : Ended, v.before = Parser.beforeEnd tokens ∧ v.last.line = Parser.findEnd startLine tokens ∧
      ofTokens startLine diagnostics tokens = v.stand v.before diagnostics := by
  obtain ⟨last, after, whole, isEnd, line⟩ := Parser.withEnd_split startLine tokens
  have unended : ∀ t ∈ Parser.beforeEnd tokens, t.kind ≠ .eof := by
    intro t among
    simpa using List.all_eq_true.1 List.all_takeWhile t among
  refine ⟨⟨Parser.beforeEnd tokens, last, after, unended, isEnd⟩, rfl, line, ?_⟩
  simp [ofTokens, Ended.stand, Ended.tokens, whole]

-- The parser on a list of tokens goes where the cursor goes and answers as it does.
theorem serveAll_ofTokens (startLine : Nat) (diagnostics : List Diagnostic) (tokens : List Token)
    (requests : List Parser.Request) (fuel : Nat) :
    let c := ofTokens startLine diagnostics tokens
    let p := (Parser.ofTokens startLine diagnostics tokens).serveAll requests
    Within c (Parser.endIndex tokens) (Walk.serveAll fuel requests c).1 ∧
      ((Walk.serveAll fuel requests c).2 =
          .done p.1 ⟨c.tokens, Parser.endIndex tokens - p.2.tokens.length, p.2.diagnostics⟩ ∨
        (Walk.serveAll fuel requests c).2 = .outOfFuel ∧ ¬ 8 * Parser.endIndex tokens + 10 < fuel) := by
  obtain ⟨v, before, line, same⟩ := ended_ofTokens startLine diagnostics tokens
  have stop : Parser.endIndex tokens = v.before.length := by rw [before]; rfl
  have made : Parser.ofTokens startLine diagnostics tokens = ⟨v.before, v.last.line, diagnostics⟩ := by
    rw [before, line]
    rfl
  obtain ⟨faults, fewer, read, told⟩ := Walk.answeredAll_read ⟨v.before, v.last.line, diagnostics⟩ requests
  obtain ⟨-, steps, ends⟩ := Walk.follows_serveAll (v := v) requests v.before fuel (List.suffix_refl _)
  rw [read] at ends
  obtain ⟨last, stepped, -⟩ := steps diagnostics
  rw [stop, made, same]
  refine ⟨steps_within _ last _ _ stepped (firstEnd_tokens v) (Nat.sub_le _ _), ?_⟩
  rw [told]
  exact ends diagnostics

theorem returns_iff (startLine : Nat) (diagnostics : List Diagnostic) (tokens : List Token)
    (requests : List Parser.Request) (answers : List Parser.Answer) (last : Cursor) :
    let c := ofTokens startLine diagnostics tokens
    let p := (Parser.ofTokens startLine diagnostics tokens).serveAll requests
    c.Returns requests answers last ↔
      answers = p.1 ∧ last = ⟨c.tokens, Parser.endIndex tokens - p.2.tokens.length, p.2.diagnostics⟩ := by
  intro c p
  constructor
  · rintro ⟨fuel, done⟩
    rcases (serveAll_ofTokens startLine diagnostics tokens requests fuel).2 with ran | ⟨out, -⟩
    · cases done.symm.trans ran
      exact ⟨rfl, rfl⟩
    · cases done.symm.trans out
  · rintro ⟨rfl, rfl⟩
    refine ⟨8 * Parser.endIndex tokens + 11, ?_⟩
    rcases (serveAll_ofTokens startLine diagnostics tokens requests (8 * Parser.endIndex tokens + 11)).2 with
      ran | ⟨-, few⟩
    · exact ran
    · exact absurd (Nat.lt_succ_self _) few

theorem parse_returns (text : String) (startLine : Nat) :
    ∃ last, (ofTokens startLine (scan text startLine).diagnostics (scan text startLine).tokens).Returns [.program]
        [.program (parse text startLine).program] last ∧
      last.diagnostics = (parse text startLine).diagnostics :=
  ⟨_, (returns_iff startLine _ _ [.program] _ _).2 ⟨rfl, rfl⟩, rfl⟩

theorem beforeEnd_tokens (v : Ended) : Parser.beforeEnd v.tokens = v.before := by
  have open' : ∀ t ∈ v.before, (t.kind != .eof) = true := fun t among => bne_iff_ne.2 (v.unended t among)
  rw [Parser.beforeEnd, Ended.tokens, List.takeWhile_append_of_pos open', List.takeWhile_cons_of_neg (by simp [v.isEnd]),
    List.append_nil]

theorem ended_agree (v other : Ended)
    (agree : other.tokens.take (v.before.length + 1) = v.tokens.take (v.before.length + 1)) :
    other.before = v.before ∧ other.last = v.last := by
  have short : v.tokens.take (v.before.length + 1) = v.before ++ [v.last] := by
    rw [Ended.tokens, List.take_append, List.take_of_length_le (Nat.le_succ _), Nat.add_sub_cancel_left]
    rfl
  have split : other.tokens = v.before ++ v.last :: other.tokens.drop (v.before.length + 1) := by
    calc
      other.tokens = other.tokens.take (v.before.length + 1) ++ other.tokens.drop (v.before.length + 1) :=
        (List.take_append_drop _ _).symm
      _ = (v.before ++ [v.last]) ++ other.tokens.drop (v.before.length + 1) := by rw [agree, short]
      _ = _ := List.append_assoc _ _ _
  have same : other.before = v.before := by
    rw [← beforeEnd_tokens other, split]
    exact beforeEnd_tokens ⟨v.before, v.last, other.tokens.drop (v.before.length + 1), v.unended, v.isEnd⟩
  refine ⟨same, ?_⟩
  rw [Ended.tokens, same] at split
  exact (List.cons.inj (List.append_cancel_left split)).1

theorem ofTokens_agree (startLine otherLine : Nat) (diagnostics : List Diagnostic) (tokens others : List Token)
    (agree : (ofTokens otherLine diagnostics others).tokens.take (Parser.endIndex tokens + 1) =
      (ofTokens startLine diagnostics tokens).tokens.take (Parser.endIndex tokens + 1)) :
    Parser.endIndex others = Parser.endIndex tokens ∧
      Parser.ofTokens otherLine diagnostics others = Parser.ofTokens startLine diagnostics tokens := by
  obtain ⟨v, before, line, same⟩ := ended_ofTokens startLine diagnostics tokens
  obtain ⟨other, before', line', same'⟩ := ended_ofTokens otherLine diagnostics others
  rw [same, same', Parser.endIndex, ← before] at agree
  obtain ⟨sameBefore, sameLast⟩ := ended_agree v other agree
  have tokensAgree : Parser.beforeEnd others = Parser.beforeEnd tokens := by rw [← before, ← before', sameBefore]
  have linesAgree : Parser.findEnd otherLine others = Parser.findEnd startLine tokens := by
    rw [← line, ← line', sameLast]
  refine ⟨congrArg List.length tokensAgree, ?_⟩
  unfold Parser.ofTokens
  rw [linesAgree, show others.takeWhile _ = _ from tokensAgree]
  rfl

theorem serve_moves (p : Parser) (request : Parser.Request) (stop : Nat) (inside : p.tokens.length ≤ stop) :
    stop - p.tokens.length ≤ stop - (p.serve request).2.tokens.length ∧
      stop - (p.serve request).2.tokens.length ≤ stop ∧
      (request = .declaration → stop - p.tokens.length < stop →
        stop - p.tokens.length < stop - (p.serve request).2.tokens.length) ∧
      (request = .program → stop - (p.serve request).2.tokens.length = stop) := by
  obtain ⟨forwards, strict, ends⟩ := Parser.serve_forwards p request
  have few := forwards.length_le
  refine ⟨by omega, Nat.sub_le _ _, ?_, ?_⟩
  · intro declares before
    have some : p.tokens ≠ [] := List.ne_nil_of_length_pos (by omega)
    have fewer := strict declares some
    omega
  · intro whole
    rw [ends whole]
    rfl

-- Whatever the tokens are and whichever calls are made: they come to an end, no lookup fails, no cursor on the
-- way goes back or beyond the first end, and what stands behind that end is not noticed.
theorem calls_stay_before_first_end (startLine : Nat) (diagnostics : List Diagnostic) (tokens : List Token) :
    let c := ofTokens startLine diagnostics tokens
    let stop := Parser.endIndex tokens
    FirstEnd c.tokens stop ∧
    (∀ requests, ∃ answers last, ∀ fuel, 8 * stop + 10 < fuel →
      (Walk.serveAll fuel requests c).2 = .done answers last) ∧
    (∀ requests fuel, Within c stop (Walk.serveAll fuel requests c).1 ∧
      ∀ why here, (Walk.serveAll fuel requests c).2 ≠ .fault why here) ∧
    (∀ requests request answers last more next,
      c.Returns requests answers last → c.Returns (requests ++ [request]) more next →
      last.current ≤ next.current ∧ next.current ≤ stop ∧
      (request = .declaration → last.current < stop → last.current < next.current) ∧
      (request = .program → next.current = stop)) ∧
    ∀ otherLine others,
      (ofTokens otherLine diagnostics others).tokens.take (stop + 1) = c.tokens.take (stop + 1) →
      ∀ requests answers last, c.Returns requests answers last →
        ∃ last', (ofTokens otherLine diagnostics others).Returns requests answers last' ∧
          last'.current = last.current ∧ last'.diagnostics = last.diagnostics := by
  intro c stop
  refine ⟨?_, ?_, ?_, ?_, ?_⟩
  · obtain ⟨v, before, -, same⟩ := ended_ofTokens startLine diagnostics tokens
    have whole := firstEnd_tokens v
    rw [before] at whole
    rw [show c = _ from same]
    exact whole
  · intro requests
    let p := (Parser.ofTokens startLine diagnostics tokens).serveAll requests
    refine ⟨p.1, ⟨c.tokens, stop - p.2.tokens.length, p.2.diagnostics⟩, ?_⟩
    intro fuel room
    rcases (serveAll_ofTokens startLine diagnostics tokens requests fuel).2 with ran | ⟨-, few⟩
    · exact ran
    · exact absurd room few
  · intro requests fuel
    obtain ⟨within, ran | ⟨out, -⟩⟩ := serveAll_ofTokens startLine diagnostics tokens requests fuel
    · exact ⟨within, fun why here fault => nomatch ran.symm.trans fault⟩
    · exact ⟨within, fun why here fault => nomatch out.symm.trans fault⟩
  · intro requests request answers last more next returned later
    obtain ⟨-, rfl⟩ := (returns_iff startLine diagnostics tokens requests answers last).1 returned
    obtain ⟨-, rfl⟩ := (returns_iff startLine diagnostics tokens _ more next).1 later
    rw [Parser.serveAll_append]
    have inside := (Parser.serveAll_forwards (Parser.ofTokens startLine diagnostics tokens) requests).1.length_le
    generalize ((Parser.ofTokens startLine diagnostics tokens).serveAll requests).2 = p at *
    exact serve_moves p request stop inside
  · intro otherLine others agree requests answers last returned
    obtain ⟨rfl, rfl⟩ := (returns_iff startLine diagnostics tokens requests answers last).1 returned
    obtain ⟨sameStop, sameParser⟩ := ofTokens_agree startLine otherLine diagnostics tokens others agree
    refine ⟨_, (returns_iff otherLine diagnostics others requests _ _).2 ⟨?_, rfl⟩, ?_, ?_⟩
    · rw [sameParser]
    · change Parser.endIndex others - _ = Parser.endIndex tokens - _
      rw [sameStop, sameParser]
    · change Parser.diagnostics _ = Parser.diagnostics _
      rw [sameParser]

def strayTokens (tail : List Token) : List Token :=
  [.spelled .star "*" 1, .spelled .wordPrint "print" 1, .spelled .identifier "a" 1, .spelled .semicolon ";" 1,
    .endAt 2] ++ tail

-- Asking for an expression leaves the sign where it is. A declaration then fails as well but goes past it.
theorem stray_sign_passed :
    ∃ last next, (ofTokens 1 [] (strayTokens [.spelled .star "*" 3])).Returns [.expression] [.expression none] last ∧
      (ofTokens 1 [] (strayTokens [.spelled .star "*" 3])).Returns [.expression, .declaration]
        [.expression none, .statement none] next ∧
      last.current = 0 ∧ last.current < next.current ∧ next.current ≤ 4 ∧
      ∃ last', (ofTokens 1 [] (strayTokens [])).Returns [.expression] [.expression none] last' ∧
        last'.diagnostics = last.diagnostics := by
  let c := ofTokens 1 [] (strayTokens [.spelled .star "*" 3])
  obtain ⟨-, -, -, moves, unseen⟩ := calls_stay_before_first_end 1 [] (strayTokens [.spelled .star "*" 3])
  have first : c.Returns [.expression] [.expression none] ⟨c.tokens, 0, [⟨"Expect expression.", 1, .lexeme "*"⟩]⟩ :=
    ⟨50, by rfl⟩
  have second : c.Returns [.expression, .declaration] [.expression none, .statement none]
      ⟨c.tokens, 1, [⟨"Expect expression.", 1, .lexeme "*"⟩, ⟨"Expect expression.", 1, .lexeme "*"⟩]⟩ := ⟨50, by rfl⟩
  obtain ⟨-, inside, strict, -⟩ := moves [.expression] .declaration _ _ _ _ first second
  obtain ⟨last', same, -, told⟩ := unseen 1 (strayTokens []) rfl [.expression] _ _ first
  exact ⟨_, _, first, second, rfl, strict rfl (by decide), inside, last', same, told⟩

end Cursor

end StoryScript
