import StoryScript.Prompt
import StoryScript.Proofs.Token.Braces

set_option autoImplicit false

namespace StoryScript

namespace Prompt

def accepts (p : Prompt) (line : String) : Bool :=
  !(p.pending.isEmpty && isBlankLine line) && !(p.pending.isEmpty && isExit line)

inductive Reached : Prompt → Session → Prop where
  | start (session : Session) : Reached {} session
  | next (fuel : Nat) (p later : Prompt) (session after : Session) (event : Event) (entries : List Entry)
      (reached : Reached p session) (typed : ∀ line, event = .line line → '\n' ∉ line.toList)
      (went : step fuel p session event = some (.goOn later after entries)) : Reached later after

theorem react_accepted (p : Prompt) (line : String) (accepted : p.accepts line = true) :
    p.react line =
      if p.depth + braceDelta false line.toList ≤ 0 then .complete (p.pending ++ [line])
      else .pending ⟨p.pending ++ [line], p.depth + braceDelta false line.toList⟩ := by
  obtain ⟨keptIn, stays⟩ := (Bool.and_eq_true_iff).1 accepted
  have notBlank : ¬ (p.pending.isEmpty && isBlankLine line) = true := by
    intro blank
    rw [blank] at keptIn
    cases keptIn
  have notExit : ¬ (p.pending.isEmpty && isExit line) = true := by
    intro leaving
    rw [leaving] at stays
    cases stays
  unfold react
  rw [if_neg notBlank, if_neg notExit]

theorem react_pending (p later : Prompt) (line : String) (pending : p.react line = .pending later) :
    later = ⟨p.pending ++ [line], p.depth + braceDelta false line.toList⟩ := by
  unfold react at pending
  by_cases blank : (p.pending.isEmpty && isBlankLine line) = true
  · rw [if_pos blank] at pending
    cases pending
  · by_cases leaving : (p.pending.isEmpty && isExit line) = true
    · rw [if_neg blank, if_pos leaving] at pending
      cases pending
    · by_cases closed : p.depth + braceDelta false line.toList ≤ 0
      · rw [if_neg blank, if_neg leaving, if_pos closed] at pending
        cases pending
      · rw [if_neg blank, if_neg leaving, if_neg closed] at pending
        exact (Reaction.pending.inj pending).symm

structure Counted (p : Prompt) : Prop where
  lines : ∀ line ∈ p.pending, '\n' ∉ line.toList
  depth : p.depth = (p.pending.map fun line => braceDelta false line.toList).sum

theorem counted_start : Counted {} := ⟨by simp, rfl⟩

theorem counted_more (p : Prompt) (line : String) (counted : Counted p) (oneLine : '\n' ∉ line.toList) :
    Counted ⟨p.pending ++ [line], p.depth + braceDelta false line.toList⟩ where
  lines := by
    intro other member
    rcases List.mem_append.1 member with earlier | last
    · exact counted.lines other earlier
    · rw [List.mem_singleton.1 last]
      exact oneLine
  depth := by simp [counted.depth]

theorem counted_next (fuel : Nat) (p later : Prompt) (session after : Session) (event : Event) (entries : List Entry)
    (counted : Counted p) (typed : ∀ line, event = .line line → '\n' ∉ line.toList)
    (went : step fuel p session event = some (.goOn later after entries)) : Counted later := by
  cases event with
  | endOfInput => cases went
  | failure message => cases went
  | interrupt =>
    cases went
    exact counted_start
  | line line =>
    simp only [step] at went
    cases reaction : p.react line with
    | ignored =>
      rw [reaction] at went
      cases went
      exact counted
    | quit =>
      rw [reaction] at went
      cases went
    | pending next =>
      rw [reaction] at went
      cases went
      rw [react_pending p later line reaction]
      exact counted_more p line counted (typed line rfl)
    | complete lines =>
      rw [reaction] at went
      obtain ⟨ran, _, same⟩ := Option.map_eq_some_iff.1 went
      cases same
      exact counted_start

theorem reached_counted (p : Prompt) (session : Session) (reached : Reached p session) : Counted p := by
  induction reached with
  | start session => exact counted_start
  | next fuel p later session after event entries reached typed went ih =>
    exact counted_next fuel p later session after event entries ih typed went

theorem head_before_newline (line more : List Char) :
    (line ++ '\n' :: more).head? = some '/' ↔ line.head? = some '/' := by
  cases line with
  | nil => simp
  | cons c line => rfl

theorem braceDelta_code (c : Char) (line : List Char) (notQuote : c ≠ '"')
    (noComment : ¬ (c = '/' ∧ line.head? = some '/')) :
    braceDelta false (c :: line) = Int32.ofInt (braceOf c) + braceDelta false line := by
  have goesOn : ¬ (decide (c = '/') && line.head? == some '/') = true := by simpa using noComment
  rw [braceDelta, if_neg notQuote, if_neg Bool.false_ne_true, if_neg goesOn, braceOf]
  by_cases opening : c = '\x7b'
  · rw [if_pos opening, if_pos opening, Int32.add_comm]
    rfl
  · rw [if_neg opening, if_neg opening]
    by_cases closing : c = '\x7d'
    · rw [if_pos closing, if_pos closing, Int32.sub_eq_add_neg, Int32.add_comm]
      rfl
    · rw [if_neg closing, if_neg closing]
      exact (Int32.zero_add _).symm

-- What the loop counts in a line is what a reader of the whole text counts there. The induction is on the
-- line, inside and outside of a string at once.
theorem lineBraces_line (inString : Bool) (line more : List Char) (oneLine : '\n' ∉ line) :
    Int32.ofInt (lineBraces (if inString then .string else .code) (line ++ '\n' :: more)) =
      braceDelta inString line + Int32.ofInt (lineBraces .code more) := by
  induction line generalizing inString with
  | nil =>
    rw [List.nil_append, lineBraces_newline]
    exact (Int32.zero_add _).symm
  | cons c line ih =>
    have notNewline := Ne.symm (List.ne_of_not_mem_cons oneLine)
    have others := List.not_mem_of_not_mem_cons oneLine
    have inside := ih true others
    have outside := ih false others
    by_cases quote : c = '"'
    · cases inString with
      | true => simpa [lineBraces, braceDelta, quote] using outside
      | false => simpa [lineBraces, braceDelta, quote] using inside
    · cases inString with
      | true => simpa [lineBraces, braceDelta, notNewline, quote] using inside
      | false =>
        have next := head_before_newline line more
        by_cases comment : c = '/' ∧ line.head? = some '/'
        · have skipped := lineBraces_comment line ('\n' :: more) others
          rw [lineBraces_newline] at skipped
          simpa [lineBraces, braceDelta, next, notNewline, quote, comment] using congrArg Int32.ofInt skipped
        · have goesOn : ¬ (c = '/' ∧ (line ++ '\n' :: more).head? = some '/') := by
            rw [next]
            exact comment
          rw [braceDelta_code c line quote comment, Int32.add_assoc, ← outside, if_neg Bool.false_ne_true,
            ← Int32.ofInt_add, List.cons_append, lineBraces, if_neg notNewline, if_neg quote, if_neg goesOn]

theorem toList_chunkText (line : String) (lines : List String) :
    (chunkText (line :: lines)).toList = line.toList ++ '\n' :: (chunkText lines).toList := by
  simp [chunkText]

theorem lineBraces_chunk (lines : List String) (oneLine : ∀ line ∈ lines, '\n' ∉ line.toList) :
    Int32.ofInt (lineBraces .code (chunkText lines).toList) =
      (lines.map fun line => braceDelta false line.toList).sum := by
  induction lines with
  | nil => rfl
  | cons line lines ih =>
    obtain ⟨first, others⟩ := List.forall_mem_cons.1 oneLine
    have read := lineBraces_line false line.toList (chunkText lines).toList first
    rw [if_neg Bool.false_ne_true] at read
    rw [toList_chunkText, read, ih others, List.map_cons, List.sum_cons]

theorem react_complete (p : Prompt) (line : String) (accepted : p.accepts line = true) :
    p.react line = .complete (p.pending ++ [line]) ↔ p.depth + braceDelta false line.toList ≤ 0 := by
  rw [react_accepted p line accepted]
  by_cases closed : p.depth + braceDelta false line.toList ≤ 0
  · rw [if_pos closed]
    exact ⟨fun _ => closed, fun _ => rfl⟩
  · rw [if_neg closed]
    constructor
    · intro same
      cases same
    · intro balanced
      exact absurd balanced closed

-- A counter of 32 bits is positive as the number is that it counts, as long as the number fits.
theorem counter_closed (opened closed : Nat) (notTooOpen : opened < closed + 2147483648)
    (notTooClosed : closed ≤ opened + 2147483648) :
    Int32.ofInt ((opened : Int) - (closed : Int)) ≤ 0 ↔ opened ≤ closed := by
  have exact : (Int32.ofInt ((opened : Int) - (closed : Int))).toInt = (opened : Int) - (closed : Int) :=
    Int32.toInt_ofInt_of_le (by omega) (by omega)
  rw [Int32.le_iff_toInt_le, exact, Int32.toInt_zero]
  omega

-- A chunk is run at the line that makes its tokens balance, provided that nothing but plain comments goes
-- on from one line to the next. The braces are counted in 32 bits, and balance as far as these can tell.
theorem complete_iff_tokens_balance (p : Prompt) (session : Session) (line : String) (reached : Reached p session)
    (oneLine : '\n' ∉ line.toList) (accepted : p.accepts line = true)
    (linewise : Piece.allLinewise (pieces (chunkText (p.pending ++ [line])).toList) = true) :
    let kinds := (scan (chunkText (p.pending ++ [line])) 1).tokens.map Token.kind
    (p.react line = .complete (p.pending ++ [line]) ↔
      Int32.ofInt ((kinds.count .leftBrace : Int) - (kinds.count .rightBrace : Int)) ≤ 0) ∧
    (kinds.count .leftBrace < kinds.count .rightBrace + 2147483648 →
      kinds.count .rightBrace ≤ kinds.count .leftBrace + 2147483648 →
      (p.react line = .complete (p.pending ++ [line]) ↔ kinds.count .leftBrace ≤ kinds.count .rightBrace)) := by
  intro kinds
  have more := counted_more p line (reached_counted p session reached) oneLine
  have read := lineBraces_chunk (p.pending ++ [line]) more.lines
  have tokens := congrArg Int32.ofInt (braces_scan (chunkText (p.pending ++ [line])) 1 linewise)
  have depth : p.depth + braceDelta false line.toList = _ := more.depth.trans (read.symm.trans tokens)
  rw [react_complete p line accepted, depth]
  exact ⟨Iff.rfl, counter_closed _ _⟩

theorem reached_open (session : Session) (line : String) (oneLine : '\n' ∉ line.toList)
    (pending : react {} line = .pending ⟨[line], 1⟩) : Reached ⟨[line], 1⟩ session := by
  refine .next 0 {} _ session session (.line line) [.remembered line] (.start session) ?_ ?_
  · rintro _ ⟨⟩
    exact oneLine
  · rw [step, pending]

theorem commented_function_completes :
    ∃ p line, p = ⟨["fun f() \x7b /* none"], 1⟩ ∧ line = "yet */ return \"\x7d\"; \x7d" ∧
      Reached p (Session.start { world := .ofSeed 0 }) ∧ '\n' ∉ line.toList ∧ p.accepts line = true ∧
      Piece.allLinewise (pieces (chunkText (p.pending ++ [line])).toList) = true ∧
      p.react line = .complete (p.pending ++ [line]) := by
  have reached := reached_open (Session.start { world := .ofSeed 0 }) "fun f() \x7b /* none" (by decide +kernel) (by rfl)
  have oneLine : '\n' ∉ "yet */ return \"\x7d\"; \x7d".toList := by decide +kernel
  have linewise : Piece.allLinewise
      (pieces (chunkText ["fun f() \x7b /* none", "yet */ return \"\x7d\"; \x7d"]).toList) = true := by decide +kernel
  have balance := (complete_iff_tokens_balance _ _ _ reached oneLine rfl linewise).2
  exact ⟨_, _, rfl, rfl, reached, oneLine, rfl, linewise,
    (balance (by decide +kernel) (by decide +kernel)).2 (by decide +kernel)⟩

-- A string that goes on into the next line. The loop counts the brace in it, and runs the chunk while the
-- block is still open.
theorem spanning_string_completes_early :
    ¬ ∀ (p : Prompt) (session : Session) (line : String), Reached p session → '\n' ∉ line.toList →
      p.accepts line = true →
      (p.react line = .complete (p.pending ++ [line]) ↔
        ((scan (chunkText (p.pending ++ [line])) 1).tokens.map Token.kind).count .leftBrace ≤
          ((scan (chunkText (p.pending ++ [line])) 1).tokens.map Token.kind).count .rightBrace) := by
  intro agree
  have reached := reached_open (Session.start { world := .ofSeed 0 }) "\x7b print \"a" (by decide +kernel) (by rfl)
  have same := agree _ _ "\x7d b\";" reached (by decide +kernel) rfl
  have ran : react ⟨["\x7b print \"a"], 1⟩ "\x7d b\";" = .complete ["\x7b print \"a", "\x7d b\";"] := by rfl
  have opened : ¬ ((scan (chunkText ["\x7b print \"a", "\x7d b\";"]) 1).tokens.map Token.kind).count .leftBrace ≤
      ((scan (chunkText ["\x7b print \"a", "\x7d b\";"]) 1).tokens.map Token.kind).count .rightBrace := by
    decide +kernel
  exact opened (same.1 ran)

end Prompt

end StoryScript
