import StoryScript.Grammar.Cursor
import StoryScript.Proofs.Grammar.Laws

set_option autoImplicit false

namespace StoryScript

namespace Grammar

theorem resume_suffix (previous : Token) (tokens : List Token) : resume previous tokens <:+ tokens := by
  induction tokens generalizing previous with
  | nil => exact List.suffix_refl _
  | cons t rest ih =>
    rw [resume]
    split
    · exact List.suffix_refl _
    · exact (ih t).trans (List.suffix_cons t rest)

theorem synchronize_suffix (tokens : List Token) : synchronize tokens <:+ tokens := by
  cases tokens with
  | nil => exact List.suffix_refl _
  | cons t rest => exact (resume_suffix t rest).trans (List.suffix_cons t rest)

section Rests

variable {α β : Type} {n : Nat}

theorem rest_bind (tokens : List Token) (r : Reading α n)
    (next : α → (rest : List Token) → rest.length < n → Reading β n) (first : r.rest <:+ tokens)
    (second : ∀ found rest fewer, (next found rest fewer).rest <:+ rest) : (r.bind next).rest <:+ tokens := by
  cases r with
  | read found faults rest fewer =>
    rw [Reading.bind, rest_after]
    exact (second found rest fewer).trans first
  | failed faults rest atMost => exact first

theorem rest_operate (sign : Token) (tokens : List Token) (operator : Operator) (left : Expr) (r : Reading Expr n)
    (next : Expr → (rest : List Token) → Reading Expr (rest.length + 1)) (first : r.rest <:+ tokens)
    (second : ∀ right rest, rest.length < n → (next right rest).rest <:+ rest) :
    (r.bind fun right rest fewer => ((next right rest).after (operator.faults sign left)).widen fewer).rest <:+
      sign :: tokens := by
  refine (rest_bind tokens r _ first ?_).trans (List.suffix_cons sign tokens)
  intro right rest fewer
  rw [rest_widen, rest_after]
  exact second right rest fewer

theorem rest_expect (kind : Kind) (complaint : Complaint) (tokens : List Token) :
    (expect kind complaint tokens).rest <:+ tokens := by
  cases tokens with
  | nil => exact List.suffix_refl _
  | cons t rest =>
    rw [expect]
    split
    · exact List.suffix_cons t rest
    · exact List.suffix_refl _

theorem rest_close (tokens : List Token) (l : Listing n) (suffix : l.rest <:+ tokens) : l.close.rest <:+ tokens := by
  obtain ⟨body, faults, rest, atMost⟩ := l
  rw [Listing.close, rest_widen, rest_after, rest_map]
  exact (rest_expect _ _ rest).trans suffix

end Rests

def forwards : Law where
  Holds := fun tokens r => r.rest <:+ tokens
  Lists := fun tokens l => l.rest <:+ tokens
  read := fun _ rest _ => List.suffix_refl rest
  complain := fun _ tokens _ => List.suffix_refl tokens
  map := fun _ f r suffix => rest_map f r ▸ suffix
  widen := fun _ r le suffix => rest_widen r le ▸ suffix
  bind := fun tokens r next => rest_bind tokens r next
  operate := fun sign tokens operator left r next => rest_operate sign tokens operator left r next
  past := fun t tokens _ suffix => suffix.trans (List.suffix_cons t tokens)
  empty := fun tokens => List.suffix_refl tokens
  goOn := fun _ _ _ _ _ _ first later => later.trans first
  recover := fun _ _ rest _ _ _ first later => later.trans ((synchronize_suffix rest).trans first)
  close := fun tokens l => rest_close tokens l

theorem program_rest (tokens : List Token) : (program tokens).rest = [] := by
  fun_induction program tokens with
  | case1 => rfl
  | case2 t rest stmt faults rest' fewer _ ih => exact ih
  | case3 t rest faults rest' atMost _ shorter ih => exact ih

end Grammar

open Grammar

namespace Parser

def beforeEnd (tokens : List Token) : List Token := tokens.takeWhile fun t => t.kind != .eof

def endIndex (tokens : List Token) : Nat := (beforeEnd tokens).length

theorem tokens_split (tokens : List Token) :
    (tokens.find? (fun t => t.kind == .eof) = none ∧ beforeEnd tokens = tokens) ∨
      ∃ last after, tokens.find? (fun t => t.kind == .eof) = some last ∧ last.kind = .eof ∧
        tokens = beforeEnd tokens ++ last :: after := by
  induction tokens with
  | nil => exact Or.inl ⟨rfl, rfl⟩
  | cons t rest ih =>
    by_cases ends : t.kind = .eof
    · exact Or.inr ⟨t, rest, by simp [ends], ends, by simp [beforeEnd, ends]⟩
    · have goesOn : beforeEnd (t :: rest) = t :: beforeEnd rest := by simp [beforeEnd, ends]
      have further : (t :: rest).find? (fun t => t.kind == .eof) = rest.find? (fun t => t.kind == .eof) := by simp [ends]
      rw [goesOn, further]
      rcases ih with ⟨none, all⟩ | ⟨last, after, found, isEnd, split⟩
      · exact Or.inl ⟨none, by rw [all]⟩
      · exact Or.inr ⟨last, after, found, isEnd, by rw [List.cons_append, ← split]⟩

theorem withEnd_split (startLine : Nat) (tokens : List Token) :
    ∃ last after, withEnd startLine tokens = beforeEnd tokens ++ last :: after ∧ last.kind = .eof ∧
      last.line = findEnd startLine tokens := by
  unfold withEnd findEnd
  rcases tokens_split tokens with ⟨none, all⟩ | ⟨last, after, found, isEnd, split⟩
  · have unclosed : ¬ tokens.getLast?.map Token.kind = some .eof := by
      intro closed
      obtain ⟨t, isLast, isEnd⟩ := Option.map_eq_some_iff.1 closed
      have other := List.find?_eq_none.1 none t (List.mem_of_getLast? isLast)
      exact other (beq_iff_eq.2 isEnd)
    rw [if_neg unclosed, none, all]
    exact ⟨Token.endAt _, [], rfl, rfl, rfl⟩
  · rw [found]
    by_cases closed : tokens.getLast?.map Token.kind = some .eof
    · rw [if_pos closed]
      exact ⟨last, after, split, isEnd, rfl⟩
    · rw [if_neg closed]
      refine ⟨last, after ++ [Token.endAt ((tokens.getLast?.map Token.line).getD startLine)], ?_, isEnd, rfl⟩
      rw [← List.cons_append, ← List.append_assoc, ← split]

-- What is left tells the place of the next token: one of the tokens before the first end, or that end itself.
theorem looked_suffix (startLine : Nat) (tokens left : List Token) (suffix : left <:+ beforeEnd tokens) :
    ∃ t, (withEnd startLine tokens)[endIndex tokens - left.length]? = some t ∧
      (left.head? = some t ∨ left = [] ∧ t.kind = .eof ∧ t.line = findEnd startLine tokens) := by
  obtain ⟨last, after, whole, isEnd, line⟩ := withEnd_split startLine tokens
  have few : left.length ≤ endIndex tokens := suffix.length_le
  have ahead : left = (beforeEnd tokens).drop (endIndex tokens - left.length) := List.suffix_iff_eq_drop.1 suffix
  rw [whole]
  cases left with
  | nil =>
    refine ⟨last, ?_, Or.inr ⟨rfl, isEnd, line⟩⟩
    simp [endIndex]
  | cons t rest =>
    rw [List.length_cons] at ahead few
    have inside : endIndex tokens - (rest.length + 1) < (beforeEnd tokens).length := by
      have same : endIndex tokens = (beforeEnd tokens).length := rfl
      omega
    refine ⟨t, ?_, Or.inl rfl⟩
    rw [List.length_cons, List.getElem?_append_left inside, ← List.head?_drop, ← ahead]
    rfl

theorem serve_endLine (p : Parser) (request : Request) : (p.serve request).2.endLine = p.endLine := by
  cases request with
  | declaration =>
    unfold serve readDeclaration
    cases declaration p.tokens <;> rfl
  | _ => rfl

-- No request goes back, none for a declaration stands still, and one for a program goes to the end.
theorem serve_forwards (p : Parser) (request : Request) :
    (p.serve request).2.tokens <:+ p.tokens ∧
      (request = .declaration → p.tokens ≠ [] → (p.serve request).2.tokens.length < p.tokens.length) ∧
      (request = .program → (p.serve request).2.tokens = []) := by
  cases request with
  | program => exact ⟨forwards.lists_program p.tokens, by simp, fun _ => program_rest p.tokens⟩
  | statement => exact ⟨forwards.holds_statement p.tokens, by simp, by simp⟩
  | expression => exact ⟨forwards.holds_expression 0 p.tokens, by simp, by simp⟩
  | declaration =>
    have suffix := forwards.holds_declaration p.tokens
    unfold serve readDeclaration
    generalize declaration p.tokens = r at suffix
    cases r with
    | read stmt faults rest fewer => exact ⟨suffix, fun _ _ => fewer, by simp⟩
    | failed faults rest atMost =>
      refine ⟨(synchronize_suffix rest).trans suffix, ?_, by simp⟩
      intro _ some
      -- A failure may have taken no token, but the one it stopped at is dropped.
      have dropped := length_synchronize_le rest
      have left := List.length_pos_iff.2 some
      change (synchronize rest).length < p.tokens.length
      omega

theorem serveAll_forwards (p : Parser) (requests : List Request) :
    (p.serveAll requests).2.tokens <:+ p.tokens ∧
      (.declaration ∈ requests → p.tokens ≠ [] → (p.serveAll requests).2.tokens.length < p.tokens.length) ∧
      (.program ∈ requests → (p.serveAll requests).2.tokens = []) := by
  induction requests generalizing p with
  | nil => exact ⟨List.suffix_refl _, by simp, by simp⟩
  | cons request rest ih =>
    obtain ⟨first, firstShorter, firstEnds⟩ := serve_forwards p request
    obtain ⟨later, laterShorter, laterEnds⟩ := ih (p.serve request).2
    refine ⟨later.trans first, ?_, ?_⟩
    · intro asked some
      rcases List.mem_cons.1 asked with rfl | among
      · exact Nat.lt_of_le_of_lt later.length_le (firstShorter rfl some)
      · by_cases ended : (p.serve request).2.tokens = []
        · have none : ((p.serve request).2.serveAll rest).2.tokens = [] := by
            rw [ended] at later
            exact List.suffix_nil.1 later
          change ((p.serve request).2.serveAll rest).2.tokens.length < _
          rw [none]
          exact List.length_pos_iff.2 some
        · exact Nat.lt_of_lt_of_le (laterShorter among ended) first.length_le
    · intro asked
      rcases List.mem_cons.1 asked with rfl | among
      · rw [firstEnds rfl] at later
        exact List.suffix_nil.1 later
      · exact laterEnds among

theorem serveAll_append (p : Parser) (requests more : List Request) :
    (p.serveAll (requests ++ more)).2 = ((p.serveAll requests).2.serveAll more).2 := by
  induction requests generalizing p with
  | nil => rfl
  | cons request rest ih => exact ih _

end Parser

end StoryScript
