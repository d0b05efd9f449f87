import StoryScript.Grammar.Statement

set_option autoImplicit false

namespace StoryScript.Grammar

-- A reading seen without its bound: the phrase that was read and the tokens left, when no fault was
-- found on the way. Every reader below is described by what it reads in this sense, so that no proof
-- after this module touches a bound.
def Reading.Reads {α : Type} {n : Nat} (reading : Reading α n) (phrase : α) (rest : List Token) : Prop :=
  match reading with
  | .read found faults left _ => found = phrase ∧ faults = [] ∧ left = rest
  | .failed .. => False

namespace Reading

variable {α β : Type} {m n : Nat}

theorem reads_fewer (r : Reading α n) (phrase : α) (rest : List Token) (reads : r.Reads phrase rest) :
    rest.length < n := by
  cases r with
  | read found faults left fewer =>
    obtain ⟨_, _, rfl⟩ := reads
    exact fewer
  | failed faults left atMost => exact reads.elim

theorem reads_map (f : α → β) (r : Reading α n) (phrase : β) (rest : List Token) :
    (r.map f).Reads phrase rest ↔ ∃ found, r.Reads found rest ∧ f found = phrase := by
  cases r with
  | read found faults left fewer =>
    constructor
    · rintro ⟨same, clean, left⟩
      exact ⟨found, ⟨rfl, clean, left⟩, same⟩
    · rintro ⟨_, ⟨rfl, clean, left⟩, same⟩
      exact ⟨same, clean, left⟩
  | failed faults left atMost => simp [map, Reads]

theorem reads_after (earlier : List Fault) (r : Reading α n) (phrase : α) (rest : List Token) :
    (r.after earlier).Reads phrase rest ↔ earlier = [] ∧ r.Reads phrase rest := by
  cases r with
  | read found faults left fewer =>
    simp only [after, Reads, List.append_eq_nil_iff]
    constructor
    · rintro ⟨same, ⟨first, clean⟩, left⟩
      exact ⟨first, same, clean, left⟩
    · rintro ⟨first, same, clean, left⟩
      exact ⟨same, ⟨first, clean⟩, left⟩
  | failed faults left atMost => simp [after, Reads]

theorem reads_widen (r : Reading α m) (le : m ≤ n) (phrase : α) (rest : List Token) :
    (r.widen le).Reads phrase rest ↔ r.Reads phrase rest := by
  cases r <;> rfl

theorem reads_within (r : Reading α m) (fewer : m < n) (phrase : α) (rest : List Token) :
    (r.within fewer).Reads phrase rest ↔ r.Reads phrase rest := reads_widen r _ phrase rest

theorem reads_past (r : Reading α n) (phrase : α) (rest : List Token) :
    r.past.Reads phrase rest ↔ r.Reads phrase rest := reads_widen r _ phrase rest

-- The bound that a continuation is given follows from the first reading, so a description of the
-- continuation that does not mention it describes the whole.
theorem reads_bind (r : Reading α n) (next : α → (rest : List Token) → rest.length < n → Reading β n)
    (phrase : β) (rest : List Token) (after : α → List Token → Prop)
    (described : ∀ found left fewer, (next found left fewer).Reads phrase rest ↔ after found left) :
    (r.bind next).Reads phrase rest ↔ ∃ found left, r.Reads found left ∧ after found left := by
  cases r with
  | read found faults left fewer =>
    simp only [bind, reads_after, described]
    constructor
    · rintro ⟨clean, next⟩
      exact ⟨found, left, ⟨rfl, clean, rfl⟩, next⟩
    · rintro ⟨_, _, ⟨rfl, clean, rfl⟩, next⟩
      exact ⟨clean, next⟩
  | failed faults left atMost => simp [bind, Reads]

theorem reads_bind_cons (r : Reading α n) (next : α → (rest : List Token) → rest.length < n → Reading β n)
    (phrase : β) (rest : List Token) (after : α → Token → List Token → Prop)
    (atEnd : ∀ found fewer, ¬ (next found [] fewer).Reads phrase rest)
    (described : ∀ found sign left fewer,
      (next found (sign :: left) fewer).Reads phrase rest ↔ after found sign left) :
    (r.bind next).Reads phrase rest ↔
      ∃ found sign left, r.Reads found (sign :: left) ∧ after found sign left := by
  cases r with
  | read found faults left fewer =>
    simp only [bind, reads_after]
    constructor
    · rintro ⟨clean, reads⟩
      cases left with
      | nil => exact (atEnd found fewer reads).elim
      | cons sign left => exact ⟨found, sign, left, ⟨rfl, clean, rfl⟩, (described ..).1 reads⟩
    · rintro ⟨_, sign, left, ⟨rfl, clean, rfl⟩, reads⟩
      exact ⟨clean, (described ..).2 reads⟩
  | failed faults left atMost => simp [bind, Reads]

end Reading

open Reading

variable {α : Type}

theorem reads_ended (phrase found : α) (left rest : List Token) :
    (ended found left).Reads phrase rest ↔ found = phrase ∧ left = rest := by
  simp [ended, Reads]

theorem reads_complain (complaint : Complaint) (tokens : List Token) (phrase : α) (rest : List Token) :
    ¬ (complain complaint tokens).Reads phrase rest := id

theorem reads_expect (kind : Kind) (complaint : Complaint) (tokens : List Token) (token : Token)
    (rest : List Token) :
    (expect kind complaint tokens).Reads token rest ↔ tokens = token :: rest ∧ token.kind = kind := by
  cases tokens with
  | nil => simp [expect, reads_complain]
  | cons t more =>
    by_cases same : t.kind = kind
    · rw [expect, if_pos same, reads_ended, List.cons.injEq]
      constructor
      · rintro ⟨rfl, rfl⟩
        exact ⟨⟨rfl, rfl⟩, same⟩
      · rintro ⟨both, _⟩
        exact both
    · rw [expect, if_neg same]
      constructor
      · intro reads
        exact (reads_complain complaint _ token rest reads).elim
      · rintro ⟨both, kinds⟩
        obtain ⟨rfl, rfl⟩ := List.cons.inj both
        exact (same kinds).elim

theorem reads_expect_map (kind : Kind) (complaint : Complaint) (tokens : List Token) (f : Token → α)
    (phrase : α) (rest : List Token) :
    ((expect kind complaint tokens).map f).Reads phrase rest ↔
      ∃ token, tokens = token :: rest ∧ token.kind = kind ∧ f token = phrase := by
  simp only [reads_map, reads_expect, and_assoc]

theorem reads_expect_map_cons (kind : Kind) (complaint : Complaint) (t : Token) (tokens : List Token)
    (f : Token → α) (phrase : α) (rest : List Token) :
    ((expect kind complaint (t :: tokens)).map f).Reads phrase rest ↔
      t.kind = kind ∧ tokens = rest ∧ f t = phrase := by
  rw [reads_expect_map]
  constructor
  · rintro ⟨_, both, kinds, same⟩
    obtain ⟨rfl, rfl⟩ := List.cons.inj both
    exact ⟨kinds, rfl, same⟩
  · rintro ⟨kinds, rfl, same⟩
    exact ⟨t, rfl, kinds, same⟩

theorem reads_then {β γ : Type} {n : Nat} (r : Reading α n) (next : (tokens : List Token) → Reading β tokens.length)
    (f : α → β → γ) (phrase : γ) (rest : List Token) :
    (r.bind fun found left fewer => ((next left).map (f found)).within fewer).Reads phrase rest ↔
      ∃ found left later, r.Reads found left ∧ (next left).Reads later rest ∧ f found later = phrase := by
  rw [reads_bind _ _ _ _ fun found left => ∃ later, (next left).Reads later rest ∧ f found later = phrase]
  · constructor
    · rintro ⟨found, left, first, later, second, same⟩
      exact ⟨found, left, later, first, second, same⟩
    · rintro ⟨found, left, later, first, second, same⟩
      exact ⟨found, left, first, later, second, same⟩
  · intro found left fewer
    rw [reads_within, reads_map]

theorem reads_closed {β : Type} {n : Nat} (kind : Kind) (complaint : Complaint) (r : Reading α n)
    (f : α → Token → β) (phrase : β) (rest : List Token) :
    (r.bind fun found left fewer => ((expect kind complaint left).map (f found)).within fewer).Reads phrase rest ↔
      ∃ found closing, r.Reads found (closing :: rest) ∧ closing.kind = kind ∧ f found closing = phrase := by
  rw [reads_then]
  simp only [reads_expect]
  constructor
  · rintro ⟨found, _, closing, first, ⟨rfl, isClosing⟩, same⟩
    exact ⟨found, closing, first, isClosing, same⟩
  · rintro ⟨found, closing, first, isClosing, same⟩
    exact ⟨found, _, closing, first, ⟨rfl, isClosing⟩, same⟩

theorem reads_opened {β : Type} (kind : Kind) (complaint : Complaint) (tokens : List Token)
    (next : Token → (rest : List Token) → rest.length < tokens.length → Reading β tokens.length)
    (phrase : β) (rest : List Token) (after : Token → List Token → Prop)
    (described : ∀ opening left fewer, (next opening left fewer).Reads phrase rest ↔ after opening left) :
    ((expect kind complaint tokens).bind next).Reads phrase rest ↔
      ∃ opening left, tokens = opening :: left ∧ opening.kind = kind ∧ after opening left := by
  rw [reads_bind _ _ _ _ after described]
  simp only [reads_expect, and_assoc]

theorem reads_expression (power : Nat) (tokens : List Token) (phrase : Expr) (rest : List Token) :
    (expression power tokens).Reads phrase rest ↔
      ∃ left middle, (operand tokens).Reads left middle ∧ (operations power left middle).Reads phrase rest := by
  rw [expression]
  exact reads_bind _ _ _ _ _ fun left middle fewer => reads_widen ..

theorem reads_operations_nil (power : Nat) (left phrase : Expr) (rest : List Token) :
    (operations power left []).Reads phrase rest ↔ left = phrase ∧ rest = [] := by
  rw [operations, reads_ended]
  exact and_congr_right fun _ => eq_comm

-- An operator is taken when it binds to the left with at least the asked power; else reading stops.
theorem reads_operations_stop (power : Nat) (left : Expr) (sign : Token) (tokens : List Token)
    (weak : ∀ b, binding? sign.kind = some b → b.left < power) (phrase : Expr) (rest : List Token) :
    (operations power left (sign :: tokens)).Reads phrase rest ↔ left = phrase ∧ sign :: tokens = rest := by
  rw [operations]
  split
  · exact reads_ended ..
  · rename_i b found
    rw [if_pos (weak b found)]
    exact reads_ended ..

theorem reads_operations_take (power : Nat) (left : Expr) (sign : Token) (tokens : List Token) (b : Binding)
    (found : binding? sign.kind = some b) (strong : power ≤ b.left) (phrase : Expr) (rest : List Token) :
    (operations power left (sign :: tokens)).Reads phrase rest ↔
      ∃ right middle, (expression b.right tokens).Reads right middle ∧ b.operator.faults sign left = [] ∧
        (operations power (b.operator.build sign left right) middle).Reads phrase rest := by
  rw [operations]
  split
  · simp_all
  · rename_i b' found'
    obtain rfl : b = b' := Option.some.inj (found.symm.trans found')
    rw [if_neg (Nat.not_lt.2 strong), reads_past]
    simp only [← reads_past (expression b.right tokens)]
    exact reads_bind _ _ _ _ _ fun right middle fewer => by rw [reads_widen, reads_after]

theorem reads_operand_nil (phrase : Expr) (rest : List Token) : ¬ (operand []).Reads phrase rest := by
  rw [operand]
  exact id

theorem reads_operand_plain (sign : Token) (tokens : List Token) (plain : unaryOp? sign.kind = none)
    (phrase : Expr) (rest : List Token) :
    (operand (sign :: tokens)).Reads phrase rest ↔ (callable (sign :: tokens)).Reads phrase rest := by
  rw [operand]
  split
  · rfl
  · simp_all

theorem reads_operand_unary (sign : Token) (tokens : List Token) (op : UnaryOp)
    (found : unaryOp? sign.kind = some op) (phrase : Expr) (rest : List Token) :
    (operand (sign :: tokens)).Reads phrase rest ↔
      ∃ inner, (expression unaryPower tokens).Reads inner rest ∧ .unary op inner sign.line = phrase := by
  rw [operand]
  split
  · simp_all
  · rename_i op' found'
    obtain rfl : op = op' := Option.some.inj (found.symm.trans found')
    rw [reads_past, reads_map]

theorem reads_callable (tokens : List Token) (phrase : Expr) (rest : List Token) :
    (callable tokens).Reads phrase rest ↔
      ∃ callee middle, (primary tokens).Reads callee middle ∧ (calls callee middle).Reads phrase rest := by
  rw [callable]
  exact reads_bind _ _ _ _ _ fun callee middle fewer => reads_widen ..

theorem reads_calls_nil (callee phrase : Expr) (rest : List Token) :
    (calls callee []).Reads phrase rest ↔ callee = phrase ∧ rest = [] := by
  rw [calls, reads_ended]
  exact and_congr_right fun _ => eq_comm

theorem reads_calls_stop (callee : Expr) (sign : Token) (tokens : List Token)
    (other : sign.kind ≠ .leftParen) (phrase : Expr) (rest : List Token) :
    (calls callee (sign :: tokens)).Reads phrase rest ↔ callee = phrase ∧ sign :: tokens = rest := by
  rw [calls, if_neg other]
  exact reads_ended ..

theorem reads_calls_take (callee : Expr) (paren : Token) (tokens : List Token)
    (opening : paren.kind = .leftParen) (phrase : Expr) (rest : List Token) :
    (calls callee (paren :: tokens)).Reads phrase rest ↔
      ∃ args middle, (arguments tokens).Reads args middle ∧
        (calls (.call callee args.1 args.2) middle).Reads phrase rest := by
  rw [calls, if_pos opening, reads_past]
  simp only [← reads_past (arguments tokens)]
  exact reads_bind _ _ _ _ _ fun args middle fewer => reads_widen ..

theorem startsWith_iff (kind : Kind) (tokens : List Token) :
    startsWith kind tokens = true ↔ ∃ token rest, tokens = token :: rest ∧ token.kind = kind := by
  cases tokens with
  | nil => simp [startsWith]
  | cons token rest =>
    simp only [startsWith, beq_iff_eq]
    constructor
    · intro same
      exact ⟨token, rest, rfl, same⟩
    · rintro ⟨_, _, both, same⟩
      obtain ⟨rfl, rfl⟩ := List.cons.inj both
      exact same

theorem reads_arguments (tokens : List Token) (args : List Expr × Nat) (rest : List Token) :
    (arguments tokens).Reads args rest ↔
      (∃ paren, tokens = paren :: rest ∧ paren.kind = .rightParen ∧ ([], paren.line) = args) ∨
        startsWith .rightParen tokens = false ∧ (moreArguments tokens).Reads args rest := by
  rw [arguments]
  by_cases closed : startsWith .rightParen tokens = true
  · rw [if_pos closed, reads_expect_map]
    simp [closed]
  · rw [if_neg closed]
    constructor
    · intro reads
      exact Or.inr ⟨Bool.not_eq_true _ ▸ closed, reads⟩
    · rintro (⟨paren, both, kinds, _⟩ | ⟨_, reads⟩)
      · exact (closed ((startsWith_iff _ _).2 ⟨paren, rest, both, kinds⟩)).elim
      · exact reads

theorem reads_moreArguments (tokens : List Token) (args : List Expr × Nat) (rest : List Token) :
    (moreArguments tokens).Reads args rest ↔
      ∃ arg sign middle, (expression 0 tokens).Reads arg (sign :: middle) ∧
        (sign.kind = .comma ∧ (∃ more, (moreArguments middle).Reads more rest ∧ (arg :: more.1, more.2) = args) ∨
          sign.kind = .rightParen ∧ middle = rest ∧ ([arg], sign.line) = args) := by
  rw [moreArguments]
  apply reads_bind_cons
  · intro arg fewer reads
    exact reads_complain _ _ _ _ ((reads_within ..).1 reads)
  · intro arg sign middle fewer
    by_cases comma : sign.kind = .comma
    · simp [comma, reads_within, reads_map]
    · simp [comma, reads_within, reads_expect_map_cons]

theorem reads_primary_literal (t : Token) (tokens : List Token)
    (kinds : t.kind = .number ∨ t.kind = .string ∨ t.kind = .wordTrue ∨ t.kind = .wordFalse)
    (phrase : Expr) (rest : List Token) :
    (primary (t :: tokens)).Reads phrase rest ↔ .literal (t.literal.getD .nil) = phrase ∧ tokens = rest := by
  rw [primary]
  rcases kinds with kinds | kinds | kinds | kinds <;> simp only [kinds] <;> exact reads_ended ..

theorem reads_primary_nil (t : Token) (tokens : List Token) (kinds : t.kind = .wordNil)
    (phrase : Expr) (rest : List Token) :
    (primary (t :: tokens)).Reads phrase rest ↔ .literal .nil = phrase ∧ tokens = rest := by
  rw [primary]
  simp only [kinds]
  exact reads_ended ..

theorem reads_primary_name (t : Token) (tokens : List Token) (kinds : t.kind = .identifier)
    (phrase : Expr) (rest : List Token) :
    (primary (t :: tokens)).Reads phrase rest ↔ .reference ⟨t.lexeme, t.line⟩ = phrase ∧ tokens = rest := by
  rw [primary]
  simp only [kinds]
  exact reads_ended ..

theorem reads_primary_group (t : Token) (tokens : List Token) (kinds : t.kind = .leftParen)
    (phrase : Expr) (rest : List Token) :
    (primary (t :: tokens)).Reads phrase rest ↔
      ∃ inner paren, (expression 0 tokens).Reads inner (paren :: rest) ∧ paren.kind = .rightParen ∧
        .grouping inner = phrase := by
  rw [primary]
  simp only [kinds]
  refine (reads_closed .rightParen _ (expression 0 tokens).past (fun inner _ => Expr.grouping inner) ..).trans ?_
  simp only [reads_past]

theorem primary_first (tokens : List Token) (phrase : Expr) (rest : List Token)
    (reads : (primary tokens).Reads phrase rest) :
    ∃ t more, tokens = t :: more ∧
      ((t.kind = .number ∨ t.kind = .string ∨ t.kind = .wordTrue ∨ t.kind = .wordFalse) ∨
        t.kind = .wordNil ∨ t.kind = .identifier ∨ t.kind = .leftParen) := by
  cases tokens with
  | nil =>
    rw [primary] at reads
    exact reads.elim
  | cons t more =>
    refine ⟨t, more, rfl, ?_⟩
    rw [primary] at reads
    split at reads <;> first | exact reads.elim | simp [*]

theorem reads_name (complaint : Complaint) (tokens : List Token) (ident : Ident) (rest : List Token) :
    (name complaint tokens).Reads ident rest ↔
      ∃ t, tokens = t :: rest ∧ t.kind = .identifier ∧ (⟨t.lexeme, t.line⟩ : Ident) = ident :=
  reads_expect_map ..

theorem reads_terminated (complaint : Complaint) (tokens : List Token) (expr : Expr) (rest : List Token) :
    (terminated complaint tokens).Reads expr rest ↔
      ∃ semicolon, (expression 0 tokens).Reads expr (semicolon :: rest) ∧ semicolon.kind = .semicolon := by
  rw [terminated, reads_closed]
  constructor
  · rintro ⟨_, semicolon, reads, isEnd, rfl⟩
    exact ⟨semicolon, reads, isEnd⟩
  · rintro ⟨semicolon, reads, isEnd⟩
    exact ⟨expr, semicolon, reads, isEnd, rfl⟩

theorem reads_parenthesised (opening closing : Complaint) (tokens : List Token) (expr : Expr) (rest : List Token) :
    (parenthesised opening closing tokens).Reads expr rest ↔
      ∃ first last middle, tokens = first :: middle ∧ first.kind = .leftParen ∧
        (expression 0 middle).Reads expr (last :: rest) ∧ last.kind = .rightParen := by
  rw [parenthesised, reads_opened _ _ _ _ _ _ fun _ middle =>
    ∃ last, (expression 0 middle).Reads expr (last :: rest) ∧ last.kind = .rightParen]
  · constructor
    · rintro ⟨first, middle, same, isOpening, last, reads, isClosing⟩
      exact ⟨first, last, middle, same, isOpening, reads, isClosing⟩
    · rintro ⟨first, last, middle, same, isOpening, reads, isClosing⟩
      exact ⟨first, middle, same, isOpening, last, reads, isClosing⟩
  · intro first middle fewer
    rw [reads_closed]
    simp only [reads_within]
    constructor
    · rintro ⟨_, last, reads, isClosing, rfl⟩
      exact ⟨last, reads, isClosing⟩
    · rintro ⟨last, reads, isClosing⟩
      exact ⟨expr, last, reads, isClosing, rfl⟩

end StoryScript.Grammar
