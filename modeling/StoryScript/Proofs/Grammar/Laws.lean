import StoryScript.Grammar.Statement

set_option autoImplicit false

namespace StoryScript.Grammar

section Rests

variable {α β : Type} {m n : Nat}

theorem rest_map (f : α → β) (r : Reading α n) : (r.map f).rest = r.rest := by
  cases r <;> rfl

theorem rest_after (earlier : List Fault) (r : Reading α n) : (r.after earlier).rest = r.rest := by
  cases r <;> rfl

theorem rest_widen (r : Reading α m) (le : m ≤ n) : (r.widen le).rest = r.rest := by
  cases r <;> rfl

theorem after_nil (r : Reading α n) : r.after [] = r := by
  cases r <;> rfl

theorem after_after (earlier later : List Fault) (r : Reading α n) :
    (r.after later).after earlier = r.after (earlier ++ later) := by
  cases r <;> simp [Reading.after]

theorem after_widen (earlier : List Fault) (r : Reading α m) (le : m ≤ n) :
    (r.widen le).after earlier = (r.after earlier).widen le := by
  cases r <;> rfl

def Reading.Leaves (form : List Token → Prop) : Reading α n → Prop
  | .read _ _ rest _ => form rest
  | .failed .. => True

theorem leaves_any (r : Reading α n) : r.Leaves fun _ => True := by
  cases r <;> trivial

theorem leaves_map (form : List Token → Prop) (f : α → β) (r : Reading α n) (leaves : r.Leaves form) :
    (r.map f).Leaves form := by
  cases r <;> exact leaves

theorem leaves_after (form : List Token → Prop) (earlier : List Fault) (r : Reading α n) (leaves : r.Leaves form) :
    (r.after earlier).Leaves form := by
  cases r <;> exact leaves

theorem leaves_widen (form : List Token → Prop) (r : Reading α m) (le : m ≤ n) (leaves : r.Leaves form) :
    (r.widen le).Leaves form := by
  cases r <;> exact leaves

end Rests

-- A law of reading: what is true of the result of every reader, seen from the tokens it began at, because
-- every way of putting readings together keeps it. Operators find fault with what stands before them, and say so
-- only after their right operand.
structure PhraseLaw where
  Holds : {α : Type} → {n : Nat} → List Token → Reading α n → Prop
  read : ∀ {α : Type} {n : Nat} (phrase : α) (rest : List Token) (fewer : rest.length < n),
    Holds rest (.read phrase [] rest fewer)
  complain : ∀ {α : Type} (complaint : Complaint) (tokens : List Token), complaint ≠ .invalidAssignment →
    Holds tokens (complain complaint tokens : Reading α tokens.length)
  map : ∀ {α β : Type} {n : Nat} (tokens : List Token) (f : α → β) (r : Reading α n), Holds tokens r →
    Holds tokens (r.map f)
  widen : ∀ {α : Type} {m n : Nat} (tokens : List Token) (r : Reading α m) (le : m ≤ n), Holds tokens r →
    Holds tokens (r.widen le)
  bind : ∀ {α β : Type} {n : Nat} (tokens : List Token) (r : Reading α n)
    (next : α → (rest : List Token) → rest.length < n → Reading β n), Holds tokens r →
    (∀ found rest fewer, Holds rest (next found rest fewer)) → Holds tokens (r.bind next)
  operate : ∀ {n : Nat} (sign : Token) (tokens : List Token) (operator : Operator) (left : Expr) (r : Reading Expr n)
    (next : Expr → (rest : List Token) → Reading Expr (rest.length + 1)), Holds tokens r →
    (∀ right rest, rest.length < n → Holds rest (next right rest)) →
    Holds (sign :: tokens)
      (r.bind fun right rest fewer => ((next right rest).after (operator.faults sign left)).widen fewer)
  past : ∀ {α : Type} {n : Nat} (t : Token) (tokens : List Token) (r : Reading α n), Holds tokens r →
    Holds (t :: tokens) r

structure Law extends PhraseLaw where
  Lists : {n : Nat} → List Token → Listing n → Prop
  empty : ∀ tokens : List Token, Lists tokens (.empty tokens)
  goOn : ∀ {n : Nat} (tokens : List Token) (stmt : Stmt) (faults : List Fault) (rest : List Token)
    (fewer : rest.length < n) (l : Listing rest.length), Holds tokens (.read stmt faults rest fewer : Reading Stmt n) →
    Lists rest l → Lists tokens (l.after [stmt] faults fewer)
  recover : ∀ {n : Nat} (tokens : List Token) (faults : List Fault) (rest : List Token) (atMost : rest.length ≤ n)
    (shorter : (synchronize rest).length < n) (l : Listing (synchronize rest).length),
    Holds tokens (.failed faults rest atMost : Reading Stmt n) → Lists (synchronize rest) l →
    Lists tokens (l.after [] faults shorter)
  close : ∀ {n : Nat} (tokens : List Token) (l : Listing n), Lists tokens l → Holds tokens l.close

namespace PhraseLaw

section Combinators

variable {α β : Type} {n : Nat} (law : PhraseLaw)

theorem holds_ended (phrase : α) (t : Token) (rest : List Token) : law.Holds (t :: rest) (ended phrase rest) :=
  law.past t rest _ (law.read phrase rest _)

theorem holds_expect (kind : Kind) (complaint : Complaint) (tokens : List Token)
    (other : complaint ≠ .invalidAssignment) : law.Holds tokens (expect kind complaint tokens) := by
  cases tokens with
  | nil => exact law.complain complaint [] other
  | cons t rest =>
    rw [expect]
    split
    · exact law.holds_ended t t rest
    · exact law.complain complaint (t :: rest) other

theorem holds_expect_map (kind : Kind) (complaint : Complaint) (tokens : List Token) (f : Token → α)
    (other : complaint ≠ .invalidAssignment) : law.Holds tokens ((expect kind complaint tokens).map f) :=
  law.map tokens f _ (law.holds_expect kind complaint tokens other)

theorem holds_closed (kind : Kind) (complaint : Complaint) (tokens : List Token) (r : Reading α n) (f : α → Token → β)
    (other : complaint ≠ .invalidAssignment) (holds : law.Holds tokens r) :
    law.Holds tokens (r.bind fun found left fewer => ((expect kind complaint left).map (f found)).within fewer) :=
  law.bind tokens r _ holds fun _ left _ => law.widen left _ _ (law.holds_expect_map kind complaint left _ other)

theorem holds_past (t : Token) (tokens : List Token) (r : Reading α n) (holds : law.Holds tokens r) :
    law.Holds (t :: tokens) r.past :=
  law.past t tokens _ (law.widen tokens r _ holds)

end Combinators

variable (law : PhraseLaw)

mutual

theorem holds_expression (power : Nat) (tokens : List Token) : law.Holds tokens (expression power tokens) := by
  rw [expression]
  refine law.bind tokens _ _ (holds_operand tokens) ?_
  intro left rest fewer
  exact law.widen rest _ _ (holds_operations power left rest)
termination_by 8 * tokens.length + 4
decreasing_by all_goals omega

theorem holds_operations (power : Nat) (left : Expr) (tokens : List Token) :
    law.Holds tokens (operations power left tokens) := by
  match tokens with
  | [] =>
    rw [operations]
    exact law.read left [] _
  | sign :: tokens =>
    rw [operations]
    split
    · exact law.read left (sign :: tokens) _
    · rename_i b _
      split
      · exact law.read left (sign :: tokens) _
      · refine law.widen _ _ _ (law.operate sign tokens b.operator left (expression b.right tokens).past
          (fun right => operations power (b.operator.build sign left right))
          (law.widen tokens _ _ (holds_expression b.right tokens)) ?_)
        intro right rest fewer
        exact holds_operations power _ rest
termination_by 8 * tokens.length + 0
decreasing_by all_goals (simp only [List.length_cons]; omega)

theorem holds_operand (tokens : List Token) : law.Holds tokens (operand tokens) := by
  match tokens with
  | [] =>
    rw [operand]
    exact law.complain _ [] (by decide)
  | sign :: tokens =>
    rw [operand]
    split
    · exact holds_callable (sign :: tokens)
    · exact law.holds_past sign tokens _ (law.map tokens _ _ (holds_expression unaryPower tokens))
termination_by 8 * tokens.length + 3
decreasing_by all_goals (simp only [List.length_cons]; omega)

theorem holds_callable (tokens : List Token) : law.Holds tokens (callable tokens) := by
  rw [callable]
  refine law.bind tokens _ _ (holds_primary tokens) ?_
  intro callee rest fewer
  exact law.widen rest _ _ (holds_calls callee rest)
termination_by 8 * tokens.length + 2
decreasing_by all_goals omega

theorem holds_calls (callee : Expr) (tokens : List Token) : law.Holds tokens (calls callee tokens) := by
  match tokens with
  | [] =>
    rw [calls]
    exact law.read callee [] _
  | paren :: tokens =>
    rw [calls]
    split
    · refine law.widen _ _ _ (law.bind _ _ _ (law.holds_past paren tokens _ (holds_arguments tokens)) ?_)
      intro args rest fewer
      exact law.widen rest _ _ (holds_calls _ rest)
    · exact law.read callee (paren :: tokens) _
termination_by 8 * tokens.length + 0
decreasing_by all_goals (simp only [List.length_cons]; omega)

theorem holds_arguments (tokens : List Token) : law.Holds tokens (arguments tokens) := by
  rw [arguments]
  split
  · exact law.holds_expect_map _ _ _ _ (by decide)
  · exact holds_moreArguments tokens
termination_by 8 * tokens.length + 6
decreasing_by omega

theorem holds_moreArguments (tokens : List Token) : law.Holds tokens (moreArguments tokens) := by
  rw [moreArguments]
  refine law.bind tokens _ _ (holds_expression 0 tokens) ?_
  intro arg rest fewer
  match rest with
  | [] => exact law.widen _ _ _ (law.complain _ [] (by decide))
  | sign :: rest =>
    have shorter := tail_lt fewer
    dsimp only
    split
    · exact law.past sign rest _ (law.widen rest _ _ (law.map rest _ _ (holds_moreArguments rest)))
    · exact law.widen _ _ _ (law.holds_expect_map _ _ _ _ (by decide))
termination_by 8 * tokens.length + 5
decreasing_by all_goals omega

theorem holds_primary (tokens : List Token) : law.Holds tokens (primary tokens) := by
  match tokens with
  | [] =>
    rw [primary]
    exact law.complain _ [] (by decide)
  | t :: tokens =>
    rw [primary]
    split
    · exact law.holds_ended _ t tokens
    · exact law.holds_ended _ t tokens
    · exact law.holds_ended _ t tokens
    · exact law.holds_ended _ t tokens
    · exact law.holds_ended _ t tokens
    · exact law.holds_ended _ t tokens
    · exact law.holds_closed .rightParen _ _ _ (fun inner _ => Expr.grouping inner) (by decide)
        (law.holds_past t tokens _ (holds_expression 0 tokens))
    · exact law.complain _ (t :: tokens) (by decide)
termination_by 8 * tokens.length + 1
decreasing_by simp only [List.length_cons]; omega

end

theorem holds_name (complaint : Complaint) (tokens : List Token) (other : complaint ≠ .invalidAssignment) :
    law.Holds tokens (name complaint tokens) :=
  law.holds_expect_map _ _ _ _ other

theorem holds_terminated (complaint : Complaint) (tokens : List Token) (other : complaint ≠ .invalidAssignment) :
    law.Holds tokens (terminated complaint tokens) :=
  law.holds_closed _ _ tokens _ (fun expr _ => expr) other (law.holds_expression 0 tokens)

theorem holds_parenthesised (opening closing : Complaint) (tokens : List Token) (first : opening ≠ .invalidAssignment)
    (last : closing ≠ .invalidAssignment) : law.Holds tokens (parenthesised opening closing tokens) := by
  refine law.bind tokens _ _ (law.holds_expect _ _ _ first) ?_
  intro found rest fewer
  exact law.holds_closed _ _ rest _ (fun expr _ => expr) last (law.widen rest _ _ (law.holds_expression 0 rest))

theorem holds_expressionStatement (tokens : List Token) : law.Holds tokens (expressionStatement tokens) :=
  law.map tokens _ _ (law.holds_terminated _ tokens (by decide))

theorem holds_printStatement (word : Token) (tokens : List Token) : law.Holds tokens (printStatement word tokens) :=
  law.map tokens _ _ (law.holds_terminated _ tokens (by decide))

theorem holds_returnStatement (word : Token) (tokens : List Token) : law.Holds tokens (returnStatement word tokens) := by
  unfold returnStatement
  split
  · exact law.holds_expect_map _ _ _ _ (by decide)
  · exact law.map tokens _ _ (law.holds_terminated _ tokens (by decide))

theorem holds_varDeclaration (tokens : List Token) : law.Holds tokens (varDeclaration tokens) := by
  refine law.bind tokens _ _ (law.holds_name _ tokens (by decide)) ?_
  intro ident rest fewer
  cases rest with
  | nil => exact law.widen _ _ _ (law.complain _ [] (by decide))
  | cons sign value =>
    dsimp only
    split
    · exact law.past sign value _ (law.widen value _ _ (law.map value _ _ (law.holds_terminated _ value (by decide))))
    · exact law.widen _ _ _ (law.holds_expect_map _ _ _ _ (by decide))

theorem holds_moreParameters (tokens : List Token) : law.Holds tokens (moreParameters tokens) := by
  rw [moreParameters]
  refine law.bind tokens _ _ (law.holds_name _ tokens (by decide)) ?_
  intro param rest fewer
  match rest with
  | [] => exact law.widen _ _ _ (law.complain _ [] (by decide))
  | sign :: rest =>
    have shorter := tail_lt fewer
    dsimp only
    split
    · exact law.past sign rest _ (law.widen rest _ _ (law.map rest _ _ (holds_moreParameters rest)))
    · exact law.widen _ _ _ (law.holds_expect_map _ _ _ _ (by decide))
termination_by tokens.length

theorem holds_parameters (tokens : List Token) : law.Holds tokens (parameters tokens) := by
  unfold parameters
  split
  · exact law.holds_expect_map _ _ _ _ (by decide)
  · exact law.holds_moreParameters tokens

theorem holds_functionHead (tokens : List Token) : law.Holds tokens (functionHead tokens) := by
  refine law.bind tokens _ _ (law.holds_name _ tokens (by decide)) ?_
  intro ident rest fewer
  refine law.bind rest _ _ (law.widen rest _ _ (law.holds_expect _ _ _ (by decide))) ?_
  intro opening rest fewer
  exact law.holds_closed _ _ rest _ (fun params _ => (ident, params)) (by decide)
    (law.widen rest _ _ (law.holds_parameters rest))

theorem holds_forInitializer (tokens : List Token) : law.Holds tokens (forInitializer tokens) := by
  cases tokens with
  | nil => exact law.map _ _ _ (law.holds_expressionStatement [])
  | cons t rest =>
    unfold forInitializer
    dsimp only
    split
    · exact law.holds_ended none t rest
    · split
      · exact law.holds_past t rest _ (law.map rest _ _ (law.holds_varDeclaration rest))
      · exact law.map _ _ _ (law.holds_expressionStatement (t :: rest))

theorem holds_forClauses (tokens : List Token) : law.Holds tokens (forClauses tokens) := by
  refine law.bind tokens _ _ (law.holds_expect _ _ _ (by decide)) ?_
  intro opening rest fewer
  refine law.bind rest _ _ (law.widen rest _ _ (law.holds_forInitializer rest)) ?_
  intro initializer rest fewer
  refine law.bind rest _ _ (law.widen rest _ _ ?_) ?_
  · unfold forCondition
    split
    · exact law.holds_expect_map _ _ _ _ (by decide)
    · exact law.map rest _ _ (law.holds_terminated _ rest (by decide))
  · intro condition rest fewer
    refine law.widen rest _ _ (law.map rest _ _ ?_)
    unfold forIncrement
    split
    · exact law.holds_expect_map _ _ _ _ (by decide)
    · exact law.holds_closed _ _ rest _ (fun expr _ => some expr) (by decide) (law.holds_expression 0 rest)

end PhraseLaw

namespace Law

variable (law : Law)

mutual

theorem holds_statement (tokens : List Token) : law.Holds tokens (statement tokens) := by
  match tokens with
  | [] =>
    rw [statement]
    exact law.holds_expressionStatement []
  | t :: rest =>
    rw [statement]
    split
    · exact law.holds_past t rest _ (law.holds_printStatement t rest)
    · exact law.holds_past t rest _ (law.holds_returnStatement t rest)
    · exact law.holds_past t rest _ (law.map rest _ _ (holds_block rest))
    · refine law.bind _ _ _ (law.holds_past t rest _ (law.holds_parenthesised _ _ _ (by decide) (by decide))) ?_
      intro condition rest₁ fewer
      refine law.bind rest₁ _ _ (law.widen rest₁ _ _ (holds_statement rest₁)) ?_
      intro thenBranch rest₂ fewer
      cases rest₂ with
      | nil => exact law.read _ [] _
      | cons word rest₃ =>
        have shorter := tail_lt_succ fewer
        dsimp only
        split
        · exact law.past word rest₃ _ (law.widen rest₃ _ _ (law.map rest₃ _ _ (holds_statement rest₃)))
        · exact law.read _ (word :: rest₃) _
    · refine law.bind _ _ _ (law.holds_past t rest _ (law.holds_parenthesised _ _ _ (by decide) (by decide))) ?_
      intro condition rest₁ fewer
      exact law.widen rest₁ _ _ (law.map rest₁ _ _ (holds_statement rest₁))
    · refine law.bind _ _ _ (law.holds_past t rest _ (law.holds_forClauses rest)) ?_
      intro clauses rest₁ fewer
      exact law.widen rest₁ _ _ (law.map rest₁ _ _ (holds_statement rest₁))
    · exact law.holds_expressionStatement (t :: rest)
termination_by 8 * tokens.length + 0
decreasing_by all_goals grind

theorem holds_block (tokens : List Token) : law.Holds tokens (block tokens) := by
  rw [block]
  exact law.close tokens _ (lists_declarations tokens)
termination_by 8 * tokens.length + 3
decreasing_by omega

theorem lists_declarations (tokens : List Token) : law.Lists tokens (declarations tokens) := by
  match tokens with
  | [] =>
    rw [declarations]
    exact law.empty []
  | t :: rest =>
    have first := holds_declaration (t :: rest)
    rw [declarations]
    split
    · exact law.empty (t :: rest)
    · generalize declaration (t :: rest) = r at first
      cases r with
      | read stmt faults rest' fewer => exact law.goOn _ stmt faults rest' fewer _ first (lists_declarations rest')
      | failed faults rest' atMost =>
        have shorter := synchronize_lt atMost
        exact law.recover _ faults rest' atMost shorter _ first (lists_declarations (synchronize rest'))
termination_by 8 * tokens.length + 2
decreasing_by all_goals grind

theorem holds_declaration (tokens : List Token) : law.Holds tokens (declaration tokens) := by
  match tokens with
  | [] =>
    rw [declaration]
    exact holds_statement []
  | t :: rest =>
    rw [declaration]
    split
    · exact law.holds_past t rest _ (law.holds_varDeclaration rest)
    · split
      · refine law.bind _ _ _ (law.holds_past t rest _ (law.holds_functionHead rest)) ?_
        intro head rest₁ fewer
        exact law.widen rest₁ _ _ (law.map rest₁ _ _ (holds_block rest₁))
      · exact holds_statement (t :: rest)
termination_by 8 * tokens.length + 1
decreasing_by all_goals grind

end

theorem lists_program (tokens : List Token) : law.Lists tokens (program tokens) := by
  match tokens with
  | [] =>
    rw [program]
    exact law.empty []
  | t :: rest =>
    have first := law.holds_declaration (t :: rest)
    rw [program]
    generalize declaration (t :: rest) = r at first
    cases r with
    | read stmt faults rest' fewer => exact law.goOn _ stmt faults rest' fewer _ first (lists_program rest')
    | failed faults rest' atMost =>
      have shorter := synchronize_lt atMost
      exact law.recover _ faults rest' atMost shorter _ first (lists_program (synchronize rest'))
termination_by tokens.length
decreasing_by
  · exact fewer
  · exact shorter

end Law

end StoryScript.Grammar
