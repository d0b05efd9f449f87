import StoryScript.Proofs.Grammar.Levels
import StoryScript.Proofs.Grammar.Reads

set_option autoImplicit false

namespace StoryScript.Grammar

open Reading

def beginsExpression : Kind → Bool
  | .bang | .minus | .number | .string | .wordTrue | .wordFalse | .wordNil | .identifier | .leftParen => true
  | _ => false

theorem begins_literal (t : Token) (isLiteral : Token.IsLiteral t) :
    beginsExpression t.kind = true ∧ unaryOp? t.kind = none := by
  rcases isLiteral with isKind | isKind | isKind | isKind <;> simp [isKind, beginsExpression, unaryOp?]

theorem derives_first (level : Level) (tokens : List Token) (expr : Expr) (derives : Derives level tokens expr) :
    ∃ t rest, tokens = t :: rest ∧ beginsExpression t.kind = true ∧ (8 ≤ level.rank → unaryOp? t.kind = none) := by
  cases derives with
  | tighter _ _ _ looser inner =>
    have next := rank_tighter level looser
    have bound := rank_le level.tighter
    obtain ⟨t, rest, same, begins, plain⟩ := derives_first level.tighter tokens expr inner
    exact ⟨t, rest, same, begins, fun tight => plain (by omega)⟩
  | assign name sign after value isName isSign inner =>
    exact ⟨name, _, rfl, by simp [isName, beginsExpression], fun _ => by simp [isName, unaryOp?]⟩
  | logical _ op before after sign left right isSign leftInner rightInner =>
    obtain ⟨t, rest, rfl, begins, plain⟩ := derives_first level before left leftInner
    exact ⟨t, _, rfl, begins, plain⟩
  | binary _ op before after sign left right isSign leftInner rightInner =>
    obtain ⟨t, rest, rfl, begins, plain⟩ := derives_first level before left leftInner
    exact ⟨t, _, rfl, begins, plain⟩
  | not sign after operand isSign inner =>
    exact ⟨sign, _, rfl, by simp [isSign, beginsExpression], fun tight => absurd tight (by decide)⟩
  | negate sign after operand isSign inner =>
    exact ⟨sign, _, rfl, by simp [isSign, beginsExpression], fun tight => absurd tight (by decide)⟩
  | call before within opening closing callee args isOpening isClosing calleeInner argsInner =>
    obtain ⟨t, rest, rfl, begins, plain⟩ := derives_first .call before callee calleeInner
    exact ⟨t, _, rfl, begins, plain⟩
  | literal t isLiteral => exact ⟨t, [], rfl, (begins_literal t isLiteral).1, fun _ => (begins_literal t isLiteral).2⟩
  | nil t isNil => exact ⟨t, [], rfl, by simp [isNil, beginsExpression], fun _ => by simp [isNil, unaryOp?]⟩
  | name t isName => exact ⟨t, [], rfl, by simp [isName, beginsExpression], fun _ => by simp [isName, unaryOp?]⟩
  | grouping opening closing inner expr isOpening isClosing derives =>
    exact ⟨opening, _, rfl, by simp [isOpening, beginsExpression], fun _ => by simp [isOpening, unaryOp?]⟩
termination_by 10 * tokens.length + (9 - level.rank)
decreasing_by
  all_goals subst_vars
  · omega
  all_goals (simp only [List.length_append, List.length_cons]; omega)

theorem arguments_first (tokens : List Token) (arg : Expr) (args : List Expr)
    (derives : DerivesArguments tokens (arg :: args)) :
    ∃ t rest, tokens = t :: rest ∧ beginsExpression t.kind = true := by
  cases derives with
  | last _ _ inner =>
    obtain ⟨t, rest, rfl, begins, _⟩ := derives_first .assignment tokens arg inner
    exact ⟨t, rest, rfl, begins⟩
  | more before after comma _ next args isComma inner others =>
    obtain ⟨t, rest, rfl, begins, _⟩ := derives_first .assignment before arg inner
    exact ⟨t, _, rfl, begins⟩

-- What may follow a phrase of a level so that reading the phrase stops there.
structure Follows (level : Level) (tokens : List Token) : Prop where
  noCall : ∀ t rest, tokens = t :: rest → t.kind ≠ .leftParen
  weaker : Weaker (level.power + 1) tokens

theorem follows_tighter (level : Level) (looser : level ≠ .primary) (tokens : List Token)
    (follows : Follows level tokens) : Follows level.tighter tokens := by
  have next := rank_tighter level looser
  refine ⟨follows.noCall, weaker_mono _ _ tokens ?_ follows.weaker⟩
  simp only [Level.power]
  omega

theorem binding_not_paren (t : Token) (b : Binding) (found : binding? t.kind = some b) : t.kind ≠ .leftParen := by
  intro isOpening
  simp [isOpening, binding?] at found

theorem follows_sign (level : Level) (sign : Token) (b : Binding) (rest : List Token)
    (found : binding? sign.kind = some b) (same : b.left = level.power) : Follows level (sign :: rest) := by
  constructor
  · intro t more both
    rw [← (List.cons.inj both).1]
    exact binding_not_paren sign b found
  · apply weaker_cons
    intro b' found'
    obtain rfl := Option.some.inj (found.symm.trans found')
    omega

theorem follows_plain (level : Level) (t : Token) (rest : List Token) (noSign : binding? t.kind = none)
    (noCall : t.kind ≠ .leftParen) : Follows level (t :: rest) := by
  constructor
  · intro t' more both
    rw [← (List.cons.inj both).1]
    exact noCall
  · apply weaker_cons
    intro b found
    simp [noSign] at found

theorem follows_closing (level : Level) (t : Token) (rest : List Token) (isClosing : t.kind = .rightParen) :
    Follows level (t :: rest) :=
  follows_plain level t rest (by simp [isClosing, binding?]) (by simp [isClosing])

theorem follows_comma (level : Level) (t : Token) (rest : List Token) (isComma : t.kind = .comma) :
    Follows level (t :: rest) :=
  follows_plain level t rest (by simp [isComma, binding?]) (by simp [isComma])

theorem operations_stop (power : Nat) (expr : Expr) (rest : List Token) (weak : Weaker power rest) :
    (operations power expr rest).Reads expr rest := by
  cases rest with
  | nil => exact (reads_operations_nil ..).2 ⟨rfl, rfl⟩
  | cons sign rest => exact (reads_operations_stop power expr sign rest (weak sign rest rfl) ..).2 ⟨rfl, rfl⟩

theorem calls_stop (callee : Expr) (rest : List Token)
    (noCall : ∀ t more, rest = t :: more → t.kind ≠ .leftParen) : (calls callee rest).Reads callee rest := by
  cases rest with
  | nil => exact (reads_calls_nil ..).2 ⟨rfl, rfl⟩
  | cons t rest => exact (reads_calls_stop callee t rest (noCall t rest rfl) ..).2 ⟨rfl, rfl⟩

theorem two_le_binding (kind : Kind) (b : Binding) (found : binding? kind = some b) : 2 ≤ b.left := by
  cases sign_of_binding kind b found with
  | assign => decide
  | logical level op isSign =>
    have low := (logical_rank level kind op isSign).1
    simp only [Level.power]
    omega
  | binary level op isSign =>
    have low := (binary_rank level kind op isSign).1
    simp only [Level.power]
    omega

theorem weaker_any (power : Nat) (tokens : List Token) (weak : Weaker 2 tokens) : Weaker power tokens := by
  intro sign rest same b found
  have low := two_le_binding sign.kind b found
  have high := weak sign rest same b found
  omega

-- One operation, given how its operands are read. The right operand is read with the power of the
-- sign towards the right, and the sign itself may follow the left operand.
theorem operation_complete (level : Level) (operator : Operator) (before after : List Token) (sign : Token)
    (left right : Expr) (power : Nat) (bound : power ≤ level.power)
    (found : binding? sign.kind = some ⟨operator, level.power, level.power + 1⟩)
    (clean : operator.faults sign left = [])
    (leftReads : ∀ rest phrase done, Follows level rest → (operations power left rest).Reads phrase done →
      (expression power (before ++ rest)).Reads phrase done)
    (rightReads : ∀ rest, Follows level rest → (expression (level.power + 1) (after ++ rest)).Reads right rest)
    (rest : List Token) (phrase : Expr) (done : List Token) (follows : Follows level rest)
    (reads : (operations power (operator.build sign left right) rest).Reads phrase done) :
    (expression power (before ++ sign :: after ++ rest)).Reads phrase done := by
  rw [List.append_assoc, List.cons_append]
  apply leftReads
  · exact follows_sign level sign _ _ found rfl
  · exact (reads_operations_take power left sign _ _ found bound ..).2
      ⟨right, rest, rightReads rest follows, clean, reads⟩

-- Each theorem recurses on the derivation: to fewer tokens, or to a tighter level on the same tokens.
-- An expression is followed to the end of the operations after it, whatever they are, so that the
-- left operand of a sign can be read without knowing where the whole ends.
mutual

theorem expression_complete (level : Level) (tokens : List Token) (expr : Expr)
    (derives : Derives level tokens expr) (loose : level.rank ≤ 7) (power : Nat) (bound : power ≤ level.power)
    (rest : List Token) (phrase : Expr) (done : List Token) (follows : Follows level rest)
    (reads : (operations power expr rest).Reads phrase done) :
    (expression power (tokens ++ rest)).Reads phrase done := by
  cases derives with
  | tighter _ _ _ looser inner =>
    have next := rank_tighter level looser
    by_cases isUnary : level = .unary
    · subst isUnary
      obtain ⟨t, more, rfl, _, plain⟩ := derives_first .call tokens expr inner
      refine (reads_expression ..).2 ⟨expr, rest, ?_, reads⟩
      refine (reads_operand_plain t (more ++ rest) (plain (by decide)) ..).2 ?_
      exact callable_complete (t :: more) expr inner rest expr rest (calls_stop expr rest follows.noCall)
    · have tight : level.tighter.rank ≤ 7 := by
        have differs : level.rank ≠ 7 := fun same => isUnary (rank_injective level .unary same)
        omega
      refine expression_complete level.tighter tokens expr inner tight power ?_ rest phrase done
        (follows_tighter level looser rest follows) reads
      simp only [Level.power] at bound ⊢
      omega
  | assign name sign after value isName isSign inner =>
    have follows' : Weaker 2 rest := follows.weaker
    refine (reads_expression ..).2 ⟨.reference ⟨name.lexeme, name.line⟩, sign :: (after ++ rest), ?_, ?_⟩
    · refine (reads_operand_plain name _ (by simp [isName, unaryOp?]) ..).2 ?_
      refine (reads_callable ..).2 ⟨_, _, (reads_primary_name name _ isName ..).2 ⟨rfl, rfl⟩, ?_⟩
      exact (reads_calls_stop _ sign _ (by simp [isSign]) ..).2 ⟨rfl, rfl⟩
    · have le : power ≤ 2 := Nat.le_succ_of_le bound
      refine (reads_operations_take power _ sign _ ⟨.assign, 2, 1⟩ (by simp [isSign, binding?]) le ..).2
        ⟨value, rest, ?_, rfl, reads⟩
      exact expression_complete .assignment after value inner (by decide) 1 (by decide) rest value rest follows
        (operations_stop 1 value rest (weaker_any 1 rest follows'))
  | logical _ op before after sign left right isSign leftInner rightInner =>
    obtain ⟨low, high⟩ := logical_rank level sign.kind op isSign
    have looser := ne_primary level (by omega)
    have next := rank_tighter level looser
    refine operation_complete level (.logical op) before after sign left right power bound
      (binding_logical level sign.kind op isSign) rfl ?_ ?_ rest phrase done follows reads
    · exact fun rest phrase done follows reads =>
        expression_complete level before left leftInner loose power bound rest phrase done follows reads
    · intro rest follows
      refine expression_complete level.tighter after right rightInner (by omega) (level.power + 1) ?_ rest right
        rest (follows_tighter level looser rest follows) (operations_stop _ right rest follows.weaker)
      simp only [Level.power]
      omega
  | binary _ op before after sign left right isSign leftInner rightInner =>
    obtain ⟨low, high⟩ := binary_rank level sign.kind op isSign
    have looser := ne_primary level (by omega)
    have next := rank_tighter level looser
    refine operation_complete level (.binary op) before after sign left right power bound
      (binding_binary level sign.kind op isSign) rfl ?_ ?_ rest phrase done follows reads
    · exact fun rest phrase done follows reads =>
        expression_complete level before left leftInner loose power bound rest phrase done follows reads
    · intro rest follows
      refine expression_complete level.tighter after right rightInner (by omega) (level.power + 1) ?_ rest right
        rest (follows_tighter level looser rest follows) (operations_stop _ right rest follows.weaker)
      simp only [Level.power]
      omega
  | not sign after operand isSign inner =>
    refine (reads_expression ..).2 ⟨_, rest, ?_, reads⟩
    refine (reads_operand_unary sign _ .not (by simp [isSign, unaryOp?]) ..).2 ⟨operand, ?_, rfl⟩
    exact expression_complete .unary after operand inner (by decide) unaryPower (by decide) rest operand rest follows
      (operations_stop unaryPower operand rest (weaker_unary rest))
  | negate sign after operand isSign inner =>
    refine (reads_expression ..).2 ⟨_, rest, ?_, reads⟩
    refine (reads_operand_unary sign _ .negate (by simp [isSign, unaryOp?]) ..).2 ⟨operand, ?_, rfl⟩
    exact expression_complete .unary after operand inner (by decide) unaryPower (by decide) rest operand rest follows
      (operations_stop unaryPower operand rest (weaker_unary rest))
  | call => exact absurd loose (by decide)
  | literal => exact absurd loose (by decide)
  | nil => exact absurd loose (by decide)
  | name => exact absurd loose (by decide)
  | grouping => exact absurd loose (by decide)
termination_by 10 * tokens.length + (9 - level.rank)
decreasing_by
  all_goals subst_vars
  · omega
  · omega
  all_goals (simp only [List.length_append, List.length_cons]; omega)

theorem callable_complete (tokens : List Token) (expr : Expr) (derives : Derives .call tokens expr)
    (rest : List Token) (phrase : Expr) (done : List Token) (reads : (calls expr rest).Reads phrase done) :
    (callable (tokens ++ rest)).Reads phrase done := by
  cases derives with
  | tighter _ _ _ looser inner =>
    exact (reads_callable ..).2 ⟨expr, rest, primary_complete tokens expr inner rest, reads⟩
  | logical _ op before after sign left right isSign => cases isSign
  | binary _ op before after sign left right isSign => cases isSign
  | call before within opening closing callee args isOpening isClosing calleeInner argsInner =>
    rw [List.append_assoc, List.cons_append, List.append_assoc]
    refine callable_complete before callee calleeInner _ phrase done ?_
    refine (reads_calls_take callee opening _ isOpening ..).2 ⟨(args, closing.line), rest, ?_, reads⟩
    exact arguments_complete within args argsInner closing rest isClosing
termination_by 10 * tokens.length + 1
decreasing_by
  all_goals subst_vars
  · omega
  all_goals (simp only [List.length_append, List.length_cons]; omega)

theorem primary_complete (tokens : List Token) (expr : Expr) (derives : Derives .primary tokens expr)
    (rest : List Token) : (primary (tokens ++ rest)).Reads expr rest := by
  cases derives with
  | tighter _ _ _ looser => exact (looser rfl).elim
  | logical _ op before after sign left right isSign => cases isSign
  | binary _ op before after sign left right isSign => cases isSign
  | literal t isLiteral => exact (reads_primary_literal t rest isLiteral ..).2 ⟨rfl, rfl⟩
  | nil t isNil => exact (reads_primary_nil t rest isNil ..).2 ⟨rfl, rfl⟩
  | name t isName => exact (reads_primary_name t rest isName ..).2 ⟨rfl, rfl⟩
  | grouping opening closing within inner isOpening isClosing derives =>
    refine (reads_primary_group opening _ isOpening ..).2 ⟨inner, closing, ?_, isClosing, rfl⟩
    rw [show (within ++ [closing]).append rest = within ++ closing :: rest from List.append_assoc ..]
    exact expression_then within inner derives (closing :: rest) (follows_closing .assignment closing rest isClosing)
termination_by 10 * tokens.length
decreasing_by
  all_goals subst_vars
  all_goals (simp only [List.length_append, List.length_cons]; omega)

theorem expression_then (tokens : List Token) (expr : Expr) (derives : DerivesExpression tokens expr)
    (rest : List Token) (follows : Follows .assignment rest) : (expression 0 (tokens ++ rest)).Reads expr rest :=
  expression_complete .assignment tokens expr derives (by decide) 0 (by decide) rest expr rest follows
    (operations_stop 0 expr rest (weaker_any 0 rest follows.weaker))
termination_by 10 * tokens.length + 10

theorem arguments_complete (tokens : List Token) (args : List Expr) (derives : DerivesArguments tokens args)
    (closing : Token) (rest : List Token) (isClosing : closing.kind = .rightParen) :
    (arguments (tokens ++ closing :: rest)).Reads (args, closing.line) rest := by
  cases args with
  | nil =>
    cases derives with
    | none => exact (reads_arguments ..).2 (Or.inl ⟨closing, rfl, isClosing, rfl⟩)
  | cons arg args =>
    refine (reads_arguments ..).2 (Or.inr ⟨?_, ?_⟩)
    · obtain ⟨t, more, rfl, begins⟩ := arguments_first tokens arg args derives
      cases closed : startsWith .rightParen (t :: more ++ closing :: rest) with
      | false => rfl
      | true =>
        simp only [List.cons_append, startsWith, beq_iff_eq] at closed
        simp [closed, beginsExpression] at begins
    · exact moreArguments_complete tokens arg args derives closing rest isClosing
termination_by 10 * tokens.length + 12
decreasing_by all_goals (subst_vars; omega)

theorem moreArguments_complete (tokens : List Token) (arg : Expr) (args : List Expr)
    (derives : DerivesArguments tokens (arg :: args)) (closing : Token) (rest : List Token)
    (isClosing : closing.kind = .rightParen) :
    (moreArguments (tokens ++ closing :: rest)).Reads (arg :: args, closing.line) rest := by
  cases derives with
  | last _ _ inner =>
    refine (reads_moreArguments ..).2 ⟨arg, closing, rest, ?_, Or.inr ⟨isClosing, rfl, rfl⟩⟩
    exact expression_then tokens arg inner (closing :: rest) (follows_closing .assignment closing rest isClosing)
  | more before after comma _ next args isComma inner others =>
    rw [List.append_assoc, List.cons_append]
    refine (reads_moreArguments ..).2 ⟨arg, comma, after ++ closing :: rest, ?_, Or.inl ⟨isComma, ?_⟩⟩
    · exact expression_then before arg inner _ (follows_comma .assignment comma _ isComma)
    · exact ⟨(next :: args, closing.line),
        moreArguments_complete after next args others closing rest isClosing, rfl⟩
termination_by 10 * tokens.length + 11
decreasing_by
  all_goals subst_vars
  · omega
  all_goals (simp only [List.length_append, List.length_cons]; omega)

end

end StoryScript.Grammar
