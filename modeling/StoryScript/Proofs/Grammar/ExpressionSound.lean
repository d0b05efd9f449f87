import StoryScript.Proofs.Grammar.Levels
import StoryScript.Proofs.Grammar.Reads

set_option autoImplicit false

namespace StoryScript.Grammar

open Reading

theorem derives_reference (level : Level) (tokens : List Token) (ident : Ident)
    (derives : Derives level tokens (.reference ident)) :
    ∃ t, tokens = [t] ∧ t.kind = .identifier ∧ ident = ⟨t.lexeme, t.line⟩ := by
  cases derives with
  | tighter _ _ _ looser inner => exact derives_reference level.tighter tokens ident inner
  | name t isName => exact ⟨t, rfl, isName, rfl⟩
termination_by 9 - level.rank
decreasing_by
  have next := rank_tighter level looser
  have bound := rank_le level.tighter
  omega

theorem unaryOp_cases (kind : Kind) (op : UnaryOp) (found : unaryOp? kind = some op) :
    (kind = .bang ∧ op = .not) ∨ (kind = .minus ∧ op = .negate) := by
  unfold unaryOp? at found
  split at found <;> cases found
  · exact Or.inl ⟨rfl, rfl⟩
  · exact Or.inr ⟨rfl, rfl⟩

theorem derives_unary (sign : Token) (tokens : List Token) (operand : Expr) (op : UnaryOp)
    (found : unaryOp? sign.kind = some op) (inner : Derives .unary tokens operand) :
    Derives .unary (sign :: tokens) (.unary op operand sign.line) := by
  rcases unaryOp_cases sign.kind op found with ⟨isSign, rfl⟩ | ⟨isSign, rfl⟩
  · exact .not sign tokens operand isSign inner
  · exact .negate sign tokens operand isSign inner

theorem assign_faults (sign : Token) (left : Expr) (clean : Operator.assign.faults sign left = []) :
    ∃ ident, left = .reference ident := by
  cases left <;> simp_all [Operator.faults]

-- One operation: what was held and a right operand of the level after the sign make a phrase of the
-- level of the sign, provided that what was held binds at least as much as the sign.
theorem operation_derives (held : Level) (taken after : List Token) (sign : Token) (b : Binding)
    (left right : Expr) (found : binding? sign.kind = some b) (weak : b.left ≤ held.power)
    (heldDerives : Derives held taken left) (clean : b.operator.faults sign left = [])
    (rightDerives : ∀ level, Level.Serves level b.right → Derives level after right) :
    ∃ level, level.rank ≤ 7 ∧ (∀ power, power ≤ b.left → ∀ outer, Level.Serves outer power → outer.rank ≤ level.rank) ∧
      b.right ≤ level.power + 1 ∧
      Derives level (taken ++ sign :: after) (b.operator.build sign left right) := by
  cases sign_of_binding sign.kind b found with
  | assign isSign =>
    obtain ⟨ident, rfl⟩ := assign_faults sign left clean
    obtain ⟨name, rfl, isName, rfl⟩ := derives_reference held taken ident heldDerives
    refine ⟨.assignment, by decide, ?_, by decide, ?_⟩
    · intro power small outer serves
      exact Nat.le_of_eq (serves.weakest small)
    · exact .assign name sign after right isName isSign (rightDerives _ serves_value)
  | logical level op isSign =>
    obtain ⟨low, high⟩ := logical_rank level sign.kind op isSign
    have leftDerives : Derives level taken left := by
      refine derives_loosen level held taken left ?_ heldDerives
      simp only [Level.power] at weak
      omega
    refine ⟨level, by omega, ?_, Nat.le_refl _, ?_⟩
    · intro power small outer serves
      have reach := serves.reaches
      simp only [Level.power] at small
      omega
    · exact .logical level op taken after sign left right isSign leftDerives
        (rightDerives _ (serves_tighter level low high))
  | binary level op isSign =>
    obtain ⟨low, high⟩ := binary_rank level sign.kind op isSign
    have leftDerives : Derives level taken left := by
      refine derives_loosen level held taken left ?_ heldDerives
      simp only [Level.power] at weak
      omega
    refine ⟨level, by omega, ?_, Nat.le_refl _, ?_⟩
    · intro power small outer serves
      have reach := serves.reaches
      simp only [Level.power] at small
      omega
    · exact .binary level op taken after sign left right isSign leftDerives
        (rightDerives _ (serves_tighter level low high))

-- Each theorem recurses as the reader it is about does, on the same measure.
mutual

theorem expression_sound (power : Nat) (tokens : List Token) (phrase : Expr) (rest : List Token)
    (reads : (expression power tokens).Reads phrase rest) :
    ∃ taken, tokens = taken ++ rest ∧ Weaker power rest ∧
      ∀ level, Level.Serves level power → Derives level taken phrase := by
  obtain ⟨left, middle, first, more⟩ := (reads_expression ..).1 reads
  have fewer := reads_fewer _ _ _ first
  obtain ⟨taken, rfl, derives⟩ := operand_sound tokens left middle first
  obtain ⟨after, rfl, weak, whole⟩ := operations_sound power .unary left taken middle phrase rest
    derives (weaker_mono _ _ _ (by decide) (weaker_unary middle)) more
  refine ⟨taken ++ after, by rw [List.append_assoc], weak, ?_⟩
  intro level serves
  exact whole level serves serves.atMostUnary
termination_by 8 * tokens.length + 4
decreasing_by all_goals omega

theorem operations_sound (power : Nat) (held : Level) (left : Expr) (taken tokens : List Token)
    (phrase : Expr) (rest : List Token) (heldDerives : Derives held taken left)
    (weak : Weaker (held.power + 1) tokens) (reads : (operations power left tokens).Reads phrase rest) :
    ∃ after, tokens = after ++ rest ∧ Weaker power rest ∧
      ∀ level, Level.Serves level power → level.rank ≤ held.rank → Derives level (taken ++ after) phrase := by
  match tokens with
  | [] =>
    obtain ⟨rfl, rfl⟩ := (reads_operations_nil ..).1 reads
    refine ⟨[], rfl, ?_, ?_⟩
    · intro sign rest same
      cases same
    · intro level _ le
      rw [List.append_nil]
      exact derives_loosen level held taken left le heldDerives
  | sign :: tokens =>
    by_cases stops : ∀ b, binding? sign.kind = some b → b.left < power
    · obtain ⟨rfl, rfl⟩ := (reads_operations_stop power left sign tokens stops ..).1 reads
      refine ⟨[], rfl, weaker_cons power sign tokens stops, ?_⟩
      intro level _ le
      rw [List.append_nil]
      exact derives_loosen level held taken left le heldDerives
    · obtain ⟨b, found, strong⟩ : ∃ b, binding? sign.kind = some b ∧ power ≤ b.left := by
        cases found : binding? sign.kind with
        | none => exact (stops fun b impossible => by simp [found] at impossible).elim
        | some b =>
          refine ⟨b, rfl, Nat.le_of_not_lt fun small => stops ?_⟩
          intro b' found'
          rw [← Option.some.inj (found.symm.trans found')]
          exact small
      obtain ⟨right, middle, first, clean, more⟩ :=
        (reads_operations_take power left sign tokens b found strong ..).1 reads
      have fewer := reads_fewer _ _ _ first
      obtain ⟨between, rfl, rightWeak, rightDerives⟩ := expression_sound b.right tokens right middle first
      have bound := weak sign _ rfl b found
      obtain ⟨level, _, outerLe, le, derives⟩ := operation_derives held taken between sign b left right found
        (Nat.le_of_lt_succ bound) heldDerives clean rightDerives
      obtain ⟨after, rfl, restWeak, whole⟩ := operations_sound power level _ (taken ++ sign :: between) middle
        phrase rest derives (weaker_mono _ _ _ le rightWeak) more
      refine ⟨sign :: between ++ after, by simp, restWeak, ?_⟩
      intro outer serves _
      have outerDerives := whole outer serves (outerLe power strong outer serves)
      simpa using outerDerives
termination_by 8 * tokens.length + 0
decreasing_by all_goals (simp only [List.length_cons]; omega)

theorem operand_sound (tokens : List Token) (phrase : Expr) (rest : List Token)
    (reads : (operand tokens).Reads phrase rest) :
    ∃ taken, tokens = taken ++ rest ∧ Derives .unary taken phrase := by
  match tokens with
  | [] => exact (reads_operand_nil phrase rest reads).elim
  | sign :: tokens =>
    cases found : unaryOp? sign.kind with
    | none =>
      have reads := (reads_operand_plain sign tokens found phrase rest).1 reads
      obtain ⟨taken, same, derives⟩ := callable_sound (sign :: tokens) phrase rest reads
      exact ⟨taken, same, .tighter .unary taken phrase (by decide) derives⟩
    | some op =>
      obtain ⟨inner, more, rfl⟩ := (reads_operand_unary sign tokens op found phrase rest).1 reads
      obtain ⟨taken, rfl, _, derives⟩ := expression_sound unaryPower tokens inner rest more
      exact ⟨sign :: taken, rfl, derives_unary sign taken inner op found (derives .unary serves_unary)⟩
termination_by 8 * tokens.length + 3
decreasing_by all_goals (simp only [List.length_cons]; omega)

theorem callable_sound (tokens : List Token) (phrase : Expr) (rest : List Token)
    (reads : (callable tokens).Reads phrase rest) :
    ∃ taken, tokens = taken ++ rest ∧ Derives .call taken phrase := by
  obtain ⟨callee, middle, first, more⟩ := (reads_callable ..).1 reads
  have fewer := reads_fewer _ _ _ first
  obtain ⟨taken, rfl, derives⟩ := primary_sound tokens callee middle first
  obtain ⟨after, rfl, whole⟩ := calls_sound callee taken middle phrase rest (.tighter .call taken callee (by decide) derives) more
  exact ⟨taken ++ after, by rw [List.append_assoc], whole⟩
termination_by 8 * tokens.length + 2
decreasing_by all_goals omega

theorem calls_sound (callee : Expr) (taken tokens : List Token) (phrase : Expr) (rest : List Token)
    (calleeDerives : Derives .call taken callee) (reads : (calls callee tokens).Reads phrase rest) :
    ∃ after, tokens = after ++ rest ∧ Derives .call (taken ++ after) phrase := by
  match tokens with
  | [] =>
    obtain ⟨rfl, rfl⟩ := (reads_calls_nil ..).1 reads
    exact ⟨[], rfl, by rwa [List.append_nil]⟩
  | paren :: tokens =>
    by_cases opening : paren.kind = .leftParen
    · obtain ⟨⟨args, line⟩, middle, first, more⟩ := (reads_calls_take callee paren tokens opening ..).1 reads
      have fewer := reads_fewer _ _ _ first
      obtain ⟨within, closing, rfl, isClosing, rfl, argsDerive⟩ := arguments_sound tokens (args, line) middle first
      obtain ⟨after, rfl, whole⟩ := calls_sound (.call callee args closing.line)
        (taken ++ paren :: (within ++ [closing])) middle phrase rest
        (.call taken within paren closing callee args opening isClosing calleeDerives argsDerive) more
      refine ⟨paren :: (within ++ closing :: after), by simp, ?_⟩
      simpa using whole
    · obtain ⟨rfl, rfl⟩ := (reads_calls_stop callee paren tokens opening ..).1 reads
      exact ⟨[], rfl, by rwa [List.append_nil]⟩
termination_by 8 * tokens.length + 0
decreasing_by all_goals (simp only [List.length_cons]; omega)

theorem arguments_sound (tokens : List Token) (args : List Expr × Nat) (rest : List Token)
    (reads : (arguments tokens).Reads args rest) :
    ∃ taken closing, tokens = taken ++ closing :: rest ∧ closing.kind = .rightParen ∧ args.2 = closing.line ∧
      DerivesArguments taken args.1 := by
  rcases (reads_arguments ..).1 reads with ⟨paren, rfl, isClosing, rfl⟩ | ⟨_, more⟩
  · exact ⟨[], paren, rfl, isClosing, rfl, .none⟩
  · obtain ⟨taken, closing, same, isClosing, line, _, _, _, derives⟩ := moreArguments_sound tokens args rest more
    exact ⟨taken, closing, same, isClosing, line, derives⟩
termination_by 8 * tokens.length + 6
decreasing_by all_goals omega

theorem moreArguments_sound (tokens : List Token) (args : List Expr × Nat) (rest : List Token)
    (reads : (moreArguments tokens).Reads args rest) :
    ∃ taken closing, tokens = taken ++ closing :: rest ∧ closing.kind = .rightParen ∧ args.2 = closing.line ∧
      ∃ first others, args.1 = first :: others ∧ DerivesArguments taken args.1 := by
  obtain ⟨arg, sign, middle, first, next⟩ := (reads_moreArguments ..).1 reads
  have fewer : middle.length + 1 < tokens.length := reads_fewer _ _ _ first
  obtain ⟨before, rfl, _, derives⟩ := expression_sound 0 tokens arg (sign :: middle) first
  rcases next with ⟨isComma, ⟨others, line⟩, more, rfl⟩ | ⟨isClosing, rfl, rfl⟩
  · obtain ⟨after, closing, rfl, isClosing, rfl, next, others', rfl, rest⟩ :=
      moreArguments_sound middle (others, line) rest more
    exact ⟨before ++ sign :: after, closing, by simp, isClosing, rfl, arg, _, rfl,
      .more before after sign arg next others' isComma (derives _ serves_any) rest⟩
  · exact ⟨before, sign, rfl, isClosing, rfl, arg, [], rfl, .last before arg (derives _ serves_any)⟩
termination_by 8 * tokens.length + 5
decreasing_by all_goals omega

theorem primary_sound (tokens : List Token) (phrase : Expr) (rest : List Token)
    (reads : (primary tokens).Reads phrase rest) :
    ∃ taken, tokens = taken ++ rest ∧ Derives .primary taken phrase := by
  obtain ⟨t, more, same, kinds⟩ := primary_first tokens phrase rest reads
  have fewer : more.length < tokens.length := by simp [same]
  subst same
  rcases kinds with isLiteral | isNil | isName | isOpening
  · obtain ⟨rfl, rfl⟩ := (reads_primary_literal t more isLiteral ..).1 reads
    exact ⟨[t], rfl, .literal t isLiteral⟩
  · obtain ⟨rfl, rfl⟩ := (reads_primary_nil t more isNil ..).1 reads
    exact ⟨[t], rfl, .nil t isNil⟩
  · obtain ⟨rfl, rfl⟩ := (reads_primary_name t more isName ..).1 reads
    exact ⟨[t], rfl, .name t isName⟩
  · obtain ⟨inner, paren, first, isClosing, rfl⟩ := (reads_primary_group t more isOpening ..).1 reads
    obtain ⟨taken, rfl, _, derives⟩ := expression_sound 0 more inner (paren :: rest) first
    exact ⟨t :: (taken ++ [paren]), by simp,
      .grouping t paren taken inner isOpening isClosing (derives _ serves_any)⟩
termination_by 8 * tokens.length + 1
decreasing_by all_goals omega

end

end StoryScript.Grammar
