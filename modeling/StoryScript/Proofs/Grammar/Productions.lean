import StoryScript.Proofs.Grammar.Walks

set_option autoImplicit false

namespace StoryScript.Walk

open Grammar (Operator Reading binding? startsWith)

variable {v : Ended}

theorem follows_finish (operator : Operator) (left : Expr) (sign : Token) (right : Expr) (rest : List Token)
    (notEnd : sign.kind ≠ .eof) (enough : Prop) :
    Follows v (finish operator left sign right) rest
      (.read (operator.build sign left right) (operator.faults sign left) rest (Grammar.self_lt rest)) enough := by
  have refused : ∀ target : Expr, Follows v (do errorAt sign Complaint.invalidAssignment.message; pure target) rest
      (.read target [⟨.invalidAssignment, some sign⟩] rest (Grammar.self_lt rest)) enough := by
    intro target suffix
    have told := follows_errorAt (v := v) ⟨.invalidAssignment, some sign⟩ sign rest enough
      fun _ => by simp [Grammar.Fault.diagnostic, notEnd, Complaint.at]
    have whole := meets_then (f := fun _ => pure target) (told suffix)
      (follows_pure target rest (Grammar.self_lt rest) enough suffix)
    simpa [Reading.after] using whole
  cases operator with
  | logical op => exact follows_pure _ rest _ enough
  | binary op => exact follows_pure _ rest _ enough
  | assign =>
    cases left with
    | reference ident => exact follows_pure _ rest _ enough
    | _ => exact refused _

theorem follows_items {α β : Type} {tokens rest : List Token} {enough : Prop} (complaint : Complaint) (item : α)
    (walk : Walk (List α)) (reader : (rest : List Token) → Reading β rest.length) (close : List α → Token → β)
    (push : β → β) (pushed : ∀ items paren, push (close items paren) = close (item :: items) paren)
    (fewer : rest.length < tokens.length)
    (later : ∀ t rest', rest = t :: rest' →
      Follows v (do return close (← walk) (← expect .rightParen complaint.message)) rest' (reader rest') enough) :
    Follows v (do return close (← listed item walk) (← expect .rightParen complaint.message)) rest
      (match rest, fewer with
        | [], fewer => (Grammar.complain complaint []).within fewer
        | sign :: rest', fewer =>
          if sign.kind = .comma then ((reader rest').map push).within (Grammar.tail_lt fewer)
          else ((Grammar.expect .rightParen complaint (sign :: rest')).map fun paren => close [item] paren).within fewer)
      enough := by
  rw [listed, bind_assoc]
  refine follows_eat .comma ?_ ?_
  · rintro t rest' rfl isComma
    dsimp only
    rw [if_pos isComma, if_pos rfl]
    have whole := follows_widen (Nat.le_of_lt (Grammar.tail_lt fewer)) (follows_map push (later t rest' rfl))
    simp only [bind_assoc, pure_bind, pushed] at whole ⊢
    exact whole
  · intro other
    rw [if_neg Bool.false_ne_true, pure_bind]
    have closing := follows_map (close [item]) (follows_expect (v := v) .rightParen complaint rest (by decide) enough)
    cases rest with
    | nil => exact follows_widen _ closing
    | cons sign rest' =>
      dsimp only
      rw [if_neg (beq_eq_false_iff_ne.1 other)]
      exact follows_widen _ closing

-- With some fuel every walk over an expression follows its reader.
structure Phrases (v : Ended) (fuel : Nat) : Prop where
  expression : ∀ power tokens,
    Follows v (expression fuel power) tokens (Grammar.expression power tokens) (8 * tokens.length + 4 < fuel)
  operations : ∀ power left tokens,
    Follows v (operations fuel power left) tokens (Grammar.operations power left tokens) (8 * tokens.length < fuel)
  operand : ∀ tokens, Follows v (operand fuel) tokens (Grammar.operand tokens) (8 * tokens.length + 3 < fuel)
  callable : ∀ tokens, Follows v (callable fuel) tokens (Grammar.callable tokens) (8 * tokens.length + 2 < fuel)
  calls : ∀ callee tokens,
    Follows v (calls fuel callee) tokens (Grammar.calls callee tokens) (8 * tokens.length < fuel)
  arguments : ∀ tokens,
    Follows v (do return ((← arguments fuel), (← expect .rightParen Complaint.parenAfterArguments.message).line)) tokens
      (Grammar.moreArguments tokens) (8 * tokens.length + 5 < fuel)
  primary : ∀ tokens, Follows v (primary fuel) tokens (Grammar.primary tokens) (8 * tokens.length + 1 < fuel)

theorem phrases_zero : Phrases v 0 where
  expression power tokens := follows_noFuel _ (Grammar.forwards.holds_expression power tokens)
  operations power left tokens := follows_noFuel _ (Grammar.forwards.holds_operations power left tokens)
  operand tokens := follows_noFuel _ (Grammar.forwards.holds_operand tokens)
  callable tokens := follows_noFuel _ (Grammar.forwards.holds_callable tokens)
  calls callee tokens := follows_noFuel _ (Grammar.forwards.holds_calls callee tokens)
  arguments tokens := follows_noFuel _ (Grammar.forwards.holds_moreArguments tokens)
  primary tokens := follows_noFuel _ (Grammar.forwards.holds_primary tokens)

section Step

variable {fuel : Nat} (known : Phrases v fuel)

include known

theorem follows_expression (power : Nat) (tokens : List Token) :
    Follows v (expression (fuel + 1) power) tokens (Grammar.expression power tokens)
      (8 * tokens.length + 4 < fuel + 1) := by
  rw [expression, Grammar.expression]
  refine follows_bind (follows_less (known.operand tokens) (by omega)) ?_
  intro left rest fewer
  exact follows_widen _ (follows_less (known.operations power left rest) (by omega))

theorem follows_operations (power : Nat) (left : Expr) (tokens : List Token) :
    Follows v (operations (fuel + 1) power left) tokens (Grammar.operations power left tokens)
      (8 * tokens.length < fuel + 1) := by
  rw [operations]
  refine follows_then (follows_peek tokens _) ?_
  cases tokens with
  | nil =>
    rw [Grammar.operations, show binding? (v.ahead []).kind = none from congrArg binding? v.isEnd]
    exact follows_pure left [] _ _
  | cons sign rest =>
    rw [Grammar.operations, show (v.ahead (sign :: rest)) = sign from rfl]
    cases found : binding? sign.kind with
    | none => exact follows_pure left (sign :: rest) _ _
    | some b =>
      dsimp only
      by_cases weaker : b.left < power
      · rw [if_pos weaker, if_pos weaker]
        exact follows_pure left (sign :: rest) _ _
      · rw [if_neg weaker, if_neg weaker]
        have notEnd : sign.kind ≠ .eof := by
          intro isEnd
          rw [isEnd] at found
          cases found
        have longer : (sign :: rest).length = rest.length + 1 := rfl
        refine follows_then (follows_next sign rest _) (follows_widen _ ?_)
        refine follows_bind (follows_widen _ (follows_less (known.expression b.right rest) (by omega))) ?_
        intro right rest' fewer
        refine follows_widen _ ?_
        intro suffix
        have later := known.operations power (b.operator.build sign left right) rest'
        refine meets_then (follows_finish b.operator left sign right rest' notEnd _ suffix) ?_
        exact follows_less later (by omega) suffix

theorem follows_operand (tokens : List Token) :
    Follows v (operand (fuel + 1)) tokens (Grammar.operand tokens) (8 * tokens.length + 3 < fuel + 1) := by
  rw [operand]
  refine follows_then (follows_peek tokens _) ?_
  cases tokens with
  | nil =>
    have nothing : Grammar.operand [] = Grammar.callable [] := by
      rw [Grammar.operand, Grammar.callable, Grammar.primary]
      rfl
    rw [nothing, show Grammar.unaryOp? (v.ahead []).kind = none from congrArg Grammar.unaryOp? v.isEnd]
    exact follows_less (known.callable []) (by omega)
  | cons sign rest =>
    rw [Grammar.operand, show (v.ahead (sign :: rest)) = sign from rfl]
    cases Grammar.unaryOp? sign.kind with
    | none => exact follows_less (known.callable (sign :: rest)) (by omega)
    | some op =>
      have longer : (sign :: rest).length = rest.length + 1 := rfl
      refine follows_then (follows_next sign rest _) (follows_widen _ ?_)
      exact follows_map (fun inner => Expr.unary op inner sign.line)
        (follows_less (known.expression Grammar.unaryPower rest) (by omega))

theorem follows_callable (tokens : List Token) :
    Follows v (callable (fuel + 1)) tokens (Grammar.callable tokens) (8 * tokens.length + 2 < fuel + 1) := by
  rw [callable, Grammar.callable]
  refine follows_bind (follows_less (known.primary tokens) (by omega)) ?_
  intro callee rest fewer
  exact follows_widen _ (follows_less (known.calls callee rest) (by omega))

theorem follows_calls (callee : Expr) (tokens : List Token) :
    Follows v (calls (fuel + 1) callee) tokens (Grammar.calls callee tokens) (8 * tokens.length < fuel + 1) := by
  rw [calls]
  refine follows_eat .leftParen ?_ ?_
  · rintro paren rest rfl isParen
    rw [Grammar.calls, if_pos isParen, if_pos rfl]
    have longer : (paren :: rest).length = rest.length + 1 := rfl
    refine follows_widen _ ?_
    have regrouped : (do
          let args ← unlessAt .rightParen [] (arguments fuel)
          let paren ← expect .rightParen Complaint.parenAfterArguments.message
          calls fuel (.call callee args paren.line) : Walk Expr) =
        (do
          let args ← unlessAt .rightParen [] (arguments fuel)
          return (args, (← expect .rightParen Complaint.parenAfterArguments.message).line)) >>=
          fun args => calls fuel (.call callee args.1 args.2) := by
      simp only [bind_assoc, pure_bind]
    refine (congrArg (Follows v · rest _ _) regrouped).mpr (follows_bind (follows_widen _ ?_) ?_)
    · unfold Grammar.arguments
      refine follows_unlessAt .rightParen [] _ (by decide) ?_ ?_
      · intro closed
        rw [if_pos closed]
        exact follows_map (fun paren : Token => (([] : List Expr), paren.line))
          (follows_expect .rightParen .parenAfterArguments rest (by decide) _)
      · intro some
        rw [if_neg (Bool.eq_false_iff.1 some)]
        exact follows_less (known.arguments rest) (by omega)
    · intro args rest' fewer
      exact follows_widen _ (follows_less (known.calls _ rest') (by omega))
  · intro other
    rw [if_neg Bool.false_ne_true]
    cases tokens with
    | nil =>
      rw [Grammar.calls]
      exact follows_pure callee [] _ _
    | cons paren rest =>
      rw [Grammar.calls, if_neg (beq_eq_false_iff_ne.1 other)]
      exact follows_pure callee (paren :: rest) _ _

theorem follows_arguments (tokens : List Token) :
    Follows v (do return ((← arguments (fuel + 1)), (← expect .rightParen Complaint.parenAfterArguments.message).line))
      tokens (Grammar.moreArguments tokens) (8 * tokens.length + 5 < fuel + 1) := by
  rw [arguments, Grammar.moreArguments, bind_assoc]
  refine follows_bind (follows_less (known.expression 0 tokens) (by omega)) ?_
  intro arg rest fewer
  refine follows_items .parenAfterArguments arg (arguments fuel) Grammar.moreArguments
    (fun args paren => (args, paren.line)) (fun args => (arg :: args.1, args.2)) (fun _ _ => rfl) fewer ?_
  rintro t rest' rfl
  refine follows_less (known.arguments rest') ?_
  rw [List.length_cons] at fewer
  omega

theorem follows_primary (tokens : List Token) :
    Follows v (primary (fuel + 1)) tokens (Grammar.primary tokens) (8 * tokens.length + 1 < fuel + 1) := by
  rw [primary]
  refine follows_then (follows_peek tokens _) ?_
  cases tokens with
  | nil =>
    rw [Grammar.primary, show (v.ahead []).kind = .eof from v.isEnd]
    exact follows_unexpected .expectExpression [] _
  | cons t rest =>
    rw [Grammar.primary, show v.ahead (t :: rest) = t from rfl]
    have taken : ∀ (expr : Token → Expr) (enough : Prop),
        Follows v (next >>= fun t => pure (expr t)) (t :: rest) (Grammar.ended (expr t) rest) enough :=
      fun expr enough => follows_then (follows_next t rest enough) (follows_pure (expr t) rest _ enough)
    cases t.kind with
    | number => exact taken (fun t => .literal (t.literal.getD .nil)) _
    | string => exact taken (fun t => .literal (t.literal.getD .nil)) _
    | wordTrue => exact taken (fun t => .literal (t.literal.getD .nil)) _
    | wordFalse => exact taken (fun t => .literal (t.literal.getD .nil)) _
    | wordNil => exact taken (fun _ => .literal .nil) _
    | identifier => exact taken (fun t => .reference (Grammar.identOf t)) _
    | leftParen =>
      have longer : (t :: rest).length = rest.length + 1 := rfl
      refine follows_then (follows_next t rest _) ?_
      refine follows_bind (follows_widen _ (follows_less (known.expression 0 rest) (by omega))) ?_
      intro inner rest' fewer
      exact follows_widen _ (follows_map (fun _ => Expr.grouping inner)
        (follows_expect .rightParen .parenAfterExpression rest' (by decide) _))
    | _ => exact follows_unexpected .expectExpression (t :: rest) _

end Step

theorem phrases (v : Ended) (fuel : Nat) : Phrases v fuel := by
  induction fuel with
  | zero => exact phrases_zero
  | succ fuel known =>
    exact ⟨follows_expression known, follows_operations known, follows_operand known, follows_callable known,
      follows_calls known, follows_arguments known, follows_primary known⟩

theorem follows_closed {α : Type} (kind : Kind) (complaint : Complaint) (tokens : List Token) (fuel : Nat) (f : Expr → α)
    (notEnd : kind ≠ .eof) :
    Follows v
      (do
        let expr ← expression fuel 0
        let _ ← expect kind complaint.message
        return f expr)
      tokens
      ((Grammar.expression 0 tokens).bind fun expr rest fewer =>
        ((Grammar.expect kind complaint rest).map fun _ => f expr).within fewer)
      (8 * tokens.length + 4 < fuel) := by
  refine follows_bind ((phrases v fuel).expression 0 tokens) ?_
  intro expr rest fewer
  exact follows_widen _ (follows_map (fun _ => f expr) (follows_expect kind complaint rest notEnd _))

theorem follows_terminated {α : Type} (complaint : Complaint) (tokens : List Token) (fuel : Nat) (f : Expr → α) :
    Follows v
      (do
        let expr ← expression fuel 0
        let _ ← expect .semicolon complaint.message
        return f expr)
      tokens ((Grammar.terminated complaint tokens).map f) (8 * tokens.length + 4 < fuel) := by
  have whole := follows_map f (follows_closed (v := v) .semicolon complaint tokens fuel id (by decide))
  simp only [bind_assoc, pure_bind] at whole
  exact whole

theorem follows_optional {α : Type} {n : Nat} (kind : Kind) (complaint : Complaint) (tokens : List Token) (fuel : Nat)
    (f : Option Expr → α) (r : Reading α n) (enough : Prop) (notEnd : kind ≠ .eof)
    (there : startsWith kind tokens = true →
      Follows v (expect kind complaint.message >>= fun _ => pure (f none)) tokens r enough)
    (other : startsWith kind tokens = false →
      Follows v
        (do
          let expr ← expression fuel 0
          let _ ← expect kind complaint.message
          return f (some expr))
        tokens r enough) :
    Follows v
      (do
        let value ← optional kind fuel
        let _ ← expect kind complaint.message
        return f value)
      tokens r enough := by
  refine follows_unlessAt kind none _ notEnd there ?_
  simp only [bind_assoc, pure_bind]
  exact other

theorem follows_ident (complaint : Complaint) (tokens : List Token) (enough : Prop) :
    Follows v (ident complaint.message) tokens (Grammar.name complaint tokens) enough :=
  follows_map Grammar.identOf (follows_expect .identifier complaint tokens (by decide) enough)

theorem follows_expressionStatement (tokens : List Token) (fuel : Nat) :
    Follows v (expressionStatement fuel) tokens (Grammar.expressionStatement tokens) (8 * tokens.length + 4 < fuel) :=
  follows_terminated .semicolonAfterExpression tokens fuel Stmt.expression

theorem follows_printStatement (t : Token) (rest : List Token) (fuel : Nat) (isPrint : t.kind = .wordPrint) :
    Follows v (printStatement fuel) (t :: rest) (Grammar.printStatement t rest) (8 * rest.length + 4 < fuel) :=
  follows_expect_taken .wordPrint _ isPrint
    (follows_terminated .semicolonAfterPrint rest fuel fun expr => Stmt.print expr t.line)

theorem follows_returnStatement (t : Token) (rest : List Token) (fuel : Nat) (isReturn : t.kind = .wordReturn) :
    Follows v (returnStatement fuel) (t :: rest) (Grammar.returnStatement t rest) (8 * rest.length + 4 < fuel) := by
  refine follows_expect_taken .wordReturn _ isReturn ?_
  unfold Grammar.returnStatement
  refine follows_optional .semicolon .semicolonAfterReturn rest fuel (fun value => Stmt.ret value t.line) _ _ (by decide) ?_ ?_
  · intro bare
    rw [if_pos bare]
    exact follows_map (fun _ => Stmt.ret none t.line) (follows_expect .semicolon _ rest (by decide) _)
  · intro other
    rw [if_neg (Bool.eq_false_iff.1 other)]
    exact follows_terminated .semicolonAfterReturn rest fuel fun expr => Stmt.ret (some expr) t.line

theorem follows_varDeclaration (t : Token) (rest : List Token) (fuel : Nat) (isVar : t.kind = .wordVar) :
    Follows v (varDeclaration fuel) (t :: rest) (Grammar.varDeclaration rest) (8 * rest.length + 4 < fuel) := by
  refine follows_expect_taken .wordVar _ isVar ?_
  refine follows_bind (follows_ident .variableName rest _) ?_
  intro name rest' fewer
  rw [initialValue, bind_assoc]
  refine follows_eat .equal ?_ ?_
  · rintro sign value rfl isEqual
    dsimp only
    rw [if_pos isEqual, if_pos rfl]
    have whole := follows_terminated (v := v) .semicolonAfterVariable value fuel fun expr => Stmt.var name (some expr)
    simp only [bind_assoc, pure_bind]
    refine follows_widen _ (follows_less whole ?_)
    rw [List.length_cons] at fewer
    omega
  · intro other
    rw [if_neg Bool.false_ne_true, pure_bind]
    have closing := follows_map (fun _ => Stmt.var name none)
      (follows_expect (v := v) .semicolon .semicolonAfterVariable rest' (by decide) (8 * rest.length + 4 < fuel))
    cases rest' with
    | nil => exact follows_widen _ closing
    | cons sign value =>
      dsimp only
      rw [if_neg (beq_eq_false_iff_ne.1 other)]
      exact follows_widen _ closing

theorem follows_moreParameters (tokens : List Token) (fuel : Nat) :
    Follows v
      (do
        let params ← parameters fuel
        let _ ← expect .rightParen Complaint.parenAfterParameters.message
        return params)
      tokens (Grammar.moreParameters tokens) (tokens.length < fuel) := by
  induction fuel generalizing tokens with
  | zero =>
    exact follows_noFuel _ (Grammar.forwards.holds_moreParameters tokens)
  | succ fuel ih =>
    rw [parameters, Grammar.moreParameters, bind_assoc]
    refine follows_bind (follows_ident .parameterName tokens _) ?_
    intro param rest fewer
    refine follows_items .parenAfterParameters param (parameters fuel) Grammar.moreParameters (fun params _ => params)
      (fun params => param :: params) (fun _ _ => rfl) fewer ?_
    rintro t rest' rfl
    refine follows_less (ih rest') ?_
    rw [List.length_cons] at fewer
    omega

theorem follows_parameters (tokens : List Token) (fuel : Nat) :
    Follows v
      (do
        let params ← unlessAt .rightParen [] (parameters fuel)
        let _ ← expect .rightParen Complaint.parenAfterParameters.message
        return params)
      tokens (Grammar.parameters tokens) (tokens.length < fuel) := by
  unfold Grammar.parameters
  refine follows_unlessAt .rightParen [] _ (by decide) ?_ ?_
  · intro closed
    rw [if_pos closed]
    exact follows_map (fun _ => ([] : List Ident)) (follows_expect .rightParen _ tokens (by decide) _)
  · intro some
    rw [if_neg (Bool.eq_false_iff.1 some)]
    exact follows_moreParameters tokens fuel

theorem follows_forInitializer (tokens : List Token) (fuel : Nat) :
    Follows v (forInitializer fuel) tokens (Grammar.forInitializer tokens) (8 * tokens.length + 4 < fuel) := by
  refine follows_then (follows_peek tokens _) ?_
  cases tokens with
  | nil =>
    rw [show (v.ahead []).kind = .eof from v.isEnd]
    exact follows_map some (follows_expressionStatement [] fuel)
  | cons t rest =>
    rw [Grammar.forInitializer, show v.ahead (t :: rest) = t from rfl]
    split
    · rename_i isSemicolon
      rw [if_pos isSemicolon]
      exact follows_then (follows_next t rest _) (follows_pure none rest _ _)
    · rename_i isVar
      have longer : (t :: rest).length = rest.length + 1 := rfl
      rw [if_neg (by rw [isVar]; decide), if_pos isVar]
      exact follows_widen _ (follows_map some (follows_less (follows_varDeclaration t rest fuel isVar) (by omega)))
    · rename_i notSemicolon notVar
      rw [if_neg notSemicolon, if_neg notVar]
      exact follows_map some (follows_expressionStatement (t :: rest) fuel)

theorem follows_forClauses (tokens : List Token) (fuel : Nat) :
    Follows v
      (do
        let _ ← expect .leftParen Complaint.parenAfterFor.message
        let initializer ← forInitializer fuel
        let condition ← optional .semicolon fuel
        let _ ← expect .semicolon Complaint.semicolonAfterCondition.message
        let increment ← optional .rightParen fuel
        let _ ← expect .rightParen Complaint.parenAfterClauses.message
        return Grammar.Clauses.mk initializer condition increment)
      tokens (Grammar.forClauses tokens) (8 * tokens.length + 4 < fuel) := by
  have conditions : ∀ rest, Follows v
      (do
        let condition ← optional .semicolon fuel
        let _ ← expect .semicolon Complaint.semicolonAfterCondition.message
        return condition)
      rest (Grammar.forCondition rest) (8 * rest.length + 4 < fuel) := by
    intro rest
    unfold Grammar.forCondition
    refine follows_optional .semicolon .semicolonAfterCondition rest fuel id _ _ (by decide) ?_ ?_
    · intro bare
      rw [if_pos bare]
      exact follows_map (fun _ => none) (follows_expect .semicolon _ rest (by decide) _)
    · intro other
      rw [if_neg (Bool.eq_false_iff.1 other)]
      exact follows_terminated .semicolonAfterCondition rest fuel some
  have increments : ∀ rest, Follows v
      (do
        let increment ← optional .rightParen fuel
        let _ ← expect .rightParen Complaint.parenAfterClauses.message
        return increment)
      rest (Grammar.forIncrement rest) (8 * rest.length + 4 < fuel) := by
    intro rest
    unfold Grammar.forIncrement
    refine follows_optional .rightParen .parenAfterClauses rest fuel id _ _ (by decide) ?_ ?_
    · intro bare
      rw [if_pos bare]
      exact follows_map (fun _ => none) (follows_expect .rightParen _ rest (by decide) _)
    · intro other
      rw [if_neg (Bool.eq_false_iff.1 other)]
      exact follows_closed .rightParen .parenAfterClauses rest fuel some (by decide)
  have whole := follows_bind (follows_expect (v := v) .leftParen .parenAfterFor tokens (by decide)
      (8 * tokens.length + 4 < fuel)) fun _ rest fewer =>
    follows_bind (follows_widen (Nat.le_of_lt fewer) (follows_less (follows_forInitializer rest fuel) (by omega)))
      fun initializer rest fewer =>
    follows_bind (follows_widen (Nat.le_of_lt fewer) (follows_less (conditions rest) (by omega)))
      fun condition rest fewer =>
    follows_widen (Nat.le_of_lt fewer) (follows_map (fun increment => Grammar.Clauses.mk initializer condition increment)
      (follows_less (increments rest) (by omega)))
  simp only [bind_assoc, pure_bind] at whole
  exact whole

theorem follows_parenthesised (opening closing : Complaint) (tokens : List Token) (fuel : Nat) :
    Follows v (parenthesised opening.message closing.message fuel) tokens
      (Grammar.parenthesised opening closing tokens) (8 * tokens.length + 4 < fuel) := by
  refine follows_bind (follows_expect .leftParen opening tokens (by decide) _) ?_
  intro _ rest fewer
  refine follows_bind (follows_widen _ (follows_less ((phrases v fuel).expression 0 rest) (by omega))) ?_
  intro expr rest fewer
  exact follows_widen _ (follows_map (fun _ => expr) (follows_expect .rightParen closing rest (by decide) _))

theorem follows_functionHead (tokens : List Token) (fuel : Nat) :
    Follows v
      (do
        let name ← ident Complaint.functionName.message
        let _ ← expect .leftParen Complaint.parenBeforeParameters.message
        let params ← unlessAt .rightParen [] (parameters fuel)
        let _ ← expect .rightParen Complaint.parenAfterParameters.message
        let _ ← expect .leftBrace Complaint.braceBeforeBody.message
        return (name, params))
      tokens (Grammar.functionHead tokens) (tokens.length < fuel) := by
  have whole := follows_bind (follows_ident (v := v) .functionName tokens (tokens.length < fuel)) fun name rest fewer =>
    follows_bind (follows_widen (Nat.le_of_lt fewer)
      (follows_expect .leftParen .parenBeforeParameters rest (by decide) _)) fun _ rest fewer =>
    follows_bind (follows_widen (Nat.le_of_lt fewer) (follows_less (follows_parameters rest fuel) (by omega)))
      fun params rest fewer =>
    follows_widen (Nat.le_of_lt fewer) (follows_map (fun _ => (name, params))
      (follows_expect .leftBrace .braceBeforeBody rest (by decide) _))
  simp only [bind_assoc, pure_bind] at whole
  exact whole

end StoryScript.Walk
