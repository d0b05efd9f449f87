import StoryScript.Grammar.Parser
import StoryScript.Proofs.Tree.Renumbering

set_option autoImplicit false

namespace StoryScript

def Token.renumbered (number : Nat → Nat) (t : Token) : Token := { t with line := number t.line }

namespace Grammar

def Fault.renumbered (number : Nat → Nat) (fault : Fault) : Fault :=
  { fault with token := fault.token.map (Token.renumbered number) }

-- Two readings that differ in nothing but the count of lines. The bounds are of no interest: the tokens
-- left are as many.
inductive Reading.Renumbers {α : Type} (number : Nat → Nat) (image : α → α) {m n : Nat} :
    Reading α m → Reading α n → Prop where
  | read (phrase : α) (faults : List Fault) (rest : List Token) (fewer : rest.length < m)
      (fewerToo : (rest.map (Token.renumbered number)).length < n) :
      Renumbers number image (.read phrase faults rest fewer)
        (.read (image phrase) (faults.map (Fault.renumbered number)) (rest.map (Token.renumbered number)) fewerToo)
  | failed (faults : List Fault) (rest : List Token) (atMost : rest.length ≤ m)
      (atMostToo : (rest.map (Token.renumbered number)).length ≤ n) :
      Renumbers number image (.failed faults rest atMost)
        (.failed (faults.map (Fault.renumbered number)) (rest.map (Token.renumbered number)) atMostToo)

open Reading

section Combinators

variable {α β : Type} {m n m' n' : Nat} (number : Nat → Nat)

theorem renumbers_map (image : α → α) (imageToo : β → β) (f g : α → β) (r : Reading α m) (r' : Reading α n)
    (renumbers : Renumbers number image r r') (same : ∀ phrase, g (image phrase) = imageToo (f phrase)) :
    Renumbers number imageToo (r.map f) (r'.map g) := by
  cases renumbers with
  | read phrase faults rest fewer fewerToo =>
    rw [Reading.map, Reading.map, same]
    exact .read (f phrase) faults rest fewer fewerToo
  | failed faults rest atMost atMostToo => exact .failed faults rest atMost atMostToo

theorem renumbers_widen (image : α → α) (r : Reading α m) (r' : Reading α n) (le : m ≤ m') (leToo : n ≤ n')
    (renumbers : Renumbers number image r r') : Renumbers number image (r.widen le) (r'.widen leToo) := by
  cases renumbers with
  | read phrase faults rest fewer fewerToo => exact .read phrase faults rest _ _
  | failed faults rest atMost atMostToo => exact .failed faults rest _ _

theorem renumbers_after (image : α → α) (earlier : List Fault) (r : Reading α m) (r' : Reading α n)
    (renumbers : Renumbers number image r r') :
    Renumbers number image (r.after earlier) (r'.after (earlier.map (Fault.renumbered number))) := by
  cases renumbers with
  | read phrase faults rest fewer fewerToo =>
    rw [Reading.after, Reading.after, ← List.map_append]
    exact .read phrase (earlier ++ faults) rest fewer fewerToo
  | failed faults rest atMost atMostToo =>
    rw [Reading.after, Reading.after, ← List.map_append]
    exact .failed (earlier ++ faults) rest atMost atMostToo

theorem renumbers_bind (image : α → α) (imageToo : β → β) (r : Reading α m) (r' : Reading α n)
    (next : α → (rest : List Token) → rest.length < m → Reading β m)
    (nextToo : α → (rest : List Token) → rest.length < n → Reading β n) (renumbers : Renumbers number image r r')
    (later : ∀ found rest fewer fewerToo,
      Renumbers number imageToo (next found rest fewer)
        (nextToo (image found) (rest.map (Token.renumbered number)) fewerToo)) :
    Renumbers number imageToo (r.bind next) (r'.bind nextToo) := by
  cases renumbers with
  | read phrase faults rest fewer fewerToo =>
    exact renumbers_after number imageToo faults _ _ (later phrase rest fewer fewerToo)
  | failed faults rest atMost atMostToo => exact .failed faults rest atMost atMostToo

theorem renumbers_ended (image : α → α) (phrase : α) (rest : List Token) :
    Renumbers number image (ended phrase rest) (ended (image phrase) (rest.map (Token.renumbered number))) :=
  .read phrase [] rest _ _

theorem renumbers_complain (image : α → α) (complaint : Complaint) (tokens : List Token) :
    Renumbers number image (complain complaint tokens) (complain complaint (tokens.map (Token.renumbered number))) := by
  cases tokens with
  | nil => exact .failed [⟨complaint, none⟩] [] _ _
  | cons t rest => exact .failed [⟨complaint, some t⟩] (t :: rest) _ _

theorem renumbers_expect (kind : Kind) (complaint : Complaint) (tokens : List Token) :
    Renumbers number (Token.renumbered number) (expect kind complaint tokens)
      (expect kind complaint (tokens.map (Token.renumbered number))) := by
  cases tokens with
  | nil => exact renumbers_complain number _ complaint []
  | cons t rest =>
    by_cases same : t.kind = kind
    · have sameToo : (t.renumbered number).kind = kind := same
      rw [List.map_cons, expect, expect, if_pos same, if_pos sameToo]
      exact renumbers_ended number _ t rest
    · have otherToo : (t.renumbered number).kind ≠ kind := same
      rw [List.map_cons, expect, expect, if_neg same, if_neg otherToo]
      exact renumbers_complain number _ complaint (t :: rest)

theorem renumbers_expect_map (image : α → α) (kind : Kind) (complaint : Complaint) (tokens : List Token)
    (f g : Token → α) (same : ∀ t, g (t.renumbered number) = image (f t)) :
    Renumbers number image ((expect kind complaint tokens).map f)
      ((expect kind complaint (tokens.map (Token.renumbered number))).map g) :=
  renumbers_map number _ image f g _ _ (renumbers_expect number kind complaint tokens) same

theorem renumbers_closed (image : α → α) (imageToo : β → β) (kind : Kind) (complaint : Complaint) (r : Reading α m)
    (r' : Reading α n) (f g : α → Token → β) (renumbers : Renumbers number image r r')
    (same : ∀ phrase t, g (image phrase) (t.renumbered number) = imageToo (f phrase t)) :
    Renumbers number imageToo
      (r.bind fun found left fewer => ((expect kind complaint left).map (f found)).within fewer)
      (r'.bind fun found left fewer => ((expect kind complaint left).map (g found)).within fewer) := by
  refine renumbers_bind number image imageToo _ _ _ _ renumbers ?_
  intro found rest fewer fewerToo
  refine renumbers_widen number imageToo _ _ _ _ ?_
  exact renumbers_expect_map number imageToo kind complaint rest _ _ (same found)

theorem startsWith_renumbered (kind : Kind) (tokens : List Token) :
    startsWith kind (tokens.map (Token.renumbered number)) = startsWith kind tokens := by
  cases tokens <;> rfl

end Combinators

theorem build_renumbered (number : Nat → Nat) (operator : Operator) (sign : Token) (left right : Expr) :
    operator.build (sign.renumbered number) (left.renumbered number) (right.renumbered number) =
      (operator.build sign left right).renumbered number := by
  cases operator with
  | assign => cases left <;> rfl
  | logical op => rfl
  | binary op => rfl

theorem faults_renumbered (number : Nat → Nat) (operator : Operator) (sign : Token) (left : Expr) :
    operator.faults (sign.renumbered number) (left.renumbered number) =
      (operator.faults sign left).map (Fault.renumbered number) := by
  cases operator with
  | assign => cases left <;> rfl
  | logical op => cases left <;> rfl
  | binary op => cases left <;> rfl

def argumentsRenumbered (number : Nat → Nat) (args : List Expr × Nat) : List Expr × Nat :=
  (Expr.renumberedAll number args.1, number args.2)

mutual

theorem expression_renumbered (number : Nat → Nat) (power : Nat) (tokens : List Token) :
    Renumbers number (Expr.renumbered number) (expression power tokens)
      (expression power (tokens.map (Token.renumbered number))) := by
  rw [expression, expression]
  refine renumbers_bind number _ _ _ _ _ _ (operand_renumbered number tokens) ?_
  intro left rest fewer fewerToo
  exact renumbers_widen number _ _ _ _ _ (operations_renumbered number power left rest)
termination_by 8 * tokens.length + 4
decreasing_by all_goals omega

theorem operations_renumbered (number : Nat → Nat) (power : Nat) (left : Expr) (tokens : List Token) :
    Renumbers number (Expr.renumbered number) (operations power left tokens)
      (operations power (left.renumbered number) (tokens.map (Token.renumbered number))) := by
  match tokens with
  | [] =>
    rw [List.map_nil, operations, operations]
    exact renumbers_ended number _ left []
  | sign :: tokens =>
    have same : (sign.renumbered number).kind = sign.kind := rfl
    rw [List.map_cons, operations, operations, same]
    cases binding? sign.kind with
    | none => exact renumbers_ended number _ left (sign :: tokens)
    | some b =>
      dsimp only
      by_cases weaker : b.left < power
      · rw [if_pos weaker, if_pos weaker]
        exact renumbers_ended number _ left (sign :: tokens)
      · rw [if_neg weaker, if_neg weaker]
        refine renumbers_widen number _ _ _ _ _ ?_
        refine renumbers_bind number _ _ _ _ _ _
          (renumbers_widen number _ _ _ _ _ (expression_renumbered number b.right tokens)) ?_
        intro right rest fewer fewerToo
        have goesOn := operations_renumbered number power (b.operator.build sign left right) rest
        rw [← build_renumbered] at goesOn
        rw [faults_renumbered]
        exact renumbers_widen number _ _ _ _ _ (renumbers_after number _ _ _ _ goesOn)
termination_by 8 * tokens.length + 0
decreasing_by all_goals (simp only [List.length_cons]; omega)

theorem operand_renumbered (number : Nat → Nat) (tokens : List Token) :
    Renumbers number (Expr.renumbered number) (operand tokens) (operand (tokens.map (Token.renumbered number))) := by
  match tokens with
  | [] =>
    rw [List.map_nil, operand]
    exact renumbers_complain number _ _ []
  | sign :: tokens =>
    have same : (sign.renumbered number).kind = sign.kind := rfl
    rw [List.map_cons, operand, operand, same]
    cases unaryOp? sign.kind with
    | none => exact callable_renumbered number (sign :: tokens)
    | some op =>
      refine renumbers_widen number _ _ _ _ _ ?_
      exact renumbers_map number _ _ _ _ _ _ (expression_renumbered number unaryPower tokens) fun _ => rfl
termination_by 8 * tokens.length + 3
decreasing_by all_goals (simp only [List.length_cons]; omega)

theorem callable_renumbered (number : Nat → Nat) (tokens : List Token) :
    Renumbers number (Expr.renumbered number) (callable tokens) (callable (tokens.map (Token.renumbered number))) := by
  rw [callable, callable]
  refine renumbers_bind number _ _ _ _ _ _ (primary_renumbered number tokens) ?_
  intro callee rest fewer fewerToo
  exact renumbers_widen number _ _ _ _ _ (calls_renumbered number callee rest)
termination_by 8 * tokens.length + 2
decreasing_by all_goals omega

theorem calls_renumbered (number : Nat → Nat) (callee : Expr) (tokens : List Token) :
    Renumbers number (Expr.renumbered number) (calls callee tokens)
      (calls (callee.renumbered number) (tokens.map (Token.renumbered number))) := by
  match tokens with
  | [] =>
    rw [List.map_nil, calls, calls]
    exact renumbers_ended number _ callee []
  | paren :: tokens =>
    have same : (paren.renumbered number).kind = paren.kind := rfl
    rw [List.map_cons, calls, calls, same]
    by_cases opens : paren.kind = .leftParen
    · rw [if_pos opens, if_pos opens]
      refine renumbers_widen number _ _ _ _ _ ?_
      refine renumbers_bind number _ _ _ _ _ _
        (renumbers_widen number _ _ _ _ _ (arguments_renumbered number tokens)) ?_
      intro args rest fewer fewerToo
      exact renumbers_widen number _ _ _ _ _ (calls_renumbered number (.call callee args.1 args.2) rest)
    · rw [if_neg opens, if_neg opens]
      exact renumbers_ended number _ callee (paren :: tokens)
termination_by 8 * tokens.length + 0
decreasing_by all_goals (simp only [List.length_cons]; omega)

theorem arguments_renumbered (number : Nat → Nat) (tokens : List Token) :
    Renumbers number (argumentsRenumbered number) (arguments tokens)
      (arguments (tokens.map (Token.renumbered number))) := by
  rw [arguments, arguments, startsWith_renumbered]
  by_cases empty : startsWith .rightParen tokens = true
  · rw [if_pos empty, if_pos empty]
    exact renumbers_expect_map number _ _ _ tokens _ _ fun _ => rfl
  · rw [if_neg empty, if_neg empty]
    exact moreArguments_renumbered number tokens
termination_by 8 * tokens.length + 6
decreasing_by omega

theorem moreArguments_renumbered (number : Nat → Nat) (tokens : List Token) :
    Renumbers number (argumentsRenumbered number) (moreArguments tokens)
      (moreArguments (tokens.map (Token.renumbered number))) := by
  rw [moreArguments, moreArguments]
  refine renumbers_bind number _ _ _ _ _ _ (expression_renumbered number 0 tokens) ?_
  intro arg rest fewer fewerToo
  match rest with
  | [] => exact renumbers_widen number _ _ _ _ _ (renumbers_complain number _ _ [])
  | sign :: rest =>
    have shorter := tail_lt fewer
    change Renumbers number _ (if sign.kind = .comma then _ else _) (if sign.kind = .comma then _ else _)
    by_cases comma : sign.kind = .comma
    · rw [if_pos comma, if_pos comma]
      refine renumbers_widen number _ _ _ _ _ ?_
      exact renumbers_map number _ _ _ _ _ _ (moreArguments_renumbered number rest) fun _ => rfl
    · rw [if_neg comma, if_neg comma]
      refine renumbers_widen number _ _ _ _ _ ?_
      exact renumbers_expect_map number _ _ _ (sign :: rest) _ _ fun _ => rfl
termination_by 8 * tokens.length + 5
decreasing_by all_goals omega

theorem primary_renumbered (number : Nat → Nat) (tokens : List Token) :
    Renumbers number (Expr.renumbered number) (primary tokens) (primary (tokens.map (Token.renumbered number))) := by
  match tokens with
  | [] =>
    rw [List.map_nil, primary]
    exact renumbers_complain number _ _ []
  | t :: tokens =>
    have same : (t.renumbered number).kind = t.kind := rfl
    rw [List.map_cons, primary, primary, same]
    cases kind : t.kind with
    | leftParen =>
      exact renumbers_closed number _ _ _ _ _ _ _ _
        (renumbers_widen number _ _ _ _ _ (expression_renumbered number 0 tokens)) fun _ _ => rfl
    | number => exact renumbers_ended number _ (Expr.literal _) tokens
    | string => exact renumbers_ended number _ (Expr.literal _) tokens
    | wordTrue => exact renumbers_ended number _ (Expr.literal _) tokens
    | wordFalse => exact renumbers_ended number _ (Expr.literal _) tokens
    | wordNil => exact renumbers_ended number _ (Expr.literal _) tokens
    | identifier => exact renumbers_ended number _ (Expr.reference (identOf t)) tokens
    | _ => exact renumbers_complain number _ _ (t :: tokens)
termination_by 8 * tokens.length + 1
decreasing_by simp only [List.length_cons]; omega

end

theorem name_renumbered (number : Nat → Nat) (complaint : Complaint) (tokens : List Token) :
    Renumbers number (Ident.renumbered number) (name complaint tokens)
      (name complaint (tokens.map (Token.renumbered number))) :=
  renumbers_expect_map number _ _ complaint tokens identOf identOf fun _ => rfl

theorem terminated_renumbered (number : Nat → Nat) (complaint : Complaint) (tokens : List Token) :
    Renumbers number (Expr.renumbered number) (terminated complaint tokens)
      (terminated complaint (tokens.map (Token.renumbered number))) :=
  renumbers_closed number _ _ _ _ _ _ _ _ (expression_renumbered number 0 tokens) fun _ _ => rfl

theorem parenthesised_renumbered (number : Nat → Nat) (opening closing : Complaint) (tokens : List Token) :
    Renumbers number (Expr.renumbered number) (parenthesised opening closing tokens)
      (parenthesised opening closing (tokens.map (Token.renumbered number))) := by
  refine renumbers_bind number _ _ _ _ _ _ (renumbers_expect number _ _ tokens) ?_
  intro first rest fewer fewerToo
  exact renumbers_closed number _ _ _ _ _ _ _ _
    (renumbers_widen number _ _ _ _ _ (expression_renumbered number 0 rest)) fun _ _ => rfl

theorem expressionStatement_renumbered (number : Nat → Nat) (tokens : List Token) :
    Renumbers number (Stmt.renumbered number) (expressionStatement tokens)
      (expressionStatement (tokens.map (Token.renumbered number))) :=
  renumbers_map number _ _ _ _ _ _ (terminated_renumbered number _ tokens) fun _ => rfl

theorem returnStatement_renumbered (number : Nat → Nat) (word : Token) (tokens : List Token) :
    Renumbers number (Stmt.renumbered number) (returnStatement word tokens)
      (returnStatement (word.renumbered number) (tokens.map (Token.renumbered number))) := by
  rw [returnStatement, returnStatement, startsWith_renumbered]
  by_cases bare : startsWith .semicolon tokens = true
  · rw [if_pos bare, if_pos bare]
    exact renumbers_expect_map number _ _ _ tokens _ _ fun _ => rfl
  · rw [if_neg bare, if_neg bare]
    exact renumbers_map number _ _ _ _ _ _ (terminated_renumbered number _ tokens) fun _ => rfl

theorem varDeclaration_renumbered (number : Nat → Nat) (tokens : List Token) :
    Renumbers number (Stmt.renumbered number) (varDeclaration tokens)
      (varDeclaration (tokens.map (Token.renumbered number))) := by
  refine renumbers_bind number _ _ _ _ _ _ (name_renumbered number _ tokens) ?_
  intro ident rest fewer fewerToo
  cases rest with
  | nil => exact renumbers_widen number _ _ _ _ _ (renumbers_complain number _ _ [])
  | cons sign value =>
    change Renumbers number _ (if sign.kind = .equal then _ else _) (if sign.kind = .equal then _ else _)
    by_cases given : sign.kind = .equal
    · rw [if_pos given, if_pos given]
      refine renumbers_widen number _ _ _ _ _ ?_
      exact renumbers_map number _ _ _ _ _ _ (terminated_renumbered number _ value) fun _ => rfl
    · rw [if_neg given, if_neg given]
      refine renumbers_widen number _ _ _ _ _ ?_
      exact renumbers_expect_map number _ _ _ (sign :: value) _ _ fun _ => rfl

theorem moreParameters_renumbered (number : Nat → Nat) (tokens : List Token) :
    Renumbers number (List.map (Ident.renumbered number)) (moreParameters tokens)
      (moreParameters (tokens.map (Token.renumbered number))) := by
  rw [moreParameters, moreParameters]
  refine renumbers_bind number _ _ _ _ _ _ (name_renumbered number _ tokens) ?_
  intro param rest fewer fewerToo
  match rest with
  | [] => exact renumbers_widen number _ _ _ _ _ (renumbers_complain number _ _ [])
  | sign :: rest =>
    have shorter := tail_lt fewer
    change Renumbers number _ (if sign.kind = .comma then _ else _) (if sign.kind = .comma then _ else _)
    by_cases comma : sign.kind = .comma
    · rw [if_pos comma, if_pos comma]
      refine renumbers_widen number _ _ _ _ _ ?_
      exact renumbers_map number _ _ _ _ _ _ (moreParameters_renumbered number rest) fun _ => rfl
    · rw [if_neg comma, if_neg comma]
      refine renumbers_widen number _ _ _ _ _ ?_
      exact renumbers_expect_map number _ _ _ (sign :: rest) _ _ fun _ => rfl
termination_by tokens.length

theorem parameters_renumbered (number : Nat → Nat) (tokens : List Token) :
    Renumbers number (List.map (Ident.renumbered number)) (parameters tokens)
      (parameters (tokens.map (Token.renumbered number))) := by
  rw [parameters, parameters, startsWith_renumbered]
  by_cases none : startsWith .rightParen tokens = true
  · rw [if_pos none, if_pos none]
    exact renumbers_expect_map number _ _ _ tokens _ _ fun _ => rfl
  · rw [if_neg none, if_neg none]
    exact moreParameters_renumbered number tokens

def headRenumbered (number : Nat → Nat) (head : Ident × List Ident) : Ident × List Ident :=
  (head.1.renumbered number, head.2.map (Ident.renumbered number))

theorem functionHead_renumbered (number : Nat → Nat) (tokens : List Token) :
    Renumbers number (headRenumbered number) (functionHead tokens)
      (functionHead (tokens.map (Token.renumbered number))) := by
  refine renumbers_bind number _ _ _ _ _ _ (name_renumbered number _ tokens) ?_
  intro ident rest fewer fewerToo
  refine renumbers_bind number _ _ _ _ _ _
    (renumbers_widen number _ _ _ _ _ (renumbers_expect number _ _ rest)) ?_
  intro opening rest fewer fewerToo
  exact renumbers_closed number _ _ _ _ _ _ _ _
    (renumbers_widen number _ _ _ _ _ (parameters_renumbered number rest)) fun _ _ => rfl

theorem forInitializer_renumbered (number : Nat → Nat) (tokens : List Token) :
    Renumbers number (Option.map (Stmt.renumbered number)) (forInitializer tokens)
      (forInitializer (tokens.map (Token.renumbered number))) := by
  cases tokens with
  | nil => exact renumbers_map number _ _ _ _ _ _ (expressionStatement_renumbered number []) fun _ => rfl
  | cons t rest =>
    have same : (t.renumbered number).kind = t.kind := rfl
    rw [List.map_cons, forInitializer, forInitializer, same]
    by_cases absent : t.kind = .semicolon
    · rw [if_pos absent, if_pos absent]
      exact renumbers_ended number _ none rest
    · rw [if_neg absent, if_neg absent]
      by_cases declared : t.kind = .wordVar
      · rw [if_pos declared, if_pos declared]
        refine renumbers_widen number _ _ _ _ _ ?_
        exact renumbers_map number _ _ _ _ _ _ (varDeclaration_renumbered number rest) fun _ => rfl
      · rw [if_neg declared, if_neg declared]
        exact renumbers_map number _ _ _ _ _ _ (expressionStatement_renumbered number (t :: rest)) fun _ => rfl

theorem forCondition_renumbered (number : Nat → Nat) (tokens : List Token) :
    Renumbers number (Option.map (Expr.renumbered number)) (forCondition tokens)
      (forCondition (tokens.map (Token.renumbered number))) := by
  rw [forCondition, forCondition, startsWith_renumbered]
  by_cases absent : startsWith .semicolon tokens = true
  · rw [if_pos absent, if_pos absent]
    exact renumbers_expect_map number _ _ _ tokens _ _ fun _ => rfl
  · rw [if_neg absent, if_neg absent]
    exact renumbers_map number _ _ _ _ _ _ (terminated_renumbered number _ tokens) fun _ => rfl

theorem forIncrement_renumbered (number : Nat → Nat) (tokens : List Token) :
    Renumbers number (Option.map (Expr.renumbered number)) (forIncrement tokens)
      (forIncrement (tokens.map (Token.renumbered number))) := by
  rw [forIncrement, forIncrement, startsWith_renumbered]
  by_cases absent : startsWith .rightParen tokens = true
  · rw [if_pos absent, if_pos absent]
    exact renumbers_expect_map number _ _ _ tokens _ _ fun _ => rfl
  · rw [if_neg absent, if_neg absent]
    exact renumbers_closed number _ _ _ _ _ _ _ _ (expression_renumbered number 0 tokens) fun _ _ => rfl

def Clauses.renumbered (number : Nat → Nat) (clauses : Clauses) : Clauses :=
  ⟨clauses.initializer.map (Stmt.renumbered number), clauses.condition.map (Expr.renumbered number),
    clauses.increment.map (Expr.renumbered number)⟩

theorem forClauses_renumbered (number : Nat → Nat) (tokens : List Token) :
    Renumbers number (Clauses.renumbered number) (forClauses tokens)
      (forClauses (tokens.map (Token.renumbered number))) := by
  refine renumbers_bind number _ _ _ _ _ _ (renumbers_expect number _ _ tokens) ?_
  intro opening rest fewer fewerToo
  refine renumbers_bind number _ _ _ _ _ _
    (renumbers_widen number _ _ _ _ _ (forInitializer_renumbered number rest)) ?_
  intro initializer rest fewer fewerToo
  refine renumbers_bind number _ _ _ _ _ _
    (renumbers_widen number _ _ _ _ _ (forCondition_renumbered number rest)) ?_
  intro condition rest fewer fewerToo
  refine renumbers_widen number _ _ _ _ _ ?_
  exact renumbers_map number _ _ _ _ _ _ (forIncrement_renumbered number rest) fun _ => rfl

structure Listing.Renumbers (number : Nat → Nat) {m n : Nat} (l : Listing m) (l' : Listing n) : Prop where
  body : l'.body = Stmt.renumberedAll number l.body
  faults : l'.faults = l.faults.map (Fault.renumbered number)
  rest : l'.rest = l.rest.map (Token.renumbered number)

theorem lists_empty_renumbered (number : Nat → Nat) (tokens : List Token) :
    Listing.Renumbers number (.empty tokens) (.empty (tokens.map (Token.renumbered number))) := ⟨rfl, rfl, rfl⟩

theorem lists_after_renumbered (number : Nat → Nat) {m n m' n' : Nat} (stmts : List Stmt) (faults : List Fault)
    (l : Listing m) (l' : Listing n) (fewer : m < m') (fewerToo : n < n') (renumbers : Listing.Renumbers number l l') :
    Listing.Renumbers number (l.after stmts faults fewer)
      (l'.after (Stmt.renumberedAll number stmts) (faults.map (Fault.renumbered number)) fewerToo) where
  body := by rw [Listing.after, Listing.after, renumberedAll_append, renumbers.body]
  faults := by rw [Listing.after, Listing.after, List.map_append, renumbers.faults]
  rest := renumbers.rest

theorem close_renumbered (number : Nat → Nat) {m n : Nat} (l : Listing m) (l' : Listing n)
    (renumbers : Listing.Renumbers number l l') :
    Renumbers number (Stmt.renumberedAll number) l.close l'.close := by
  obtain ⟨body, faults, rest, atMost⟩ := l
  obtain ⟨body', faults', rest', atMost'⟩ := l'
  obtain ⟨sameBody, sameFaults, sameRest⟩ := renumbers
  dsimp only at sameBody sameFaults sameRest
  subst sameBody sameFaults sameRest
  refine renumbers_widen number _ _ _ atMost atMost' (renumbers_after number _ faults _ _ ?_)
  exact renumbers_expect_map number _ _ _ rest _ _ fun _ => rfl

theorem resume_renumbered (number : Nat → Nat) (previous : Token) (tokens : List Token) :
    resume (previous.renumbered number) (tokens.map (Token.renumbered number)) =
      (resume previous tokens).map (Token.renumbered number) := by
  induction tokens generalizing previous with
  | nil => rfl
  | cons t rest ih =>
    have same : (t.renumbered number).kind = t.kind := rfl
    have before : (previous.renumbered number).kind = previous.kind := rfl
    rw [List.map_cons, resume, resume, same, before]
    split
    · rfl
    · exact ih t

theorem synchronize_renumbered (number : Nat → Nat) (tokens : List Token) :
    synchronize (tokens.map (Token.renumbered number)) = (synchronize tokens).map (Token.renumbered number) := by
  cases tokens with
  | nil => rfl
  | cons t rest => exact resume_renumbered number t rest

mutual

theorem statement_renumbered (number : Nat → Nat) (tokens : List Token) :
    Renumbers number (Stmt.renumbered number) (statement tokens)
      (statement (tokens.map (Token.renumbered number))) := by
  match tokens with
  | [] =>
    rw [List.map_nil, statement]
    exact expressionStatement_renumbered number []
  | t :: tokens =>
    have same : (t.renumbered number).kind = t.kind := rfl
    rw [List.map_cons, statement, statement, same]
    cases kind : t.kind with
    | wordPrint =>
      refine renumbers_widen number _ _ _ _ _ ?_
      exact renumbers_map number _ _ _ _ _ _ (terminated_renumbered number _ tokens) fun _ => rfl
    | wordReturn => exact renumbers_widen number _ _ _ _ _ (returnStatement_renumbered number t tokens)
    | leftBrace =>
      refine renumbers_widen number _ _ _ _ _ ?_
      exact renumbers_map number _ _ _ _ _ _ (block_renumbered number tokens) fun _ => rfl
    | wordIf =>
      refine renumbers_bind number _ _ _ _ _ _
        (renumbers_widen number _ _ _ _ _ (parenthesised_renumbered number _ _ tokens)) ?_
      intro condition rest fewer fewerToo
      refine renumbers_bind number _ _ _ _ _ _
        (renumbers_widen number _ _ _ _ _ (statement_renumbered number rest)) ?_
      intro thenBranch rest fewer fewerToo
      cases rest with
      | nil => exact .read (Stmt.ifThen condition thenBranch) [] [] fewer fewerToo
      | cons word rest =>
        have shorter := tail_lt_succ fewer
        change Renumbers number _ (if word.kind = .wordElse then _ else _) (if word.kind = .wordElse then _ else _)
        by_cases other : word.kind = .wordElse
        · rw [if_pos other, if_pos other]
          refine renumbers_widen number _ _ _ _ _ ?_
          exact renumbers_map number _ _ _ _ _ _ (statement_renumbered number rest) fun _ => rfl
        · rw [if_neg other, if_neg other]
          exact .read (Stmt.ifThen condition thenBranch) [] (word :: rest) fewer fewerToo
    | wordWhile =>
      refine renumbers_bind number _ _ _ _ _ _
        (renumbers_widen number _ _ _ _ _ (parenthesised_renumbered number _ _ tokens)) ?_
      intro condition rest fewer fewerToo
      refine renumbers_widen number _ _ _ _ _ ?_
      exact renumbers_map number _ _ _ _ _ _ (statement_renumbered number rest) fun _ => rfl
    | wordFor =>
      refine renumbers_bind number _ _ _ _ _ _
        (renumbers_widen number _ _ _ _ _ (forClauses_renumbered number tokens)) ?_
      intro clauses rest fewer fewerToo
      refine renumbers_widen number _ _ _ _ _ ?_
      exact renumbers_map number _ _ _ _ _ _ (statement_renumbered number rest)
        fun body => (renumbered_forLoop number _ _ _ body).symm
    | _ => exact expressionStatement_renumbered number (t :: tokens)
termination_by 8 * tokens.length + 0
decreasing_by all_goals grind

theorem block_renumbered (number : Nat → Nat) (tokens : List Token) :
    Renumbers number (Stmt.renumberedAll number) (block tokens) (block (tokens.map (Token.renumbered number))) := by
  rw [block, block]
  exact close_renumbered number _ _ (declarations_renumbered number tokens)
termination_by 8 * tokens.length + 3
decreasing_by omega

theorem declarations_renumbered (number : Nat → Nat) (tokens : List Token) :
    Listing.Renumbers number (declarations tokens) (declarations (tokens.map (Token.renumbered number))) := by
  match tokens with
  | [] =>
    rw [List.map_nil, declarations]
    exact lists_empty_renumbered number []
  | t :: tokens =>
    have same : (t.renumbered number).kind = t.kind := rfl
    have first := declaration_renumbered number (t :: tokens)
    rw [List.map_cons] at first ⊢
    rw [declarations, declarations, same]
    by_cases closes : t.kind = .rightBrace
    · rw [if_pos closes, if_pos closes]
      exact lists_empty_renumbered number (t :: tokens)
    · rw [if_neg closes, if_neg closes]
      generalize declaration (t :: tokens) = r at first
      generalize declaration (t.renumbered number :: tokens.map (Token.renumbered number)) = r' at first
      cases first with
      | read stmt faults rest fewer fewerToo =>
        exact lists_after_renumbered number [stmt] faults _ _ _ _ (declarations_renumbered number rest)
      | failed faults rest atMost atMostToo =>
        have shorter := synchronize_lt atMost
        have goesOn : Listing.Renumbers number (declarations (synchronize rest))
            (declarations (synchronize (rest.map (Token.renumbered number)))) := by
          rw [synchronize_renumbered]
          exact declarations_renumbered number (synchronize rest)
        exact lists_after_renumbered number [] faults _ _ _ _ goesOn
termination_by 8 * tokens.length + 2
decreasing_by all_goals grind

theorem declaration_renumbered (number : Nat → Nat) (tokens : List Token) :
    Renumbers number (Stmt.renumbered number) (declaration tokens)
      (declaration (tokens.map (Token.renumbered number))) := by
  match tokens with
  | [] =>
    rw [List.map_nil, declaration]
    exact statement_renumbered number []
  | t :: tokens =>
    have same : (t.renumbered number).kind = t.kind := rfl
    rw [List.map_cons, declaration, declaration, same]
    by_cases var : t.kind = .wordVar
    · rw [if_pos var, if_pos var]
      exact renumbers_widen number _ _ _ _ _ (varDeclaration_renumbered number tokens)
    · rw [if_neg var, if_neg var]
      by_cases function : t.kind = .wordFun
      · rw [if_pos function, if_pos function]
        refine renumbers_bind number _ _ _ _ _ _
          (renumbers_widen number _ _ _ _ _ (functionHead_renumbered number tokens)) ?_
        intro head rest fewer fewerToo
        refine renumbers_widen number _ _ _ _ _ ?_
        exact renumbers_map number _ _ _ _ _ _ (block_renumbered number rest) fun _ => rfl
      · rw [if_neg function, if_neg function]
        exact statement_renumbered number (t :: tokens)
termination_by 8 * tokens.length + 1
decreasing_by all_goals grind

end

theorem program_renumbered (number : Nat → Nat) (tokens : List Token) :
    Listing.Renumbers number (program tokens) (program (tokens.map (Token.renumbered number))) := by
  match tokens with
  | [] =>
    rw [List.map_nil, program]
    exact lists_empty_renumbered number []
  | t :: tokens =>
    have first := declaration_renumbered number (t :: tokens)
    rw [List.map_cons] at first ⊢
    rw [program, program]
    generalize declaration (t :: tokens) = r at first
    generalize declaration (t.renumbered number :: tokens.map (Token.renumbered number)) = r' at first
    cases first with
    | read stmt faults rest fewer fewerToo =>
      exact lists_after_renumbered number [stmt] faults _ _ _ _ (program_renumbered number rest)
    | failed faults rest atMost atMostToo =>
      have shorter := synchronize_lt atMost
      have goesOn : Listing.Renumbers number (program (synchronize rest))
          (program (synchronize (rest.map (Token.renumbered number)))) := by
        rw [synchronize_renumbered]
        exact program_renumbered number (synchronize rest)
      exact lists_after_renumbered number [] faults _ _ _ _ goesOn
termination_by tokens.length
decreasing_by
  · exact fewer
  · exact shorter

end Grammar

end StoryScript
