import StoryScript.Proofs.Machine.Contract
import StoryScript.Proofs.Machine.Recast
import StoryScript.Proofs.Tree.Renumbering

set_option autoImplicit false

namespace StoryScript

def Callable.renumbered (number : Nat → Nat) : Callable → Callable
  | ⟨identity, .function declaration closure⟩ => ⟨identity, .function (declaration.renumbered number) closure⟩
  | ⟨identity, .native native⟩ => ⟨identity, .native native⟩

theorem Callable.renumbered_alike (number : Nat → Nat) : Callable.Alike (Callable.renumbered number) where
  identity := by
    intro c
    obtain ⟨identity, target⟩ := c
    cases target <;> rfl
  text := by
    intro c
    obtain ⟨identity, target⟩ := c
    cases target <;> rfl

theorem Callable.arity_renumbered (number : Nat → Nat) (c : Callable) : (c.renumbered number).arity = c.arity := by
  obtain ⟨identity, target⟩ := c
  cases target with
  | function declaration closure => exact List.length_map _
  | native native => rfl

def Value.renumbered (number : Nat → Nat) : Value → Value := Value.recast (Callable.renumbered number)

def Flow.renumbered (number : Nat → Nat) : Flow → Flow
  | .normal => .normal
  | .returned value => .returned (value.renumbered number)

theorem Value.renumbered_plain (number : Nat → Nat) (value : Value) (plain : value.callable? = none) :
    value.renumbered number = value := Value.recast_plain _ value plain

theorem Callable.renumbered_id (c : Callable) : c.renumbered id = c := by
  obtain ⟨identity, target⟩ := c
  cases target with
  | function declaration closure => rw [Callable.renumbered, FunctionDecl.renumbered_id]
  | native native => rfl

theorem Value.renumbered_id : Value.renumbered id = id := by
  funext value
  cases value with
  | callable target => exact congrArg Value.callable target.renumbered_id
  | _ => rfl

namespace Machine

-- Two machines that run the same script, the second with its lines counted in another way: which machines
-- go together, and how two runs may end when each result of the second has to be the image of the first's.
structure Pairing where
  number : Nat → Nat
  Pair : Machine → Machine → Prop
  Ends : {α : Type} → (α → α) → Machine → Machine → Finish Machine RuntimeError α →
    Finish Machine RuntimeError α → Prop

def Pairing.Both {α : Type} (p : Pairing) (image : α → α) (run other : MachineRun α) : Prop :=
  ∀ m n, p.Pair m n → p.Ends image m n (run m) (other n)

def declareHere (name : String) (declaration : FunctionDecl) : MachineRun Unit := fun m =>
  Run.modify (declare name (.function declaration m.current)) m

theorem execute_function (fuel : Nat) (ident : Ident) (params : List Ident) (body : List Stmt) :
    execute (fuel + 1) (.function ident params body) =
      (declareHere ident.name ⟨ident, params, body⟩ >>= fun _ => pure .normal) := by
  funext m
  rfl

structure Tandem extends Pairing where
  current : ∀ m n, Pair m n → n.current = m.current
  pure : ∀ {α : Type} (image : α → α) value, toPairing.Both image (pure value) (pure (image value))
  fail : ∀ {α : Type} (image : α → α) line fault, toPairing.Both image (failAt line fault) (failAt (number line) fault)
  noFuel : ∀ {α : Type} (image : α → α), toPairing.Both image Run.noFuel Run.noFuel
  bind : ∀ {α β : Type} (image : α → α) (imageToo : β → β) (run other : MachineRun α) (next otherNext : α → MachineRun β),
    toPairing.Both image run other → (∀ value, toPairing.Both imageToo (next value) (otherNext (image value))) →
      toPairing.Both imageToo (run >>= next) (other >>= otherNext)
  within : ∀ {α : Type} (image : α → α) parent run other, toPairing.Both image run other →
    toPairing.Both image (within parent run) (within parent other)
  back : ∀ {α : Type} (image : α → α) scope (run other : MachineRun α), toPairing.Both image run other →
    toPairing.Both image (fun m => endedAt scope (run m)) (fun n => endedAt scope (other n))
  lookup : ∀ ident, toPairing.Both (Value.renumbered number) (lookup ident) (lookup (ident.renumbered number))
  assign : ∀ ident value,
    toPairing.Both id (assign ident value) (assign (ident.renumbered number) (value.renumbered number))
  define : ∀ name value, toPairing.Both id (define name value) (define name (value.renumbered number))
  declare : ∀ name declaration,
    toPairing.Both id (declareHere name declaration) (declareHere name (declaration.renumbered number))
  print : ∀ line text, toPairing.Both id (printLine line text) (printLine (number line) text)
  native : ∀ (target : Native) fuel args line, toPairing.Both (Value.renumbered number)
    (onHost line (target.call fuel args)) (onHost (number line) (target.call fuel args))

namespace Tandem

theorem both_settle (t : Tandem) (line : Nat) (result : Except RuntimeFault Value)
    (plain : ∀ value, result = .ok value → value.callable? = none) :
    t.Both (Value.renumbered t.number) (settle line result) (settle (t.number line) result) := by
  cases result with
  | ok value =>
    have same := t.pure (Value.renumbered t.number) value
    rw [Value.renumbered_plain t.number value (plain value rfl)] at same
    exact same
  | error fault => exact t.fail _ line fault

theorem both_normal (t : Tandem) : t.Both (Flow.renumbered t.number) (Pure.pure .normal) (Pure.pure .normal) :=
  t.pure (Flow.renumbered t.number) .normal

theorem both_returned (t : Tandem) (value : Value) :
    t.Both (Flow.renumbered t.number) (Pure.pure (.returned value))
      (Pure.pure (.returned (value.renumbered t.number))) :=
  t.pure (Flow.renumbered t.number) (.returned value)

theorem both_branch {α : Type} (t : Tandem) (image : α → α) (value : Value) (yes no otherYes otherNo : MachineRun α)
    (whenTrue : t.Both image yes otherYes) (whenFalse : t.Both image no otherNo) :
    t.Both image (if value.isTruthy then yes else no)
      (if (value.renumbered t.number).isTruthy then otherYes else otherNo) := by
  rw [Value.renumbered, Value.isTruthy_recast]
  by_cases truthy : value.isTruthy = true
  · rw [if_pos truthy, if_pos truthy]
    exact whenTrue
  · rw [if_neg truthy, if_neg truthy]
    exact whenFalse

theorem both_bindAll (t : Tandem) (params : List Ident) (args : List Value) :
    t.Both id (bindAll (params.zip args))
      (bindAll ((params.map (Ident.renumbered t.number)).zip (args.map (Value.renumbered t.number)))) := by
  induction params generalizing args with
  | nil => exact t.pure id ()
  | cons param params ih =>
    cases args with
    | nil => exact t.pure id ()
    | cons value args =>
      refine t.bind id id _ _ _ _ (t.define param.name value) ?_
      intro _
      exact ih args

structure Together (t : Tandem) (fuel : Nat) : Prop where
  evaluate : ∀ expr, t.Both (Value.renumbered t.number) (evaluate fuel expr) (evaluate fuel (expr.renumbered t.number))
  evaluateAll : ∀ exprs, t.Both (List.map (Value.renumbered t.number)) (evaluateAll fuel exprs)
    (evaluateAll fuel (Expr.renumberedAll t.number exprs))
  call : ∀ callable args line, t.Both (Value.renumbered t.number) (call fuel callable args line)
    (call fuel (callable.renumbered t.number) (args.map (Value.renumbered t.number)) (t.number line))
  execute : ∀ stmt, t.Both (Flow.renumbered t.number) (execute fuel stmt) (execute fuel (stmt.renumbered t.number))
  executeAll : ∀ stmts, t.Both (Flow.renumbered t.number) (executeAll fuel stmts)
    (executeAll fuel (Stmt.renumberedAll t.number stmts))
  repeatWhile : ∀ condition body, t.Both (Flow.renumbered t.number) (repeatWhile fuel condition body)
    (repeatWhile fuel (condition.renumbered t.number) (body.renumbered t.number))

theorem evaluate_together (t : Tandem) (fuel : Nat) (together : t.Together fuel) (expr : Expr) :
    t.Both (Value.renumbered t.number) (Machine.evaluate (fuel + 1) expr)
      (Machine.evaluate (fuel + 1) (expr.renumbered t.number)) := by
  cases expr with
  | literal value =>
    have same := t.pure (Value.renumbered t.number) (.ofLiteral value)
    rw [Value.renumbered_plain t.number (.ofLiteral value) (by cases value <;> rfl)] at same
    exact same
  | grouping inner => exact together.evaluate inner
  | unary op operand line =>
    refine t.bind _ _ _ _ _ _ (together.evaluate operand) ?_
    intro value
    rw [Value.renumbered, op.apply_recast]
    exact t.both_settle line _ (op.apply_plain value)
  | binary left op right line =>
    refine t.bind _ _ _ _ _ _ (together.evaluate left) ?_
    intro a
    refine t.bind _ _ _ _ _ _ (together.evaluate right) ?_
    intro b
    rw [Value.renumbered, op.apply_recast _ (Callable.renumbered_alike t.number)]
    exact t.both_settle line _ (op.apply_plain a b)
  | logical left op right =>
    refine t.bind _ _ _ _ _ _ (together.evaluate left) ?_
    intro value
    rw [Value.renumbered, op.settledBy_recast]
    by_cases settled : op.settledBy value = true
    · rw [if_pos settled, if_pos settled]
      exact t.pure (Value.renumbered t.number) value
    · rw [if_neg settled, if_neg settled]
      exact together.evaluate right
  | reference ident => exact t.lookup ident
  | assign ident inner =>
    refine t.bind _ _ _ _ _ _ (together.evaluate inner) ?_
    intro value
    refine t.bind id _ _ _ _ _ (t.assign ident value) ?_
    intro _
    exact t.pure (Value.renumbered t.number) value
  | call callee args line =>
    refine t.bind _ _ _ _ _ _ (together.evaluate callee) ?_
    intro value
    cases value with
    | callable target =>
      refine t.bind _ _ _ _ _ _ (together.evaluateAll args) ?_
      intro values
      rw [List.length_map, Callable.arity_renumbered]
      by_cases counted : values.length = target.arity
      · rw [if_pos counted, if_pos counted]
        exact together.call target values line
      · rw [if_neg counted, if_neg counted]
        exact t.fail _ line _
    | _ => exact t.fail _ line _

theorem evaluateAll_together (t : Tandem) (fuel : Nat) (together : t.Together fuel) (exprs : List Expr) :
    t.Both (List.map (Value.renumbered t.number)) (Machine.evaluateAll (fuel + 1) exprs)
      (Machine.evaluateAll (fuel + 1) (Expr.renumberedAll t.number exprs)) := by
  cases exprs with
  | nil => exact t.pure (List.map (Value.renumbered t.number)) []
  | cons expr rest =>
    refine t.bind _ _ _ _ _ _ (together.evaluate expr) ?_
    intro value
    refine t.bind _ _ _ _ _ _ (together.evaluateAll rest) ?_
    intro values
    exact t.pure (List.map (Value.renumbered t.number)) (value :: values)

theorem call_together (t : Tandem) (fuel : Nat) (together : t.Together fuel) (callable : Callable) (args : List Value)
    (line : Nat) :
    t.Both (Value.renumbered t.number) (Machine.call (fuel + 1) callable args line)
      (Machine.call (fuel + 1) (callable.renumbered t.number) (args.map (Value.renumbered t.number))
        (t.number line)) := by
  obtain ⟨identity, target⟩ := callable
  cases target with
  | native native =>
    change t.Both _ (onHost line (native.call fuel args)) (onHost (t.number line) (native.call fuel _))
    rw [Value.renumbered, native_recast _ (Callable.renumbered_alike t.number)]
    exact t.native native fuel args line
  | function declaration closure =>
    refine t.bind (Flow.renumbered t.number) _ _ _ _ _ ?_ ?_
    · refine t.within _ closure _ _ (t.bind id _ _ _ _ _ (t.both_bindAll declaration.params args) ?_)
      intro _
      exact together.executeAll declaration.body
    · intro flow
      cases flow with
      | normal => exact t.pure (Value.renumbered t.number) .nil
      | returned value => exact t.pure (Value.renumbered t.number) value

theorem execute_together (t : Tandem) (fuel : Nat) (together : t.Together fuel) (stmt : Stmt) :
    t.Both (Flow.renumbered t.number) (Machine.execute (fuel + 1) stmt)
      (Machine.execute (fuel + 1) (stmt.renumbered t.number)) := by
  cases stmt with
  | expression expr =>
    refine t.bind _ _ _ _ _ _ (together.evaluate expr) ?_
    intro _
    exact t.both_normal
  | print expr line =>
    refine t.bind _ _ _ _ _ _ (together.evaluate expr) ?_
    intro value
    rw [Value.renumbered, Value.text_recast _ (Callable.renumbered_alike t.number)]
    refine t.bind id _ _ _ _ _ (t.print line value.text) ?_
    intro _
    exact t.both_normal
  | var ident initializer =>
    cases initializer with
    | none =>
      refine t.bind id _ _ _ _ _ (t.define ident.name .nil) ?_
      intro _
      exact t.both_normal
    | some expr =>
      refine t.bind _ _ _ _ _ _ (together.evaluate expr) ?_
      intro value
      refine t.bind id _ _ _ _ _ (t.define ident.name value) ?_
      intro _
      exact t.both_normal
  | block body =>
    -- Both open the new scope inside the scope that they stand in.
    intro m n pair
    have inside := t.within _ m.current _ _ (together.executeAll body) m n pair
    have here := t.current m n pair
    change t.Ends _ m n (Machine.within m.current (Machine.executeAll fuel body) m)
      (Machine.within n.current (Machine.executeAll fuel (Stmt.renumberedAll t.number body)) n)
    rw [here]
    exact inside
  | ifThen condition thenBranch =>
    refine t.bind _ _ _ _ _ _ (together.evaluate condition) ?_
    intro value
    exact t.both_branch _ value _ _ _ _ (together.execute thenBranch) t.both_normal
  | ifElse condition thenBranch elseBranch =>
    refine t.bind _ _ _ _ _ _ (together.evaluate condition) ?_
    intro value
    exact t.both_branch _ value _ _ _ _ (together.execute thenBranch) (together.execute elseBranch)
  | loop condition body => exact together.repeatWhile condition body
  | function ident params body =>
    rw [Stmt.renumbered, execute_function, execute_function]
    refine t.bind id _ _ _ _ _ (t.declare ident.name ⟨ident, params, body⟩) ?_
    intro _
    exact t.both_normal
  | ret value line =>
    cases value with
    | none => exact t.both_returned .nil
    | some expr =>
      refine t.bind _ _ _ _ _ _ (together.evaluate expr) ?_
      intro value
      exact t.both_returned value

theorem executeAll_together (t : Tandem) (fuel : Nat) (together : t.Together fuel) (stmts : List Stmt) :
    t.Both (Flow.renumbered t.number) (Machine.executeAll (fuel + 1) stmts)
      (Machine.executeAll (fuel + 1) (Stmt.renumberedAll t.number stmts)) := by
  cases stmts with
  | nil => exact t.both_normal
  | cons stmt rest =>
    refine t.bind _ _ _ _ _ _ (together.execute stmt) ?_
    intro flow
    cases flow with
    | normal => exact together.executeAll rest
    | returned value => exact t.both_returned value

theorem repeatWhile_together (t : Tandem) (fuel : Nat) (together : t.Together fuel) (condition : Expr) (body : Stmt) :
    t.Both (Flow.renumbered t.number) (Machine.repeatWhile (fuel + 1) condition body)
      (Machine.repeatWhile (fuel + 1) (condition.renumbered t.number) (body.renumbered t.number)) := by
  refine t.bind _ _ _ _ _ _ (together.evaluate condition) ?_
  intro value
  refine t.both_branch _ value _ _ _ _ ?_ t.both_normal
  refine t.bind _ _ _ _ _ _ (together.execute body) ?_
  intro flow
  cases flow with
  | normal => exact together.repeatWhile condition body
  | returned value => exact t.both_returned value

-- Whatever keeps together step by step keeps together over whole runs, by induction on the fuel.
theorem together (t : Tandem) (fuel : Nat) : t.Together fuel := by
  induction fuel with
  | zero => constructor <;> intros <;> exact t.noFuel _
  | succ fuel ih =>
    exact
      { evaluate := t.evaluate_together fuel ih
        evaluateAll := t.evaluateAll_together fuel ih
        call := t.call_together fuel ih
        execute := t.execute_together fuel ih
        executeAll := t.executeAll_together fuel ih
        repeatWhile := t.repeatWhile_together fuel ih }

theorem executeProgram_together (t : Tandem) (fuel : Nat) (program : Program) :
    t.Both id (executeProgram fuel program) (executeProgram fuel (program.renumbered t.number)) := by
  induction program with
  | nil => exact t.pure id ()
  | cons stmt rest ih =>
    refine t.bind _ _ _ _ _ _ ((t.together fuel).execute stmt) ?_
    intro flow
    cases flow with
    | normal => exact ih
    | returned value => exact t.pure id ()

theorem interpret_together (t : Tandem) (fuel : Nat) (program : Program) :
    t.Both id (interpret fuel program) (interpret fuel (program.renumbered t.number)) := by
  have homewards : ∀ program, interpret fuel program = fun m => endedAt globals (executeProgram fuel program m) := by
    intro program
    funext m
    unfold interpret
    cases executeProgram fuel program m <;> rfl
  rw [homewards, homewards]
  exact t.back id globals _ _ (t.executeProgram_together fuel program)

end Tandem

end Machine

end StoryScript
