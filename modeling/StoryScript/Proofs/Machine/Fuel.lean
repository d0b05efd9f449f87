import StoryScript.Machine.Eval
import StoryScript.Proofs.Random.Range

set_option autoImplicit false

namespace StoryScript

namespace Run

variable {σ ε δ α β : Type}

-- One run extends another when it ends wherever the other does, and in the same way.
def Extends (longer shorter : Run σ ε α) : Prop := ∀ state, shorter state = .outOfFuel ∨ longer state = shorter state

theorem extends_refl (run : Run σ ε α) : Extends run run := fun _ => Or.inr rfl

theorem extends_noFuel (run : Run σ ε α) : Extends run noFuel := fun _ => Or.inl rfl

theorem extends_trans (longest longer shorter : Run σ ε α) (first : Extends longest longer)
    (second : Extends longer shorter) : Extends longest shorter := by
  intro state
  rcases second state with out | same
  · exact Or.inl out
  · rcases first state with out | same'
    · exact Or.inl (same.symm.trans out)
    · exact Or.inr (same'.trans same)

theorem extends_bind (longer shorter : Run σ ε α) (longerNext shorterNext : α → Run σ ε β)
    (first : Extends longer shorter) (second : ∀ result, Extends (longerNext result) (shorterNext result)) :
    Extends (longer >>= longerNext) (shorter >>= shorterNext) := by
  intro state
  change Run.bind shorter shorterNext state = _ ∨ Run.bind longer longerNext state = Run.bind shorter shorterNext state
  unfold Run.bind
  rcases first state with out | same
  · rw [out]
    exact Or.inl rfl
  · rw [same]
    cases shorter state with
    | done result after => exact second result after
    | fault error after => exact Or.inr rfl
    | outOfFuel => exact Or.inl rfl

theorem extends_then (run : Run σ ε α) (longer shorter : α → Run σ ε β)
    (second : ∀ result, Extends (longer result) (shorter result)) : Extends (run >>= longer) (run >>= shorter) :=
  extends_bind run run longer shorter (extends_refl run) second

theorem extends_fuel (run : Nat → Run σ ε α) (step : ∀ fuel, Extends (run (fuel + 1)) (run fuel)) (fuel more : Nat)
    (enough : fuel ≤ more) : Extends (run more) (run fuel) := by
  induction enough with
  | refl => exact extends_refl _
  | step _ ih => exact extends_trans _ _ _ (step _) ih

end Run

open Run

theorem randomInt_longer (w : World) (rounds : Nat) (low high : Int) (thrown : Int × World)
    (found : w.randomInt rounds low high = some thrown) : w.randomInt (rounds + 1) low high = some thrown := by
  obtain ⟨drawn, between, rfl⟩ := Option.map_eq_some_iff.1 found
  exact Option.map_eq_some_iff.2
    ⟨drawn, Random.between_longer rounds _ (Nat.le_succ rounds) low high w.generator drawn between, rfl⟩

theorem throwDice_longer (fuel : Nat) (low high : Value) :
    Extends (Native.throwDice (fuel + 1) low high) (Native.throwDice fuel low high) := by
  refine extends_then _ _ _ fun _ => extends_then _ _ _ fun _ => extends_then _ _ _ ?_
  rintro ⟨first, last⟩
  refine extends_then _ _ _ fun world => ?_
  cases thrown : world.randomInt fuel first last with
  | none => exact extends_noFuel _
  | some roll =>
    rw [randomInt_longer world fuel first last roll thrown]
    exact extends_refl _

theorem native_longer (native : Native) (fuel : Nat) (args : List Value) :
    Extends (native.call (fuel + 1) args) (native.call fuel args) := by
  cases native with
  | random => exact throwDice_longer fuel _ _
  | _ => exact extends_refl _

namespace Machine

theorem extends_onHost {α : Type} (line : Nat) (longer shorter : NativeRun α) (goesOn : Extends longer shorter) :
    Extends (onHost line longer) (onHost line shorter) := by
  rintro ⟨scopes, current, host, made⟩
  unfold onHost
  rcases goesOn host with out | same
  · exact Or.inl (by simp only [out])
  · exact Or.inr (by simp only [same])

theorem extends_within {α : Type} (parent : Nat) (longer shorter : MachineRun α) (goesOn : Extends longer shorter) :
    Extends (within parent longer) (within parent shorter) := by
  rintro ⟨scopes, outer, host, made⟩
  unfold within
  rcases goesOn ⟨(scopes.nest parent).2, (scopes.nest parent).1, host, made⟩ with out | same
  · exact Or.inl (by simp only [out])
  · exact Or.inr (by simp only [same])

structure Longer (fuel : Nat) : Prop where
  evaluate : ∀ expr, Extends (evaluate (fuel + 1) expr) (evaluate fuel expr)
  evaluateAll : ∀ exprs, Extends (evaluateAll (fuel + 1) exprs) (evaluateAll fuel exprs)
  call : ∀ callable args line, Extends (call (fuel + 1) callable args line) (call fuel callable args line)
  execute : ∀ stmt, Extends (execute (fuel + 1) stmt) (execute fuel stmt)
  executeAll : ∀ stmts, Extends (executeAll (fuel + 1) stmts) (executeAll fuel stmts)
  repeatWhile : ∀ condition body,
    Extends (repeatWhile (fuel + 1) condition body) (repeatWhile fuel condition body)

theorem evaluate_longer (fuel : Nat) (ih : Longer fuel) (expr : Expr) :
    Extends (evaluate (fuel + 2) expr) (evaluate (fuel + 1) expr) := by
  cases expr with
  | literal value => exact extends_refl _
  | grouping inner => exact ih.evaluate inner
  | unary op operand line => exact extends_bind _ _ _ _ (ih.evaluate operand) fun _ => extends_refl _
  | binary left op right line =>
    refine extends_bind _ _ _ _ (ih.evaluate left) fun _ => ?_
    exact extends_bind _ _ _ _ (ih.evaluate right) fun _ => extends_refl _
  | logical left op right =>
    refine extends_bind _ _ _ _ (ih.evaluate left) fun value => ?_
    by_cases settled : op.settledBy value = true
    · rw [if_pos settled, if_pos settled]
      exact extends_refl _
    · rw [if_neg settled, if_neg settled]
      exact ih.evaluate right
  | reference ident => exact extends_refl _
  | assign ident inner => exact extends_bind _ _ _ _ (ih.evaluate inner) fun _ => extends_refl _
  | call callee args line =>
    refine extends_bind _ _ _ _ (ih.evaluate callee) fun value => ?_
    cases value with
    | callable target =>
      refine extends_bind _ _ _ _ (ih.evaluateAll args) fun values => ?_
      by_cases counted : values.length = target.arity
      · rw [if_pos counted, if_pos counted]
        exact ih.call target values line
      · rw [if_neg counted, if_neg counted]
        exact extends_refl _
    | _ => exact extends_refl _

theorem evaluateAll_longer (fuel : Nat) (ih : Longer fuel) (exprs : List Expr) :
    Extends (evaluateAll (fuel + 2) exprs) (evaluateAll (fuel + 1) exprs) := by
  cases exprs with
  | nil => exact extends_refl _
  | cons expr rest =>
    refine extends_bind _ _ _ _ (ih.evaluate expr) fun _ => ?_
    exact extends_bind _ _ _ _ (ih.evaluateAll rest) fun _ => extends_refl _

theorem call_longer (fuel : Nat) (ih : Longer fuel) (callable : Callable) (args : List Value) (line : Nat) :
    Extends (call (fuel + 2) callable args line) (call (fuel + 1) callable args line) := by
  obtain ⟨identity, target⟩ := callable
  cases target with
  | native native => exact extends_onHost line _ _ (native_longer native fuel args)
  | function declaration closure =>
    refine extends_bind _ _ _ _ (extends_within closure _ _ ?_) fun _ => extends_refl _
    exact extends_then _ _ _ fun _ => ih.executeAll declaration.body

theorem execute_longer (fuel : Nat) (ih : Longer fuel) (stmt : Stmt) :
    Extends (execute (fuel + 2) stmt) (execute (fuel + 1) stmt) := by
  cases stmt with
  | expression expr => exact extends_bind _ _ _ _ (ih.evaluate expr) fun _ => extends_refl _
  | print expr line => exact extends_bind _ _ _ _ (ih.evaluate expr) fun _ => extends_refl _
  | var ident initializer =>
    cases initializer with
    | none => exact extends_refl _
    | some expr => exact extends_bind _ _ _ _ (ih.evaluate expr) fun _ => extends_refl _
  | block body => exact fun m => extends_within m.current _ _ (ih.executeAll body) m
  | ifThen condition thenBranch =>
    refine extends_bind _ _ _ _ (ih.evaluate condition) fun value => ?_
    by_cases truthy : value.isTruthy = true
    · rw [if_pos truthy, if_pos truthy]
      exact ih.execute thenBranch
    · rw [if_neg truthy, if_neg truthy]
      exact extends_refl _
  | ifElse condition thenBranch elseBranch =>
    refine extends_bind _ _ _ _ (ih.evaluate condition) fun value => ?_
    by_cases truthy : value.isTruthy = true
    · rw [if_pos truthy, if_pos truthy]
      exact ih.execute thenBranch
    · rw [if_neg truthy, if_neg truthy]
      exact ih.execute elseBranch
  | loop condition body => exact ih.repeatWhile condition body
  | function ident params body => exact extends_refl _
  | ret value line =>
    cases value with
    | none => exact extends_refl _
    | some expr => exact extends_bind _ _ _ _ (ih.evaluate expr) fun _ => extends_refl _

theorem executeAll_longer (fuel : Nat) (ih : Longer fuel) (stmts : List Stmt) :
    Extends (executeAll (fuel + 2) stmts) (executeAll (fuel + 1) stmts) := by
  cases stmts with
  | nil => exact extends_refl _
  | cons stmt rest =>
    refine extends_bind _ _ _ _ (ih.execute stmt) fun flow => ?_
    cases flow with
    | normal => exact ih.executeAll rest
    | returned value => exact extends_refl _

theorem repeatWhile_longer (fuel : Nat) (ih : Longer fuel) (condition : Expr) (body : Stmt) :
    Extends (repeatWhile (fuel + 2) condition body) (repeatWhile (fuel + 1) condition body) := by
  refine extends_bind _ _ _ _ (ih.evaluate condition) fun value => ?_
  by_cases truthy : value.isTruthy = true
  · rw [if_pos truthy, if_pos truthy]
    refine extends_bind _ _ _ _ (ih.execute body) fun flow => ?_
    cases flow with
    | normal => exact ih.repeatWhile condition body
    | returned value => exact extends_refl _
  · rw [if_neg truthy, if_neg truthy]
    exact extends_refl _

theorem longer (fuel : Nat) : Longer fuel := by
  induction fuel with
  | zero => constructor <;> intros <;> exact extends_noFuel _
  | succ fuel ih =>
    exact
      { evaluate := evaluate_longer fuel ih
        evaluateAll := evaluateAll_longer fuel ih
        call := call_longer fuel ih
        execute := execute_longer fuel ih
        executeAll := executeAll_longer fuel ih
        repeatWhile := repeatWhile_longer fuel ih }

theorem executeProgram_longer (fuel : Nat) (program : Program) :
    Extends (executeProgram (fuel + 1) program) (executeProgram fuel program) := by
  induction program with
  | nil => exact extends_refl _
  | cons stmt rest ih =>
    refine extends_bind _ _ _ _ ((longer fuel).execute stmt) fun flow => ?_
    cases flow with
    | normal => exact ih
    | returned value => exact extends_refl _

theorem evaluate_fuel (fuel more : Nat) (expr : Expr) (enough : fuel ≤ more) :
    Extends (evaluate more expr) (evaluate fuel expr) :=
  extends_fuel (fun fuel => evaluate fuel expr) (fun fuel => (longer fuel).evaluate expr) fuel more enough

theorem execute_fuel (fuel more : Nat) (stmt : Stmt) (enough : fuel ≤ more) :
    Extends (execute more stmt) (execute fuel stmt) :=
  extends_fuel (fun fuel => execute fuel stmt) (fun fuel => (longer fuel).execute stmt) fuel more enough

theorem executeProgram_fuel (fuel more : Nat) (program : Program) (enough : fuel ≤ more) :
    Extends (executeProgram more program) (executeProgram fuel program) :=
  extends_fuel (fun fuel => executeProgram fuel program) (fun fuel => executeProgram_longer fuel program) fuel more enough

end Machine

end StoryScript
