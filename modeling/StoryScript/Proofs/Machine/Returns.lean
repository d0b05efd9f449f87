import StoryScript.Proofs.Machine.Ends
import StoryScript.Proofs.Tree.StrayReturns

set_option autoImplicit false

namespace StoryScript.Machine

-- A run that never ends in a return.
def Straight (run : MachineRun Flow) : Prop := ∀ m, (run m).Ends (fun flow _ => flow = .normal) fun _ _ => True

theorem straight_normal : Straight (pure .normal) := fun _ => rfl

theorem straight_noFuel : Straight Run.noFuel := fun _ => trivial

theorem straight_bind {α : Type} (run : MachineRun α) (next : α → MachineRun Flow)
    (straight : ∀ result, Straight (next result)) : Straight (run >>= next) := by
  intro m
  refine (ends_bind run next m _ _).2 (ends_weaken _ _ _ _ _ (ends_trivial (run m)) ?_ ?_)
  · intro result after _
    exact straight result after
  · intro error after _
    trivial

theorem straight_flow (run : MachineRun Flow) (next : Flow → MachineRun Flow) (first : Straight run)
    (second : Straight (next .normal)) : Straight (run >>= next) := by
  intro m
  refine (ends_bind run next m _ _).2 (ends_weaken _ _ _ _ _ (first m) ?_ ?_)
  · rintro flow after rfl
    exact second after
  · intro error after _
    trivial

theorem straight_within (parent : Nat) (run : MachineRun Flow) (straight : Straight run) :
    Straight (within parent run) := by
  intro m
  exact (within_ends parent run m _ _).2 (straight (m.nested parent))

structure AllStraight (fuel : Nat) : Prop where
  execute : ∀ stmt, stmt.strayReturns 0 = [] → Straight (execute fuel stmt)
  executeAll : ∀ stmts, Stmt.strayReturnsAll 0 stmts = [] → Straight (executeAll fuel stmts)
  repeatWhile : ∀ condition body, body.strayReturns 0 = [] → Straight (repeatWhile fuel condition body)

theorem execute_straight (fuel : Nat) (ih : AllStraight fuel) (stmt : Stmt) (placed : stmt.strayReturns 0 = []) :
    Straight (execute (fuel + 1) stmt) := by
  cases stmt with
  | expression expr => exact straight_bind _ _ fun _ => straight_normal
  | print expr line => exact straight_bind _ _ fun _ => straight_bind _ _ fun _ => straight_normal
  | var ident initializer =>
    cases initializer with
    | none => exact straight_bind _ _ fun _ => straight_normal
    | some expr => exact straight_bind _ _ fun _ => straight_bind _ _ fun _ => straight_normal
  | block body =>
    rw [Stmt.strayReturns] at placed
    exact fun m => straight_within m.current _ (ih.executeAll body placed) m
  | ifThen condition thenBranch =>
    rw [Stmt.strayReturns] at placed
    refine straight_bind _ _ fun value => ?_
    by_cases truthy : value.isTruthy = true
    · rw [if_pos truthy]
      exact ih.execute thenBranch placed
    · rw [if_neg truthy]
      exact straight_normal
  | ifElse condition thenBranch elseBranch =>
    rw [Stmt.strayReturns, List.append_eq_nil_iff] at placed
    refine straight_bind _ _ fun value => ?_
    by_cases truthy : value.isTruthy = true
    · rw [if_pos truthy]
      exact ih.execute thenBranch placed.1
    · rw [if_neg truthy]
      exact ih.execute elseBranch placed.2
  | loop condition body =>
    rw [Stmt.strayReturns] at placed
    exact ih.repeatWhile condition body placed
  | function ident params body => exact straight_bind _ _ fun _ => straight_bind _ _ fun _ => straight_normal
  | ret value line => simp [Stmt.strayReturns] at placed

theorem executeAll_straight (fuel : Nat) (ih : AllStraight fuel) (stmts : List Stmt)
    (placed : Stmt.strayReturnsAll 0 stmts = []) : Straight (executeAll (fuel + 1) stmts) := by
  cases stmts with
  | nil => exact straight_normal
  | cons stmt rest =>
    rw [Stmt.strayReturnsAll, List.append_eq_nil_iff] at placed
    exact straight_flow _ _ (ih.execute stmt placed.1) (ih.executeAll rest placed.2)

theorem repeatWhile_straight (fuel : Nat) (ih : AllStraight fuel) (condition : Expr) (body : Stmt)
    (placed : body.strayReturns 0 = []) : Straight (repeatWhile (fuel + 1) condition body) := by
  refine straight_bind _ _ fun value => ?_
  by_cases truthy : value.isTruthy = true
  · rw [if_pos truthy]
    exact straight_flow _ _ (ih.execute body placed) (ih.repeatWhile condition body placed)
  · rw [if_neg truthy]
    exact straight_normal

-- Calls need no case: whatever a function does, its returns end in the call.
theorem straight (fuel : Nat) : AllStraight fuel := by
  induction fuel with
  | zero => constructor <;> intros <;> exact straight_noFuel
  | succ fuel ih =>
    exact
      { execute := execute_straight fuel ih
        executeAll := executeAll_straight fuel ih
        repeatWhile := repeatWhile_straight fuel ih }

theorem execute_returns_never (fuel : Nat) (stmt : Stmt) (m after : Machine) (flow : Flow)
    (placed : stmt.strayReturns 0 = []) (ended : execute fuel stmt m = .done flow after) : flow = .normal := by
  have ends := (straight fuel).execute stmt placed m
  rw [ended] at ends
  exact ends

theorem executeProgram_append (fuel : Nat) (first second : Program) (placed : Stmt.strayReturnsAll 0 first = [])
    (m : Machine) :
    executeProgram fuel (first ++ second) m = Run.bind (executeProgram fuel first) (fun _ => executeProgram fuel second) m := by
  induction first generalizing m with
  | nil => rfl
  | cons stmt rest ih =>
    rw [Stmt.strayReturnsAll, List.append_eq_nil_iff] at placed
    rw [List.cons_append]
    change Run.bind (execute fuel stmt) _ m = Run.bind (Run.bind (execute fuel stmt) _) _ m
    unfold Run.bind
    cases ended : execute fuel stmt m with
    | done flow after =>
      cases execute_returns_never fuel stmt m after flow placed.1 ended
      exact ih placed.2 after
    | fault error after => rfl
    | outOfFuel => rfl

end StoryScript.Machine
