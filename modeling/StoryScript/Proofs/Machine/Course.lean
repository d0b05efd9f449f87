import StoryScript.Proofs.Machine.Encapsulation

set_option autoImplicit false

namespace StoryScript.Machine

-- What can be under way on a machine.
inductive Task where
  | evaluate (expr : Expr)
  | evaluateAll (exprs : List Expr)
  | call (callable : Callable) (args : List Value) (line : Nat)
  | execute (stmt : Stmt)
  | executeAll (stmts : List Stmt)
  | repeatWhile (condition : Expr) (body : Stmt)

namespace Task

def values : Task → List Value
  | .call callable args _ => .callable callable :: args
  | _ => []

def run (fuel : Nat) : Task → MachineRun (List Value)
  | .evaluate expr => do return [← Machine.evaluate fuel expr]
  | .evaluateAll exprs => Machine.evaluateAll fuel exprs
  | .call callable args line => do return [← Machine.call fuel callable args line]
  | .execute stmt => do return (← Machine.execute fuel stmt).results
  | .executeAll stmts => do return (← Machine.executeAll fuel stmts).results
  | .repeatWhile condition body => do return (← Machine.repeatWhile fuel condition body).results

def next : Task → List (List Value) → Option Task
  | .evaluate (.grouping inner), [] => some (.evaluate inner)
  | .evaluate (.unary _ operand _), [] => some (.evaluate operand)
  | .evaluate (.binary left _ _ _), [] => some (.evaluate left)
  | .evaluate (.binary _ _ right _), [[_]] => some (.evaluate right)
  | .evaluate (.logical left _ _), [] => some (.evaluate left)
  | .evaluate (.logical _ op right), [[value]] => if op.settledBy value then none else some (.evaluate right)
  | .evaluate (.assign _ inner), [] => some (.evaluate inner)
  | .evaluate (.call callee _ _), [] => some (.evaluate callee)
  | .evaluate (.call _ args _), [[.callable _]] => some (.evaluateAll args)
  | .evaluate (.call _ _ line), [[.callable target], values] =>
    if values.length = target.arity then some (.call target values line) else none
  | .evaluateAll (expr :: _), [] => some (.evaluate expr)
  | .evaluateAll (_ :: rest), [[_]] => some (.evaluateAll rest)
  | .execute (.expression expr), [] => some (.evaluate expr)
  | .execute (.print expr _), [] => some (.evaluate expr)
  | .execute (.var _ (some expr)), [] => some (.evaluate expr)
  | .execute (.ifThen condition _), [] => some (.evaluate condition)
  | .execute (.ifThen _ thenBranch), [[value]] => if value.isTruthy then some (.execute thenBranch) else none
  | .execute (.ifElse condition _ _), [] => some (.evaluate condition)
  | .execute (.ifElse _ thenBranch elseBranch), [[value]] =>
    some (.execute (if value.isTruthy then thenBranch else elseBranch))
  | .execute (.loop condition body), [] => some (.repeatWhile condition body)
  | .execute (.ret (some expr) _), [] => some (.evaluate expr)
  | .executeAll (stmt :: _), [] => some (.execute stmt)
  | .executeAll (_ :: rest), [[]] => some (.executeAll rest)
  | .repeatWhile condition _, [] => some (.evaluate condition)
  | .repeatWhile _ body, [[value]] => if value.isTruthy then some (.execute body) else none
  | .repeatWhile condition body, [[_], []] => some (.repeatWhile condition body)
  | _, _ => none

theorem next_values (task inner : Task) (results : List (List Value)) (isNext : task.next results = some inner) :
    inner.values ⊆ results.flatten := by
  cases inner with
  | call target args line =>
    unfold next at isNext
    split at isNext <;> (try split at isNext) <;> cases isNext
    simp [values]
  | _ => exact List.nil_subset _

end Task

-- A task has got so far: the tasks inside it that are done, by their results.
inductive Ran (fuel : Nat) (task : Task) (m : Machine) : List (List Value) → Machine → Prop where
  | nothing : Ran fuel task m [] m
  | more (results : List (List Value)) (inner : Task) (values : List Value) (middle after : Machine)
      (earlier : Ran fuel task m results middle) (isNext : task.next results = some inner)
      (ended : inner.run fuel middle = .done values after) : Ran fuel task m (results ++ [values]) after

-- A task begins another inside it, and keeps some values for itself meanwhile. Only blocks and functions begin
-- one in a new scope.
inductive Starts (fuel : Nat) : Task → Machine → Task → Machine → List Value → Prop where
  | next (task inner : Task) (m middle : Machine) (results : List (List Value))
      (ran : Ran fuel task m results middle) (isNext : task.next results = some inner) :
      Starts fuel task m inner middle results.flatten
  | block (body : List Stmt) (m : Machine) :
      Starts fuel (.execute (.block body)) m (.executeAll body) (m.nested m.current) []
  | function (identity : Nat) (declaration : FunctionDecl) (closure : Nat) (args : List Value) (line : Nat)
      (m inside : Machine) (bound : bindAll (declaration.params.zip args) (m.nested closure) = .done () inside) :
      Starts fuel (.call ⟨identity, .function declaration closure⟩ args line) m (.executeAll declaration.body) inside []

def Terms.Onwards (t : Terms) (m after : Machine) : Prop :=
  ∃ names, t.leads names m after ∨ ∃ parent, t.Encloses m parent ∧ t.leads names (m.nested parent) after

namespace Contract

theorem leads_trans (c : Contract) (few more : List String) (first second third : Machine)
    (former : c.leads few first second) (latter : c.leads more second third) :
    c.leads (few ++ more) first third :=
  c.join _ first second third (c.allow _ _ _ _ (List.subset_append_left few more) former)
    (c.allow _ _ _ _ (List.subset_append_right few more) latter)

theorem keeps_done {α : Type} (c : Contract) (names : List String) (result : Machine → α → Prop) (run : MachineRun α)
    (m after : Machine) (value : α) (keeps : c.Keeps names result run m) (ended : run m = .done value after) :
    c.holds after ∧ c.leads names m after ∧ result after value := by
  unfold Terms.Keeps at keeps
  rw [ended] at keeps
  exact keeps

theorem keeps_results (c : Contract) (names : List String) (run : MachineRun Flow) (m : Machine)
    (keeps : c.Keeps names c.FlowFits run m) : c.Keeps names c.AllFit (do return (← run).results) m := by
  refine c.keeps_bind names c.FlowFits c.AllFit _ _ m keeps ?_
  intro flow after holds _ fits
  refine c.keeps_pure names c.AllFit _ after holds ?_
  cases flow with
  | normal => exact List.forall_mem_nil _
  | returned value => exact List.forall_mem_singleton.2 fits

theorem keeps_singleton (c : Contract) (names : List String) (run : MachineRun Value) (m : Machine)
    (keeps : c.Keeps names c.fits run m) : c.Keeps names c.AllFit (do return [← run]) m := by
  refine c.keeps_bind names c.fits c.AllFit _ _ m keeps ?_
  intro value after holds _ fits
  exact c.keeps_pure names c.AllFit _ after holds (List.forall_mem_singleton.2 fits)

theorem run_kept (c : Contract) (fuel : Nat) (task : Task) (m : Machine) (holds : c.holds m)
    (fit : c.AllFit m task.values) : ∃ names, c.Keeps names c.AllFit (task.run fuel) m := by
  have kept := c.kept fuel
  cases task with
  | evaluate expr => exact ⟨_, c.keeps_singleton _ _ m (kept.evaluate expr m holds)⟩
  | evaluateAll exprs => exact ⟨_, kept.evaluateAll exprs m holds⟩
  | call callable args line =>
    obtain ⟨callableFits, argsFit⟩ := List.forall_mem_cons.1 fit
    exact ⟨_, c.keeps_singleton _ _ m (kept.call callable args line m holds callableFits argsFit)⟩
  | execute stmt => exact ⟨_, c.keeps_results _ _ m (kept.execute stmt m holds)⟩
  | executeAll stmts => exact ⟨_, c.keeps_results _ _ m (kept.executeAll stmts m holds)⟩
  | repeatWhile condition body => exact ⟨_, c.keeps_results _ _ m (kept.repeatWhile condition body m holds)⟩

theorem ran_kept (c : Contract) (fuel : Nat) (task : Task) (m after : Machine) (results : List (List Value))
    (ran : Ran fuel task m results after) (holds : c.holds m) :
    c.holds after ∧ (∃ names, c.leads names m after) ∧ c.AllFit after results.flatten := by
  induction ran with
  | nothing => exact ⟨holds, ⟨[], c.stay [] m⟩, List.forall_mem_nil _⟩
  | more results inner values middle after earlier isNext ended ih =>
    obtain ⟨holdsMiddle, ⟨few, former⟩, fit⟩ := ih
    have given : c.AllFit middle inner.values := fun value member => fit value (task.next_values inner results isNext member)
    obtain ⟨more, keeps⟩ := c.run_kept fuel inner middle holdsMiddle given
    obtain ⟨holds', latter, fit'⟩ := c.keeps_done more c.AllFit _ middle after values keeps ended
    refine ⟨holds', ⟨few ++ more, c.leads_trans few more m middle after former latter⟩, ?_⟩
    rw [List.flatten_append, List.flatten_singleton]
    exact List.forall_mem_append.2 ⟨c.allFit_later more middle after _ latter fit, fit'⟩

theorem starts_kept (c : Contract) (fuel : Nat) (task inner : Task) (m after : Machine) (kept : List Value)
    (starts : Starts fuel task m inner after kept) (holds : c.holds m) (fit : c.AllFit m task.values) :
    c.holds after ∧ c.Onwards m after ∧ c.AllFit after inner.values ∧ c.AllFit after kept := by
  cases starts with
  | next _ _ _ _ results ran isNext =>
    obtain ⟨holds', ⟨names, leads⟩, fit'⟩ := c.ran_kept fuel task m after results ran holds
    have given : c.AllFit after inner.values := fun value member => fit' value (task.next_values inner results isNext member)
    exact ⟨holds', ⟨names, Or.inl leads⟩, given, fit'⟩
  | block body _ =>
    have encloses := c.block m holds
    exact ⟨encloses.enter, ⟨[], Or.inr ⟨m.current, encloses, c.stay [] _⟩⟩, List.forall_mem_nil _, List.forall_mem_nil _⟩
  | function identity declaration closure args line _ _ bound =>
    obtain ⟨callableFits, argsFit⟩ := List.forall_mem_cons.1 fit
    have encloses := c.function identity declaration closure m holds callableFits
    have bindings : c.AllFit (m.nested closure) ((declaration.params.zip args).map Prod.snd) := by
      intro value member
      obtain ⟨⟨param, _⟩, zipped, rfl⟩ := List.mem_map.1 member
      exact encloses.carry _ (argsFit _ (List.of_mem_zip zipped).2)
    have keeps := c.keeps_bindAll _ _ _ encloses.enter bindings (List.Subset.refl _)
    obtain ⟨holds', leads, -⟩ := c.keeps_done _ _ _ _ after () keeps bound
    exact ⟨holds', ⟨_, Or.inr ⟨closure, encloses, leads⟩⟩, List.forall_mem_nil _, List.forall_mem_nil _⟩

end Contract

end StoryScript.Machine
