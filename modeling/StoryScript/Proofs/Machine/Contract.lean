import StoryScript.Proofs.Machine.Ends

set_option autoImplicit false

namespace StoryScript

-- The names that a statement declares in the scope it stands in. Blocks and functions have scopes of
-- their own.
def Stmt.declared : Stmt → List String
  | .var ident _ => [ident.name]
  | .function ident _ _ => [ident.name]
  | .ifThen _ thenBranch => thenBranch.declared
  | .ifElse _ thenBranch elseBranch => thenBranch.declared ++ elseBranch.declared
  | .loop _ body => body.declared
  | .block _ => []
  | .expression _ => []
  | .print .. => []
  | .ret .. => []

def Stmt.declaredAll (stmts : List Stmt) : List String := stmts.flatMap Stmt.declared

theorem UnaryOp.apply_plain (op : UnaryOp) (operand value : Value) (applied : op.apply operand = .ok value) :
    value.callable? = none := by
  cases op <;> cases operand <;> cases applied <;> rfl

theorem onNumbers_plain (op : Number → Number → Value) (plain : ∀ a b, (op a b).callable? = none)
    (left right value : Value) (applied : onNumbers op left right = .ok value) : value.callable? = none := by
  cases left <;> cases right <;> cases applied
  exact plain ..

theorem BinaryOp.apply_plain (op : BinaryOp) (left right value : Value) (applied : op.apply left right = .ok value) :
    value.callable? = none := by
  cases op with
  | add => cases left <;> cases right <;> cases applied <;> rfl
  | divide =>
    cases left <;> cases right <;> simp only [BinaryOp.apply] at applied <;> try cases applied
    split at applied <;> cases applied
    rfl
  | equal => cases applied; rfl
  | notEqual => cases applied; rfl
  | _ => exact onNumbers_plain _ (fun _ _ => rfl) left right value applied

namespace Machine

-- What a run is held to: a condition on machines, what may lie between the machine before and the
-- machine after when only some names may be declared, and which values a machine may have at hand.
structure Terms where
  holds : Machine → Prop
  leads : List String → Machine → Machine → Prop
  fits : Machine → Value → Prop

namespace Terms

variable {α β : Type}

def Keeps (t : Terms) (names : List String) (result : Machine → α → Prop) (run : MachineRun α) (m : Machine) : Prop :=
  (run m).Ends (fun value after => t.holds after ∧ t.leads names m after ∧ result after value)
    (fun _ after => t.holds after ∧ t.leads names m after)

def Anything : Machine → α → Prop := fun _ _ => True

def AllFit (t : Terms) (m : Machine) (values : List Value) : Prop := ∀ value ∈ values, t.fits m value

def FlowFits (t : Terms) (m : Machine) : Flow → Prop
  | .normal => True
  | .returned value => t.fits m value

structure Encloses (t : Terms) (m : Machine) (parent : Nat) : Prop where
  enter : t.holds (m.nested parent)
  carry : ∀ value, t.fits m value → t.fits (m.nested parent) value
  leave : ∀ names after, t.holds after → t.leads names (m.nested parent) after →
    t.holds (after.backTo m.current) ∧ t.leads [] m (after.backTo m.current)
  bring : ∀ after value, t.fits after value → t.fits (after.backTo m.current) value

end Terms

structure Contract extends Terms where
  stay : ∀ names m, leads names m m
  join : ∀ names first second third, leads names first second → leads names second third → leads names first third
  allow : ∀ few many m after, few ⊆ many → leads few m after → leads many m after
  later : ∀ names m after value, leads names m after → fits m value → fits after value
  plain : ∀ m value, value.callable? = none → fits m value
  lookup : ∀ ident m, holds m → toTerms.Keeps [] fits (lookup ident) m
  assign : ∀ ident value m, holds m → fits m value → toTerms.Keeps [] Terms.Anything (assign ident value) m
  define : ∀ name value m, holds m → fits m value → toTerms.Keeps [name] Terms.Anything (define name value) m
  declare : ∀ name declaration m, holds m →
    toTerms.Keeps [name] Terms.Anything (Run.modify (declare name (.function declaration m.current))) m
  print : ∀ line text m, holds m → toTerms.Keeps [] Terms.Anything (printLine line text) m
  native : ∀ (target : Native) fuel args line m, holds m →
    toTerms.Keeps [] fits (onHost line (target.call fuel args)) m
  block : ∀ m, holds m → toTerms.Encloses m m.current
  function : ∀ identity declaration closure m, holds m →
    fits m (.callable ⟨identity, .function declaration closure⟩) → toTerms.Encloses m closure

namespace Contract

variable {α β : Type}

theorem keeps_pure (c : Contract) (names : List String) (result : Machine → α → Prop) (value : α) (m : Machine)
    (holds : c.holds m) (fits : result m value) : c.Keeps names result (pure value) m :=
  ⟨holds, c.stay names m, fits⟩

theorem keeps_fail (c : Contract) (names : List String) (result : Machine → α → Prop) (line : Nat)
    (fault : RuntimeFault) (m : Machine) (holds : c.holds m) : c.Keeps names result (failAt line fault) m :=
  ⟨holds, c.stay names m⟩

theorem keeps_settle (c : Contract) (names : List String) (result : Machine → α → Prop) (line : Nat)
    (settled : Except RuntimeFault α) (m : Machine) (holds : c.holds m)
    (fits : ∀ value, settled = .ok value → result m value) : c.Keeps names result (settle line settled) m := by
  cases settled with
  | ok value => exact c.keeps_pure names result value m holds (fits value rfl)
  | error fault => exact c.keeps_fail names result line fault m holds

theorem keeps_bind (c : Contract) (names : List String) (before : Machine → α → Prop) (result : Machine → β → Prop)
    (run : MachineRun α) (next : α → MachineRun β) (m : Machine) (first : c.Keeps names before run m)
    (second : ∀ value after, c.holds after → c.leads names m after → before after value →
      c.Keeps names result (next value) after) : c.Keeps names result (run >>= next) m := by
  refine (ends_bind run next m _ _).2 (ends_weaken _ _ _ _ _ first ?_ ?_)
  · rintro value after ⟨holds, leads, fits⟩
    refine ends_weaken _ _ _ _ _ (second value after holds leads fits) ?_ ?_
    · rintro value' after' ⟨holds', leads', fits'⟩
      exact ⟨holds', c.join names m after after' leads leads', fits'⟩
    · rintro error after' ⟨holds', leads'⟩
      exact ⟨holds', c.join names m after after' leads leads'⟩
  · rintro error after kept
    exact kept

theorem keeps_allow (c : Contract) (few many : List String) (result : Machine → α → Prop) (run : MachineRun α)
    (m : Machine) (subset : few ⊆ many) (keeps : c.Keeps few result run m) : c.Keeps many result run m := by
  refine ends_weaken _ _ _ _ _ keeps ?_ ?_
  · rintro value after ⟨holds, leads, fits⟩
    exact ⟨holds, c.allow few many m after subset leads, fits⟩
  · rintro error after ⟨holds, leads⟩
    exact ⟨holds, c.allow few many m after subset leads⟩

theorem keeps_silent (c : Contract) (names : List String) (result : Machine → α → Prop) (run : MachineRun α)
    (m : Machine) (keeps : c.Keeps [] result run m) : c.Keeps names result run m :=
  c.keeps_allow [] names result run m (List.nil_subset names) keeps

theorem keeps_within (c : Contract) (names : List String) (result : Machine → α → Prop) (parent : Nat)
    (run : MachineRun α) (m : Machine) (encloses : c.Encloses m parent)
    (keeps : c.Keeps names result run (m.nested parent))
    (bring : ∀ after value, result after value → result (after.backTo m.current) value) :
    c.Keeps [] result (within parent run) m := by
  refine (within_ends parent run m _ _).2 (ends_weaken _ _ _ _ _ keeps ?_ ?_)
  · rintro value after ⟨holds, leads, fits⟩
    obtain ⟨holds', leads'⟩ := encloses.leave names after holds leads
    exact ⟨holds', leads', bring after value fits⟩
  · rintro error after ⟨holds, leads⟩
    exact encloses.leave names after holds leads

theorem leads_of_keeps (c : Contract) (names : List String) (result : Machine → α → Prop) (run : MachineRun α)
    (m : Machine) (keeps : c.Keeps names result run m) :
    (run m).Ends (fun _ after => c.leads names m after) (fun _ after => c.leads names m after) :=
  ends_weaken _ _ _ _ _ keeps (fun _ _ kept => kept.2.1) (fun _ _ kept => kept.2)

theorem bring_flow (c : Contract) (m : Machine) (parent : Nat) (encloses : c.Encloses m parent) (after : Machine)
    (flow : Flow) (fits : c.FlowFits after flow) : c.FlowFits (after.backTo m.current) flow := by
  cases flow with
  | normal => trivial
  | returned value => exact encloses.bring after value fits

theorem allFit_later (c : Contract) (names : List String) (m after : Machine) (values : List Value)
    (leads : c.leads names m after) (fit : c.AllFit m values) : c.AllFit after values := by
  intro value member
  exact c.later names m after value leads (fit value member)

theorem keeps_bindAll (c : Contract) (bindings : List (Ident × Value)) (names : List String) (m : Machine)
    (holds : c.holds m) (fit : c.AllFit m (bindings.map Prod.snd))
    (listed : bindings.map (fun binding => binding.1.name) ⊆ names) :
    c.Keeps names Terms.Anything (bindAll bindings) m := by
  induction bindings generalizing m with
  | nil => exact c.keeps_pure names _ () m holds trivial
  | cons binding rest ih =>
    obtain ⟨param, value⟩ := binding
    simp only [List.map_cons, List.cons_subset] at listed
    refine c.keeps_bind names Terms.Anything _ _ _ m ?_ ?_
    · refine c.keeps_allow [param.name] names _ _ m (by simpa using listed.1) ?_
      exact c.define param.name value m holds (fit value (by simp))
    · intro _ after holds' leads _
      refine ih after holds' ?_ listed.2
      refine c.allFit_later names m after _ leads ?_
      intro other member
      exact fit other (by simp [member])

structure Kept (c : Contract) (fuel : Nat) : Prop where
  evaluate : ∀ expr m, c.holds m → c.Keeps [] c.fits (evaluate fuel expr) m
  evaluateAll : ∀ exprs m, c.holds m → c.Keeps [] c.AllFit (evaluateAll fuel exprs) m
  call : ∀ callable args line m, c.holds m → c.fits m (.callable callable) → c.AllFit m args →
    c.Keeps [] c.fits (call fuel callable args line) m
  execute : ∀ stmt m, c.holds m → c.Keeps stmt.declared c.FlowFits (execute fuel stmt) m
  executeAll : ∀ stmts m, c.holds m → c.Keeps (Stmt.declaredAll stmts) c.FlowFits (executeAll fuel stmts) m
  repeatWhile : ∀ condition body m, c.holds m → c.Keeps body.declared c.FlowFits (repeatWhile fuel condition body) m

theorem evaluate_step (c : Contract) (fuel : Nat) (kept : c.Kept fuel) (expr : Expr) (m : Machine)
    (holds : c.holds m) : c.Keeps [] c.fits (Machine.evaluate (fuel + 1) expr) m := by
  cases expr with
  | literal value =>
    refine c.keeps_pure [] c.fits _ m holds (c.plain m _ ?_)
    cases value <;> rfl
  | grouping inner => exact kept.evaluate inner m holds
  | unary op operand line =>
    refine c.keeps_bind [] c.fits c.fits _ _ m (kept.evaluate operand m holds) ?_
    intro value after holds' _ _
    refine c.keeps_settle [] c.fits line _ after holds' ?_
    intro result applied
    exact c.plain after result (op.apply_plain value result applied)
  | binary left op right line =>
    refine c.keeps_bind [] c.fits c.fits _ _ m (kept.evaluate left m holds) ?_
    intro a middle holdsMiddle _ _
    refine c.keeps_bind [] c.fits c.fits _ _ middle (kept.evaluate right middle holdsMiddle) ?_
    intro b after holds' _ _
    refine c.keeps_settle [] c.fits line _ after holds' ?_
    intro result applied
    exact c.plain after result (op.apply_plain a b result applied)
  | logical left op right =>
    refine c.keeps_bind [] c.fits c.fits _ _ m (kept.evaluate left m holds) ?_
    intro value after holds' _ fits
    by_cases settled : op.settledBy value = true
    · rw [if_pos settled]
      exact c.keeps_pure [] c.fits value after holds' fits
    · rw [if_neg settled]
      exact kept.evaluate right after holds'
  | reference ident => exact c.lookup ident m holds
  | assign ident inner =>
    refine c.keeps_bind [] c.fits c.fits _ _ m (kept.evaluate inner m holds) ?_
    intro value middle holdsMiddle _ fits
    refine c.keeps_bind [] Terms.Anything c.fits _ _ middle (c.assign ident value middle holdsMiddle fits) ?_
    intro _ after holds' leads _
    exact c.keeps_pure [] c.fits value after holds' (c.later [] middle after value leads fits)
  | call callee args line =>
    refine c.keeps_bind [] c.fits c.fits _ _ m (kept.evaluate callee m holds) ?_
    intro value middle holdsMiddle _ fits
    cases value with
    | callable target =>
      refine c.keeps_bind [] c.AllFit c.fits _ _ middle (kept.evaluateAll args middle holdsMiddle) ?_
      intro values after holds' leads allFit
      by_cases counted : values.length = target.arity
      · rw [if_pos counted]
        exact kept.call target values line after holds' (c.later [] middle after _ leads fits) allFit
      · rw [if_neg counted]
        exact c.keeps_fail [] c.fits line _ after holds'
    | _ => exact c.keeps_fail [] c.fits line _ middle holdsMiddle

theorem evaluateAll_step (c : Contract) (fuel : Nat) (kept : c.Kept fuel) (exprs : List Expr) (m : Machine)
    (holds : c.holds m) : c.Keeps [] c.AllFit (Machine.evaluateAll (fuel + 1) exprs) m := by
  cases exprs with
  | nil => exact c.keeps_pure [] c.AllFit [] m holds (by simp [Terms.AllFit])
  | cons expr rest =>
    refine c.keeps_bind [] c.fits c.AllFit _ _ m (kept.evaluate expr m holds) ?_
    intro value middle holdsMiddle _ fits
    refine c.keeps_bind [] c.AllFit c.AllFit _ _ middle (kept.evaluateAll rest middle holdsMiddle) ?_
    intro values after holds' leads allFit
    refine c.keeps_pure [] c.AllFit (value :: values) after holds' ?_
    intro other member
    rcases List.mem_cons.1 member with rfl | among
    · exact c.later [] middle after other leads fits
    · exact allFit other among

theorem call_step (c : Contract) (fuel : Nat) (kept : c.Kept fuel) (callable : Callable) (args : List Value)
    (line : Nat) (m : Machine) (holds : c.holds m) (fits : c.fits m (.callable callable)) (allFit : c.AllFit m args) :
    c.Keeps [] c.fits (Machine.call (fuel + 1) callable args line) m := by
  obtain ⟨identity, target⟩ := callable
  cases target with
  | native native => exact c.native native fuel args line m holds
  | function declaration closure =>
    have encloses := c.function identity declaration closure m holds fits
    refine c.keeps_bind [] c.FlowFits c.fits _ _ m ?_ ?_
    · refine c.keeps_within (declaration.params.map Ident.name ++ Stmt.declaredAll declaration.body) c.FlowFits closure
        _ m encloses ?_ (c.bring_flow m closure encloses)
      refine c.keeps_bind _ Terms.Anything c.FlowFits _ _ _ ?_ ?_
      · refine c.keeps_bindAll _ _ _ encloses.enter ?_ ?_
        · intro value member
          obtain ⟨⟨param, _⟩, zipped, rfl⟩ := List.mem_map.1 member
          exact encloses.carry _ (allFit _ (List.of_mem_zip zipped).2)
        · intro name member
          obtain ⟨⟨param, value⟩, zipped, rfl⟩ := List.mem_map.1 member
          exact List.mem_append_left _ (List.mem_map_of_mem (List.of_mem_zip zipped).1)
      · intro _ after holds' _ _
        exact c.keeps_allow _ _ _ _ after (List.subset_append_right _ _) (kept.executeAll declaration.body after holds')
    · intro flow after holds' _ flowFits
      cases flow with
      | normal => exact c.keeps_pure [] c.fits .nil after holds' (c.plain after .nil rfl)
      | returned value => exact c.keeps_pure [] c.fits value after holds' flowFits

theorem execute_step (c : Contract) (fuel : Nat) (kept : c.Kept fuel) (stmt : Stmt) (m : Machine)
    (holds : c.holds m) : c.Keeps stmt.declared c.FlowFits (Machine.execute (fuel + 1) stmt) m := by
  cases stmt with
  | expression expr =>
    refine c.keeps_bind [] c.fits c.FlowFits _ _ m (kept.evaluate expr m holds) ?_
    intro _ after holds' _ _
    exact c.keeps_pure [] c.FlowFits .normal after holds' trivial
  | print expr line =>
    refine c.keeps_bind [] c.fits c.FlowFits _ _ m (kept.evaluate expr m holds) ?_
    intro value middle holdsMiddle _ _
    refine c.keeps_bind [] Terms.Anything c.FlowFits _ _ middle (c.print line value.text middle holdsMiddle) ?_
    intro _ after holds' _ _
    exact c.keeps_pure [] c.FlowFits .normal after holds' trivial
  | var ident initializer =>
    cases initializer with
    | none =>
      refine c.keeps_bind [ident.name] Terms.Anything c.FlowFits _ _ m ?_ ?_
      · exact c.define ident.name .nil m holds (c.plain m .nil rfl)
      · intro _ after holds' _ _
        exact c.keeps_pure _ c.FlowFits .normal after holds' trivial
    | some expr =>
      refine c.keeps_bind [ident.name] c.fits c.FlowFits _ _ m ?_ ?_
      · exact c.keeps_silent [ident.name] c.fits _ m (kept.evaluate expr m holds)
      · intro value middle holdsMiddle _ fits
        refine c.keeps_bind [ident.name] Terms.Anything c.FlowFits _ _ middle ?_ ?_
        · exact c.define ident.name value middle holdsMiddle fits
        · intro _ after holds' _ _
          exact c.keeps_pure _ c.FlowFits .normal after holds' trivial
  | block body =>
    have encloses := c.block m holds
    exact c.keeps_within (Stmt.declaredAll body) c.FlowFits m.current _ m encloses
      (kept.executeAll body (m.nested m.current) encloses.enter) (c.bring_flow m m.current encloses)
  | ifThen condition thenBranch =>
    refine c.keeps_bind _ c.fits c.FlowFits _ _ m (c.keeps_silent _ _ _ m (kept.evaluate condition m holds)) ?_
    intro value after holds' _ _
    by_cases truthy : value.isTruthy = true
    · rw [if_pos truthy]
      exact kept.execute thenBranch after holds'
    · rw [if_neg truthy]
      exact c.keeps_pure _ c.FlowFits .normal after holds' trivial
  | ifElse condition thenBranch elseBranch =>
    refine c.keeps_bind _ c.fits c.FlowFits _ _ m (c.keeps_silent _ _ _ m (kept.evaluate condition m holds)) ?_
    intro value after holds' _ _
    by_cases truthy : value.isTruthy = true
    · rw [if_pos truthy]
      exact c.keeps_allow _ _ _ _ after (List.subset_append_left _ _) (kept.execute thenBranch after holds')
    · rw [if_neg truthy]
      exact c.keeps_allow _ _ _ _ after (List.subset_append_right _ _) (kept.execute elseBranch after holds')
  | loop condition body => exact kept.repeatWhile condition body m holds
  | function ident params body =>
    -- The function is closed over the scope that the machine stands in now.
    change c.Keeps [ident.name] c.FlowFits (do
      Run.modify (Machine.declare ident.name (.function ⟨ident, params, body⟩ m.current))
      return .normal) m
    refine c.keeps_bind [ident.name] Terms.Anything c.FlowFits _ _ m ?_ ?_
    · exact c.declare ident.name ⟨ident, params, body⟩ m holds
    · intro _ after holds' _ _
      exact c.keeps_pure _ c.FlowFits .normal after holds' trivial
  | ret value line =>
    cases value with
    | none => exact c.keeps_pure [] c.FlowFits (.returned .nil) m holds (c.plain m .nil rfl)
    | some expr =>
      refine c.keeps_bind [] c.fits c.FlowFits _ _ m (kept.evaluate expr m holds) ?_
      intro value after holds' _ fits
      exact c.keeps_pure [] c.FlowFits (.returned value) after holds' fits

theorem executeAll_step (c : Contract) (fuel : Nat) (kept : c.Kept fuel) (stmts : List Stmt) (m : Machine)
    (holds : c.holds m) : c.Keeps (Stmt.declaredAll stmts) c.FlowFits (Machine.executeAll (fuel + 1) stmts) m := by
  cases stmts with
  | nil => exact c.keeps_pure _ c.FlowFits .normal m holds trivial
  | cons stmt rest =>
    refine c.keeps_bind _ c.FlowFits c.FlowFits _ _ m ?_ ?_
    · exact c.keeps_allow stmt.declared _ _ _ m (by simp [Stmt.declaredAll]) (kept.execute stmt m holds)
    · intro flow after holds' _ fits
      cases flow with
      | normal =>
        exact c.keeps_allow (Stmt.declaredAll rest) _ _ _ after (by simp [Stmt.declaredAll])
          (kept.executeAll rest after holds')
      | returned value => exact c.keeps_pure _ c.FlowFits (.returned value) after holds' fits

theorem repeatWhile_step (c : Contract) (fuel : Nat) (kept : c.Kept fuel) (condition : Expr) (body : Stmt)
    (m : Machine) (holds : c.holds m) :
    c.Keeps body.declared c.FlowFits (Machine.repeatWhile (fuel + 1) condition body) m := by
  refine c.keeps_bind _ c.fits c.FlowFits _ _ m (c.keeps_silent _ _ _ m (kept.evaluate condition m holds)) ?_
  intro value middle holdsMiddle _ _
  by_cases truthy : value.isTruthy = true
  · rw [if_pos truthy]
    refine c.keeps_bind _ c.FlowFits c.FlowFits _ _ middle (kept.execute body middle holdsMiddle) ?_
    intro flow after holds' _ fits
    cases flow with
    | normal => exact kept.repeatWhile condition body after holds'
    | returned value => exact c.keeps_pure _ c.FlowFits (.returned value) after holds' fits
  · rw [if_neg truthy]
    exact c.keeps_pure _ c.FlowFits .normal middle holdsMiddle trivial

-- Every run keeps every contract, by induction on its fuel.
theorem kept (c : Contract) (fuel : Nat) : c.Kept fuel := by
  induction fuel with
  | zero => constructor <;> intros <;> trivial
  | succ fuel ih =>
    exact
      { evaluate := c.evaluate_step fuel ih
        evaluateAll := c.evaluateAll_step fuel ih
        call := c.call_step fuel ih
        execute := c.execute_step fuel ih
        executeAll := c.executeAll_step fuel ih
        repeatWhile := c.repeatWhile_step fuel ih }

end Contract

end Machine

end StoryScript
