import StoryScript.Machine.Eval

set_option autoImplicit false

namespace StoryScript

-- Where a computation ends: one condition on results and one on faults. Out of fuel, it ends nowhere.
def Finish.Ends {σ ε α : Type} (finish : Finish σ ε α) (done : α → σ → Prop) (fault : ε → σ → Prop) : Prop :=
  match finish with
  | .done result state => done result state
  | .fault error state => fault error state
  | .outOfFuel => True

theorem ends_bind {σ ε α β : Type} (run : Run σ ε α) (next : α → Run σ ε β) (state : σ)
    (done : β → σ → Prop) (fault : ε → σ → Prop) :
    ((run >>= next) state).Ends done fault ↔
      (run state).Ends (fun result after => (next result after).Ends done fault) fault := by
  change (Run.bind run next state).Ends done fault ↔ _
  unfold Run.bind
  cases run state <;> exact Iff.rfl

theorem ends_weaken {σ ε α : Type} (finish : Finish σ ε α) (done weaker : α → σ → Prop) (fault slacker : ε → σ → Prop)
    (ends : finish.Ends done fault) (doneStep : ∀ result state, done result state → weaker result state)
    (faultStep : ∀ error state, fault error state → slacker error state) : finish.Ends weaker slacker := by
  cases finish with
  | done result state => exact doneStep result state ends
  | fault error state => exact faultStep error state ends
  | outOfFuel => trivial

theorem ends_congr {σ ε α : Type} (finish : Finish σ ε α) (done other : α → σ → Prop) (fault otherFault : ε → σ → Prop)
    (sameDone : ∀ result state, done result state ↔ other result state)
    (sameFault : ∀ error state, fault error state ↔ otherFault error state) :
    finish.Ends done fault ↔ finish.Ends other otherFault := by
  cases finish with
  | done result state => exact sameDone result state
  | fault error state => exact sameFault error state
  | outOfFuel => exact Iff.rfl

theorem ends_trivial {σ ε α : Type} (finish : Finish σ ε α) : finish.Ends (fun _ _ => True) fun _ _ => True := by
  cases finish <;> trivial

namespace Machine

def nested (parent : Nat) (m : Machine) : Machine :=
  { m with scopes := (m.scopes.nest parent).2, current := (m.scopes.nest parent).1 }

def backTo (scope : Nat) (m : Machine) : Machine := { m with current := scope }

def endedAt {α : Type} (scope : Nat) : Finish Machine RuntimeError α → Finish Machine RuntimeError α
  | .done result after => .done result (after.backTo scope)
  | .fault error after => .fault error (after.backTo scope)
  | .outOfFuel => .outOfFuel

theorem within_run {α : Type} (parent : Nat) (run : MachineRun α) (m : Machine) :
    within parent run m = endedAt m.current (run (m.nested parent)) := by
  obtain ⟨scopes, outer, host, made⟩ := m
  cases ended : run (nested parent ⟨scopes, outer, host, made⟩) <;>
    simp only [within, nested] at ended ⊢ <;> rw [ended] <;> rfl

theorem within_ends {α : Type} (parent : Nat) (run : MachineRun α) (m : Machine)
    (done : α → Machine → Prop) (fault : RuntimeError → Machine → Prop) :
    (within parent run m).Ends done fault ↔
      (run (m.nested parent)).Ends (fun result after => done result (after.backTo m.current))
        (fun error after => fault error (after.backTo m.current)) := by
  rw [within_run]
  cases run (m.nested parent) <;> exact Iff.rfl

theorem onHost_ends {α : Type} (line : Nat) (run : NativeRun α) (m : Machine)
    (done : α → Machine → Prop) (fault : RuntimeError → Machine → Prop) :
    (onHost line run m).Ends done fault ↔
      (run m.host).Ends (fun result host => done result { m with host })
        (fun error host => fault ⟨.native error, line⟩ { m with host }) := by
  obtain ⟨scopes, current, host, made⟩ := m
  cases ended : run host <;> simp only [onHost, ended] <;> exact Iff.rfl

end Machine

end StoryScript
