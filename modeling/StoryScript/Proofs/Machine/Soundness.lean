import StoryScript.Proofs.Machine.Padding
import StoryScript.Machine.Eval

set_option autoImplicit false

namespace StoryScript.Machine

-- The machines that scripts run on: each scope lies inside an earlier one, functions are closed over scopes
-- that have been opened, and the machine stands in such a scope.
structure Sound (m : Machine) : Prop where
  scopes : m.scopes.Sound
  opened : m.current < m.scopes.count

theorem shows_itself (m : Machine) (sound : Sound m) : Shows Layout.identical m m :=
  ⟨.identical m.scopes sound.scopes, sound.opened, rfl, rfl, rfl⟩

theorem bare_sound (host : Host) : Sound (bare host) where
  scopes := by
    constructor
    · intro scope outer link
      unfold bare Scopes.root Scopes.parent? at link
      cases scope with
      | zero => cases link
      | succ scope => cases link
    · intro scope name value bound
      unfold bare Scopes.root Scopes.localGet? at bound
      cases scope with
      | zero => cases bound
      | succ scope => cases bound
  opened := Nat.zero_lt_one

theorem declare_sound (m : Machine) (name : String) (native : Native) (sound : Sound m) :
    Sound (m.declare name (.native native)) where
  scopes := by
    refine m.scopes.sound_define m.current name _ sound.scopes ?_
    intro closure closed
    cases closed
  opened := by
    change m.current < (m.scopes.define _ _ _).count
    rw [Scopes.count_define]
    exact sound.opened

theorem withNatives_sound (host : Host) : Sound (withNatives host) := by
  have declared : ∀ (natives : List Native) (m : Machine), Sound m →
      Sound (natives.foldl (fun m native => m.declare native.name (.native native)) m) := by
    intro natives
    induction natives with
    | nil => exact fun m sound => sound
    | cons native rest ih => exact fun m sound => ih _ (declare_sound m native.name native sound)
  exact declared Native.all (bare host) (bare_sound host)

end StoryScript.Machine
