import StoryScript.Scopes

set_option autoImplicit false

namespace StoryScript.Scopes

def count (s : Scopes) : Nat := s.all.size

def Binds (s : Scopes) (scope : Nat) (name : String) : Prop := (s.localGet? scope name).isSome = true

instance (s : Scopes) (scope : Nat) (name : String) : Decidable (s.Binds scope name) :=
  inferInstanceAs (Decidable ((s.localGet? scope name).isSome = true))

@[simp] theorem count_define (s : Scopes) (scope : Nat) (name : String) (value : Value) :
    (s.define scope name value).count = s.count := by
  simp [count, define]

@[simp] theorem count_nest (s : Scopes) (parent : Nat) : (s.nest parent).2.count = s.count + 1 := by
  simp [count, nest]

theorem scope_define (s : Scopes) (changed scope : Nat) (name : String) (value : Value) :
    (s.define changed name value).all[scope]? =
      if changed = scope then
        s.all[scope]?.map fun found => { found with bindings := found.bindings.insert name value }
      else s.all[scope]? := by
  simp only [define, Array.getElem?_modify]

theorem scope_define_elsewhere (s : Scopes) (changed scope : Nat) (name : String) (value : Value)
    (different : changed ≠ scope) : (s.define changed name value).all[scope]? = s.all[scope]? := by
  rw [scope_define, if_neg different]

theorem scope_nest (s : Scopes) (parent scope : Nat) :
    (s.nest parent).2.all[scope]? = if scope = s.count then some { parent := some parent } else s.all[scope]? :=
  Array.getElem?_push

theorem scope_nest_older (s : Scopes) (parent scope : Nat) (older : scope < s.count) :
    (s.nest parent).2.all[scope]? = s.all[scope]? := by
  rw [scope_nest, if_neg (Nat.ne_of_lt older)]

theorem scope_unopened (s : Scopes) : s.all[s.count]? = none := by
  simp [count]

@[simp] theorem parent_define (s : Scopes) (changed scope : Nat) (name : String) (value : Value) :
    (s.define changed name value).parent? scope = s.parent? scope := by
  unfold parent?
  rw [scope_define]
  by_cases same : changed = scope
  · rw [if_pos same]
    cases s.all[scope]? <;> rfl
  · rw [if_neg same]

theorem parent_nest (s : Scopes) (parent scope : Nat) :
    (s.nest parent).2.parent? scope = if scope = s.count then some parent else s.parent? scope := by
  unfold parent?
  rw [scope_nest]
  by_cases fresh : scope = s.count
  · rw [if_pos fresh, if_pos fresh]
    rfl
  · rw [if_neg fresh, if_neg fresh]

theorem earlier_nest (s : Scopes) (parent : Nat) (opened : parent < s.count)
    (earlier : ∀ scope outer, s.parent? scope = some outer → outer < scope) (scope outer : Nat)
    (link : (s.nest parent).2.parent? scope = some outer) : outer < scope := by
  rw [parent_nest] at link
  split at link
  · rename_i fresh
    cases link
    rw [fresh]
    exact opened
  · exact earlier scope outer link

theorem localGet_define (s : Scopes) (changed scope : Nat) (name other : String) (value : Value) :
    (s.define changed name value).localGet? scope other =
      if changed = scope ∧ scope < s.count ∧ other = name then some value else s.localGet? scope other := by
  unfold localGet?
  rw [scope_define]
  by_cases same : changed = scope
  · rw [if_pos same]
    by_cases opened : scope < s.count
    · have found : s.all[scope]? = some s.all[scope] := Array.getElem?_eq_getElem opened
      rw [found]
      simp [same, opened]
    · have absent : s.all[scope]? = none := Array.getElem?_eq_none (Nat.le_of_not_lt opened)
      rw [absent]
      simp [opened]
  · rw [if_neg same, if_neg fun both => same both.1]

@[simp] theorem localGet_nest (s : Scopes) (parent scope : Nat) (name : String) :
    (s.nest parent).2.localGet? scope name = s.localGet? scope name := by
  unfold localGet?
  rw [scope_nest]
  by_cases fresh : scope = s.count
  · rw [if_pos fresh, fresh, scope_unopened]
    rfl
  · rw [if_neg fresh]

theorem localGet_opened (s : Scopes) (scope : Nat) (name : String) (value : Value)
    (bound : s.localGet? scope name = some value) : scope < s.count := by
  refine Nat.lt_of_not_ge fun unopened => ?_
  rw [localGet?, Array.getElem?_eq_none unopened] at bound
  cases bound

theorem resolve_binds (s : Scopes) (scope : Nat) (name : String) (found : Nat)
    (resolved : s.resolve scope name = some found) : s.Binds found name := by
  fun_induction resolve s scope name with
  | case1 scope value bound =>
    cases resolved
    simp [Binds, bound]
  | case2 scope unbound outermost => cases resolved
  | case3 scope unbound outer link earlier ih => exact ih resolved
  | case4 scope unbound outer link later => cases resolved

theorem binds_define (s : Scopes) (changed scope : Nat) (name other : String) (value : Value) :
    (s.define changed name value).Binds scope other ↔
      (changed = scope ∧ scope < s.count ∧ other = name) ∨ s.Binds scope other := by
  unfold Binds
  rw [localGet_define]
  split
  · rename_i here
    simp [here]
  · rename_i elsewhere
    simp [elsewhere]

theorem binds_nest (s : Scopes) (parent scope : Nat) (name : String) :
    (s.nest parent).2.Binds scope name ↔ s.Binds scope name := by
  simp [Binds]

end StoryScript.Scopes
