import StoryScript.Proofs.Machine.Encapsulation
import StoryScript.Proofs.Machine.Recast

set_option autoImplicit false

namespace StoryScript

def Callable.moved (place : Nat → Nat) : Callable → Callable
  | ⟨identity, .function declaration closure⟩ => ⟨identity, .function declaration (place closure)⟩
  | ⟨identity, .native native⟩ => ⟨identity, .native native⟩

def Value.moved (place : Nat → Nat) : Value → Value
  | .callable target => .callable (target.moved place)
  | value => value

@[simp] theorem Callable.arity_moved (place : Nat → Nat) (c : Callable) : (c.moved place).arity = c.arity := by
  obtain ⟨identity, target⟩ := c
  cases target <;> rfl

theorem Callable.moved_alike (place : Nat → Nat) : Callable.Alike (Callable.moved place) where
  identity := by
    rintro ⟨identity, target⟩
    cases target <;> rfl
  text := by
    rintro ⟨identity, target⟩
    cases target <;> rfl

namespace Value

theorem moved_eq_recast (place : Nat → Nat) : Value.moved place = Value.recast (Callable.moved place) := by
  funext value
  cases value <;> rfl

@[simp] theorem text_moved (place : Nat → Nat) (value : Value) : (value.moved place).text = value.text := by
  rw [moved_eq_recast]
  exact text_recast _ (Callable.moved_alike place) value

@[simp] theorem isTruthy_moved (place : Nat → Nat) (value : Value) : (value.moved place).isTruthy = value.isTruthy := by
  rw [moved_eq_recast]
  exact isTruthy_recast _ value

theorem moved_plain (place : Nat → Nat) (value : Value) (plain : value.callable? = none) : value.moved place = value := by
  rw [moved_eq_recast]
  exact recast_plain _ value plain

def Within (count : Nat) (value : Value) : Prop := ∀ closure, value.closure? = some closure → closure < count

theorem within_plain (count : Nat) (value : Value) (plain : value.callable? = none) : value.Within count := by
  intro closure closed
  rw [closure_plain value plain] at closed
  cases closed

theorem within_later (count more : Nat) (value : Value) (opened : count ≤ more) (within : value.Within count) :
    value.Within more := by
  intro closure closed
  exact Nat.lt_of_lt_of_le (within closure closed) opened

theorem moved_congr (place other : Nat → Nat) (count : Nat) (value : Value) (within : value.Within count)
    (same : ∀ scope < count, other scope = place scope) : value.moved other = value.moved place := by
  cases value with
  | callable target =>
    obtain ⟨identity, target⟩ := target
    cases target with
    | function declaration closure =>
      have placed := same closure (within closure rfl)
      simp only [moved, Callable.moved, placed]
    | native native => rfl
  | _ => rfl

end Value

namespace Scopes

-- Every scope lies inside one that was opened before it, and every function is closed over a scope that
-- has been opened.
structure Sound (s : Scopes) : Prop where
  earlier : ∀ scope outer, s.parent? scope = some outer → outer < scope
  closures : ∀ scope name value, s.localGet? scope name = some value → value.Within s.count

theorem sound_define (s : Scopes) (scope : Nat) (name : String) (value : Value) (sound : s.Sound)
    (within : value.Within s.count) : (s.define scope name value).Sound where
  earlier := by
    intro inner outer link
    rw [parent_define] at link
    exact sound.earlier inner outer link
  closures := by
    intro inner other found bound
    rw [count_define]
    rw [localGet_define] at bound
    split at bound
    · cases bound
      exact within
    · exact sound.closures inner other found bound

theorem sound_nest (s : Scopes) (parent : Nat) (sound : s.Sound) (opened : parent < s.count) :
    (s.nest parent).2.Sound where
  earlier := s.earlier_nest parent opened sound.earlier
  closures := by
    intro inner name value bound
    rw [localGet_nest] at bound
    rw [count_nest]
    exact Value.within_later s.count _ value (Nat.le_succ _) (sound.closures inner name value bound)

end Scopes

-- Where the scopes of one machine are found in another, and what each scope of the other stands for.
structure Layout where
  place : Nat → Nat
  origin : Nat → Nat

namespace Layout

def identical : Layout := ⟨id, id⟩

def paired (l : Layout) (scope other : Nat) : Layout where
  place := fun i => if i = scope then other else l.place i
  origin := fun i => if i = other then scope else l.origin i

def spaced (l : Layout) (scope other : Nat) : Layout where
  place := l.place
  origin := fun i => if i = other then scope else l.origin i

-- An empty scope that stands for the same as the scope around it.
def Gap (l : Layout) (t : Scopes) (scope : Nat) : Prop :=
  (∀ name, t.localGet? scope name = none) ∧ ∃ outer, t.parent? scope = some outer ∧ l.origin outer = l.origin scope

theorem link_nest (l further : Layout) (t : Scopes) (other scope : Nat) (older : scope < t.count)
    (earlier : ∀ scope outer, t.parent? scope = some outer → outer < scope)
    (same : ∀ scope < t.count, further.origin scope = l.origin scope) :
    ((t.nest other).2.parent? scope).map further.origin = (t.parent? scope).map l.origin := by
  rw [Scopes.parent_nest, if_neg (Nat.ne_of_lt older)]
  refine Option.map_congr fun outer link => ?_
  exact same outer (Nat.lt_trans (earlier scope outer link) older)

theorem gap_nest (l further : Layout) (t : Scopes) (other scope : Nat) (older : scope < t.count)
    (earlier : ∀ scope outer, t.parent? scope = some outer → outer < scope)
    (same : ∀ scope < t.count, further.origin scope = l.origin scope) (gap : l.Gap t scope) :
    further.Gap (t.nest other).2 scope := by
  obtain ⟨empty, outer, outwards, stands⟩ := gap
  refine ⟨?_, outer, ?_, ?_⟩
  · intro name
    rw [Scopes.localGet_nest]
    exact empty name
  · rw [Scopes.parent_nest, if_neg (Nat.ne_of_lt older)]
    exact outwards
  · rw [same outer (Nat.lt_trans (earlier scope outer outwards) older), same scope older]
    exact stands

end Layout

-- The second scopes are the first ones with empty scopes put in between: those that are not the place of
-- what they stand for.
structure Padded (l : Layout) (s t : Scopes) : Prop where
  sound : s.Sound
  earlier : ∀ scope outer, t.parent? scope = some outer → outer < scope
  placed : ∀ scope < s.count, l.place scope < t.count ∧ l.origin (l.place scope) = scope
  origins : ∀ scope < t.count, l.origin scope < s.count
  bindings : ∀ scope < s.count, ∀ name,
    t.localGet? (l.place scope) name = (s.localGet? scope name).map (Value.moved l.place)
  links : ∀ scope < s.count, (t.parent? (l.place scope)).map l.origin = s.parent? scope
  gaps : ∀ scope < t.count, l.place (l.origin scope) ≠ scope → l.Gap t scope

namespace Padded

theorem identical (s : Scopes) (sound : s.Sound) : Padded Layout.identical s s where
  sound := sound
  earlier := sound.earlier
  placed := fun scope opened => ⟨opened, rfl⟩
  origins := fun scope opened => opened
  bindings := by
    intro scope _ name
    have same : Value.moved Layout.identical.place = id := by
      funext value
      cases value with
      | callable target =>
        obtain ⟨_, target⟩ := target
        cases target <;> rfl
      | _ => rfl
    rw [same, Option.map_id]
    rfl
  links := fun scope _ => Option.map_id_apply
  gaps := fun scope _ different => (different rfl).elim

theorem place_injective (l : Layout) (s t : Scopes) (padded : Padded l s t) (first second : Nat) (opened : first < s.count)
    (openedToo : second < s.count) (same : l.place first = l.place second) : first = second := by
  rw [← (padded.placed first opened).2, same, (padded.placed second openedToo).2]

theorem resolve (l : Layout) (s t : Scopes) (padded : Padded l s t) (scope : Nat) (opened : scope < t.count)
    (name : String) : t.resolve scope name = (s.resolve (l.origin scope) name).map l.place := by
  induction scope using Nat.strongRecOn with
  | ind scope ih =>
    have origin := padded.origins scope opened
    by_cases gap : l.place (l.origin scope) = scope
    · have bound := padded.bindings (l.origin scope) origin name
      have link := padded.links (l.origin scope) origin
      rw [gap] at bound link
      rw [Scopes.resolve, Scopes.resolve, bound]
      cases s.localGet? (l.origin scope) name with
      | some value => simp [gap]
      | none =>
        cases outwards : t.parent? scope with
        | none =>
          rw [outwards] at link
          simp [← link]
        | some outer =>
          rw [outwards] at link
          have before := padded.earlier scope outer outwards
          have beforeToo := padded.sound.earlier _ _ link.symm
          have goesOn := ih outer before (Nat.lt_trans before opened)
          simp [← link, before, beforeToo, goesOn]
    · obtain ⟨empty, outer, outwards, same⟩ := padded.gaps scope opened gap
      have before := padded.earlier scope outer outwards
      have goesOn := ih outer before (Nat.lt_trans before opened)
      rw [Scopes.resolve, empty name, outwards]
      simp only [before, if_true, goesOn, same]

theorem get (l : Layout) (s t : Scopes) (padded : Padded l s t) (scope : Nat) (opened : scope < t.count) (name : String)
    (line : Nat) : t.get scope name line = (s.get (l.origin scope) name line).map (Value.moved l.place) := by
  unfold Scopes.get
  rw [padded.resolve l s t scope opened name]
  cases resolved : s.resolve (l.origin scope) name with
  | none => rfl
  | some found =>
    have binds := s.resolve_binds _ name found resolved
    obtain ⟨value, bound⟩ := Option.isSome_iff_exists.1 binds
    have boundToo := padded.bindings found (s.localGet_opened found name value bound) name
    simp [bound, boundToo, Except.map]

theorem define (l : Layout) (s t : Scopes) (padded : Padded l s t) (scope : Nat) (opened : scope < s.count) (name : String)
    (value : Value) (within : value.Within s.count) :
    Padded l (s.define scope name value) (t.define (l.place scope) name (value.moved l.place)) where
  sound := s.sound_define scope name value padded.sound within
  earlier := by
    intro inner outer link
    rw [Scopes.parent_define] at link
    exact padded.earlier inner outer link
  placed := by
    intro other openedOther
    rw [Scopes.count_define] at openedOther ⊢
    exact padded.placed other openedOther
  origins := by
    intro other openedOther
    rw [Scopes.count_define] at openedOther ⊢
    exact padded.origins other openedOther
  bindings := by
    intro other openedOther found
    rw [Scopes.count_define] at openedOther
    have placed := (padded.placed other openedOther).1
    have same : l.place scope = l.place other ↔ scope = other :=
      ⟨padded.place_injective l s t scope other opened openedOther, congrArg l.place⟩
    rw [Scopes.localGet_define, Scopes.localGet_define, padded.bindings other openedOther found]
    simp only [same, placed, openedOther, true_and]
    split <;> rfl
  links := by
    intro other openedOther
    rw [Scopes.count_define] at openedOther
    rw [Scopes.parent_define, Scopes.parent_define]
    exact padded.links other openedOther
  gaps := by
    intro other openedOther gap
    rw [Scopes.count_define] at openedOther
    obtain ⟨empty, outer, outwards, same⟩ := padded.gaps other openedOther gap
    have different : l.place scope ≠ other := by
      rintro rfl
      rw [(padded.placed scope opened).2] at gap
      exact gap rfl
    refine ⟨?_, outer, ?_, same⟩
    · intro found
      rw [Scopes.localGet_define, if_neg fun both => different both.1]
      exact empty found
    · rw [Scopes.parent_define]
      exact outwards

theorem nest (l : Layout) (s t : Scopes) (padded : Padded l s t) (other : Nat) (opened : other < t.count) :
    Padded (l.paired s.count t.count) (s.nest (l.origin other)).2 (t.nest other).2 := by
  have placeOlder : ∀ scope < s.count, (l.paired s.count t.count).place scope = l.place scope :=
    fun scope older => if_neg (Nat.ne_of_lt older)
  have placeNew : (l.paired s.count t.count).place s.count = t.count := if_pos rfl
  have originOlder : ∀ scope < t.count, (l.paired s.count t.count).origin scope = l.origin scope :=
    fun scope older => if_neg (Nat.ne_of_lt older)
  have originNew : (l.paired s.count t.count).origin t.count = s.count := if_pos rfl
  constructor
  · exact s.sound_nest _ padded.sound (padded.origins other opened)
  · exact t.earlier_nest other opened padded.earlier
  · intro scope within
    rw [Scopes.count_nest] at within ⊢
    rcases Nat.lt_succ_iff_lt_or_eq.1 within with older | rfl
    · obtain ⟨placed, back⟩ := padded.placed scope older
      rw [placeOlder scope older, originOlder _ placed]
      exact ⟨Nat.lt_succ_of_lt placed, back⟩
    · rw [placeNew, originNew]
      exact ⟨Nat.lt_succ_self _, rfl⟩
  · intro scope within
    rw [Scopes.count_nest] at within ⊢
    rcases Nat.lt_succ_iff_lt_or_eq.1 within with older | rfl
    · rw [originOlder scope older]
      exact Nat.lt_succ_of_lt (padded.origins scope older)
    · rw [originNew]
      exact Nat.lt_succ_self _
  · intro scope within name
    rw [Scopes.count_nest] at within
    rw [Scopes.localGet_nest, Scopes.localGet_nest]
    rcases Nat.lt_succ_iff_lt_or_eq.1 within with older | rfl
    · rw [placeOlder scope older, padded.bindings scope older name]
      refine Option.map_congr fun value bound => ?_
      have inside := padded.sound.closures scope name value bound
      exact (Value.moved_congr l.place _ s.count value inside placeOlder).symm
    · rw [placeNew, Scopes.localGet?, Scopes.localGet?, Scopes.scope_unopened, Scopes.scope_unopened]
      rfl
  · intro scope within
    rw [Scopes.count_nest] at within
    rcases Nat.lt_succ_iff_lt_or_eq.1 within with older | rfl
    · have placed := (padded.placed scope older).1
      rw [placeOlder scope older, l.link_nest _ t other _ placed padded.earlier originOlder, padded.links scope older,
        Scopes.parent_nest, if_neg (Nat.ne_of_lt older)]
    · rw [placeNew, Scopes.parent_nest, Scopes.parent_nest, if_pos rfl, if_pos rfl, Option.map_some,
        originOlder other opened]
  · intro scope within gap
    rw [Scopes.count_nest] at within
    rcases Nat.lt_succ_iff_lt_or_eq.1 within with older | rfl
    · rw [originOlder scope older, placeOlder _ (padded.origins scope older)] at gap
      exact l.gap_nest _ t other scope older padded.earlier originOlder (padded.gaps scope older gap)
    · rw [originNew, placeNew] at gap
      exact (gap rfl).elim

theorem space (l : Layout) (s t : Scopes) (padded : Padded l s t) (other : Nat) (opened : other < t.count) :
    Padded (l.spaced (l.origin other) t.count) s (t.nest other).2 := by
  have originOlder : ∀ scope < t.count, (l.spaced (l.origin other) t.count).origin scope = l.origin scope :=
    fun scope older => if_neg (Nat.ne_of_lt older)
  have originNew : (l.spaced (l.origin other) t.count).origin t.count = l.origin other := if_pos rfl
  constructor
  · exact padded.sound
  · exact t.earlier_nest other opened padded.earlier
  · intro scope within
    obtain ⟨placed, back⟩ := padded.placed scope within
    rw [Scopes.count_nest]
    exact ⟨Nat.lt_succ_of_lt placed, (originOlder _ placed).trans back⟩
  · intro scope within
    rw [Scopes.count_nest] at within
    rcases Nat.lt_succ_iff_lt_or_eq.1 within with older | rfl
    · rw [originOlder scope older]
      exact padded.origins scope older
    · rw [originNew]
      exact padded.origins other opened
  · intro scope within name
    rw [Scopes.localGet_nest]
    exact padded.bindings scope within name
  · intro scope within
    have placed := (padded.placed scope within).1
    exact (l.link_nest _ t other _ placed padded.earlier originOlder).trans (padded.links scope within)
  · intro scope within gap
    rw [Scopes.count_nest] at within
    rcases Nat.lt_succ_iff_lt_or_eq.1 within with older | rfl
    · rw [originOlder scope older] at gap
      exact l.gap_nest _ t other scope older padded.earlier originOlder (padded.gaps scope older gap)
    · refine ⟨?_, other, ?_, ?_⟩
      · intro name
        rw [Scopes.localGet_nest, Scopes.localGet?, Scopes.scope_unopened]
        rfl
      · rw [Scopes.parent_nest, if_pos rfl]
      · rw [originOlder other opened, originNew]

end Padded

end StoryScript
