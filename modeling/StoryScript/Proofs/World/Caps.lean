import StoryScript.World

set_option autoImplicit false

namespace StoryScript

namespace Number

theorem place_of_ne_nan (a : Number) (number : a ≠ .nan) : ∃ x, a.place = some x := by
  cases a with
  | nan => exact (number rfl).elim
  | infinite negative => exact ⟨_, rfl⟩
  | finite negative units short small => exact ⟨_, rfl⟩

theorem less_places (a b : Number) (x y : Int) (first : a.place = some x) (second : b.place = some y) :
    a.less b = true ↔ x < y := by
  simp [less, compareWith, first, second]

theorem lessEqual_places (a b : Number) (x y : Int) (first : a.place = some x) (second : b.place = some y) :
    a.lessEqual b = true ↔ x ≤ y := by
  simp [lessEqual, compareWith, first, second]

theorem lesser_numbers (a b : Number) (first : a ≠ .nan) (second : b ≠ .nan) :
    a.lesser b = if a.less b = true then a else b := by
  cases a with
  | nan => exact (first rfl).elim
  | infinite negative =>
    cases b with
    | nan => exact (second rfl).elim
    | _ => rfl
  | finite negative units short small =>
    cases b with
    | nan => exact (second rfl).elim
    | _ => rfl

theorem lesser_ne_nan (a b : Number) (first : a ≠ .nan) (second : b ≠ .nan) : a.lesser b ≠ .nan := by
  rw [lesser_numbers a b first second]
  split
  · exact first
  · exact second

theorem lesser_le (a b : Number) (second : b ≠ .nan) : (a.lesser b).lessEqual b = true := by
  obtain ⟨y, placeB⟩ := place_of_ne_nan b second
  by_cases first : a = .nan
  · have same : a.lesser b = b := by rw [first]; rfl
    rw [same]
    exact (lessEqual_places b b y y placeB placeB).2 (Int.le_refl y)
  · obtain ⟨x, placeA⟩ := place_of_ne_nan a first
    rw [lesser_numbers a b first second]
    split
    · rename_i less
      exact (lessEqual_places a b x y placeA placeB).2 (Int.le_of_lt ((less_places a b x y placeA placeB).1 less))
    · exact (lessEqual_places b b y y placeB placeB).2 (Int.le_refl y)

end Number

namespace World

theorem cappedBy_capOf (name : String) : cappedBy (capOf name) = some name := by
  simp [cappedBy, capOf]

theorem capOf_of_cappedBy (name capped : String) (isCap : cappedBy name = some capped) : name = capOf capped := by
  unfold cappedBy at isCap
  split at isCap
  · rename_i rest spelled
    cases isCap
    apply String.toList_inj.1
    rw [spelled]
    simp [capOf]
  · cases isCap

theorem capOf_injective (first second : String) (same : capOf first = capOf second) : first = second := by
  have capped := congrArg cappedBy same
  rw [cappedBy_capOf, cappedBy_capOf] at capped
  exact Option.some.inj capped

theorem ne_capOf (name : String) : name ≠ capOf name := by
  intro same
  have lengths := congrArg String.length same
  simp [capOf, String.length_append] at lengths

theorem plain_ne_cap (name other : String) (plain : cappedBy name = none) : name ≠ capOf other := by
  rintro rfl
  rw [cappedBy_capOf] at plain
  cases plain

def written (stats : Stats) (name : String) (value : Number) : Stats :=
  (lowerCapped stats name value).insert name (storedValue stats name value)

theorem written_plain (stats : Stats) (name : String) (value : Number) (plain : cappedBy name = none) (other : String) :
    (written stats name value).get? other =
      if other = name then some (((stats.get? (capOf name)).map value.lesser).getD value) else stats.get? other := by
  have lowered : lowerCapped stats name value = stats := by simp [lowerCapped, plain]
  have stored : storedValue stats name value = ((stats.get? (capOf name)).map value.lesser).getD value := by
    unfold storedValue
    rw [plain]
    cases stats.get? (capOf name) <;> rfl
  rw [written, lowered, stored, Dictionary.get?_insert]

theorem written_cap (stats : Stats) (capped : String) (value : Number) (other : String) :
    (written stats (capOf capped) value).get? other =
      if other = capOf capped then some value
      else if other = capped then (stats.get? capped).map fun current => current.lesser value
      else stats.get? other := by
  have stored : storedValue stats (capOf capped) value = value := by
    unfold storedValue
    rw [cappedBy_capOf]
  have lowered : (lowerCapped stats (capOf capped) value).get? other =
      if other = capped then (stats.get? capped).map fun current => current.lesser value else stats.get? other := by
    unfold lowerCapped
    rw [cappedBy_capOf]
    cases found : stats.get? capped with
    | none =>
      by_cases same : other = capped
      · simp [same, found]
      · simp [same, found]
    | some current => simp [found]
  rw [written, stored, Dictionary.get?_insert, lowered]

def InOrder (stats : Stats) (name : String) : Prop :=
  ∀ value cap, stats.get? name = some value → stats.get? (capOf name) = some cap → value.lessEqual cap = true

def AllNumbers (stats : Stats) : Prop := ∀ name value, stats.get? name = some value → value ≠ .nan

theorem written_numbers (stats : Stats) (name : String) (value : Number) (numbers : AllNumbers stats)
    (stored : storedValue stats name value ≠ .nan) : AllNumbers (written stats name value) := by
  intro other found has
  by_cases same : other = name
  · subst same
    rw [written, Dictionary.get?_insert_self] at has
    cases has
    exact stored
  · cases isCap : cappedBy name with
    | none =>
      rw [written_plain stats name value isCap, if_neg same] at has
      exact numbers other found has
    | some capped =>
      have spelled := capOf_of_cappedBy name capped isCap
      subst spelled
      have number : value ≠ .nan := by
        simpa [storedValue, cappedBy_capOf] using stored
      rw [written_cap, if_neg same] at has
      split at has
      · obtain ⟨current, before, rfl⟩ := Option.map_eq_some_iff.1 has
        exact Number.lesser_ne_nan current value (numbers capped current before) number
      · exact numbers other found has

theorem inOrder_written_cap (stats : Stats) (capped : String) (value : Number) (number : value ≠ .nan) :
    InOrder (written stats (capOf capped) value) capped := by
  intro low cap has hasCap
  rw [written_cap, if_pos rfl] at hasCap
  cases hasCap
  rw [written_cap, if_neg (ne_capOf capped), if_pos rfl] at has
  obtain ⟨current, _, rfl⟩ := Option.map_eq_some_iff.1 has
  exact Number.lesser_le current value number

theorem inOrder_written_plain (stats : Stats) (name : String) (value : Number) (numbers : AllNumbers stats)
    (plain : cappedBy name = none) : InOrder (written stats name value) name := by
  intro low cap has hasCap
  have different : capOf name ≠ name := fun same => plain_ne_cap name name plain same.symm
  rw [written_plain stats name value plain, if_neg different] at hasCap
  rw [written_plain stats name value plain, if_pos rfl, hasCap] at has
  cases has
  exact Number.lesser_le value cap (numbers (capOf name) cap hasCap)

-- The stats that a character can come to have: only numbers, and a stat that caps nothing is in order as
-- long as its cap has no cap.
structure Settled (stats : Stats) : Prop where
  numbers : AllNumbers stats
  ordered : ∀ name, cappedBy name = none → stats.get? (capOf (capOf name)) = none → InOrder stats name

theorem settled_empty : Settled {} where
  numbers := fun _ _ has => by cases has
  ordered := fun _ _ _ _ _ has _ => by cases has

theorem settled_written (stats : Stats) (name : String) (value : Number) (settled : Settled stats)
    (stored : storedValue stats name value ≠ .nan) : Settled (written stats name value) where
  numbers := written_numbers stats name value settled.numbers stored
  ordered := by
    intro other plain uncapped
    cases isCap : cappedBy name with
    | none =>
      have notCap : ∀ third, capOf third ≠ name := fun third same => plain_ne_cap name third isCap same.symm
      rw [written_plain stats name value isCap, if_neg (notCap _)] at uncapped
      by_cases same : other = name
      · rw [same]
        exact inOrder_written_plain stats name value settled.numbers isCap
      · intro low cap has hasCap
        rw [written_plain stats name value isCap, if_neg same] at has
        rw [written_plain stats name value isCap, if_neg (notCap _)] at hasCap
        exact settled.ordered other plain uncapped low cap has hasCap
    | some capped =>
      have spelled := capOf_of_cappedBy name capped isCap
      subst spelled
      have number : value ≠ .nan := by
        simpa [storedValue, cappedBy_capOf] using stored
      by_cases same : other = capped
      · rw [same]
        exact inOrder_written_cap stats capped value number
      · -- The write touches the cap of another stat only as the cap of that cap, which there is not.
        have capKept : capOf other ≠ capOf capped := fun equal => same (capOf_injective other capped equal)
        have notLowered : capOf other ≠ capped := by
          rintro rfl
          rw [written_cap, if_pos rfl] at uncapped
          cases uncapped
        have above : stats.get? (capOf (capOf other)) = none := by
          have notWritten : capOf (capOf other) ≠ capOf capped := fun equal => notLowered (capOf_injective _ _ equal)
          rw [written_cap, if_neg notWritten] at uncapped
          split at uncapped
          · rename_i equal
            rw [equal]
            exact Option.map_eq_none_iff.1 uncapped
          · exact uncapped
        intro low cap has hasCap
        rw [written_cap, if_neg (plain_ne_cap other capped plain), if_neg same] at has
        rw [written_cap, if_neg capKept, if_neg notLowered] at hasCap
        exact settled.ordered other plain above low cap has hasCap

inductive Reached : World → Prop where
  | start (seed : UInt64) : Reached (ofSeed seed)
  | addItem (w : World) (item : String) (reached : Reached w) : Reached (w.addItem item)
  | removeItem (w : World) (item : String) (reached : Reached w) : Reached (w.removeItem item).2
  | reset (w : World) (reached : Reached w) : Reached w.reset
  | setStat (w : World) (who name : String) (value : Number) (reached : Reached w)
      (number : (w.setStat who name value).1 ≠ .nan) : Reached (w.setStat who name value).2
  | modStat (w : World) (who name : String) (delta : Number) (reached : Reached w)
      (number : (w.modStat who name delta).1 ≠ .nan) : Reached (w.modStat who name delta).2

theorem statsOf_setStat (w : World) (who other name : String) (value : Number) :
    (w.setStat who name value).2.statsOf other =
      if other = who then written (w.statsOf who) name value else w.statsOf other := by
  by_cases same : other = who
  · subst same
    simp [setStat, statsOf, written]
  · simp [setStat, statsOf, same]

theorem settled_setStat (w : World) (who name : String) (value : Number) (settled : ∀ other, Settled (w.statsOf other))
    (number : (w.setStat who name value).1 ≠ .nan) (other : String) :
    Settled ((w.setStat who name value).2.statsOf other) := by
  rw [statsOf_setStat]
  split
  · exact settled_written (w.statsOf who) name value (settled who) number
  · exact settled other

theorem settled_of_reached (w : World) (reached : Reached w) (who : String) : Settled (w.statsOf who) := by
  induction reached generalizing who with
  | start seed => exact settled_empty
  | addItem w item _ ih => exact ih who
  | removeItem w item _ ih => exact ih who
  | reset w _ ih => exact settled_empty
  | setStat w changed name value _ number ih => exact settled_setStat w changed name value ih number who
  | modStat w changed name delta _ number ih => exact settled_setStat w changed name _ ih number who

theorem stat_eq (w : World) (who name : String) : w.stat who name = (w.statsOf who).get? name := by
  unfold stat statsOf
  cases w.stats.get? who with
  | none => rfl
  | some stats => rfl

-- Caps hold for every stat that is no cap itself and whose cap is not capped in turn; and whoever
-- writes a cap finds the stat below it in order right after, even when that stat is a cap.
theorem caps_hold_where_caps_are_uncapped (w : World) (reached : Reached w) (who name : String) :
    (cappedBy name = none → w.stat who (capOf (capOf name)) = none → ∀ value cap, w.stat who name = some value →
      w.stat who (capOf name) = some cap → value.lessEqual cap = true) ∧
    (∀ asked value cap, (w.setStat who (capOf name) asked).1 ≠ .nan →
      (w.setStat who (capOf name) asked).2.stat who name = some value →
      (w.setStat who (capOf name) asked).2.stat who (capOf name) = some cap → value.lessEqual cap = true) := by
  simp only [stat_eq]
  constructor
  · exact (settled_of_reached w reached who).ordered name
  · intro asked value cap number has hasCap
    have stored : asked ≠ .nan := by
      simpa [setStat, storedValue, cappedBy_capOf] using number
    rw [statsOf_setStat, if_pos rfl] at has hasCap
    exact inOrder_written_cap (w.statsOf who) name asked stored value cap has hasCap

def cappedHero : World :=
  (((ofSeed 0).setStat "hero" "MAX_hp" (.ofNat 20)).2.setStat "hero" "hp" (.ofNat 25)).2

theorem cappedHero_reached : Reached cappedHero :=
  .setStat _ _ _ _ (.setStat _ _ _ _ (.start 0) (by decide +kernel)) (by decide +kernel)

theorem capped_health_in_order :
    Reached cappedHero ∧ cappedBy "hp" = none ∧ cappedHero.stat "hero" (capOf (capOf "hp")) = none ∧
      cappedHero.stat "hero" "hp" = some (.ofNat 20) ∧ cappedHero.stat "hero" (capOf "hp") = some (.ofNat 20) ∧
      (Number.ofNat 20).lessEqual (.ofNat 20) = true := by
  have plain : cappedBy "hp" = none := by decide +kernel
  have uncapped : cappedHero.stat "hero" (capOf (capOf "hp")) = none := by decide +kernel
  have has : cappedHero.stat "hero" "hp" = some (.ofNat 20) := by decide +kernel
  have hasCap : cappedHero.stat "hero" (capOf "hp") = some (.ofNat 20) := by decide +kernel
  exact ⟨cappedHero_reached, plain, uncapped, has, hasCap,
    (caps_hold_where_caps_are_uncapped cappedHero cappedHero_reached "hero" "hp").1 plain uncapped _ _ has hasCap⟩

def overcappedHero : World :=
  (((ofSeed 0).setStat "hero" "MAX_MAX_hp" (.ofNat 5)).2.setStat "hero" "MAX_hp" (.ofNat 10)).2

-- A cap is written as it is asked for, also above the cap that it has itself.
theorem caps_escape_their_own_caps :
    ¬ ∀ w, Reached w → ∀ who name value cap, w.stat who name = some value → w.stat who (capOf name) = some cap →
      value.lessEqual cap = true := by
  intro always
  have reached : Reached overcappedHero :=
    .setStat _ _ _ _ (.setStat _ _ _ _ (.start 0) (by decide +kernel)) (by decide +kernel)
  have has : overcappedHero.stat "hero" "MAX_hp" = some (.ofNat 10) := by decide +kernel
  have hasCap : overcappedHero.stat "hero" (capOf "MAX_hp") = some (.ofNat 5) := by decide +kernel
  have above : (Number.ofNat 10).lessEqual (.ofNat 5) = false := by decide +kernel
  have below := always overcappedHero reached "hero" "MAX_hp" _ _ has hasCap
  rw [above] at below
  cases below

end World

end StoryScript
