import Mathlib.Data.List.Induction
import StoryScript.Proofs.World.Caps

set_option autoImplicit false

namespace StoryScript.World

inductive Deed where
  | setStat (who name : String) (value : Number)
  | modStat (who name : String) (delta : Number)
  | addItem (item : String)
  | removeItem (item : String)
  | reset

namespace Deed

def perform (w : World) : Deed → World
  | .setStat who name value => (w.setStat who name value).2
  | .modStat who name delta => (w.modStat who name delta).2
  | .addItem item => w.addItem item
  | .removeItem item => (w.removeItem item).2
  | .reset => w.reset

def Writes (who name : String) : Deed → Prop
  | .setStat other stat _ => other = who ∧ stat = name
  | .modStat other stat _ => other = who ∧ stat = name
  | _ => False

def asked? (who name : String) (w : World) : Deed → Option Number
  | .setStat other stat value => if other = who ∧ stat = name then some value else none
  | .modStat other stat delta =>
    if other = who ∧ stat = name then some (((w.stat who name).getD .zero).add delta) else none
  | _ => none

theorem asked_of_writes (who name : String) (w : World) (deed : Deed) (writes : deed.Writes who name) :
    ∃ asked, deed.asked? who name w = some asked := by
  cases deed with
  | setStat other stat value => exact ⟨value, if_pos writes⟩
  | modStat other stat delta => exact ⟨_, if_pos writes⟩
  | _ => exact writes.elim

theorem asked_none (who name : String) (w : World) (deed : Deed) (unwritten : ¬ deed.Writes who name) :
    deed.asked? who name w = none := by
  cases deed with
  | setStat other stat value => exact if_neg unwritten
  | modStat other stat delta => exact if_neg unwritten
  | _ => rfl

theorem perform_asked (who name : String) (w : World) (deed : Deed) (asked : Number)
    (asks : deed.asked? who name w = some asked) : deed.perform w = (w.setStat who name asked).2 := by
  cases deed with
  | setStat other stat value =>
    obtain ⟨⟨rfl, rfl⟩, same⟩ := Option.ite_none_right_eq_some.1 asks
    cases same
    rfl
  | modStat other stat delta =>
    obtain ⟨⟨rfl, rfl⟩, same⟩ := Option.ite_none_right_eq_some.1 asks
    cases same
    rfl
  | _ => cases asks

end Deed

def after (w : World) (deeds : List Deed) : World := deeds.foldl (fun w deed => deed.perform w) w

def askedAll (who name : String) : World → List Deed → List Number
  | _, [] => []
  | w, deed :: rest => (deed.asked? who name w).toList ++ askedAll who name (deed.perform w) rest

def underCap (w : World) (who name : String) (asked : Number) : Number :=
  match w.stat who (capOf name) with
  | some cap => asked.lesser cap
  | none => asked

theorem stat_setStat (w : World) (who name : String) (value : Number) (other stat : String) :
    (w.setStat who name value).2.stat other stat =
      if other = who then (written (w.statsOf who) name value).get? stat else w.stat other stat := by
  rw [stat_eq, statsOf_setStat, stat_eq]
  split <;> rfl

theorem stat_after_setStat (w : World) (who name : String) (value : Number) :
    (w.setStat who name value).2.stat who name = some (w.setStat who name value).1 := by
  rw [stat_setStat, if_pos rfl, written, Dictionary.get?_insert_self]
  rfl

theorem stat_asked (w : World) (who name : String) (plain : ∀ other, name ≠ capOf other) (deed : Deed) (asked : Number)
    (asks : deed.asked? who name w = some asked) :
    (deed.perform w).stat who name = some (w.underCap who name asked) := by
  have noCap : cappedBy name = none := by
    cases isCap : cappedBy name with
    | none => rfl
    | some capped => exact (plain capped (capOf_of_cappedBy name capped isCap)).elim
  rw [deed.perform_asked who name w asked asks, stat_setStat, if_pos rfl, written_plain _ name asked noCap, if_pos rfl,
    underCap, stat_eq]
  cases (w.statsOf who).get? (capOf name) <;> rfl

theorem stat_capped (w : World) (who name : String) (deed : Deed) (cap : Number)
    (asks : deed.asked? who (capOf name) w = some cap) :
    (deed.perform w).stat who name = (w.stat who name).map fun value => value.lesser cap := by
  rw [deed.perform_asked who (capOf name) w cap asks, stat_setStat, if_pos rfl, written_cap, if_neg (ne_capOf name),
    if_pos rfl, stat_eq]

theorem stat_setStat_elsewhere (w : World) (who name changed stat : String) (value : Number)
    (notThis : ¬ (changed = who ∧ stat = name)) (notCap : ¬ (changed = who ∧ stat = capOf name)) :
    (w.setStat changed stat value).2.stat who name = w.stat who name := by
  rw [stat_setStat]
  by_cases same : who = changed
  · subst same
    have different : name ≠ stat := fun equal => notThis ⟨rfl, equal.symm⟩
    rw [if_pos rfl, stat_eq]
    cases isCap : cappedBy stat with
    | none => rw [written_plain _ stat value isCap, if_neg different]
    | some capped =>
      have spelled := capOf_of_cappedBy stat capped isCap
      subst spelled
      have notCapped : name ≠ capped := fun equal => notCap ⟨rfl, congrArg capOf equal.symm⟩
      rw [written_cap, if_neg different, if_neg notCapped]
  · rw [if_neg same]

theorem stat_untouched (w : World) (who name : String) (deed : Deed) (noReset : deed ≠ .reset)
    (notThis : ¬ deed.Writes who name) (notCap : ¬ deed.Writes who (capOf name)) :
    (deed.perform w).stat who name = w.stat who name := by
  cases deed with
  | setStat changed stat value => exact stat_setStat_elsewhere w who name changed stat value notThis notCap
  | modStat changed stat delta => exact stat_setStat_elsewhere w who name changed stat _ notThis notCap
  | addItem item => rfl
  | removeItem item => rfl
  | reset => exact (noReset rfl).elim

theorem stat_follows_caps (w : World) (who name : String) (rest : List Deed)
    (quiet : ∀ later ∈ rest, later ≠ .reset ∧ ¬ later.Writes who name) :
    (w.after rest).stat who name =
      (w.stat who name).map fun value => (askedAll who (capOf name) w rest).foldl Number.lesser value := by
  induction rest generalizing w with
  | nil => exact Option.map_id_apply.symm
  | cons deed rest ih =>
    obtain ⟨⟨noReset, notThis⟩, others⟩ := List.forall_mem_cons.1 quiet
    have goesOn := ih (deed.perform w) others
    by_cases caps : deed.Writes who (capOf name)
    · obtain ⟨cap, asks⟩ := deed.asked_of_writes who (capOf name) w caps
      rw [stat_capped w who name deed cap asks, Option.map_map] at goesOn
      rw [askedAll, asks]
      exact goesOn
    · rw [stat_untouched w who name deed noReset notThis caps] at goesOn
      rw [askedAll, deed.asked_none who (capOf name) w caps]
      exact goesOn

-- A stat has been written, and not everything was forgotten since.
def WrittenSince (who name : String) (deeds : List Deed) : Prop :=
  ∃ before deed rest, deeds = before ++ deed :: rest ∧ deed.Writes who name ∧ .reset ∉ rest

-- The last write of a stat, with nothing forgotten since.
structure LastWrite (who name : String) (deeds before : List Deed) (deed : Deed) (rest : List Deed) : Prop where
  split : deeds = before ++ deed :: rest
  writes : deed.Writes who name
  quiet : ∀ later ∈ rest, later ≠ .reset ∧ ¬ later.Writes who name

theorem writtenSince_concat (who name : String) (deeds : List Deed) (last : Deed) :
    WrittenSince who name (deeds ++ [last]) ↔
      last.Writes who name ∨ last ≠ .reset ∧ WrittenSince who name deeds := by
  constructor
  · rintro ⟨before, deed, rest, split, writes, kept⟩
    rcases List.eq_nil_or_concat rest with rfl | ⟨rest, other, rfl⟩
    · obtain ⟨_, same⟩ := List.append_inj' split rfl
      cases same
      exact Or.inl writes
    · rw [List.concat_eq_append, ← List.cons_append, ← List.append_assoc] at split
      obtain ⟨shorter, same⟩ := List.append_inj' split rfl
      cases same
      simp only [List.concat_eq_append, List.mem_append, List.mem_singleton, not_or] at kept
      exact Or.inr ⟨fun isReset => kept.2 isReset.symm, before, deed, rest, shorter, writes, kept.1⟩
  · rintro (writes | ⟨noReset, before, deed, rest, rfl, writes, kept⟩)
    · exact ⟨deeds, last, [], rfl, writes, List.not_mem_nil⟩
    · refine ⟨before, deed, rest ++ [last], by simp, writes, ?_⟩
      simp only [List.mem_append, List.mem_singleton, not_or]
      exact ⟨kept, fun isReset => noReset isReset.symm⟩

theorem lastWrite_exists (who name : String) (deeds : List Deed) (written : WrittenSince who name deeds) :
    ∃ before deed rest, LastWrite who name deeds before deed rest := by
  induction deeds using List.reverseRecOn with
  | nil =>
    obtain ⟨before, deed, rest, split, _⟩ := written
    simp at split
  | append_singleton deeds last ih =>
    by_cases writes : last.Writes who name
    · exact ⟨deeds, last, [], rfl, writes, by simp⟩
    · obtain ⟨noReset, earlier⟩ := ((writtenSince_concat who name deeds last).1 written).resolve_left writes
      obtain ⟨before, deed, rest, split, writes', quiet⟩ := ih earlier
      refine ⟨before, deed, rest ++ [last], by simp [split], writes', ?_⟩
      rw [List.forall_mem_append]
      exact ⟨quiet, List.forall_mem_singleton.2 ⟨noReset, writes⟩⟩

theorem after_concat (w : World) (deeds : List Deed) (last : Deed) :
    w.after (deeds ++ [last]) = last.perform (w.after deeds) := by
  rw [after, List.foldl_append]
  rfl

theorem stat_none_iff (seed : UInt64) (deeds : List Deed) (who name : String) (plain : ∀ other, name ≠ capOf other) :
    ((ofSeed seed).after deeds).stat who name = none ↔ ¬ WrittenSince who name deeds := by
  induction deeds using List.reverseRecOn with
  | nil =>
    refine iff_of_true rfl ?_
    rintro ⟨before, deed, rest, split, _⟩
    simp at split
  | append_singleton deeds last ih =>
    rw [after_concat, writtenSince_concat]
    by_cases writes : last.Writes who name
    · obtain ⟨asked, asks⟩ := last.asked_of_writes who name ((ofSeed seed).after deeds) writes
      rw [stat_asked _ who name plain last asked asks]
      simp [writes]
    by_cases isReset : last = .reset
    · subst isReset
      exact iff_of_true rfl (by simp [writes])
    simp only [writes, isReset, ne_eq, not_false_eq_true, true_and, false_or, ← ih]
    by_cases caps : last.Writes who (capOf name)
    · obtain ⟨cap, asks⟩ := last.asked_of_writes who (capOf name) ((ofSeed seed).after deeds) caps
      rw [stat_capped _ who name last cap asks]
      exact Option.map_eq_none_iff
    · rw [stat_untouched _ who name last isReset writes caps]

-- The value since the last write: what was asked for then, under the cap of that time and every cap written later.
theorem stat_since_lastWrite (w : World) (deeds : List Deed) (who name : String) (plain : ∀ other, name ≠ capOf other)
    (before : List Deed) (deed : Deed) (rest : List Deed) (lastly : LastWrite who name deeds before deed rest) :
    ∃ asked, deed.asked? who name (w.after before) = some asked ∧
      (w.after deeds).stat who name = some ((askedAll who (capOf name) (w.after (before ++ [deed])) rest).foldl
        Number.lesser ((w.after before).underCap who name asked)) := by
  obtain ⟨asked, asks⟩ := deed.asked_of_writes who name (w.after before) lastly.writes
  have joined : w.after deeds = (w.after (before ++ [deed])).after rest := by
    rw [lastly.split, List.append_cons]
    exact List.foldl_append
  refine ⟨asked, asks, ?_⟩
  rw [joined, stat_follows_caps _ who name rest lastly.quiet, after_concat, stat_asked _ who name plain deed asked asks]
  rfl

-- A stat that caps nothing is told by what was done to it and to its cap: it is there when it was written and not
-- forgotten since, and it is then the least of what its last write asked for, the cap of that time and the caps
-- written later. Every write gives back what is stored, and nothing else that is done changes the stat.
theorem stat_follows_its_history (seed : UInt64) (deeds : List Deed) (who name : String)
    (plain : ∀ other, name ≠ capOf other) :
    (((ofSeed seed).after deeds).stat who name = none ↔ ¬ WrittenSince who name deeds) ∧
    (WrittenSince who name deeds → ∃ before deed rest asked, LastWrite who name deeds before deed rest ∧
      deed.asked? who name ((ofSeed seed).after before) = some asked ∧
      ((ofSeed seed).after deeds).stat who name =
        some ((askedAll who (capOf name) ((ofSeed seed).after (before ++ [deed])) rest).foldl Number.lesser
          (((ofSeed seed).after before).underCap who name asked))) ∧
    (∀ (w : World) (stat : String) (value : Number),
      (w.setStat who stat value).2.stat who stat = some (w.setStat who stat value).1 ∧
      (w.modStat who stat value).2.stat who stat = some (w.modStat who stat value).1 ∧
      (w.setStat who (capOf stat) value).1 = value) ∧
    ∀ (w : World) (deed : Deed), deed ≠ .reset → ¬ deed.Writes who name → ¬ deed.Writes who (capOf name) →
      (deed.perform w).stat who name = w.stat who name := by
  refine ⟨stat_none_iff seed deeds who name plain, ?_, ?_, ?_⟩
  · intro written
    obtain ⟨before, deed, rest, lastly⟩ := lastWrite_exists who name deeds written
    obtain ⟨asked, asks, value⟩ := stat_since_lastWrite (ofSeed seed) deeds who name plain before deed rest lastly
    exact ⟨before, deed, rest, asked, lastly, asks, value⟩
  · intro w stat value
    refine ⟨stat_after_setStat w who stat value, stat_after_setStat w who stat _, ?_⟩
    simp [setStat, storedValue, cappedBy_capOf]
  · exact fun w deed noReset notThis notCap => stat_untouched w who name deed noReset notThis notCap

def tiredHero : List Deed :=
  [.setStat "hero" "hp" (.ofNat 3), .reset, .setStat "hero" "MAX_hp" (.ofNat 20), .modStat "hero" "hp" (.ofNat 25),
    .setStat "hero" "MAX_MAX_hp" (.ofNat 1), .setStat "hero" "MAX_hp" (.ofNat 12), .setStat "goblin" "hp" (.ofNat 7),
    .setStat "hero" "MAX_hp" (.ofNat 30)]

theorem tiredHero_keeps_the_lowest_cap :
    (∀ other, "hp" ≠ capOf other) ∧ WrittenSince "hero" "hp" tiredHero ∧
      ((ofSeed 0).after tiredHero).stat "hero" "hp" = some (.ofNat 12) ∧
      ∃ before deed rest asked, LastWrite "hero" "hp" tiredHero before deed rest ∧
        deed.asked? "hero" "hp" ((ofSeed 0).after before) = some asked ∧
        some (.ofNat 12) = some ((askedAll "hero" "MAX_hp" ((ofSeed 0).after (before ++ [deed])) rest).foldl Number.lesser
          (((ofSeed 0).after before).underCap "hero" "hp" asked)) := by
  have plain : ∀ other, "hp" ≠ capOf other := fun other => plain_ne_cap "hp" other (by decide +kernel)
  have written : WrittenSince "hero" "hp" tiredHero := ⟨tiredHero.take 3, _, _, rfl, ⟨rfl, rfl⟩, by simp⟩
  have value : ((ofSeed 0).after tiredHero).stat "hero" "hp" = some (.ofNat 12) := by decide +kernel
  obtain ⟨before, deed, rest, asked, lastly, asks, follows⟩ :=
    (stat_follows_its_history 0 tiredHero "hero" "hp" plain).2.1 written
  exact ⟨plain, written, value, before, deed, rest, asked, lastly, asks, value.symm.trans follows⟩

end StoryScript.World
