import Mathlib.Data.FinEnum
import Mathlib.Order.Interval.Finset.Nat
import StoryScript.World
import StoryScript.Proofs.Random.Wrapping

set_option autoImplicit false

namespace StoryScript

namespace Random

theorem given_every (low high : Int64) (every : span low high = 0) (word : UInt64) :
    given? low high word = some word.toInt64 := if_pos every

theorem between_every (low high : Int64) (ordered : low ≤ high) (every : span low high = 0) (rounds : Nat)
    (g : Generator) : between rounds low.toInt high.toInt g = some (g.word.toInt64.toInt, g.next) := by
  have all : (high.toInt - low.toInt + 1).toNat = words := (span_eq_zero low high ordered).1 every
  have signed : g.word.toInt64.toInt = _ := BitVec.toInt_eq_toNat_bmod g.word.toBitVec
  rw [signed]
  exact if_pos all

theorem between_draw (low high : Int64) (ordered : low ≤ high) (fewer : span low high ≠ 0) (rounds : Nat)
    (g : Generator) : between rounds low.toInt high.toInt g =
      (draw rounds (spanSize low high) g).map fun drawn => (low.toInt + drawn.1, drawn.2) := by
  have size : ¬ (high.toInt - low.toInt + 1).toNat = words := mt (span_eq_zero low high ordered).2 fewer
  exact if_neg size

theorem between_round (low high : Int64) (ordered : low ≤ high) (rounds : Nat) (g : Generator) :
    between (rounds + 1) low.toInt high.toInt g =
      match given? low high g.word with
      | some value => some (value.toInt, g.next)
      | none => between rounds low.toInt high.toInt g.next := by
  by_cases every : span low high = 0
  · rw [between_every low high ordered every, given_every low high every]
  · have given := given_pick low high ordered every g.word
    rw [between_draw low high ordered every, between_draw low high ordered every, draw]
    cases picked : pick? (spanSize low high) g.word.toNat with
    | none =>
      rw [picked] at given
      rw [Option.map_eq_none_iff.1 given]
    | some offset =>
      rw [picked] at given
      obtain ⟨value, found, same⟩ := Option.map_eq_some_iff.1 given
      rw [found]
      exact congrArg some (congrArg (·, g.next) same.symm)

def Generator.skip (g : Generator) (count : Nat) : Generator := { g with taken := g.taken + count }

theorem Generator.skip_next (g : Generator) (count : Nat) : g.next.skip count = g.skip (count + 1) := by
  rw [skip, skip, next, Nat.add_assoc, Nat.add_comm 1]

-- The first word of a stream that gives a number comes after `passed` words that give none.
structure FirstGiven (low high : Int64) (g : Generator) (passed : Nat) (value : Int64) : Prop where
  nothing : ∀ k, k < passed → given? low high (g.skip k).word = none
  given : given? low high (g.skip passed).word = some value

theorem first_here (low high : Int64) (g : Generator) (passed : Nat) (found value : Int64)
    (given : given? low high g.word = some found) :
    FirstGiven low high g passed value ↔ passed = 0 ∧ value = found := by
  constructor
  · intro first
    cases passed with
    | zero => exact ⟨rfl, Option.some.inj (first.given.symm.trans given)⟩
    | succ passed => cases given.symm.trans (first.nothing 0 (Nat.succ_pos passed))
  · rintro ⟨rfl, rfl⟩
    exact ⟨fun k before => absurd before (Nat.not_lt_zero k), given⟩

theorem first_later (low high : Int64) (g : Generator) (passed : Nat) (value : Int64)
    (nothing : given? low high g.word = none) :
    FirstGiven low high g (passed + 1) value ↔ FirstGiven low high g.next passed value := by
  constructor
  · intro first
    refine ⟨fun k before => ?_, ?_⟩
    · rw [Generator.skip_next]
      exact first.nothing (k + 1) (Nat.succ_lt_succ before)
    · rw [Generator.skip_next]
      exact first.given
  · intro first
    refine ⟨fun k before => ?_, ?_⟩
    · cases k with
      | zero => exact nothing
      | succ k =>
        rw [← Generator.skip_next]
        exact first.nothing k (Nat.lt_of_succ_lt_succ before)
    · rw [← Generator.skip_next]
      exact first.given

theorem ends_here (low high : Int64) (rounds : Nat) (g after : Generator) (found value : Int64)
    (given : given? low high g.word = some found) :
    some (found.toInt, g.next) = some (value.toInt, after) ↔
      ∃ passed, passed ≤ rounds ∧ FirstGiven low high g passed value ∧ after = g.skip (passed + 1) := by
  constructor
  · intro same
    obtain ⟨number, rfl⟩ := Prod.mk.inj (Option.some.inj same)
    have first := (first_here low high g 0 found value given).2 ⟨rfl, Int64.toInt_inj.1 number.symm⟩
    exact ⟨0, Nat.zero_le rounds, first, rfl⟩
  · rintro ⟨passed, -, first, rfl⟩
    obtain ⟨rfl, rfl⟩ := (first_here low high g passed found value given).1 first
    rfl

-- Drawing goes along the stream to the first word that gives a number, and takes that number. By induction on the
-- rounds left: a word that gives none takes one round and moves the stream on by one.
theorem between_first (low high : Int64) (ordered : low ≤ high) (rounds : Nat) (g after : Generator) (value : Int64) :
    between (rounds + 1) low.toInt high.toInt g = some (value.toInt, after) ↔
      ∃ passed, passed ≤ rounds ∧ FirstGiven low high g passed value ∧ after = g.skip (passed + 1) := by
  induction rounds generalizing g with
  | zero =>
    rw [between_round low high ordered]
    cases given : given? low high g.word with
    | some found => exact ends_here low high 0 g after found value given
    | none =>
      have fewer : span low high ≠ 0 := by
        intro every
        cases given.symm.trans (given_every low high every g.word)
      rw [between_draw low high ordered fewer]
      constructor
      · intro drawn
        cases drawn
      · rintro ⟨passed, few, first, -⟩
        cases Nat.le_zero.1 few
        cases given.symm.trans first.given
  | succ rounds ih =>
    rw [between_round low high ordered]
    cases given : given? low high g.word with
    | some found => exact ends_here low high (rounds + 1) g after found value given
    | none =>
      dsimp only
      rw [ih g.next]
      constructor
      · rintro ⟨passed, few, first, rfl⟩
        exact ⟨passed + 1, Nat.succ_le_succ few, (first_later low high g passed value given).2 first, g.skip_next _⟩
      · rintro ⟨passed, few, first, rfl⟩
        cases passed with
        | zero => cases given.symm.trans first.given
        | succ passed =>
          exact ⟨passed, Nat.le_of_succ_le_succ few, (first_later low high g passed value given).1 first,
            (g.skip_next _).symm⟩

theorem given_range (low high : Int64) (ordered : low ≤ high) (word : UInt64) (value : Int64)
    (given : given? low high word = some value) : low ≤ value ∧ value ≤ high := by
  rw [Int64.le_iff_toInt_le, Int64.le_iff_toInt_le]
  by_cases every : span low high = 0
  · have all := (span_eq_zero low high ordered).1 every
    have lowest := low.le_toInt
    have highest := high.toInt_lt
    have least := value.le_toInt
    have most := value.toInt_lt
    rw [spanSize, words_eq] at all
    omega
  · have picks := given_pick low high ordered every word
    rw [given] at picks
    obtain ⟨offset, picked, same⟩ := Option.map_eq_some_iff.1 picks.symm
    have inside := pick_lt _ _ offset (spanSize_bounds low high ordered).1 word.toNat_lt picked
    rw [spanSize] at inside
    omega

theorem given_iff (low high : Int64) (ordered : low ≤ high) (fewer : span low high ≠ 0) (value : Int64)
    (above : low ≤ value) (word : UInt64) :
    given? low high word = some value ↔
      pick? (spanSize low high) word.toNat = some (value.toInt - low.toInt).toNat := by
  have picks := given_pick low high ordered fewer word
  have distance := Int64.le_iff_toInt_le.1 above
  constructor
  · intro given
    rw [given] at picks
    obtain ⟨offset, picked, same⟩ := Option.map_eq_some_iff.1 picks.symm
    rw [picked, ← same]
    congr 1
    omega
  · intro picked
    rw [picked, Option.map_some] at picks
    obtain ⟨found, given, same⟩ := Option.map_eq_some_iff.1 picks
    rw [given, Option.some.injEq, ← Int64.toInt_inj, same]
    omega

def sources (low high value : Int64) : Finset UInt64 :=
  Finset.univ.filter fun word => given? low high word = some value

theorem sources_every (low high value : Int64) (every : span low high = 0) :
    sources low high value = {value.toUInt64} := by
  ext word
  rw [sources, Finset.mem_filter, Finset.mem_singleton, given_every low high every word, Option.some.injEq]
  constructor
  · rintro ⟨-, rfl⟩
    rfl
  · rintro rfl
    exact ⟨Finset.mem_univ _, rfl⟩

theorem sources_numbers (low high value : Int64) (above : low ≤ value) (below : value ≤ high)
    (fewer : span low high ≠ 0) : ∃ first,
      (sources low high value).image UInt64.toNat =
        Finset.Ico first (first + Nat.pow 2 (leadingZeros (spanSize low high))) := by
  have ordered := Int64.le_trans above below
  have fits := (span_exact low high ordered fewer).2
  have positive := (spanSize_bounds low high ordered).1
  have inside : (value.toInt - low.toInt).toNat < spanSize low high := by
    have lower := Int64.le_iff_toInt_le.1 above
    have upper := Int64.le_iff_toInt_le.1 below
    rw [spanSize]
    omega
  refine ⟨firstSource (spanSize low high) (value.toInt - low.toInt).toNat, ?_⟩
  ext number
  rw [Finset.mem_Ico, ← pick_sources _ number _ positive fits, Finset.mem_image]
  constructor
  · rintro ⟨word, source, rfl⟩
    exact (given_iff low high ordered fewer value above word).1 (Finset.mem_filter.1 source).2
  · intro picked
    have word := source_lt _ number _ positive fits inside picked
    have same : (UInt64.ofNat number).toNat = number := UInt64.toNat_ofNat_of_lt word
    refine ⟨.ofNat number, Finset.mem_filter.2 ⟨Finset.mem_univ _, ?_⟩, same⟩
    rw [given_iff low high ordered fewer value above, same, picked]

-- Each integer of a range comes from as many words: from one when the range is that of all, and else from the power
-- of two that moves the span up to the highest bit.
theorem sources_card (low high value : Int64) (above : low ≤ value) (below : value ≤ high) :
    (sources low high value).card = if span low high = 0 then 1 else 2 ^ (span low high).toBitVec.clz.toNat := by
  by_cases every : span low high = 0
  · rw [if_pos every, sources_every low high value every, Finset.card_singleton]
  · have exact := (span_exact low high (Int64.le_trans above below) every).1
    obtain ⟨first, numbers⟩ := sources_numbers low high value above below every
    have injective : Function.Injective UInt64.toNat := fun x y => UInt64.toNat_inj.1
    rw [if_neg every, ← Finset.card_image_of_injective _ injective, numbers, Nat.card_Ico, Nat.add_sub_cancel_left,
      clz_leadingZeros _ every, exact]
    rfl

theorem sources_outside (low high value : Int64) (ordered : low ≤ high)
    (outside : ¬ (low ≤ value ∧ value ≤ high)) : sources low high value = ∅ :=
  Finset.filter_eq_empty_iff.2 fun word _ given => outside (given_range low high ordered word value given)

end Random

namespace World

open StoryScript.Random

-- Dice thrown between two 64-bit integers give an integer of that range, whatever their state. They go along the
-- stream of words to the first one that gives an integer, and of all words just as many give each integer of the
-- range, and none any other integer.
theorem dice_are_fair (low high : Int64) (ordered : low ≤ high) :
    (∀ (rounds : Nat) (w after : World) (value : Int),
      w.randomInt rounds low.toInt high.toInt = some (value, after) →
        low.toInt ≤ value ∧ value ≤ high.toInt) ∧
    (∀ (rounds : Nat) (w after : World) (value : Int64),
      w.randomInt (rounds + 1) low.toInt high.toInt = some (value.toInt, after) ↔
        ∃ passed, passed ≤ rounds ∧ FirstGiven low high w.generator passed value ∧
          after = { w with generator := w.generator.skip (passed + 1) }) ∧
    (∀ value, low ≤ value → value ≤ high → (sources low high value).card =
      if span low high = 0 then 1 else 2 ^ (span low high).toBitVec.clz.toNat) ∧
    ∀ value, ¬ (low ≤ value ∧ value ≤ high) → sources low high value = ∅ := by
  refine ⟨?_, ?_, sources_card low high, fun value => sources_outside low high value ordered⟩
  · intro rounds w after value drawn
    obtain ⟨⟨found, generator⟩, between, same⟩ := Option.map_eq_some_iff.1 drawn
    obtain ⟨rfl, -⟩ := Prod.mk.inj same
    exact between_range rounds low.toInt high.toInt w.generator generator _ low.le_toInt high.toInt_lt
      (Int64.le_iff_toInt_le.1 ordered) between
  · intro rounds w after value
    constructor
    · intro drawn
      obtain ⟨⟨found, generator⟩, between, same⟩ := Option.map_eq_some_iff.1 drawn
      obtain ⟨rfl, rfl⟩ := Prod.mk.inj same
      obtain ⟨passed, few, first, rfl⟩ :=
        (between_first low high ordered rounds w.generator generator value).1 between
      exact ⟨passed, few, first, rfl⟩
    · rintro ⟨passed, few, first, rfl⟩
      exact Option.map_eq_some_iff.2
        ⟨_, (between_first low high ordered rounds w.generator _ value).2 ⟨passed, few, first, rfl⟩, rfl⟩

theorem die_and_wide_range_are_fair :
    ((1 : Int64) ≤ 6 ∧ (sources 1 6 1).card = 2305843009213693952 ∧ (sources 1 6 6).card = 2305843009213693952 ∧
      sources 1 6 7 = ∅) ∧
    (Int64.minValue ≤ 1 ∧ (sources Int64.minValue 1 Int64.minValue).card = 1 ∧
      (sources Int64.minValue 1 1).card = 1 ∧ sources Int64.minValue 1 2 = ∅) := by
  have die := (dice_are_fair 1 6 (by decide)).2.2
  have wide := (dice_are_fair Int64.minValue 1 (by decide)).2.2
  refine ⟨⟨by decide, ?_, ?_, die.2 7 (by decide)⟩, ⟨by decide, ?_, ?_, wide.2 2 (by decide)⟩⟩
  · exact (die.1 1 (by decide) (by decide)).trans (by decide)
  · exact (die.1 6 (by decide) (by decide)).trans (by decide)
  · exact (wide.1 _ (by decide) (by decide)).trans (by decide)
  · exact (wide.1 1 (by decide) (by decide)).trans (by decide)

end World

end StoryScript
