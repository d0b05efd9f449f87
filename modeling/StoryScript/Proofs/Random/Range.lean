import Mathlib.Algebra.Order.Floor.Div
import StoryScript.Random.Range

set_option autoImplicit false

namespace StoryScript.Random

theorem words_eq : words = 18446744073709551616 := rfl

theorem words_pos : 0 < words := Nat.two_pow_pos 64

theorem pick_lt (size word offset : Nat) (positive : 0 < size) (below : word < words)
    (picked : pick? size word = some offset) : offset < size := by
  unfold pick? at picked
  split at picked
  · cases picked
    rw [Nat.div_lt_iff_lt_mul words_pos, Nat.mul_comm size]
    exact Nat.mul_lt_mul_of_pos_right below positive
  · cases picked

theorem shift_pos (size : Nat) : 0 < Nat.pow 2 (leadingZeros size) := Nat.two_pow_pos _

theorem shifted_lt (size : Nat) (positive : 0 < size) (fits : size < words) :
    size * Nat.pow 2 (leadingZeros size) < words := by
  have top : size.log2 < 64 := (Nat.log2_lt (by omega)).2 fits
  have full : size.log2 + 1 + (63 - size.log2) = 64 := by omega
  calc
    size * Nat.pow 2 (leadingZeros size) < Nat.pow 2 (size.log2 + 1) * Nat.pow 2 (63 - size.log2) :=
      Nat.mul_lt_mul_of_pos_right Nat.lt_log2_self (shift_pos size)
    _ = Nat.pow 2 (size.log2 + 1 + (63 - size.log2)) := (Nat.pow_add 2 _ _).symm
    _ = words := by rw [full]; rfl

-- The products that give an offset are those in the first part, as long as the zone, of the words' span for it.
theorem pick_iff (size word offset : Nat) (positive : 0 < size) (fits : size < words) :
    pick? size word = some offset ↔
      offset * words ≤ word * size ∧ word * size < offset * words + size * Nat.pow 2 (leadingZeros size) := by
  have least : 0 < size * Nat.pow 2 (leadingZeros size) := Nat.mul_pos positive (shift_pos size)
  have most := shifted_lt size positive fits
  unfold pick? zone
  rw [Option.ite_none_right_eq_some, Option.some.injEq]
  generalize size * Nat.pow 2 (leadingZeros size) = length at *
  rw [words_eq] at *
  omega

def firstSource (size offset : Nat) : Nat := offset * words ⌈/⌉ size

theorem firstSource_le (size offset word : Nat) (positive : 0 < size) :
    firstSource size offset ≤ word ↔ offset * words ≤ word * size := by
  rw [firstSource, ceilDiv_le_iff_le_mul positive, Nat.mul_comm size]

-- The words that give an offset stand next to each other, and there are as many for every offset: of any interval
-- that is a number of times as long as the size, just that number of points are multiples of the size.
theorem pick_sources (size word offset : Nat) (positive : 0 < size) (fits : size < words) :
    pick? size word = some offset ↔
      firstSource size offset ≤ word ∧ word < firstSource size offset + Nat.pow 2 (leadingZeros size) := by
  rw [pick_iff size word offset positive fits, firstSource_le size offset word positive]
  generalize Nat.pow 2 (leadingZeros size) = number
  refine and_congr_right fun _ => ?_
  by_cases early : word < number
  · have short : word * size < number * size := Nat.mul_lt_mul_of_pos_right early positive
    rw [Nat.mul_comm size]
    omega
  · obtain ⟨back, rfl⟩ := Nat.exists_eq_add_of_le' (Nat.le_of_not_lt early)
    have reached := firstSource_le size offset back positive
    rw [Nat.add_mul, Nat.mul_comm size]
    omega

theorem source_lt (size number offset : Nat) (positive : 0 < size) (fits : size < words) (inside : offset < size)
    (picked : pick? size number = some offset) : number < words := by
  have upper := ((pick_iff size number offset positive fits).1 picked).2
  have most := shifted_lt size positive fits
  have last : (offset + 1) * words ≤ size * words := Nat.mul_le_mul_right words inside
  rw [Nat.add_mul, Nat.one_mul, Nat.mul_comm size words] at last
  exact Nat.lt_of_mul_lt_mul_right (a := size) (by omega)

theorem draw_lt (rounds size : Nat) (positive : 0 < size) (g after : Generator) (offset : Nat)
    (drawn : draw rounds size g = some (offset, after)) : offset < size := by
  induction rounds generalizing g with
  | zero => cases drawn
  | succ rounds ih =>
    rw [draw] at drawn
    cases picked : pick? size g.word.toNat with
    | some found =>
      rw [picked] at drawn
      cases drawn
      exact pick_lt size _ _ positive g.word.toNat_lt picked
    | none =>
      rw [picked] at drawn
      exact ih g.next drawn

theorem draw_longer (rounds more size : Nat) (enough : rounds ≤ more) (g : Generator) (drawn : Nat × Generator)
    (found : draw rounds size g = some drawn) : draw more size g = some drawn := by
  induction rounds generalizing more g with
  | zero => cases found
  | succ rounds ih =>
    cases more with
    | zero => exact absurd enough (Nat.not_succ_le_zero rounds)
    | succ more =>
      rw [draw] at found ⊢
      cases picked : pick? size g.word.toNat with
      | some offset =>
        rw [picked] at found
        exact found
      | none =>
        rw [picked] at found
        exact ih more (Nat.le_of_succ_le_succ enough) g.next found

theorem between_longer (rounds more : Nat) (enough : rounds ≤ more) (low high : Int) (g : Generator)
    (drawn : Int × Generator) (found : between rounds low high g = some drawn) :
    between more low high g = some drawn := by
  unfold between at found ⊢
  dsimp only at found ⊢
  by_cases every : (high - low + 1).toNat = words
  · rw [if_pos every] at found ⊢
    exact found
  · rw [if_neg every] at found ⊢
    obtain ⟨offset, drew, rfl⟩ := Option.map_eq_some_iff.1 found
    exact Option.map_eq_some_iff.2 ⟨offset, draw_longer rounds more _ enough g offset drew, rfl⟩

theorem between_range (rounds : Nat) (low high : Int) (g after : Generator) (value : Int)
    (lowest : -9223372036854775808 ≤ low) (highest : high < 9223372036854775808) (ordered : low ≤ high)
    (drawn : between rounds low high g = some (value, after)) : low ≤ value ∧ value ≤ high := by
  unfold between at drawn
  dsimp only at drawn
  by_cases all : (high - low + 1).toNat = words
  · rw [if_pos all] at drawn
    obtain ⟨rfl, rfl⟩ := Prod.mk.inj (Option.some.inj drawn)
    have lower : -((words : Int) / 2) ≤ Int.bmod g.word.toNat words := Int.le_bmod words_pos
    have upper : Int.bmod g.word.toNat words < ((words : Int) + 1) / 2 := Int.bmod_lt words_pos
    rw [words_eq] at all lower upper ⊢
    omega
  · rw [if_neg all] at drawn
    obtain ⟨⟨offset, last⟩, found, same⟩ := Option.map_eq_some_iff.1 drawn
    cases same
    have inside := draw_lt rounds _ (by omega) g last offset found
    dsimp only
    omega

end StoryScript.Random
