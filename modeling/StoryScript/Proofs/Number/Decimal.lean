import Mathlib.Data.List.TakeWhile
import StoryScript.Number.Decimal
import StoryScript.Proofs.Number.Rounding
import StoryScript.Proofs.Token.Lexicon

set_option autoImplicit false

namespace StoryScript

open Number (tenPow)

namespace Decimal

theorem tenPow_add (j k : Nat) : tenPow (j + k) = tenPow j * tenPow k := Nat.pow_add 10 j k

theorem tenPow_pos (k : Nat) : 0 < tenPow k := Nat.pow_pos (by decide)

theorem tenPow_zero : tenPow 0 = 1 := rfl

theorem value_digits (digits : List Char) : value digits = Nat.ofDigitChars 10 digits 0 := by
  have step : (fun (total : Nat) (c : Char) => total * 10 + (c.toNat - 48)) =
      fun total c => 10 * total + (c.toNat - '0'.toNat) := by
    funext total c
    rw [Nat.mul_comm]
    rfl
  rw [value, step]
  rfl

theorem value_toDigits (n : Nat) : value (Nat.toDigits 10 n) = n := by
  rw [value_digits, Nat.ofDigitChars_ten_toDigits]

theorem value_append (digits more : List Char) :
    value (digits ++ more) = value digits * tenPow more.length + value more := by
  rw [value_digits, value_digits, value_digits, Nat.ofDigitChars_append, Nat.ofDigitChars_eq_ofDigitChars_zero, Nat.mul_comm]
  rfl

theorem value_zeros (count : Nat) : value (zeros count) = 0 := by
  rw [value_digits, zeros, Nat.ofDigitChars_replicate_zero, Nat.mul_zero]

theorem length_zeros (count : Nat) : (zeros count).length = count := List.length_replicate

theorem zeros_digits (count : Nat) (c : Char) (member : c ∈ zeros count) : c.isDigit = true := by
  rw [List.eq_of_mem_replicate member]
  rfl

theorem toDigits_digits (n : Nat) (c : Char) (member : c ∈ Nat.toDigits 10 n) : c.isDigit = true :=
  Nat.isDigit_of_mem_toDigits (by decide) (by decide) member

theorem dropZeros_zeros (digits : List Char) :
    digits = dropZeros digits ++ zeros (digits.length - (dropZeros digits).length) := by
  have whole := List.takeWhile_append_dropWhile (p := (· == '0')) (l := digits.reverse)
  have same : digits = dropZeros digits ++ (digits.reverse.takeWhile (· == '0')).reverse := by
    rw [dropZeros, ← List.reverse_append, whole, List.reverse_reverse]
  have counted := congrArg List.length same
  rw [List.length_append, List.length_reverse] at counted
  have ends : (digits.reverse.takeWhile (· == '0')).reverse =
      zeros (digits.length - (dropZeros digits).length) := by
    refine List.eq_replicate_iff.2 ⟨by rw [List.length_reverse]; omega, ?_⟩
    intro c member
    have zero := List.mem_takeWhile_imp (List.mem_reverse.1 member)
    exact eq_of_beq zero
  rw [← ends]
  exact same

def written (whole part : List Char) : List Char := if part.isEmpty then whole else whole ++ '.' :: part

theorem point_stops (part : List Char) : Lexicon.Stops Char.isDigit ('.' :: part) := by
  rintro c more ⟨⟩
  rfl

theorem nothing_stops : Lexicon.Stops Char.isDigit [] := by
  rintro c more ⟨⟩

theorem ofChars_written (whole part : List Char) (begun : whole ≠ []) (digits : ∀ c ∈ whole, c.isDigit = true)
    (digitsToo : ∀ c ∈ part, c.isDigit = true) :
    ofChars? (written whole part) = some ⟨value (whole ++ part), -(part.length : Int)⟩ := by
  have some : whole.isEmpty = false := by simpa using begun
  unfold written
  cases part with
  | nil =>
    have first := Lexicon.takeWhile_run Char.isDigit whole [] digits nothing_stops
    have rest := Lexicon.dropWhile_run Char.isDigit whole [] digits nothing_stops
    rw [List.append_nil] at first rest
    simp [ofChars?, first, rest, fraction, some]
  | cons c part =>
    have first := Lexicon.takeWhile_run Char.isDigit whole _ digits (point_stops (c :: part))
    have rest := Lexicon.dropWhile_run Char.isDigit whole _ digits (point_stops (c :: part))
    have firstToo := Lexicon.takeWhile_run Char.isDigit (c :: part) [] digitsToo nothing_stops
    have restToo := Lexicon.dropWhile_run Char.isDigit (c :: part) [] digitsToo nothing_stops
    rw [List.append_nil] at firstToo restToo
    simp [ofChars?, first, rest, fraction, some, firstToo, restToo]

-- A decimal with a point in it that is worth what is written. Nothing is lost by leaving out zeros.
structure Spells (d : Decimal) (whole part : List Char) : Prop where
  begun : whole ≠ []
  digits : ∀ c ∈ whole, c.isDigit = true
  digitsToo : ∀ c ∈ part, c.isDigit = true
  worth : d.digits * tenPow d.exponent.toNat * tenPow part.length =
    value (whole ++ part) * tenPow (-d.exponent).toNat

theorem digits_with_zeros (before after : Nat) (n : Nat) :
    ∀ c ∈ zeros before ++ Nat.toDigits 10 n ++ zeros after, c.isDigit = true := by
  intro c member
  simp only [List.mem_append] at member
  rcases member with (inFront | inRow) | behind
  · exact zeros_digits _ c inFront
  · exact toDigits_digits _ c inRow
  · exact zeros_digits _ c behind

theorem value_cut (row : List Char) (places : Nat) (long : places ≤ row.length) :
    value row * tenPow (dropZeros (row.drop (row.length - places))).length =
      value (row.take (row.length - places) ++ dropZeros (row.drop (row.length - places))) * tenPow places := by
  have whole := List.take_append_drop (row.length - places) row
  have behind := dropZeros_zeros (row.drop (row.length - places))
  have fractional : (row.drop (row.length - places)).length = places := by
    rw [List.length_drop]
    omega
  generalize dropZeros (row.drop (row.length - places)) = part at behind ⊢
  rw [fractional] at behind
  have few : part.length ≤ places := by
    have counted := congrArg List.length behind
    rw [List.length_append, fractional] at counted
    omega
  have split : row = row.take (row.length - places) ++ part ++ zeros (places - part.length) := by
    rw [List.append_assoc, ← behind, whole]
  have total := congrArg value split
  rw [value_append, value_zeros, length_zeros, Nat.add_zero] at total
  rw [total, Nat.mul_assoc, ← tenPow_add, Nat.sub_add_cancel few]

theorem chars_spells (d : Decimal) : ∃ whole part, d.chars = written whole part ∧ Spells d whole part := by
  unfold chars
  dsimp only
  by_cases above : 0 ≤ d.exponent
  · rw [if_pos above]
    refine ⟨_, [], rfl, by simp, digits_with_zeros 0 _ _, by simp, ?_⟩
    have none : (-d.exponent).toNat = 0 := by omega
    rw [List.append_nil, value_append, value_toDigits, value_zeros, length_zeros, none]
    rfl
  · rw [if_neg above]
    generalize placed : (-d.exponent).toNat = places
    generalize isPadded : zeros (places + 1 - (Nat.toDigits 10 d.digits).length) ++ Nat.toDigits 10 d.digits = padded
    have long : places + 1 ≤ padded.length := by
      rw [← isPadded, List.length_append, length_zeros]
      omega
    have worth : value padded = d.digits := by
      rw [← isPadded, value_append, value_zeros, value_toDigits, Nat.zero_mul, Nat.zero_add]
    have digits : ∀ c ∈ padded, c.isDigit = true := by
      have spread := digits_with_zeros (places + 1 - (Nat.toDigits 10 d.digits).length) 0 d.digits
      rwa [isPadded, zeros, List.replicate_zero, List.append_nil] at spread
    refine ⟨padded.take (padded.length - places), dropZeros (padded.drop (padded.length - places)), rfl, ?_, ?_, ?_, ?_⟩
    · rw [ne_eq, List.take_eq_nil_iff]
      rintro (none | rfl)
      · omega
      · simp at long
    · exact fun c member => digits c (List.mem_of_mem_take member)
    · intro c member
      refine digits c (List.mem_of_mem_drop (i := padded.length - places) ?_)
      rw [dropZeros_zeros (padded.drop (padded.length - places))]
      exact List.mem_append_left _ member
    · have none : d.exponent.toNat = 0 := by omega
      rw [none, tenPow_zero, Nat.mul_one, placed, ← worth]
      exact value_cut padded places (by omega)

end Decimal

end StoryScript
