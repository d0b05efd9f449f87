import StoryScript.Proofs.Number.Decimal

set_option autoImplicit false

namespace StoryScript

namespace Number

open Decimal

theorem ofRatio_finite (negative sign : Bool) (num den units : Nat) (short : Short units) (small : units < limit)
    (same : ofRatio negative num den = .finite sign units short small) : round num den = units := by
  unfold ofRatio at same
  dsimp only at same
  split at same
  · cases same
    rfl
  · cases same

theorem ofRatio_rounded (negative : Bool) (num den units : Nat) (short : Short units) (small : units < limit)
    (rounds : round num den = units) : ofRatio negative num den = .finite negative units short small := by
  subst rounds
  unfold ofRatio
  dsimp only
  rw [dif_pos small]

theorem round_zero (den : Nat) : round 0 den = 0 := by
  simp [round, nearestEven]

theorem round_tiny (num den : Nat) (tiny : 2 * num < den) : round num den = 0 := by
  have below : num < den := by omega
  unfold round nearestEven
  dsimp only
  rw [Nat.div_eq_of_lt below]
  have unit : step 0 = 1 := by rfl
  rw [unit, Nat.mul_one, Nat.mul_one, Nat.mod_eq_of_lt below, if_pos tiny, Nat.div_eq_of_lt below]

def nearest (d : Decimal) : Nat := round (d.digits * tenPow d.exponent.toNat * one) (tenPow (-d.exponent).toNat)

theorem ofDecimal_finite (negative sign : Bool) (d : Decimal) (units : Nat) (short : Short units) (small : units < limit)
    (positive : 0 < units) (same : ofDecimal negative d = .finite sign units short small) : nearest d = units := by
  have nothing : ofRatio negative 0 1 ≠ .finite sign units short small := by
    intro zero
    have none := ofRatio_finite negative sign 0 1 units short small zero
    rw [round_zero] at none
    omega
  unfold ofDecimal at same
  split at same
  · exact absurd same nothing
  split at same
  · cases same
  split at same
  · exact absurd same nothing
  split at same
  · rename_i above
    have none : (-d.exponent).toNat = 0 := by omega
    rw [nearest, none, tenPow_zero]
    exact ofRatio_finite negative sign _ _ units short small same
  · rename_i below
    have none : d.exponent.toNat = 0 := by omega
    rw [nearest, none, tenPow_zero, Nat.mul_one]
    exact ofRatio_finite negative sign _ _ units short small same

theorem nearest_of_readsBack (units : Nat) (d : Decimal) (positive : 0 < units) (back : readsBack units d = true) :
    nearest d = units := by
  unfold readsBack at back
  cases read : ofDecimal false d with
  | finite sign found short small =>
    simp only [read, beq_iff_eq] at back
    subst back
    exact ofDecimal_finite false sign d found short small positive read
  | nan =>
    rw [read] at back
    cases back
  | infinite sign =>
    rw [read] at back
    cases back

theorem around_readsBack (units : Nat) (exponent : Int) (d : Decimal) (found : around units exponent = some d) :
    readsBack units d = true := by
  unfold around at found
  dsimp only at found
  generalize (if 0 ≤ exponent then units else units * tenPow (-exponent).toNat) = num at found
  generalize (if 0 ≤ exponent then one * tenPow exponent.toNat else one) = den at found
  cases lower : readsBack units ⟨num / den, exponent⟩ with
  | true =>
    cases upper : readsBack units ⟨num / den + 1, exponent⟩ with
    | true =>
      simp only [lower, upper, Option.some.injEq] at found
      subst found
      split
      · exact lower
      · exact upper
    | false =>
      simp only [lower, upper, Option.some.injEq] at found
      subst found
      exact lower
  | false =>
    cases upper : readsBack units ⟨num / den + 1, exponent⟩ with
    | true =>
      simp only [lower, upper, Option.some.injEq] at found
      subst found
      exact upper
    | false =>
      simp only [lower, upper] at found
      cases found

theorem round_exact (units k : Nat) : round (units * Nat.pow 5 k * tenPow 0 * twoPow k) (tenPow k) = round units 1 := by
  have factors : Nat.pow 5 k * twoPow k = tenPow k := (Nat.mul_pow 5 2 k).symm
  have scaled := round_scaled units 1 (tenPow k) (tenPow_pos k)
  rw [Nat.one_mul] at scaled
  rw [tenPow_zero, Nat.mul_one, Nat.mul_assoc, factors, scaled]

theorem nearest_exactDecimal (units : Nat) (short : Short units) : nearest (exactDecimal units) = units := by
  have none : (-1074 : Int).toNat = 0 := by decide
  have places : (-(-1074) : Int).toNat = 1074 := by decide
  rw [nearest, exactDecimal, none, places, one_eq]
  generalize 1074 = k
  rw [round_exact, round_of_short units short]

theorem nearest_shortest (units : Nat) (short : Short units) (positive : 0 < units) : nearest (shortest units) = units := by
  unfold shortest
  dsimp only
  cases found : (List.range' 1 17).findSome? fun count => around units (magnitude units - (count : Nat)) with
  | none => exact nearest_exactDecimal units short
  | some d =>
    obtain ⟨count, -, here⟩ := List.exists_of_findSome?_eq_some found
    exact nearest_of_readsBack units d positive (around_readsBack units _ d here)

theorem nearest_spelled (d : Decimal) (whole part : List Char) (spells : Spells d whole part) :
    nearest d = round (value (whole ++ part) * one) (tenPow part.length) := by
  refine round_congr _ _ _ _ (tenPow_pos _) (tenPow_pos _) ?_
  rw [Nat.mul_right_comm, spells.worth, Nat.mul_right_comm]

theorem twoPow_le_tenPow (k : Nat) : twoPow (3 * k) ≤ tenPow k := by
  have cubes : twoPow (3 * k) = Nat.pow 8 k := Nat.pow_mul 2 3 k
  rw [cubes]
  exact Nat.pow_le_pow_left (by decide) k

theorem doubled_twoPow (k : Nat) : 2 * twoPow k = twoPow (1 + k) := by
  rw [twoPow_add]
  rfl

theorem one_tiny : 2 * one ≤ tenPow reach := by
  rw [one_eq, doubled_twoPow]
  exact Nat.le_trans (twoPow_le _ (3 * reach) (by decide)) (twoPow_le_tenPow reach)

theorem lt_tenPow_digitCount (n : Nat) : n < tenPow (digitCount n) :=
  (Nat.length_toDigits_le_iff (by decide) Nat.length_toDigits_pos).1 (Nat.le_refl _)

theorem tenPow_le (j k : Nat) (le : j ≤ k) : tenPow j ≤ tenPow k := Nat.pow_le_pow_right (by decide) le

theorem ofDecimal_places (digits places units : Nat) (short : Short units) (small : units < limit) (positive : 0 < units)
    (rounds : round (digits * one) (tenPow places) = units) :
    ofDecimal false ⟨digits, -(places : Int)⟩ = .finite false units short small := by
  have someDigits : digits ≠ 0 := by
    rintro rfl
    rw [Nat.zero_mul, round_zero] at rounds
    omega
  have low : ¬ -(places : Int) > reach := by omega
  have high : ¬ -(places : Int) < -(reach + digitCount digits : Int) := by
    intro far
    have tiny : 2 * (digits * one) < tenPow places := by
      have counted := Nat.mul_lt_mul_of_lt_of_le (lt_tenPow_digitCount digits) one_tiny (tenPow_pos reach)
      rw [← tenPow_add, Nat.mul_left_comm] at counted
      exact Nat.lt_of_lt_of_le counted (tenPow_le _ places (by omega))
    rw [round_tiny _ _ tiny] at rounds
    omega
  unfold ofDecimal
  dsimp only
  rw [if_neg someDigits, if_neg low, if_neg high]
  by_cases whole : places = 0
  · subst whole
    have placed : (-((0 : Nat) : Int)).toNat = 0 := by omega
    rw [tenPow_zero] at rounds
    rw [if_pos (by omega), placed, tenPow_zero, Nat.mul_one]
    exact ofRatio_rounded false _ _ units short small rounds
  · have placed : (- -(places : Int)).toNat = places := by omega
    rw [if_neg (by omega), placed]
    exact ofRatio_rounded false _ _ units short small rounds

theorem ofDecimal_zero (negative : Bool) (d : Decimal) (none : d.digits = 0) :
    ofDecimal negative d = ofRatio negative 0 1 := if_pos none

-- What is written for a number: a row of digits, perhaps with a point and more digits after it.
theorem chars_digits (units : Nat) (short : Short units) (small : units < limit) :
    ∃ whole part, (Number.finite false units short small).chars = written whole part ∧ whole ≠ [] ∧
      (∀ c ∈ whole, c.isDigit = true) ∧ (∀ c ∈ part, c.isDigit = true) ∧
      ofDecimal false ⟨value (whole ++ part), -(part.length : Int)⟩ = .finite false units short small := by
  by_cases zero : units = 0
  · subst zero
    refine ⟨['0'], [], rfl, by simp, by simp, by simp, ?_⟩
    rw [ofDecimal_zero false _ rfl]
    exact ofRatio_rounded false 0 1 0 short small (round_zero 1)
  · have positive : 0 < units := Nat.pos_of_ne_zero zero
    obtain ⟨whole, part, spelled, spells⟩ := chars_spells (shortest units)
    have rounds := nearest_spelled _ whole part spells
    rw [nearest_shortest units short positive] at rounds
    refine ⟨whole, part, ?_, spells.begun, spells.digits, spells.digitsToo, ?_⟩
    · rw [← spelled]
      exact if_neg zero
    · exact ofDecimal_places _ _ units short small positive rounds.symm

theorem toLower_digit (c : Char) (digit : c.isDigit = true) : c.toLower = c := by
  refine dif_neg ?_
  rintro ⟨above, _⟩
  simp only [Char.isDigit, Bool.and_eq_true, decide_eq_true_eq] at digit
  have between : ('A' : Char).val ≤ ('9' : Char).val := UInt32.le_trans above digit.2
  exact absurd between (by decide)

theorem unsigned_digits (negative : Bool) (c : Char) (cs : List Char) (digit : c.isDigit = true) :
    unsigned? negative (c :: cs) = (Decimal.ofChars? (c :: cs)).map (ofDecimal negative) := by
  have noWord : ∀ (letter : Char) (word : List Char), letter.isDigit = false →
      (c :: cs).map Char.toLower ≠ letter :: word := by
    intro letter word isLetter same
    have first := (List.cons.inj same).1
    rw [toLower_digit c digit] at first
    rw [first, isLetter] at digit
    cases digit
  have notInf : (c :: cs).map Char.toLower ≠ "inf".toList := noWord 'i' _ rfl
  have notInfinity : (c :: cs).map Char.toLower ≠ "infinity".toList := noWord 'i' _ rfl
  have notNan : (c :: cs).map Char.toLower ≠ "nan".toList := noWord 'n' _ rfl
  unfold unsigned?
  simp only [notInf, notInfinity, notNan, decide_false, Bool.or_self, Bool.false_eq_true, if_false]

theorem ofChars_digits (c : Char) (cs : List Char) (digit : c.isDigit = true) :
    ofChars? (c :: cs) = (Decimal.ofChars? (c :: cs)).map (ofDecimal false) := by
  rw [← unsigned_digits false c cs digit]
  unfold ofChars?
  split
  · rename_i same
    cases (List.cons.inj same).1
    cases digit
  · rename_i same
    cases (List.cons.inj same).1
    cases digit
  · rfl

-- The text of a number is read as the number itself.
theorem text_reads_back (units : Nat) (short : Short units) (small : units < limit) :
    ofText? (Number.finite false units short small).text = some (.finite false units short small) := by
  obtain ⟨whole, part, spelled, begun, digits, digitsToo, worth⟩ := chars_digits units short small
  have read := ofChars_written whole part begun digits digitsToo
  obtain ⟨c, more, rfl⟩ := List.exists_cons_of_ne_nil begun
  obtain ⟨rest, begins⟩ : ∃ rest, written (c :: more) part = c :: rest := by
    unfold written
    split
    · exact ⟨more, rfl⟩
    · exact ⟨more ++ '.' :: part, rfl⟩
  rw [ofText?, text, String.toList_ofList, spelled]
  rw [begins] at read ⊢
  rw [ofChars_digits c rest (digits c List.mem_cons_self), read, Option.map_some, worth]

end Number

end StoryScript
