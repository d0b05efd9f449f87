import Mathlib.Data.Rat.Floor
import StoryScript.Proofs.Number.Rounding

set_option autoImplicit false

namespace StoryScript.Number

-- What a finite number is worth. The infinities and what is not a number are worth nothing.
def rational? : Number → Option ℚ
  | .finite negative units _ _ => some ((signed negative units : ℚ) / (one : ℚ))
  | _ => none

theorem one_rational_pos : (0 : ℚ) < (one : ℚ) := Nat.cast_pos.2 one_pos

theorem one_rational_ne : (one : ℚ) ≠ 0 := ne_of_gt one_rational_pos

theorem lessEqual_rational (a b : Number) (p q : ℚ) (worthA : a.rational? = some p) (worthB : b.rational? = some q) :
    a.lessEqual b = true ↔ p ≤ q := by
  cases a with
  | finite negative units short small =>
    cases b with
    | finite negativeToo unitsToo shortToo smallToo =>
      cases worthA
      cases worthB
      rw [div_le_div_iff_of_pos_right one_rational_pos, Int.cast_le]
      exact decide_eq_true_iff
    | nan => cases worthB
    | infinite sign => cases worthB
  | nan => cases worthA
  | infinite sign => cases worthA

theorem less_rational (a b : Number) (p q : ℚ) (worthA : a.rational? = some p) (worthB : b.rational? = some q) :
    a.less b = true ↔ p < q := by
  cases a with
  | finite negative units short small =>
    cases b with
    | finite negativeToo unitsToo shortToo smallToo =>
      cases worthA
      cases worthB
      rw [div_lt_div_iff_of_pos_right one_rational_pos, Int.cast_lt]
      exact decide_eq_true_iff
    | nan => cases worthB
    | infinite sign => cases worthB
  | nan => cases worthA
  | infinite sign => cases worthA

theorem rational_ofRatio (negative : Bool) (n : Nat) (small : round n 1 < limit) :
    (ofRatio negative n 1).rational? = some ((signed negative (round n 1) : ℚ) / (one : ℚ)) := by
  unfold ofRatio
  dsimp only
  rw [dif_pos small]
  rfl

def SignOf (negative : Bool) (w : Int) : Prop := if negative then w ≤ 0 else 0 ≤ w

theorem signed_natAbs (negative : Bool) (w : Int) (sign : SignOf negative w) : signed negative w.natAbs = w := by
  cases negative with
  | true =>
    have below : w ≤ 0 := sign
    simp only [signed, if_true]
    omega
  | false =>
    have above : 0 ≤ w := sign
    simp only [signed, Bool.false_eq_true, if_false]
    omega

theorem signOf_signed (negative : Bool) (units : Nat) : SignOf negative (signed negative units) := by
  cases negative with
  | true =>
    change -(units : Int) ≤ 0
    omega
  | false =>
    change 0 ≤ (units : Int)
    omega

theorem natAbs_signed (negative : Bool) (units : Nat) : (signed negative units).natAbs = units := by
  cases negative <;> simp [signed]

def Exact (w : Int) : Prop := Short (w.natAbs * one) ∧ w.natAbs * one < limit

theorem exact_neg (w : Int) (exact : Exact w) : Exact (-w) := by
  unfold Exact
  rw [Int.natAbs_neg]
  exact exact

theorem signed_whole (negative : Bool) (count : Nat) :
    (signed negative (count * one) : ℚ) / (one : ℚ) = (signed negative count : Int) := by
  have unit_ne := one_rational_ne
  generalize one = unit at unit_ne ⊢
  have cancelled : (count : ℚ) * (unit : ℚ) / (unit : ℚ) = count := mul_div_cancel_right₀ _ unit_ne
  cases negative <;> simp [signed, neg_div, cancelled]

theorem rational_whole (negative : Bool) (w : Int) (sign : SignOf negative w) (exact : Exact w) :
    (ofRatio negative (w.natAbs * one) 1).rational? = some (w : ℚ) := by
  have same := round_of_short _ exact.1
  have small : round (w.natAbs * one) 1 < limit := by
    rw [same]
    exact exact.2
  rw [rational_ofRatio negative _ small, same, signed_whole, signed_natAbs negative w sign]

theorem rational_ofInt (w : Int) (exact : Exact w) : (ofInt w).rational? = some (w : ℚ) := by
  refine rational_whole (decide (w < 0)) w ?_ exact
  by_cases below : w < 0
  · have atMost : w ≤ 0 := Int.le_of_lt below
    simpa [SignOf, below] using atMost
  · have atLeast : 0 ≤ w := Int.not_lt.1 below
    simpa [SignOf, below] using atLeast

-- A count of units and a whole number less than one apart.
def Beside (s w : Int) : Prop := w * one < s + one ∧ s < w * one + one

theorem exact_beside (negative : Bool) (units : Nat) (w : Int) (short : Short units) (small : units < limit)
    (sign : SignOf negative w) (beside : Beside (signed negative units) w) : Exact w := by
  obtain ⟨below, above⟩ := beside
  rw [← signed_natAbs negative w sign] at below above
  unfold Exact
  generalize w.natAbs = count at below above ⊢
  have apart : count * one < units + one ∧ units < count * one + one := by
    zify
    generalize (one : Int) = unit at below above
    cases negative with
    | true =>
      simp only [signed, if_true, neg_mul] at below above
      constructor <;> linarith
    | false =>
      simp only [signed, Bool.false_eq_true, if_false] at below above
      exact ⟨below, above⟩
  exact whole_beside units count short small apart.1 apart.2

theorem floor_worth (negative : Bool) (units : Nat) :
    ⌊(signed negative units : ℚ) / (one : ℚ)⌋ = (signed negative units).fdiv one := by
  rw [Rat.floor_intCast_div_natCast, Int.fdiv_eq_ediv_of_nonneg _ (Int.natCast_nonneg one)]

theorem ceil_worth (negative : Bool) (units : Nat) :
    ⌈(signed negative units : ℚ) / (one : ℚ)⌉ = -(-signed negative units).fdiv one := by
  rw [Int.fdiv_eq_ediv_of_nonneg _ (Int.natCast_nonneg one), ← Rat.floor_intCast_div_natCast, Int.cast_neg, neg_div,
    Int.floor_neg, neg_neg]

theorem signOf_worth (negative : Bool) (units : Nat) :
    if negative then (signed negative units : ℚ) / (one : ℚ) ≤ 0 else 0 ≤ (signed negative units : ℚ) / (one : ℚ) := by
  generalize one = unit
  have units_nonneg : (0 : ℚ) ≤ (units : ℚ) / (unit : ℚ) := by positivity
  cases negative with
  | true => simpa [signed, neg_div] using units_nonneg
  | false => simpa [signed] using units_nonneg

theorem beside_of_worth (s w : Int) (below : (w : ℚ) < (s : ℚ) / (one : ℚ) + 1) (above : (s : ℚ) / (one : ℚ) < w + 1) :
    Beside s w := by
  rw [← sub_lt_iff_lt_add, lt_div_iff₀ one_rational_pos, sub_mul, one_mul, sub_lt_iff_lt_add] at below
  rw [div_lt_iff₀ one_rational_pos, add_mul, one_mul] at above
  exact ⟨by exact_mod_cast below, by exact_mod_cast above⟩

theorem natAbs_whole (w : Int) : (w * (one : Int)).natAbs = w.natAbs * one := by
  rw [Int.natAbs_mul, Int.natAbs_natCast]

theorem floor_finite (negative : Bool) (units : Nat) (short : Short units) (small : units < limit) :
    (Number.finite negative units short small).floor =
      ofRatio negative (⌊(signed negative units : ℚ) / (one : ℚ)⌋.natAbs * one) 1 := by
  rw [floor_worth, ← natAbs_whole]
  rfl

theorem ceil_finite (negative : Bool) (units : Nat) (short : Short units) (small : units < limit) :
    (Number.finite negative units short small).ceil =
      ofRatio negative (⌈(signed negative units : ℚ) / (one : ℚ)⌉.natAbs * one) 1 := by
  rw [ceil_worth, Int.natAbs_neg, ← natAbs_whole]
  rfl

theorem floor_rational (x : Number) (q : ℚ) (worth : x.rational? = some q) :
    Exact ⌊q⌋ ∧ x.floor.rational? = some (⌊q⌋ : ℚ) := by
  cases x with
  | nan => cases worth
  | infinite sign => cases worth
  | finite negative units short small =>
    cases worth
    have sign : SignOf negative ⌊(signed negative units : ℚ) / (one : ℚ)⌋ := by
      have worthSign := signOf_worth negative units
      cases negative with
      | true => exact Int.floor_nonpos worthSign
      | false => exact Int.floor_nonneg.2 worthSign
    have exact := exact_beside negative units _ short small sign (beside_of_worth _ _
      (lt_of_le_of_lt (Int.floor_le _) (lt_add_one _)) (Int.lt_floor_add_one _))
    rw [floor_finite]
    exact ⟨exact, rational_whole negative _ sign exact⟩

theorem ceil_rational (x : Number) (q : ℚ) (worth : x.rational? = some q) :
    Exact ⌈q⌉ ∧ x.ceil.rational? = some (⌈q⌉ : ℚ) := by
  cases x with
  | nan => cases worth
  | infinite sign => cases worth
  | finite negative units short small =>
    cases worth
    have sign : SignOf negative ⌈(signed negative units : ℚ) / (one : ℚ)⌉ := by
      have worthSign := signOf_worth negative units
      cases negative with
      | true => exact Int.ceil_nonpos.2 worthSign
      | false => exact Int.ceil_nonneg worthSign
    have exact := exact_beside negative units _ short small sign (beside_of_worth _ _
      (Int.ceil_lt_add_one _) (lt_of_le_of_lt (Int.le_ceil _) (lt_add_one _)))
    rw [ceil_finite]
    exact ⟨exact, rational_whole negative _ sign exact⟩

theorem toInt_of_whole (x : Number) (w : Int) (worth : x.rational? = some (w : ℚ)) : x.toInt? = some w := by
  cases x with
  | nan => cases worth
  | infinite sign => cases worth
  | finite negative units short small =>
    have same : (signed negative units : ℚ) / (one : ℚ) = w := Option.some.inj worth
    rw [div_eq_iff one_rational_ne] at same
    have counted : signed negative units = w * one := by exact_mod_cast same
    have sizes : units = w.natAbs * one := by
      rw [← natAbs_signed negative units, counted, Int.natAbs_mul, Int.natAbs_natCast]
    have sign : SignOf negative w := by
      have signedSign := signOf_signed negative units
      rw [counted] at signedSign
      have positive : (0 : Int) < one := Int.natCast_pos.2 one_pos
      cases negative with
      | true => exact nonpos_of_mul_nonpos_left signedSign positive
      | false => exact nonneg_of_mul_nonneg_left signedSign positive
    change some (signed negative (units / one)) = some w
    rw [sizes, Nat.mul_div_cancel _ one_pos, signed_natAbs negative w sign]

-- A whole number between two that are numbers rounds to a whole number between them.
theorem ofInt_between (n first last : Int) (exactFirst : Exact first) (exactLast : Exact last) (lower : first ≤ n)
    (upper : n ≤ last) : ∃ w : Int, (ofInt n).rational? = some (w : ℚ) ∧ first ≤ w ∧ w ≤ last := by
  obtain ⟨k, whole⟩ := one_dvd_round n.natAbs
  rw [Nat.mul_comm one k] at whole
  -- How the magnitudes lie carries over from the counts to their rounded counts of units.
  have above : ∀ bound : Int, Exact bound → n.natAbs ≤ bound.natAbs → k ≤ bound.natAbs ∧ k * one < limit := by
    intro bound exact le
    have rounded := round_le _ _ exact.1 (Nat.mul_le_mul_right one le)
    rw [whole] at rounded
    exact ⟨Nat.le_of_mul_le_mul_right rounded one_pos, Nat.lt_of_le_of_lt rounded exact.2⟩
  have beyond : ∀ bound : Int, Exact bound → bound.natAbs ≤ n.natAbs → bound.natAbs ≤ k := by
    intro bound exact le
    have rounded := le_round _ _ exact.1 (Nat.mul_le_mul_right one le)
    rw [whole] at rounded
    exact Nat.le_of_mul_le_mul_right rounded one_pos
  have worth : k * one < limit → (ofInt n).rational? = some ((signed (decide (n < 0)) k : Int) : ℚ) := by
    intro small
    have rounded := rational_ofRatio (decide (n < 0)) (n.natAbs * one) (by rwa [whole])
    rw [whole, signed_whole] at rounded
    exact rounded
  by_cases negative : n < 0
  · obtain ⟨within, small⟩ := above first exactFirst (by omega)
    refine ⟨-k, ?_, ?_, ?_⟩
    · simpa [negative, signed] using worth small
    · omega
    · by_cases lastNegative : last < 0
      · have far := beyond last exactLast (by omega)
        omega
      · omega
  · obtain ⟨within, small⟩ := above last exactLast (by omega)
    refine ⟨k, ?_, ?_, ?_⟩
    · simpa [negative, signed] using worth small
    · by_cases firstPositive : 0 < first
      · have far := beyond first exactFirst (by omega)
        omega
      · omega
    · omega

end StoryScript.Number
