import StoryScript.Number.Basic

set_option autoImplicit false

namespace StoryScript.Number

theorem twoPow_dvd (j k : Nat) (le : j ≤ k) : twoPow j ∣ twoPow k := Nat.pow_dvd_pow 2 le

theorem twoPow_pos (k : Nat) : 0 < twoPow k := Nat.two_pow_pos k

theorem twoPow_lt (j k : Nat) (lt : j < k) : twoPow j < twoPow k := Nat.pow_lt_pow_right (by decide) lt

theorem twoPow_le (j k : Nat) (le : j ≤ k) : twoPow j ≤ twoPow k := Nat.pow_le_pow_right (by decide) le

theorem twoPow_add (j k : Nat) : twoPow (j + k) = twoPow j * twoPow k := Nat.pow_add 2 j k

theorem log2_le_of_le (m n : Nat) (le : m ≤ n) : m.log2 ≤ n.log2 := by
  by_cases zero : m = 0
  · subst zero
    exact Nat.zero_le _
  · have positive : n ≠ 0 := by omega
    exact (Nat.le_log2 positive).2 (Nat.le_trans (Nat.log2_self_le zero) le)

theorem step_dvd_step (m n : Nat) (le : m ≤ n) : step m ∣ step n := by
  have logs := log2_le_of_le m n le
  exact twoPow_dvd _ _ (by omega)

-- The neighbour below is taken up to one half, and the one above from one half on. At one half it is the even one.
theorem nearestEven_cases (num den : Nat) :
    (nearestEven num den = num / den ∧ 2 * (num % den) ≤ den ∧ (2 * (num % den) = den → num / den % 2 = 0)) ∨
      (nearestEven num den = num / den + 1 ∧ den ≤ 2 * (num % den) ∧ (2 * (num % den) = den → num / den % 2 = 1)) := by
  unfold nearestEven
  dsimp only
  split
  · omega
  · split <;> omega

theorem nearestEven_exact (m den : Nat) (positive : 0 < den) : nearestEven (m * den) den = m := by
  simp [nearestEven, Nat.mul_mod_left, Nat.mul_div_cancel m positive, positive]

theorem nearestEven_mono (den num other : Nat) (le : num ≤ other) : nearestEven num den ≤ nearestEven other den := by
  have quotients : num / den ≤ other / den := Nat.div_le_div_right le
  have first := nearestEven_cases num den
  have second := nearestEven_cases other den
  by_cases same : num / den = other / den
  · -- Between the same two neighbours the remainders decide.
    have whole := Nat.div_add_mod num den
    have wholeToo := Nat.div_add_mod other den
    rw [same] at whole
    have remainders : num % den ≤ other % den := by omega
    omega
  · omega

theorem nearestEven_scaled (num den k : Nat) (positive : 0 < k) :
    nearestEven (num * k) (den * k) = nearestEven num den := by
  unfold nearestEven
  dsimp only
  rw [Nat.mul_div_mul_right num den positive, Nat.mul_mod_mul_right, ← Nat.mul_assoc]
  simp only [Nat.mul_lt_mul_right positive]

theorem round_scaled (num den k : Nat) (positive : 0 < k) : round (num * k) (den * k) = round num den := by
  unfold round
  dsimp only
  rw [Nat.mul_div_mul_right num den positive, Nat.mul_right_comm, nearestEven_scaled _ _ k positive]

theorem round_congr (num den other otherDen : Nat) (positive : 0 < den) (positiveToo : 0 < otherDen)
    (same : num * otherDen = other * den) : round num den = round other otherDen := by
  rw [← round_scaled num den otherDen positiveToo, same, Nat.mul_comm den otherDen, round_scaled _ _ den positive]

theorem round_whole (n : Nat) : round n 1 = nearestEven n (step n) * step n := by
  simp [round]

theorem round_le (n bound : Nat) (short : Short bound) (le : n ≤ bound) : round n 1 ≤ bound := by
  obtain ⟨k, same⟩ := Nat.dvd_trans (step_dvd_step n bound le) short
  have below : nearestEven n (step n) ≤ k := by
    have mono := nearestEven_mono (step n) n bound le
    rwa [same, Nat.mul_comm, nearestEven_exact k _ (step_pos n)] at mono
  rw [round_whole, same, Nat.mul_comm (step n)]
  exact Nat.mul_le_mul_right _ below

theorem multiple_le_round (n bound : Nat) (multiple : step n ∣ bound) (le : bound ≤ n) : bound ≤ round n 1 := by
  obtain ⟨k, same⟩ := multiple
  have above : k ≤ nearestEven n (step n) := by
    have mono := nearestEven_mono (step n) bound n le
    rwa [same, Nat.mul_comm, nearestEven_exact k _ (step_pos n)] at mono
  rw [round_whole, same, Nat.mul_comm (step n)]
  exact Nat.mul_le_mul_right _ above

theorem le_round (n bound : Nat) (short : Short bound) (le : bound ≤ n) : bound ≤ round n 1 := by
  by_cases zero : bound = 0
  · subst zero
    exact Nat.zero_le _
  have positive : n ≠ 0 := by omega
  have logs := log2_le_of_le bound n le
  by_cases same : bound.log2 = n.log2
  · exact multiple_le_round n bound (by rw [step, ← same]; exact short) le
  · -- A power of two stands between the two.
    have power : twoPow n.log2 ≤ round n 1 :=
      multiple_le_round n _ (twoPow_dvd _ _ (Nat.sub_le _ _)) (Nat.log2_self_le positive)
    have below : bound < twoPow n.log2 := (Nat.log2_lt zero).1 (by omega)
    omega

theorem round_of_short (n : Nat) (short : Short n) : round n 1 = n :=
  Nat.le_antisymm (round_le n n short (Nat.le_refl n)) (le_round n n short (Nat.le_refl n))

theorem one_eq : one = twoPow 1074 := rfl

theorem one_pos : 0 < one := twoPow_pos 1074

theorem one_dvd_twoPow (k : Nat) (le : 1074 ≤ k) : one ∣ twoPow k := twoPow_dvd 1074 k le

theorem one_dvd_round (count : Nat) : one ∣ round (count * one) 1 := by
  by_cases fine : (count * one).log2 - 52 ≤ 1074
  · have short : Short (count * one) := Nat.dvd_trans (twoPow_dvd _ 1074 fine) (Nat.dvd_mul_left one count)
    rw [round_of_short _ short]
    exact Nat.dvd_mul_left one count
  · rw [round_whole]
    exact Nat.dvd_trans (one_dvd_twoPow _ (by omega)) (Nat.dvd_mul_left _ _)

theorem small_whole (count : Nat) (few : count ≤ twoPow 53) : count * one < limit := by
  have grown : count * one ≤ twoPow 53 * one := Nat.mul_le_mul_right one few
  rw [one_eq, ← twoPow_add] at grown
  exact Nat.lt_of_le_of_lt grown (twoPow_lt (53 + 1074) 2098 (by omega))

theorem lt_succ_of_mul_lt (unit m k : Nat) (lt : m * unit < k * unit + unit) : m < k + 1 := by
  rw [← Nat.succ_mul] at lt
  exact Nat.lt_of_mul_lt_mul_right lt

-- The whole numbers next to a number are numbers themselves: either the number is whole, or it has bits to
-- spare for the point.
theorem whole_beside (units count : Nat) (short : Short units) (small : units < limit)
    (below : count * one < units + one) (above : units < count * one + one) :
    Short (count * one) ∧ count * one < limit := by
  by_cases coarse : 1074 ≤ units.log2 - 52
  · obtain ⟨k, whole⟩ := Nat.dvd_trans (one_dvd_twoPow _ coarse) short
    have same : count = k := by
      rw [whole, Nat.mul_comm one] at below above
      have atMost := lt_succ_of_mul_lt one count k below
      have atLeast := lt_succ_of_mul_lt one k count above
      omega
    rw [same, Nat.mul_comm, ← whole]
    exact ⟨short, small⟩
  · have few : units < twoPow 52 * one := by
      rw [one_eq, ← twoPow_add]
      have top : units < twoPow (units.log2 + 1) := Nat.lt_log2_self
      exact Nat.lt_of_lt_of_le top (twoPow_le _ (52 + 1074) (by omega))
    have counted := lt_succ_of_mul_lt one count (twoPow 52) (Nat.lt_trans below (Nat.add_lt_add_right few one))
    have bounded : count ≤ twoPow 53 := Nat.le_trans (Nat.le_of_lt_succ counted) (twoPow_le 52 53 (by omega))
    exact ⟨short_mul_twoPow count 1074 bounded, small_whole count bounded⟩

end StoryScript.Number
