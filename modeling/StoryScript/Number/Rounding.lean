set_option autoImplicit false

namespace StoryScript.Number

-- The whole number nearest to `num / den`; of two equally near, the even one.
def nearestEven (num den : Nat) : Nat :=
  let quotient := num / den
  let doubled := 2 * (num % den)
  if doubled < den then quotient
  else if den < doubled then quotient + 1
  else quotient + quotient % 2

theorem nearestEven_le (num den : Nat) : nearestEven num den ≤ num / den + 1 := by
  unfold nearestEven
  dsimp only
  split
  · omega
  · split <;> omega

def twoPow (k : Nat) : Nat := Nat.pow 2 k

-- The distance between neighbours with 53 significant bits, above a number of that size.
def step (size : Nat) : Nat := twoPow (size.log2 - 52)

theorem step_pos (size : Nat) : 0 < step size := Nat.two_pow_pos _

def Short (n : Nat) : Prop := step n ∣ n

instance (n : Nat) : Decidable (Short n) := inferInstanceAs (Decidable (step n ∣ n))

def round (num den : Nat) : Nat :=
  let grid := step (num / den)
  nearestEven num (den * grid) * grid

theorem short_mul_twoPow (m k : Nat) (small : m ≤ twoPow 53) : Short (m * twoPow k) := by
  unfold Short step
  by_cases zero : m * twoPow k = 0
  · rw [zero]; exact Nat.dvd_zero _
  by_cases top : m = twoPow 53
  · have whole : m * twoPow k = 2 ^ (53 + k) := by rw [top, Nat.pow_add]; rfl
    rw [whole, Nat.log2_two_pow]
    exact Nat.pow_dvd_pow 2 (by omega)
  · have below : m * twoPow k < 2 ^ (53 + k) := by
      rw [Nat.pow_add]
      exact Nat.mul_lt_mul_of_pos_right (Nat.lt_of_le_of_ne small top) (Nat.two_pow_pos k)
    have bits : (m * twoPow k).log2 < 53 + k := (Nat.log2_lt zero).2 below
    exact Nat.dvd_trans (Nat.pow_dvd_pow 2 (by omega)) (Nat.dvd_mul_left _ _)

theorem quotient_by_step_lt (size : Nat) : size / step size < twoPow 53 := by
  rw [Nat.div_lt_iff_lt_mul (step_pos size)]
  refine Nat.lt_of_lt_of_le Nat.lt_log2_self ?_
  show 2 ^ (size.log2 + 1) ≤ 2 ^ 53 * 2 ^ (size.log2 - 52)
  rw [← Nat.pow_add]
  exact Nat.pow_le_pow_right (by decide) (by omega)

theorem round_short (num den : Nat) : Short (round num den) := by
  have le := nearestEven_le num (den * step (num / den))
  rw [← Nat.div_div_eq_div_mul] at le
  have lt := quotient_by_step_lt (num / den)
  exact short_mul_twoPow _ _ (by omega)

end StoryScript.Number
