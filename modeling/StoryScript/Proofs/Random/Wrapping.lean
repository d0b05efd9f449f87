import StoryScript.Proofs.Random.Range

set_option autoImplicit false

namespace StoryScript.Random

-- The count of the integers of a range as 64-bit arithmetic has it: it wraps to zero when they are all.
def span (low high : Int64) : UInt64 := (high - low).toUInt64 + 1

def spanSize (low high : Int64) : Nat := (high.toInt - low.toInt + 1).toNat

def upperProduct (x y : UInt64) : UInt64 :=
  .ofBitVec (((x.toBitVec.setWidth 128 * y.toBitVec.setWidth 128) >>> 64).setWidth 64)

def wordZone (size : UInt64) : UInt64 := .ofBitVec (size.toBitVec <<< size.toBitVec.clz) - 1

-- What one word gives, with all arithmetic wrapping.
def given? (low high : Int64) (word : UInt64) : Option Int64 :=
  let size := span low high
  if size = 0 then some word.toInt64
  else if word * size ≤ wordZone size then some (low + (upperProduct word size).toInt64)
  else none

theorem spanSize_bounds (low high : Int64) (ordered : low ≤ high) :
    0 < spanSize low high ∧ spanSize low high ≤ words := by
  have order := Int64.le_iff_toInt_le.1 ordered
  have lowest := low.le_toInt
  have highest := high.toInt_lt
  unfold spanSize
  rw [words_eq]
  omega

theorem span_toNat (low high : Int64) (ordered : low ≤ high) :
    (span low high).toNat = spanSize low high % words := by
  have order := Int64.le_iff_toInt_le.1 ordered
  have isLow : low.toInt = _ := BitVec.toInt_eq_toNat_cond low.toBitVec
  have isHigh : high.toInt = _ := BitVec.toInt_eq_toNat_cond high.toBitVec
  have lowBits := low.toBitVec.isLt
  have highBits := high.toBitVec.isLt
  have difference : (high - low).toUInt64.toNat = _ := BitVec.toNat_sub high.toBitVec low.toBitVec
  rw [span, UInt64.toNat_add, difference, spanSize, words_eq, UInt64.toNat_one]
  omega

theorem span_eq_zero (low high : Int64) (ordered : low ≤ high) : span low high = 0 ↔ spanSize low high = words := by
  have bounds := spanSize_bounds low high ordered
  rw [← UInt64.toNat_inj, span_toNat low high ordered, UInt64.toNat_zero]
  constructor
  · intro wraps
    by_contra fewer
    rw [Nat.mod_eq_of_lt (by omega)] at wraps
    omega
  · intro every
    rw [every, Nat.mod_self]

theorem span_exact (low high : Int64) (ordered : low ≤ high) (fewer : span low high ≠ 0) :
    (span low high).toNat = spanSize low high ∧ spanSize low high < words := by
  have bounds := spanSize_bounds low high ordered
  have fits : spanSize low high < words := by
    have different := mt (span_eq_zero low high ordered).2 fewer
    omega
  exact ⟨(span_toNat low high ordered).trans (Nat.mod_eq_of_lt fits), fits⟩

theorem add_offset (low high : Int64) (offset : UInt64) (inside : offset.toNat < spanSize low high) :
    (low + offset.toInt64).toInt = low.toInt + offset.toNat := by
  have lowest := low.le_toInt
  have highest := high.toInt_lt
  have signed : offset.toInt64.toInt = _ := BitVec.toInt_eq_toNat_bmod offset.toBitVec
  unfold spanSize at inside
  rw [Int64.toInt_add, signed, Int.add_bmod_bmod, UInt64.toNat_toBitVec]
  exact Int.bmod_eq_of_le (by omega) (by omega)

theorem upperProduct_toNat (x y : UInt64) : (upperProduct x y).toNat = x.toNat * y.toNat / words := by
  have narrowX : x.toNat < 2 ^ 128 := Nat.lt_trans x.toNat_lt (by decide)
  have narrowY : y.toNat < 2 ^ 128 := Nat.lt_trans y.toNat_lt (by decide)
  have whole : x.toNat * y.toNat < 2 ^ 128 := by
    rw [show 2 ^ 128 = 2 ^ 64 * 2 ^ 64 by rfl]
    exact Nat.mul_lt_mul'' x.toNat_lt y.toNat_lt
  have upper : x.toNat * y.toNat / 2 ^ 64 < 2 ^ 64 := Nat.div_lt_of_lt_mul whole
  rw [upperProduct, UInt64.toNat_ofBitVec, BitVec.toNat_setWidth, BitVec.toNat_ushiftRight, BitVec.toNat_mul,
    BitVec.toNat_setWidth, BitVec.toNat_setWidth, UInt64.toNat_toBitVec, UInt64.toNat_toBitVec,
    Nat.mod_eq_of_lt narrowX, Nat.mod_eq_of_lt narrowY, Nat.mod_eq_of_lt whole, Nat.shiftRight_eq_div_pow,
    Nat.mod_eq_of_lt upper]
  rfl

theorem clz_leadingZeros (size : UInt64) (nonzero : size ≠ 0) :
    size.toBitVec.clz.toNat = leadingZeros size.toNat := by
  have positive : size.toNat ≠ 0 := fun zero => nonzero (UInt64.toNat_inj.1 zero)
  have bits : size.toBitVec ≠ 0 := fun zero => nonzero (UInt64.toBitVec_inj.1 zero)
  have lower := BitVec.two_pow_sub_clz_le_toNat_of_ne_zero (by decide) bits
  have upper := BitVec.toNat_lt_two_pow_sub_clz (x := size.toBitVec)
  have few : size.toBitVec.clz.toNat < 64 := BitVec.lt_def.1 (BitVec.clz_lt_iff_ne_zero.2 bits)
  have top : size.toNat.log2 = 63 - size.toBitVec.clz.toNat := by
    refine (Nat.log2_eq_iff positive).2 ⟨lower, ?_⟩
    rwa [show 63 - size.toBitVec.clz.toNat + 1 = 64 - size.toBitVec.clz.toNat by omega]
  rw [leadingZeros, top]
  omega

theorem wordZone_toNat (size : UInt64) (nonzero : size ≠ 0) : (wordZone size).toNat = zone size.toNat := by
  have positive : 0 < size.toNat := Nat.pos_of_ne_zero fun zero => nonzero (UInt64.toNat_inj.1 zero)
  have least := Nat.mul_pos positive (shift_pos size.toNat)
  have shifted := shifted_lt size.toNat positive size.toNat_lt
  have moved : (UInt64.ofBitVec (size.toBitVec <<< size.toBitVec.clz)).toNat =
      size.toNat * Nat.pow 2 (leadingZeros size.toNat) := by
    rw [UInt64.toNat_ofBitVec, BitVec.shiftLeft_eq', BitVec.toNat_shiftLeft, clz_leadingZeros size nonzero,
      UInt64.toNat_toBitVec, Nat.shiftLeft_eq]
    exact Nat.mod_eq_of_lt shifted
  rw [wordZone, UInt64.toNat_sub_of_le, moved]
  · rfl
  · rw [UInt64.le_iff_toNat_le, moved]
    exact least

-- What a word gives is what its number gives, added to the lower end: of all that wraps, only the lower half of the
-- product is meant to.
theorem given_pick (low high : Int64) (ordered : low ≤ high) (fewer : span low high ≠ 0) (word : UInt64) :
    (given? low high word).map Int64.toInt =
      (pick? (spanSize low high) word.toNat).map fun (offset : Nat) => low.toInt + offset := by
  obtain ⟨exact, fits⟩ := span_exact low high ordered fewer
  have positive := (spanSize_bounds low high ordered).1
  have lower : (word * span low high).toNat = word.toNat * spanSize low high % words := by
    rw [UInt64.toNat_mul, exact]
    rfl
  have upper : (upperProduct word (span low high)).toNat = word.toNat * spanSize low high / words := by
    rw [upperProduct_toNat, exact]
  have greatest : (wordZone (span low high)).toNat = zone (spanSize low high) := by
    rw [wordZone_toNat _ fewer, exact]
  unfold given? pick?
  dsimp only
  rw [if_neg fewer]
  by_cases accepted : word.toNat * spanSize low high % words ≤ zone (spanSize low high)
  · have inside := pick_lt (spanSize low high) word.toNat _ positive word.toNat_lt (if_pos accepted)
    rw [if_pos accepted, if_pos (by rwa [UInt64.le_iff_toNat_le, lower, greatest]), Option.map_some, Option.map_some,
      add_offset low high _ (by rwa [upper]), upper]
  · rw [if_neg accepted, if_neg (by rwa [UInt64.le_iff_toNat_le, lower, greatest])]
    rfl

end StoryScript.Random
