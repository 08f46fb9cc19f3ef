import LedgerEvm.Clamp
import LedgerEvm.Range
import LedgerEvm.Word

/-!
# What clamped arithmetic computes

Each clamped operation is the exact one on natural numbers, moved to the nearest end of
the range.  A plain sum or difference is exact as long as it stays in range.
-/

namespace UInt64

theorem toNat_ofNatClamp
    (value : Nat) :
    (ofNatClamp value).toNat = min value (UInt64.size - 1) := by
  unfold ofNatClamp
  split
  · rename_i fits
    rw [toNat_ofNatLT]
    omega
  · rename_i large
    rw [Nat.min_eq_right (by omega)]
    rfl

theorem toNat_addClamp
    (left right : UInt64) :
    (left.addClamp right).toNat = min (left.toNat + right.toNat) (UInt64.size - 1) :=
  toNat_ofNatClamp _

theorem toNat_subClamp
    (left right : UInt64) :
    (left.subClamp right).toNat = left.toNat - right.toNat := by
  unfold subClamp
  split
  · rename_i short
    rw [lt_iff_toNat_lt] at short
    rw [Nat.sub_eq_zero_of_le (Nat.le_of_lt short)]
    rfl
  · rename_i enough
    exact UInt64.toNat_sub_of_le left right (UInt64.not_lt.mp enough)

theorem toNat_mulClamp
    (left right : UInt64) :
    (left.mulClamp right).toNat = min (left.toNat * right.toNat) (UInt64.size - 1) :=
  toNat_ofNatClamp _

/-- A clamped difference is no more than what it was taken from. -/
theorem subClamp_le
    (left right : UInt64) :
    left.subClamp right ≤ left := by
  rw [le_iff_toNat_le, toNat_subClamp]
  exact Nat.sub_le _ _

/-- A difference from below is exact. -/
theorem toNat_sub_add_cancel
    {whole part : UInt64}
    (within : part ≤ whole) :
    (whole - part).toNat + part.toNat = whole.toNat := by
  rw [UInt64.toNat_sub_of_le _ _ within]
  exact Nat.sub_add_cancel (le_iff_toNat_le.mp within)

/-- A sum in range is exact. -/
theorem toNat_add_of_lt
    {left right : UInt64}
    (inRange : left.toNat + right.toNat < UInt64.size) :
    (left + right).toNat = left.toNat + right.toNat := by
  rw [UInt64.toNat_add, Nat.mod_eq_of_lt inRange]

/-- A sum that is within another number is exact. -/
theorem toNat_add_of_within
    {left right whole : UInt64}
    (within : left.toNat + right.toNat ≤ whole.toNat) :
    (left + right).toNat = left.toNat + right.toNat :=
  toNat_add_of_lt (Nat.lt_of_le_of_lt within whole.toNat_lt)

/-- Counting reaches the next number, unless there is none. -/
theorem addClamp_one_cases
    (value : UInt64) :
    value.addClamp 1 = value ∨ (value.addClamp 1).toNat = value.toNat + 1 := by
  have bound : value.toNat < UInt64.size := value.toNat_lt
  have one : (1 : UInt64).toNat = 1 := rfl
  rw [← UInt64.toNat_inj, toNat_addClamp, one]
  omega

end UInt64

namespace UInt32

theorem toNat_subClamp
    (left right : UInt32) :
    (left.subClamp right).toNat = left.toNat - right.toNat := by
  unfold subClamp
  split
  · rename_i short
    rw [lt_iff_toNat_lt] at short
    rw [Nat.sub_eq_zero_of_le (Nat.le_of_lt short)]
    rfl
  · rename_i enough
    exact UInt32.toNat_sub_of_le left right (UInt32.not_lt.mp enough)

/-- A sum in range is exact. -/
theorem toNat_add_of_lt
    {left right : UInt32}
    (inRange : left.toNat + right.toNat < UInt32.size) :
    (left + right).toNat = left.toNat + right.toNat := by
  rw [UInt32.toNat_add, Nat.mod_eq_of_lt inRange]

end UInt32

namespace UInt16

/-- The next number is at most one more. -/
theorem toNat_succClamp_le
    (value : UInt16) :
    value.succClamp.toNat ≤ value.toNat + 1 := by
  unfold succClamp
  split
  · exact Nat.le_succ _
  · rw [UInt16.toNat_add]
    exact Nat.mod_le _ _

end UInt16

namespace Int32

/-- A clamped number that is not negative is the exact one or the greatest. -/
theorem toInt_ofIntClamp_of_nonneg
    {value : Int}
    (nonneg : 0 ≤ value) :
    (ofIntClamp value).toInt = min maxValue.toInt value := by
  have low : minValue.toInt ≤ 0 := by decide
  have high : 0 ≤ maxValue.toInt := by decide
  unfold ofIntClamp
  split
  · split
    · rw [toInt_ofIntLE]
      omega
    · omega
  · omega

theorem ofIntClamp_nonneg
    {value : Int}
    (nonneg : 0 ≤ value) :
    0 ≤ (ofIntClamp value).toInt := by
  have high : 0 ≤ maxValue.toInt := by decide
  rw [toInt_ofIntClamp_of_nonneg nonneg]
  omega

end Int32

namespace Int64

/-- A clamped integer is the nearest one in range. -/
theorem toInt_ofIntClamp_eq
    (value : Int) :
    (ofIntClamp value).toInt = max minValue.toInt (min value maxValue.toInt) := by
  have ordered : minValue.toInt ≤ maxValue.toInt := by decide
  unfold ofIntClamp
  split
  · split
    · rw [toInt_ofIntLE]
      omega
    · omega
  · omega

/-- A clamped number that is not negative is the exact one or the greatest. -/
theorem toInt_ofIntClamp_of_nonneg
    {value : Int}
    (nonneg : 0 ≤ value) :
    (ofIntClamp value).toInt = min maxValue.toInt value := by
  have low : minValue.toInt ≤ 0 := by decide
  have high : 0 ≤ maxValue.toInt := by decide
  rw [toInt_ofIntClamp_eq]
  omega

theorem toInt_addClamp_of_nonneg
    {left right : Int64}
    (leftUp : 0 ≤ left.toInt)
    (rightUp : 0 ≤ right.toInt) :
    (left.addClamp right).toInt = min maxValue.toInt (left.toInt + right.toInt) :=
  toInt_ofIntClamp_of_nonneg (Int.add_nonneg leftUp rightUp)

theorem toInt_mulClamp_of_nonneg
    {left right : Int64}
    (leftUp : 0 ≤ left.toInt)
    (rightUp : 0 ≤ right.toInt) :
    (left.mulClamp right).toInt = min maxValue.toInt (left.toInt * right.toInt) :=
  toInt_ofIntClamp_of_nonneg (Int.mul_nonneg leftUp rightUp)

@[simp] theorem addClamp_zero
    (value : Int64) :
    value.addClamp 0 = value := by
  rw [addClamp, toInt_zero, Int.add_zero, ofIntClamp_toInt]

@[simp] theorem zero_addClamp
    (value : Int64) :
    (0 : Int64).addClamp value = value := by
  rw [addClamp, toInt_zero, Int.zero_add, ofIntClamp_toInt]

@[simp] theorem zero_mulClamp
    (value : Int64) :
    (0 : Int64).mulClamp value = 0 := by
  rw [mulClamp, toInt_zero, Int.zero_mul]
  rfl

@[simp] theorem one_mulClamp
    (value : Int64) :
    (1 : Int64).mulClamp value = value := by
  rw [mulClamp, toInt_one, Int.one_mul, ofIntClamp_toInt]

/-- A sum in range is not moved. -/
theorem addClamp_of_inRange
    {left right : Int64}
    (low : minValue.toInt ≤ left.toInt + right.toInt)
    (high : left.toInt + right.toInt ≤ maxValue.toInt) :
    left.addClamp right = left + right := by
  rw [← toInt_inj, addClamp, toInt_ofIntClamp low high, toInt_add]
  rw [toInt_minValue] at low
  rw [toInt_maxValue] at high
  exact (Int.bmod_eq_of_le (by omega) (by omega)).symm

theorem toInt_larger
    (left right : Int64) :
    (larger left right).toInt = max left.toInt right.toInt := by
  unfold larger
  split
  · rename_i less
    rw [lt_iff_toInt_lt] at less
    omega
  · rename_i notLess
    rw [lt_iff_toInt_lt] at notLess
    omega

/-- A product in range is exact. -/
theorem toInt_mul_of_inRange
    {left right : Int64}
    (low : minValue.toInt ≤ left.toInt * right.toInt)
    (high : left.toInt * right.toInt ≤ maxValue.toInt) :
    (left * right).toInt = left.toInt * right.toInt := by
  rw [toInt_minValue] at low
  rw [toInt_maxValue] at high
  rw [toInt_mul]
  exact Int.bmod_eq_of_le (by omega) (by omega)

/-- A sum in range is exact. -/
theorem toInt_add_of_inRange
    {left right : Int64}
    (low : minValue.toInt ≤ left.toInt + right.toInt)
    (high : left.toInt + right.toInt ≤ maxValue.toInt) :
    (left + right).toInt = left.toInt + right.toInt := by
  rw [← addClamp_of_inRange low high, addClamp, toInt_ofIntClamp low high]

/-- A number that is not negative is the same one without a sign. -/
theorem toNat_toUInt64_of_nonneg
    {value : Int64}
    (nonneg : 0 ≤ value.toInt) :
    (value.toUInt64.toNat : Int) = value.toInt := by
  have bits : value.toInt = value.toBitVec.toInt := rfl
  have bound := value.toBitVec.isLt
  rw [← toNat_toBitVec]
  rw [bits, BitVec.toInt_eq_toNat_cond] at nonneg ⊢
  split
  · rfl
  · omega

/-- What is in range is the exact integer. -/
theorem toInt_of_ofInt?
    {value : Int}
    {result : Int64}
    (inRange : ofInt? value = some result) :
    result.toInt = value := by
  unfold ofInt? at inRange
  split at inRange
  · rename_i within
    cases inRange
    rw [toInt_minValue, toInt_maxValue] at within
    exact toInt_ofInt_of_le within.1 (by omega)
  · cases inRange

/-! ## Numbers up to others -/

/-- A number that is no debt and no more than another one. -/
structure CountsUpTo (count more : Int64) : Prop where
  nonneg : 0 ≤ count.toInt
  le : count.toInt ≤ more.toInt

namespace CountsUpTo

variable {count more count' more' : Int64}

theorem refl
    (nonneg : 0 ≤ count.toInt) :
    count.CountsUpTo count :=
  ⟨nonneg, Int.le_refl _⟩

theorem more_nonneg
    (upTo : count.CountsUpTo more) :
    0 ≤ more.toInt :=
  Int.le_trans upTo.nonneg upTo.le

theorem addClamp
    (first : count.CountsUpTo more)
    (second : count'.CountsUpTo more') :
    (count.addClamp count').CountsUpTo (more.addClamp more') := by
  obtain ⟨nonneg, le⟩ := first
  obtain ⟨nonneg', le'⟩ := second
  have high : 0 ≤ maxValue.toInt := by decide
  constructor
  · rw [toInt_addClamp_of_nonneg nonneg nonneg']
    omega
  · rw [toInt_addClamp_of_nonneg nonneg nonneg',
      toInt_addClamp_of_nonneg (by omega) (by omega)]
    omega

theorem mulClamp
    (first : count.CountsUpTo more)
    (second : count'.CountsUpTo more') :
    (count.mulClamp count').CountsUpTo (more.mulClamp more') := by
  have product : count.toInt * count'.toInt ≤ more.toInt * more'.toInt :=
    Int.mul_le_mul first.le second.le second.nonneg first.more_nonneg
  have nonneg : 0 ≤ count.toInt * count'.toInt := Int.mul_nonneg first.nonneg second.nonneg
  have high : 0 ≤ maxValue.toInt := by decide
  constructor
  · rw [toInt_mulClamp_of_nonneg first.nonneg second.nonneg]
    omega
  · rw [toInt_mulClamp_of_nonneg first.nonneg second.nonneg,
      toInt_mulClamp_of_nonneg first.more_nonneg second.more_nonneg]
    omega

end CountsUpTo

/-- A number that counts up to another one, which is within a bound. -/
structure CountsWithin (bound : Nat) (count more : Int64) : Prop where
  upTo : count.CountsUpTo more
  within : more.toInt ≤ bound

namespace CountsWithin

variable
  {bound bound' : Nat}
  {count more count' more' : Int64}

/-- A length that is no more than another one. -/
theorem ofNatClamp
    {size greater : Nat}
    (le : size ≤ greater)
    (small : greater < bound) :
    CountsWithin bound (Int64.ofNatClamp size) (Int64.ofNatClamp greater) := by
  have high : 0 ≤ maxValue.toInt := by decide
  refine ⟨⟨?_, ?_⟩, ?_⟩ <;>
    simp only [Int64.ofNatClamp, toInt_ofIntClamp_of_nonneg (Int.natCast_nonneg _)] <;>
    omega

/-- A fixed number. -/
theorem same
    (value : count.toInt = bound) :
    CountsWithin bound count count :=
  ⟨.refl (by omega), Int.le_of_eq value⟩

/-- A 32-bit number that is no debt, on both sides. -/
theorem ofInt32
    {value : Int32}
    (nonneg : 0 ≤ value.toInt) :
    CountsWithin 2147483647 value.toInt64 value.toInt64 := by
  have widened := value.toInt_toInt64
  have greatest := value.toInt_le
  rw [Int32.toInt_maxValue] at greatest
  exact ⟨.refl (by omega), by omega⟩

/-- Sums that stay in range are exact. -/
theorem add
    (first : CountsWithin bound count more)
    (second : CountsWithin bound' count' more')
    (inRange : ((bound + bound' : Nat) : Int) ≤ maxValue.toInt) :
    CountsWithin (bound + bound') (count + count') (more + more') := by
  obtain ⟨⟨nonneg, le⟩, within⟩ := first
  obtain ⟨⟨nonneg', le'⟩, within'⟩ := second
  have low := Int64.toInt_minValue
  have high := Int64.toInt_maxValue
  have sum := @toInt_add_of_inRange count count' (by omega) (by omega)
  have moreSum := @toInt_add_of_inRange more more' (by omega) (by omega)
  exact ⟨⟨by omega, by omega⟩, by omega⟩

/-- Products that stay in range are exact. -/
theorem mul
    (first : CountsWithin bound count more)
    (second : CountsWithin bound' count' more')
    (inRange : ((bound * bound' : Nat) : Int) ≤ maxValue.toInt) :
    CountsWithin (bound * bound') (count * count') (more * more') := by
  obtain ⟨upTo, within⟩ := first
  obtain ⟨upTo', within'⟩ := second
  have nonneg := Int.mul_nonneg upTo.nonneg upTo'.nonneg
  have le := Int.mul_le_mul upTo.le upTo'.le upTo'.nonneg upTo.more_nonneg
  have most :=
    Int.mul_le_mul within within' upTo'.more_nonneg (Int.natCast_nonneg bound)
  rw [← Int.natCast_mul] at most
  have low := Int64.toInt_minValue
  have high := Int64.toInt_maxValue
  have product := @toInt_mul_of_inRange count count' (by omega) (by omega)
  have moreProduct := @toInt_mul_of_inRange more more' (by omega) (by omega)
  exact ⟨⟨by omega, by omega⟩, by omega⟩

end CountsWithin

end Int64

namespace LedgerEvm.Word

theorem toNat_subClamp
    (left right : Word) :
    (left.subClamp right).toNat = left.toNat - right.toNat := by
  unfold subClamp
  split
  · rename_i short
    rw [BitVec.lt_def] at short
    exact (Nat.sub_eq_zero_of_le (Nat.le_of_lt short)).symm
  · rename_i enough
    exact BitVec.toNat_sub_of_le (BitVec.not_lt.mp enough)

theorem toNat_addClamp
    (left right : Word) :
    (left.addClamp right).toNat =
      min (left.toNat + right.toNat) (BitVec.allOnes 256).toNat := by
  unfold addClamp
  split
  · rename_i tooLarge
    simp only [BitVec.uaddOverflow, ge_iff_le, decide_eq_true_eq] at tooLarge
    rw [BitVec.toNat_allOnes]
    omega
  · rename_i fits
    simp only [BitVec.uaddOverflow, ge_iff_le, decide_eq_true_eq, Nat.not_le] at fits
    rw [BitVec.toNat_add_of_lt fits, BitVec.toNat_allOnes]
    omega

end LedgerEvm.Word
