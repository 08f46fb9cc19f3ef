/-!
# Numbers in range

Conversions to numbers of a fixed width that refuse what does not fit.
-/

namespace UInt16

/-- A natural number, when it fits 16 bits. -/
def ofNat? (value : Nat) : Option UInt16 :=
  if value < size then some (ofNat value) else none

end UInt16

namespace UInt32

/-- A natural number, when it fits 32 bits. -/
def ofNat? (value : Nat) : Option UInt32 :=
  if value < size then some (ofNat value) else none

/-- What is in range is read back. -/
@[simp] theorem ofNat?_toNat
    (value : UInt32) :
    ofNat? value.toNat = some value := by
  simp [ofNat?, value.toNat_lt_size]

end UInt32

namespace UInt64

/-- A natural number, when it fits 64 bits. -/
def ofNat? (value : Nat) : Option UInt64 :=
  if value < size then some (ofNat value) else none

/-- An integer, when it is not negative and fits 64 bits. -/
def ofInt? (value : Int) : Option UInt64 :=
  if value < 0 then none else ofNat? value.toNat

/-- What is in range is read back. -/
@[simp] theorem ofNat?_toNat
    (value : UInt64) :
    ofNat? value.toNat = some value := by
  simp [ofNat?, value.toNat_lt_size]

end UInt64

namespace Int64

/-- An integer, when it is in the signed 64-bit range. -/
def ofInt? (value : Int) : Option Int64 :=
  if minValue.toInt ≤ value ∧ value ≤ maxValue.toInt then some (ofInt value) else none

/-- An unsigned number, when it is in the signed range. -/
def ofUInt64? (value : UInt64) : Option Int64 :=
  ofInt? value.toNat

/-- The unsigned number, for a number that is not negative. -/
def toUInt64? (value : Int64) : Option UInt64 :=
  if value < 0 then none else some value.toUInt64

/-- What is in range is read back. -/
@[simp] theorem ofInt?_toInt
    (value : Int64) :
    ofInt? value.toInt = some value := by
  have low : minValue.toInt ≤ value.toInt := value.minValue_le_toInt
  have high : value.toInt ≤ maxValue.toInt := value.toInt_le
  rw [ofInt?, if_pos ⟨low, high⟩, ofInt_toInt]

end Int64
