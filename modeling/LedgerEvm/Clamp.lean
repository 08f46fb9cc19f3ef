/-!
# Clamped arithmetic

Sums, differences and products of 64-bit numbers that stop at the ends of the
range.  Each operation is the exact integer result moved to the nearest number
in range.
-/

namespace UInt16

/-- The next number, or the largest one again. -/
def succClamp (value : UInt16) : UInt16 :=
  if value = 0xffff then value else value + 1

end UInt16

namespace UInt32

/-- The exact difference, or zero when the subtrahend is larger. -/
def subClamp (left right : UInt32) : UInt32 :=
  if left < right then 0 else left - right

end UInt32

namespace UInt64

/-- The exact sum, or the largest number when the sum is out of range. -/
def addClamp (left right : UInt64) : UInt64 :=
  ofNatClamp (left.toNat + right.toNat)

/-- The exact difference, or zero when the subtrahend is larger. -/
def subClamp (left right : UInt64) : UInt64 :=
  if left < right then 0 else left - right

/-- The exact product, or the largest number when the product is out of range. -/
def mulClamp (left right : UInt64) : UInt64 :=
  ofNatClamp (left.toNat * right.toNat)

/-- The largest 64-bit number. -/
def maxValue : UInt64 :=
  0xffffffffffffffff

end UInt64

namespace Int64

/-- The exact sum, moved into range. -/
def addClamp (left right : Int64) : Int64 :=
  ofIntClamp (left.toInt + right.toInt)

/-- The exact difference, moved into range. -/
def subClamp (left right : Int64) : Int64 :=
  ofIntClamp (left.toInt - right.toInt)

/-- The exact product, moved into range. -/
def mulClamp (left right : Int64) : Int64 :=
  ofIntClamp (left.toInt * right.toInt)

/-- The exact negation, moved into range. -/
def negClamp (value : Int64) : Int64 :=
  ofIntClamp (-value.toInt)

/-- A natural number moved into range. -/
def ofNatClamp (value : Nat) : Int64 :=
  ofIntClamp value

/-- The larger of two numbers. -/
def larger (left right : Int64) : Int64 :=
  if left < right then right else left

end Int64
