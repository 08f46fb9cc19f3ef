namespace LedgerEvm

/-!
# Machine words

The virtual machine computes on 256-bit words.  Addition, subtraction,
multiplication and the bitwise operations are those of `BitVec 256`; this module
adds the operations whose machine meaning differs from the bit-vector one, above
all at a zero divisor and at shift amounts beyond the width.
-/

/-- The word of the virtual machine. -/
abbrev Word := BitVec 256

namespace Word

/-- The truth value of a condition as a word. -/
def ofBool (condition : Bool) : Word :=
  if condition then 1 else 0

/-- The sum, or the greatest word when the sum is out of range. -/
def addClamp (left right : Word) : Word :=
  if left.uaddOverflow right then BitVec.allOnes 256 else left + right

/-- The difference, or zero when the subtrahend is greater. -/
def subClamp (left right : Word) : Word :=
  if left < right then 0 else left - right

/-- Unsigned division; a zero divisor gives zero. -/
def div (dividend divisor : Word) : Word :=
  dividend / divisor

/-- Unsigned remainder; a zero divisor gives zero. -/
def mod (dividend divisor : Word) : Word :=
  if divisor = 0 then 0 else dividend % divisor

/-- The two's complement: the word that makes zero with this one. -/
def negate (word : Word) : Word :=
  ~~~word + 1

/-- The word without its sign.  The least signed word is its own magnitude. -/
def magnitude (word : Word) : Word :=
  if word.msb then negate word else word

/-- Division of magnitudes, negated where the signs differ; a zero divisor gives zero. -/
def signedDiv (dividend divisor : Word) : Word :=
  if divisor = 0 then 0
  else
    let quotient := magnitude dividend / magnitude divisor
    if dividend.msb = divisor.msb then quotient else negate quotient

/-- Remainder of magnitudes with the dividend's sign; a zero divisor gives zero. -/
def signedMod (dividend divisor : Word) : Word :=
  if divisor = 0 then 0
  else
    let remainder := magnitude dividend % magnitude divisor
    if dividend.msb then negate remainder else remainder

/-- Whether a word is less than another: by the signs where they differ. -/
def signedLess (left right : Word) : Bool :=
  match left.msb, right.msb with
  | true, false => true
  | false, true => false
  | _, _ => decide (left < right)

/-- The words that hold sums and products of machine words. -/
abbrev WideWord := BitVec 512

/-- The word with as many zeros in front. -/
def widen (word : Word) : WideWord :=
  word.setWidth 512

/-- The lower half of a wide word. -/
def narrow (word : WideWord) : Word :=
  word.setWidth 256

/-- The sum, taken before reduction, modulo a word; a zero modulus gives zero. -/
def addMod (left right modulus : Word) : Word :=
  if modulus = 0 then 0
  else narrow ((widen left + widen right) % widen modulus)

/-- The product, taken before reduction, modulo a word; a zero modulus gives zero. -/
def mulMod (left right modulus : Word) : Word :=
  if modulus = 0 then 0
  else narrow ((widen left * widen right) % widen modulus)

/-- Square-and-multiply under way: the power so far, the square and what is left to do. -/
structure PowerLoop where
  power : Word
  square : Word
  exponent : Word
  deriving Repr, DecidableEq

namespace PowerLoop

/-- Before the first round. -/
def start (base exponent : Word) : PowerLoop :=
  ⟨1, base, exponent⟩

/-- One round takes the lowest binary digit off the exponent. -/
def round (loop : PowerLoop) : PowerLoop where
  power := if loop.exponent.getLsbD 0 then loop.power * loop.square else loop.power
  square := loop.square * loop.square
  exponent := loop.exponent >>> 1

theorem toNat_exponent_round
    (loop : PowerLoop) :
    loop.round.exponent.toNat = loop.exponent.toNat / 2 := by
  rw [round, BitVec.toNat_ushiftRight, Nat.shiftRight_eq_div_pow, Nat.pow_one]

/-- Go on until no digit is left. -/
def run (loop : PowerLoop) : Word :=
  if loop.exponent = 0 then loop.power else loop.round.run
termination_by loop.exponent.toNat
decreasing_by
  rename_i left
  have positive : loop.exponent.toNat ≠ 0 := fun none => left (BitVec.eq_of_toNat_eq none)
  rw [toNat_exponent_round]
  exact Nat.div_lt_self (Nat.pos_of_ne_zero positive) (by decide)

end PowerLoop

/-- Exponentiation modulo the word size. -/
def pow (base exponent : Word) : Word :=
  (PowerLoop.start base exponent).run

/-- The word whose lowest bits, so many of them, are ones. -/
def lowMask (places : Nat) : Word :=
  ((1 : Word) <<< places) - 1

/--
Repeat the top bit of the byte at `index`, counted from the low end, through all
higher bits.  From index 31 on the word has no higher bits.
-/
def signExtend (index word : Word) : Word :=
  if index.toNat < 31 then
    let sign := index.toNat * 8 + 7
    if word.getLsbD sign then word ||| ~~~lowMask sign else word &&& lowMask sign
  else
    word

/-- The byte at `index`, counted from the high end; zero past the low end. -/
def byte (index word : Word) : Word :=
  if index.toNat < 32 then
    (word >>> (8 * (31 - index.toNat))) &&& 0xff
  else
    0

/-- Shift toward the high end; every bit is gone once the amount reaches the width. -/
def shiftLeft (amount word : Word) : Word :=
  if amount.toNat < 256 then word <<< amount.toNat else 0

/-- Shift toward the low end, filling with zeros. -/
def shiftRight (amount word : Word) : Word :=
  if amount.toNat < 256 then word >>> amount.toNat else 0

/-- Shift toward the low end, filling with the sign bit. -/
def arithmeticShiftRight (amount word : Word) : Word :=
  if amount.toNat < 256 then
    let shifted := word >>> amount.toNat
    if word.msb ∧ 0 < amount.toNat then
      shifted ||| (BitVec.allOnes 256 <<< (256 - amount.toNat))
    else
      shifted
  else if word.msb then
    BitVec.allOnes 256
  else
    0

/-- The number of bytes in the shortest unsigned form of the word; zero has none. -/
def byteLength (word : Word) : Nat :=
  if word = 0 then 0 else Nat.log2 word.toNat / 8 + 1

/-- The word as a 64-bit number, the largest one standing for every word beyond. -/
def toUInt64Clamp (word : Word) : UInt64 :=
  UInt64.ofNatClamp word.toNat

/-- A 64-bit number as a word. -/
def ofUInt64 (value : UInt64) : Word :=
  BitVec.ofNat 256 value.toNat

theorem mod_zero
    (dividend : Word) :
    mod dividend 0 = 0 := by
  simp [mod]

theorem div_zero
    (dividend : Word) :
    div dividend 0 = 0 := by
  simp [div]

theorem signedDiv_zero
    (dividend : Word) :
    signedDiv dividend 0 = 0 := by
  simp [signedDiv]

theorem ofBool_eq_one_iff
    (condition : Bool) :
    ofBool condition = 1 ↔ condition = true := by
  cases condition <;> simp [ofBool]

end Word

end LedgerEvm
