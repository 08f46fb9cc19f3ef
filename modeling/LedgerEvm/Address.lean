import LedgerEvm.Bytes

namespace LedgerEvm

/-!
# Addresses and entity numbers

An address is 160 bits, written as twenty big-endian bytes.  An entity of the
ledger is named by shard, realm and number; the three fill an address exactly, and
an address whose high twelve bytes are zero is read back as the entity with that
number in shard and realm zero.
-/

/-- An account, contract or token address. -/
structure Address where
  bits : BitVec 160
  deriving Repr, DecidableEq

namespace Address

instance : Inhabited Address := ⟨⟨0⟩⟩

instance : Ord Address :=
  ⟨fun left right => compare left.bits.toNat right.bits.toNat⟩

/-- The address of twenty zero bytes, which stands for no entity. -/
def zero : Address :=
  ⟨0⟩

/-- The address whose low eight bytes are a number. -/
def ofNum (num : UInt64) : Address :=
  ⟨BitVec.ofNat 160 num.toNat⟩

/-- The low twenty bytes of a word. -/
def ofWord (word : Word) : Address :=
  ⟨word.setWidth 160⟩

/-- The address as a word with zero high bytes. -/
def toWord (address : Address) : Word :=
  address.bits.setWidth 256

/-- The address that exactly twenty bytes write. -/
def ofBytes? (bytes : Bytes) : Option Address :=
  if bytes.length = 20 then some ⟨BitVec.ofNat 160 bytes.toNat⟩ else none

/-- The twenty big-endian bytes of an address. -/
def toBytes (address : Address) : Bytes :=
  Bytes.ofNat 20 address.bits.toNat

/-- The hexadecimal text of an address. -/
def text (address : Address) : String :=
  address.toBytes.toHex

/-- Whether every byte is zero. -/
def isZero (address : Address) : Bool :=
  address.bits == 0

/-- Whether the high twelve bytes are zero, as in the address of a numbered entity. -/
def isLongZero (address : Address) : Bool :=
  decide (address.bits.toNat < UInt64.size)

/-- Whether the address is one of the nine fixed contract numbers. -/
def isFixedContract (address : Address) : Bool :=
  decide (1 ≤ address.bits.toNat ∧ address.bits.toNat ≤ 9)

/-- The address of a fixed contract, for a number that has one. -/
def fixedContract? (number : Nat) : Option Address :=
  if 1 ≤ number ∧ number ≤ 9 then some ⟨BitVec.ofNat 160 number⟩ else none

@[simp] theorem ofWord_toWord
    (address : Address) :
    ofWord address.toWord = address := by
  simp [ofWord, toWord]

/-- An address made from a number has zero high bytes. -/
theorem isLongZero_ofNum
    (num : UInt64) :
    (ofNum num).isLongZero = true := by
  have bound := num.toNat_lt
  simp only [isLongZero, ofNum, BitVec.toNat_ofNat, UInt64.size, decide_eq_true_eq]
  omega

end Address

/-- The number of an entity inside its shard and realm. -/
structure EntityId where
  shard : UInt32
  realm : UInt64
  num : UInt64
  deriving Repr, DecidableEq

namespace EntityId

/-- The entity with a number in shard and realm zero. -/
def ofNum (num : UInt64) : EntityId :=
  ⟨0, 0, num⟩

/-- Four bytes of shard, eight of realm and eight of number. -/
def toAddress (entity : EntityId) : Address :=
  ⟨BitVec.ofNat 160
    ((entity.shard.toNat * UInt64.size + entity.realm.toNat) * UInt64.size + entity.num.toNat)⟩

/-- The entity of an address whose high twelve bytes are zero. -/
def ofAddress? (address : Address) : Option EntityId :=
  if address.isLongZero then
    some (ofNum (UInt64.ofNat address.bits.toNat))
  else
    none

/-- Shard, realm and number between points. -/
def text (entity : EntityId) : String :=
  toString entity.shard.toNat ++ "." ++ toString entity.realm.toNat ++ "." ++
    toString entity.num.toNat

end EntityId

namespace Address

/-- The fixed contract that hashes with SHA-256. -/
def sha256 : Address :=
  ofNum 2

/-- The fixed contract that returns its input. -/
def identity : Address :=
  ofNum 4

/-- The system contract of the token service. -/
def tokenService : Address :=
  ofNum 0x167

/-- The system contract that converts between currency units. -/
def exchangeRate : Address :=
  ofNum 0x168

/-- The system contract of pseudo-random seeds. -/
def randomSeed : Address :=
  ofNum 0x169

end Address

end LedgerEvm
