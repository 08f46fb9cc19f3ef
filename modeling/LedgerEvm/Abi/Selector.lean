import LedgerEvm.Hash.Keccak256

namespace LedgerEvm

/-!
# Function selectors

The first four bytes of a call name the function: they are the first four bytes of
the hash of its signature.
-/

/-- The four bytes that name a function. -/
structure Selector where
  bits : BitVec 32
  deriving Repr, DecidableEq

namespace Selector

/-- The number of bytes. -/
def size : Nat :=
  4

/-- The selector that exactly four bytes write. -/
def ofBytes? (bytes : Bytes) : Option Selector :=
  if bytes.length = size then some ⟨BitVec.ofNat 32 bytes.toNat⟩ else none

/-- The four big-endian bytes of a selector. -/
def toBytes (selector : Selector) : Bytes :=
  Bytes.ofNat size selector.bits.toNat

/-- The selector of a signature: a name with parameter types in parentheses. -/
def ofSignature (signature : String) : Selector :=
  ⟨(Keccak.keccak256 (Bytes.ofString signature)).word.extractLsb' 224 32⟩

/-- The selector at the start of a call, when the call is long enough. -/
def ofInput? (input : Bytes) : Option Selector :=
  ofBytes? (input.take size)

@[simp] theorem length_toBytes
    (selector : Selector) :
    selector.toBytes.length = size := by
  simp [toBytes]

end Selector

end LedgerEvm
