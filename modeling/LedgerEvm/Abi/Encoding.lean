import LedgerEvm.Abi.Selector
import LedgerEvm.Abi.Value

namespace LedgerEvm

/-!
# Writing values

A list of values is written as a head of one word for each value and a tail behind
it.  A value of fixed size stands in its head word; any other value stands in the
tail, and its head word is the distance from the start of the list.
-/

/-- How one value enters a list: in the head, or behind it. -/
inductive AbiPart where
  | head (word : Word)
  | tail (bytes : Bytes)
  deriving Repr, DecidableEq

namespace AbiPart

/-- The bytes of one head word. -/
def wordSize : Nat :=
  32

/-- A number as a word. -/
def sizeWord (size : Nat) : Word :=
  BitVec.ofNat 256 size

/-- The head words, the next tail bytes being at a distance. -/
def heads : Nat → List AbiPart → Bytes
  | _, [] => []
  | distance, .head word :: rest => word.toBytes ++ heads distance rest
  | distance, .tail bytes :: rest =>
      (sizeWord distance).toBytes ++ heads (distance + bytes.length) rest

/-- The tail bytes. -/
def tails : List AbiPart → Bytes
  | [] => []
  | .head _ :: rest => tails rest
  | .tail bytes :: rest => bytes ++ tails rest

/-- Head and tail of a list. -/
def assemble (parts : List AbiPart) : Bytes :=
  heads (wordSize * parts.length) parts ++ tails parts

/-- Every value has one head word. -/
@[simp] theorem length_heads
    (distance : Nat)
    (parts : List AbiPart) :
    (heads distance parts).length = wordSize * parts.length := by
  induction parts generalizing distance with
  | nil =>
      rfl
  | cons part rest inductionHypothesis =>
      cases part <;> simp [heads, inductionHypothesis, wordSize] <;> omega

end AbiPart

namespace AbiValue

/-- A byte string behind its length, with zeros up to a whole word. -/
def counted (bytes : Bytes) : Bytes :=
  (AbiPart.sizeWord bytes.length).toBytes ++ bytes ++
    List.replicate ((32 - bytes.length % 32) % 32) 0

mutual

/-- How a value enters a list. -/
def part : AbiValue → AbiPart
  | .address value => .head value.toWord
  | .uint value => .head value
  | .int value => .head (value.toBitVec.signExtend 256)
  | .bool value => .head (Word.ofBool value)
  | .string value => .tail (counted (Bytes.ofString value))
  | .bytes value => .tail (counted value)
  | .array items =>
      .tail ((AbiPart.sizeWord items.length).toBytes ++ AbiPart.assemble (parts items))

/-- How several values enter a list. -/
def parts : List AbiValue → List AbiPart
  | [] => []
  | value :: rest => part value :: parts rest

end

/-- The bytes of a list of values. -/
def encode (values : List AbiValue) : Bytes :=
  AbiPart.assemble (parts values)

/-- A call: the selector and the arguments. -/
def encodeCall (selector : Selector) (arguments : List AbiValue) : Bytes :=
  selector.toBytes ++ encode arguments

@[simp] theorem parts_eq_map
    (values : List AbiValue) :
    parts values = values.map part := by
  induction values with
  | nil =>
      rfl
  | cons value rest inductionHypothesis =>
      simp [parts, inductionHypothesis]

end AbiValue

end LedgerEvm
