import LedgerEvm.Abi.Selector
import LedgerEvm.Abi.Value

namespace LedgerEvm

/-!
# Reading values

Reading follows the declared types.  It stays inside the bytes it was given and
passes over whatever they hold beside the values asked for.
-/

namespace AbiType

/-- The word at an offset. -/
def readWord (data : Bytes) (offset : Nat) : Except AbiError Word :=
  match data.window? offset 32 with
  | some window => .ok (Word.ofBytes window)
  | none => .error (.wordPastEnd offset data.length)

/-- The distance or count at an offset, which is below 2^32. -/
def readSize (data : Bytes) (offset : Nat) : Except AbiError Nat := do
  let word ← readWord data offset
  if word.toNat < UInt32.size then
    return word.toNat
  else
    throw (.sizeTooLarge word)

/-- The bytes that the head word at an offset points to. -/
def readTail (data : Bytes) (offset : Nat) : Except AbiError Bytes := do
  let distance ← readSize data offset
  if distance ≤ data.length then
    return data.drop distance
  else
    throw (.offsetPastEnd distance)

/-- The byte string behind its length at the start of a tail. -/
def readCounted (tail : Bytes) : Except AbiError Bytes := do
  let count ← readSize tail 0
  match Bytes.window? (tail.drop 32) 0 count with
  | some content => return content
  | none => throw (.bytesPastEnd count)

/-- A 64-bit integer; the word must repeat its sign. -/
def toInt64 (word : Word) : Except AbiError AbiValue :=
  match Int64.ofInt? word.toInt with
  | some value => .ok (.int value)
  | none => .error .int64OutOfRange

/-- A truth value, written as zero or one. -/
def toBool (word : Word) : Except AbiError AbiValue :=
  if word = 0 then .ok (.bool false)
  else if word = 1 then .ok (.bool true)
  else .error (.badBool word)

/-- A text. -/
def toText (content : Bytes) : Except AbiError AbiValue :=
  match content.toString? with
  | some text => .ok (.string text)
  | none => .error .notText

/-- The value of a type whose head word is at an offset. -/
def read : AbiType → Bytes → Nat → Except AbiError AbiValue
  | .address, data, offset => do
      return .address (Address.ofWord (← readWord data offset))
  | .uint, data, offset => do
      return .uint (← readWord data offset)
  | .int64, data, offset => do
      toInt64 (← readWord data offset)
  | .bool, data, offset => do
      toBool (← readWord data offset)
  | .string, data, offset => do
      toText (← readCounted (← readTail data offset))
  | .bytes, data, offset => do
      return .bytes (← readCounted (← readTail data offset))
  | .array item, data, offset => do
      let tail ← readTail data offset
      let count ← readSize tail 0
      let body := tail.drop 32
      if body.length < count * 32 then
        throw (.arrayPastEnd count)
      return .array (← (List.range count).mapM fun index => read item body (index * 32))

end AbiType

namespace AbiValue

/-- The values of the given types, whose head words start at an offset. -/
def decodeFrom (data : Bytes) : Nat → List AbiType → Except AbiError (List AbiValue)
  | _, [] => .ok []
  | offset, type :: rest => do
      let value ← type.read data offset
      return value :: (← decodeFrom data (offset + 32) rest)

/-- The values of the given types. -/
def decode (types : List AbiType) (data : Bytes) : Except AbiError (List AbiValue) :=
  decodeFrom data 0 types

/-- The arguments of a call of the expected function. -/
def decodeCall
    (expected : Selector)
    (types : List AbiType)
    (input : Bytes) :
    Except AbiError (List AbiValue) :=
  if Selector.ofInput? input = some expected then
    decode types (input.drop Selector.size)
  else
    .error .selectorMismatch

end AbiValue

end LedgerEvm
