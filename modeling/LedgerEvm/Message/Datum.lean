import LedgerEvm.Abi.Selector
import LedgerEvm.Address
import LedgerEvm.Hash
import LedgerEvm.Text.Decimal
import LedgerEvm.Timestamp

namespace LedgerEvm

/-!
# Structured values

Requests and answers are made of texts, numbers, lists and records.  A number of
more than 32 bits is written as a decimal text, bytes are written in hexadecimal, and
what is absent is null.  Reading never fails: what is missing or has another shape
reads as zero, as empty, or as the default that the reader names.
-/

/-- A structured value. -/
inductive Datum where
  | null
  | flag (value : Bool)
  | number (value : Int)
  | text (value : String)
  | list (items : List Datum)
  | record (fields : List (String × Datum))
  deriving Inhabited

/-- Types whose values are written as structured values. -/
class ToDatum (α : Type) where
  toDatum : α → Datum

/-- Types whose values are read from structured values. -/
class OfDatum (α : Type) where
  ofDatum : Datum → α

namespace Datum

/-- The structured value that a value is written as. -/
def of {α : Type} [ToDatum α] (value : α) : Datum :=
  ToDatum.toDatum value

/-- A number as a decimal text. -/
def decimal (value : Int) : Datum :=
  .text (toString value)

/-- The field of a record under a key, null when there is none. -/
def field (datum : Datum) (key : String) : Datum :=
  match datum with
  | .record fields => ((fields.find? fun entry => entry.1 == key).map Prod.snd).getD .null
  | _ => .null

/-- The items of a list; anything else has none. -/
def items : Datum → List Datum
  | .list items => items
  | _ => []

/-- The item of a list at a place, null when there is none. -/
def item (datum : Datum) (index : Nat) : Datum :=
  (datum.items[index]?).getD .null

/-- The content of a text; anything else has none. -/
def content : Datum → String
  | .text value => value
  | _ => ""

/-- Whether there is something. -/
def isPresent : Datum → Bool
  | .null => false
  | _ => true

/-- The value that is read from a structured value. -/
def read {α : Type} [OfDatum α] (datum : Datum) : α :=
  OfDatum.ofDatum datum

/-- The value under a key. -/
def get {α : Type} [OfDatum α] (datum : Datum) (key : String) : α :=
  (datum.field key).read

/-- The value under a key, when there is one. -/
def get? {α : Type} [OfDatum α] (datum : Datum) (key : String) : Option α :=
  if (datum.field key).isPresent then some (datum.get key) else none

/-- The value under a key, or a default when there is none. -/
def getD {α : Type} [OfDatum α] (datum : Datum) (key : String) (default : α) : α :=
  (datum.get? key).getD default

/-! ## Digits -/

/-- The value of a hexadecimal digit. -/
def hexDigit (character : Char) : Nat :=
  let code := character.toNat
  if code < 58 then code - 48 else if code < 91 then code - 55 else code - 87

/-- The digits behind the mark of hexadecimal text, when the mark is there. -/
def hexDigits? (text : String) : Option (List Char) :=
  match text.toList with
  | '0' :: 'x' :: digits => some digits
  | _ => none

/-- Append the bytes that pairs of hexadecimal digits write, last byte first. -/
def hexBytesOnto (bytes : Bytes) : List Char → Bytes
  | high :: low :: rest =>
      hexBytesOnto (UInt8.ofNat (hexDigit high * 16 + hexDigit low) :: bytes) rest
  | _ => bytes

/-- The bytes that a hexadecimal text writes, with or without the mark. -/
def hexBytes (text : String) : Bytes :=
  (hexBytesOnto [] ((hexDigits? text).getD text.toList)).reverse

/-- The integer that a number or a text in decimal or marked hexadecimal writes. -/
def integer : Datum → Int
  | .number value => value
  | .text value =>
      match hexDigits? value with
      | some digits => digits.foldl (fun total digit => total * 16 + hexDigit digit) 0
      | none => (Text.integer? value.toList).getD 0
  | _ => 0

end Datum

/-! ## Scalars -/

instance : OfDatum Datum := ⟨id⟩
instance : ToDatum Datum := ⟨id⟩

instance : OfDatum Int := ⟨Datum.integer⟩
instance : OfDatum Nat := ⟨fun datum => datum.integer.toNat⟩
instance : OfDatum UInt8 := ⟨fun datum => UInt8.ofNat datum.integer.toNat⟩
instance : OfDatum UInt16 := ⟨fun datum => UInt16.ofNat datum.integer.toNat⟩
instance : OfDatum UInt32 := ⟨fun datum => UInt32.ofNat datum.integer.toNat⟩
instance : OfDatum UInt64 := ⟨fun datum => UInt64.ofNat datum.integer.toNat⟩
instance : OfDatum Int32 := ⟨fun datum => Int32.ofInt datum.integer⟩
instance : OfDatum Int64 := ⟨fun datum => Int64.ofInt datum.integer⟩
instance : OfDatum Word := ⟨fun datum => BitVec.ofNat 256 datum.integer.toNat⟩
instance : OfDatum Timestamp := ⟨fun datum => ⟨datum.read⟩⟩

instance : ToDatum Nat := ⟨fun value => .number value⟩
instance : ToDatum UInt16 := ⟨fun value => .number value.toNat⟩
instance : ToDatum UInt32 := ⟨fun value => .number value.toNat⟩
instance : ToDatum Int32 := ⟨fun value => .number value.toInt⟩
instance : ToDatum UInt64 := ⟨fun value => .decimal value.toNat⟩
instance : ToDatum Int64 := ⟨fun value => .decimal value.toInt⟩
instance : ToDatum Word := ⟨fun value => .decimal value.toNat⟩
instance : ToDatum Timestamp := ⟨fun value => .of value.nanos⟩

/-- Anything but a flag reads as a no. -/
instance : OfDatum Bool where
  ofDatum
    | .flag value => value
    | _ => false

instance : ToDatum Bool := ⟨.flag⟩
instance : ToDatum Unit := ⟨fun _ => .null⟩

instance : OfDatum String := ⟨Datum.content⟩
instance : ToDatum String := ⟨.text⟩

instance : OfDatum Hash := ⟨fun datum =>
  (Hash.ofBytes? (Datum.hexBytes datum.content)).getD Hash.zero⟩
instance : ToDatum Hash := ⟨fun value => .text value.text⟩

instance : OfDatum Selector := ⟨fun datum =>
  (Selector.ofBytes? (Datum.hexBytes datum.content)).getD ⟨0⟩⟩
instance : ToDatum Selector := ⟨fun value => .text value.toBytes.toHex⟩

/-- An address is twenty bytes behind the mark of hexadecimal, or an entity number. -/
instance : OfDatum Address where
  ofDatum datum :=
    if (Datum.hexDigits? datum.content).isSome then
      (Address.ofBytes? (Datum.hexBytes datum.content)).getD Address.zero
    else
      Address.ofNum datum.read

instance : ToDatum Address := ⟨fun value => .text value.text⟩
instance : ToDatum EntityId := ⟨fun value => .text value.text⟩

/-! ## Combinations -/

instance {α : Type} [OfDatum α] : OfDatum (List α) := ⟨fun datum =>
  datum.items.map Datum.read⟩
instance {α : Type} [ToDatum α] : ToDatum (List α) := ⟨fun values =>
  .list (values.map Datum.of)⟩

/-- Bytes are a text and not a list of numbers. -/
instance (priority := 2000) : OfDatum Bytes := ⟨fun datum => Datum.hexBytes datum.content⟩
instance (priority := 2000) : ToDatum Bytes := ⟨fun value => .text value.toHex⟩

instance {α : Type} [ToDatum α] : ToDatum (Option α) where
  toDatum
    | some value => .of value
    | none => .null

instance {α β : Type} [ToDatum α] [ToDatum β] : ToDatum (α × β) := ⟨fun pair =>
  .list [.of pair.1, .of pair.2]⟩
instance {α β : Type} [OfDatum α] [OfDatum β] : OfDatum (α × β) := ⟨fun datum =>
  ((datum.item 0).read, (datum.item 1).read)⟩

end LedgerEvm
