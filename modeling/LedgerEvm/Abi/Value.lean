import LedgerEvm.Address
import LedgerEvm.Range
import LedgerEvm.Text.Quoted

namespace LedgerEvm

/-!
# Values of the call format

Arguments and results of contract functions are lists of values: addresses, words,
64-bit integers, truth values, texts, byte strings, and arrays of these.
-/

/-- The declared types of parameters. -/
inductive AbiType where
  | address
  | uint
  | int64
  | bool
  | string
  | bytes
  | array (item : AbiType)
  deriving Repr, DecidableEq

namespace AbiType

/-- Whether values of the type lie behind the fixed part of their list. -/
def isDynamic : AbiType → Bool
  | .string => true
  | .bytes => true
  | .array _ => true
  | _ => false

end AbiType

/-- A parameter or result. -/
inductive AbiValue where
  | address (value : Address)
  | uint (value : Word)
  | int (value : Int64)
  | bool (value : Bool)
  | string (value : String)
  | bytes (value : Bytes)
  | array (items : List AbiValue)
  deriving Repr, Inhabited

namespace AbiValue

/-- Texts separated by commas. -/
def commaSeparated (texts : List String) : String :=
  ", ".intercalate texts

mutual

/-- The text of a value in messages: its kind with the content in parentheses. -/
def text : AbiValue → String
  | .address value => "Address(" ++ value.text ++ ")"
  | .uint value => "Uint(" ++ toString value.toNat ++ ")"
  | .int value => "Int(" ++ toString value.toInt ++ ")"
  | .bool value => "Bool(" ++ (if value then "true" else "false") ++ ")"
  | .string value => "String(" ++ Text.quote value ++ ")"
  | .bytes value =>
      "Bytes([" ++ commaSeparated (value.map fun byte => toString byte.toNat) ++ "])"
  | .array items => "Array([" ++ commaSeparated (texts items) ++ "])"

/-- The texts of several values. -/
def texts : List AbiValue → List String
  | [] => []
  | value :: rest => text value :: texts rest

end

end AbiValue

/-- Failures of reading values. -/
inductive AbiError where
  | expected (kind : String) (found : AbiValue)
  | notIn64Bits (value : Word)
  | serialOutOfRange (value : UInt64)
  | wordPastEnd (offset length : Nat)
  | sizeTooLarge (value : Word)
  | offsetPastEnd (offset : Nat)
  | bytesPastEnd (count : Nat)
  | arrayPastEnd (count : Nat)
  | int64OutOfRange
  | badBool (value : Word)
  | notText
  | selectorMismatch
  deriving Repr

namespace AbiError

/-- The wording of a failure. -/
def message : AbiError → String
  | .expected kind found => "expected " ++ kind ++ ", got " ++ found.text
  | .notIn64Bits value => toString value.toNat ++ " does not fit in 64 bits"
  | .serialOutOfRange value => "serial " ++ toString value.toNat ++ " out of range"
  | .wordPastEnd offset length =>
      "word at " ++ toString offset ++ " past end of " ++ toString length ++ " bytes"
  | .sizeTooLarge value => "offset or length " ++ toString value.toNat ++ " too large"
  | .offsetPastEnd offset => "offset " ++ toString offset ++ " past end"
  | .bytesPastEnd count => toString count ++ " bytes past end"
  | .arrayPastEnd count => "array of " ++ toString count ++ " items past end"
  | .int64OutOfRange => "int64 out of range"
  | .badBool value => "bad bool " ++ toString value.toNat
  | .notText => "string is not UTF-8"
  | .selectorMismatch => "selector mismatch"

end AbiError

namespace AbiValue

/-- The address of an address value. -/
def asAddress : AbiValue → Except AbiError Address
  | .address value => .ok value
  | other => .error (.expected "address" other)

/-- The word of an unsigned value. -/
def asWord : AbiValue → Except AbiError Word
  | .uint value => .ok value
  | other => .error (.expected "uint" other)

/-- The number of an unsigned value below 2^64. -/
def asUInt64 (value : AbiValue) : Except AbiError UInt64 := do
  let word ← value.asWord
  match UInt64.ofNat? word.toNat with
  | some number => return number
  | none => throw (.notIn64Bits word)

/-- The number of an unsigned value below 2^63, as serial numbers are. -/
def asSerial (value : AbiValue) : Except AbiError Int64 := do
  let number ← value.asUInt64
  match Int64.ofUInt64? number with
  | some serial => return serial
  | none => throw (.serialOutOfRange number)

/-- The number of a signed value. -/
def asInt64 : AbiValue → Except AbiError Int64
  | .int value => .ok value
  | other => .error (.expected "int64" other)

/-- The text of a text value. -/
def asString : AbiValue → Except AbiError String
  | .string value => .ok value
  | other => .error (.expected "string" other)

/-- The bytes of a byte string value. -/
def asBytes : AbiValue → Except AbiError Bytes
  | .bytes value => .ok value
  | other => .error (.expected "bytes" other)

/-- The items of an array. -/
def asArray : AbiValue → Except AbiError (List AbiValue)
  | .array items => .ok items
  | other => .error (.expected "array" other)

/-- A value that fits its declared type. -/
inductive HasType : AbiValue → AbiType → Prop where
  | address (value : Address) : HasType (.address value) .address
  | uint (value : Word) : HasType (.uint value) .uint
  | int (value : Int64) : HasType (.int value) .int64
  | bool (value : Bool) : HasType (.bool value) .bool
  | string (value : String) : HasType (.string value) .string
  | bytes (value : Bytes) : HasType (.bytes value) .bytes
  | array
      (items : List AbiValue)
      (item : AbiType)
      (each : ∀ value ∈ items, HasType value item) :
      HasType (.array items) (.array item)

end AbiValue

end LedgerEvm
