import LedgerEvm.Abi.Decoding
import LedgerEvm.Abi.Encoding
import LedgerEvm.Error
import LedgerEvm.TokenService.Function
import LedgerEvm.TokenService.Supply

namespace LedgerEvm

/-!
# Results of token functions

What a token function answers, and how the answer is written for the caller: the
service's own functions start with a status, those at a token's address give the
bare value.
-/

namespace PrecompileError

/-- A call that cannot be read. -/
def ofAbi (error : AbiError) : PrecompileError :=
  .decode error.message

end PrecompileError

/-- What a token function answers. -/
inductive TokenResult where
  | status
  | mint (change : SupplyChange)
  | burn (change : SupplyChange)
  | wipe (change : SupplyChange)
  | approve (approved : Bool)
  | getApproved (spender : Address)
  | create (token : Address)
  deriving Repr, DecidableEq

namespace TokenResult

/-- The supply that a result tells, zero when it tells none. -/
def totalSupply : TokenResult → UInt64
  | .mint change => change.totalSupply
  | .burn change => change.totalSupply
  | .wipe change => change.totalSupply
  | _ => 0

/-- The serial numbers that a result tells. -/
def serials : TokenResult → List Int64
  | .mint change => change.serials
  | .burn change => change.serials
  | .wipe change => change.serials
  | _ => []

/-- The address that a result tells, zero when it tells none. -/
def address : TokenResult → Address
  | .getApproved spender => spender
  | .create token => token
  | _ => Address.zero

/-- Whether a result is not a refused approval. -/
def isApproved : TokenResult → Bool
  | .approve approved => approved
  | _ => true

end TokenResult

/-- Reading values one after the other. -/
abbrev ValueReader := StateT (List AbiValue) (Except PrecompileError)

namespace ValueReader

/-- The next value. -/
def next : ValueReader AbiValue := do
  match ← get with
  | value :: rest =>
      set rest
      pure value
  | [] => throw (.decode "missing output field")

/-- The next value, as a conversion understands it. -/
def nextAs {α : Type} (convert : AbiValue → Except AbiError α) : ValueReader α := do
  match convert (← next) with
  | .ok result => pure result
  | .error error => throw (.ofAbi error)

/-- The next value, an array, each item as a conversion understands it. -/
def nextList {α : Type} (convert : AbiValue → Except AbiError α) : ValueReader (List α) := do
  let items ← nextAs AbiValue.asArray
  match items.mapM convert with
  | .ok results => pure results
  | .error error => throw (.ofAbi error)

/-- Read from the values that some bytes write. -/
def readFrom
    {α : Type}
    (values : Except AbiError (List AbiValue))
    (reader : ValueReader α) :
    Except PrecompileError α := do
  match values with
  | .ok found => return (← reader.run found).1
  | .error error => throw (.ofAbi error)

end ValueReader

namespace OutputShape

/-- The status of success. -/
def success : AbiValue :=
  .int ResponseCode.success.code

/-- The values that a result is written as. -/
def values (shape : OutputShape) (result : TokenResult) : List AbiValue :=
  match shape with
  | .status => [success]
  | .mint =>
      [success, .uint (Word.ofUInt64 result.totalSupply),
       .array (result.serials.map AbiValue.int)]
  | .burn => [success, .uint (Word.ofUInt64 result.totalSupply)]
  | .approve => [success, .bool result.isApproved]
  | .getApproved => [success, .address result.address]
  | .create => [success, .address result.address]
  | .ercBool => [.bool result.isApproved]
  | .ercAddress => [.address result.address]

/-- The bytes of a result. -/
def encode (shape : OutputShape) (result : TokenResult) : Bytes :=
  AbiValue.encode (shape.values result)

/-- The types of the values of a shape. -/
def types : OutputShape → List AbiType
  | .status => [.int64]
  | .mint => [.int64, .uint, .array .int64]
  | .burn => [.int64, .uint]
  | .approve => [.int64, .bool]
  | .getApproved => [.int64, .address]
  | .create => [.int64, .address]
  | .ercBool => [.bool]
  | .ercAddress => [.address]

/-- Whether the values start with a status. -/
def hasStatus : OutputShape → Bool
  | .ercBool => false
  | .ercAddress => false
  | _ => true

/-- Read the status, which has to be success. -/
def readStatus : ValueReader Unit := do
  let code ← ValueReader.nextAs AbiValue.asInt64
  if code ≠ ResponseCode.success.code then
    throw (.decode ("status " ++ toString code.toInt ++ " is not SUCCESS"))

/-- Read a truth value; any other value counts as false. -/
def readApproval : ValueReader TokenResult := do
  match ← ValueReader.next with
  | .bool approved => pure (.approve approved)
  | _ => pure (.approve false)

/-- Read a result behind its status. -/
def readResult : OutputShape → ValueReader TokenResult
  | .status => pure .status
  | .mint => do
      let totalSupply ← ValueReader.nextAs AbiValue.asUInt64
      let serials ← ValueReader.nextList AbiValue.asInt64
      pure (.mint ⟨totalSupply, serials⟩)
  | .burn => do
      let totalSupply ← ValueReader.nextAs AbiValue.asUInt64
      pure (.burn ⟨totalSupply, []⟩)
  | .approve => readApproval
  | .ercBool => readApproval
  | .getApproved => do
      pure (.getApproved (← ValueReader.nextAs AbiValue.asAddress))
  | .ercAddress => do
      pure (.getApproved (← ValueReader.nextAs AbiValue.asAddress))
  | .create => do
      pure (.create (← ValueReader.nextAs AbiValue.asAddress))

/-- The result that some bytes write. -/
def decode (shape : OutputShape) (data : Bytes) : Except PrecompileError TokenResult :=
  ValueReader.readFrom (AbiValue.decode shape.types data) do
    if shape.hasStatus then
      readStatus
    shape.readResult

end OutputShape

end LedgerEvm
