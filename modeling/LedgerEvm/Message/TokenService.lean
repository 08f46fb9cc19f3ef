import LedgerEvm.Message.Error
import LedgerEvm.Message.Transaction
import LedgerEvm.TokenService.Call
import LedgerEvm.TokenService.Dispatch

namespace LedgerEvm

/-!
# Token functions in requests and answers

The values of the call format are pairs of a type's name and a content; calls and
results of token functions are records.
-/

namespace AbiType

/-- The type that a name backwards stands for: each pair of brackets is an array level. -/
def ofNameBackwards : List Char → AbiType
  | ']' :: '[' :: rest => .array (ofNameBackwards rest)
  | rest =>
      match String.ofList rest.reverse with
      | "uint" => .uint
      | "int64" => .int64
      | "bool" => .bool
      | "string" => .string
      | "bytes" => .bytes
      | _ => .address

instance : OfDatum AbiType := ⟨fun datum => ofNameBackwards datum.content.toList.reverse⟩

end AbiType

namespace AbiValue

mutual

/-- The pair that a value is written as. -/
def toDatum : AbiValue → Datum
  | .address value => .of ("address", value)
  | .uint value => .of ("uint", value)
  | .int value => .of ("int", value)
  | .bool value => .of ("bool", value)
  | .string value => .of ("string", value)
  | .bytes value => .of ("bytes", value)
  | .array items => .list [.text "array", .list (toData items)]

/-- The pairs that several values are written as. -/
def toData : List AbiValue → List Datum
  | [] => []
  | value :: rest => toDatum value :: toData rest

end

instance : ToDatum AbiValue := ⟨toDatum⟩

mutual

/-- The value that a pair writes. -/
def ofDatum : Datum → AbiValue
  | .list [.text "array", .list items] => .array (ofData items)
  | .list [.text "address", content] => .address content.read
  | .list [.text "int", content] => .int content.read
  | .list [.text "bool", content] => .bool content.read
  | .list [.text "string", content] => .string content.read
  | .list [.text "bytes", content] => .bytes content.read
  | datum => .uint (datum.item 1).read

/-- The values that several pairs write. -/
def ofData : List Datum → List AbiValue
  | [] => []
  | datum :: rest => ofDatum datum :: ofData rest

end

instance : OfDatum AbiValue := ⟨ofDatum⟩

end AbiValue

instance : OfDatum SupplyChange where
  ofDatum datum := ⟨datum.get "total_supply", datum.get "serials"⟩

namespace TokenResult

/-- The record of a result of some kind. -/
def record (kind : String) (fields : List (String × Datum)) : Datum :=
  .record (("kind", .text kind) :: fields)

/-- The record of a result that tells a supply. -/
def supplyRecord (kind : String) (change : SupplyChange) : Datum :=
  record kind [("total_supply", .of change.totalSupply), ("serials", .of change.serials)]

instance : ToDatum TokenResult where
  toDatum
    | .status => record "Status" []
    | .mint change => supplyRecord "Mint" change
    | .burn change => supplyRecord "Burn" change
    | .wipe change => supplyRecord "Wipe" change
    | .approve approved => record "Approve" [("approved", .of approved)]
    | .getApproved spender => record "GetApproved" [("spender", .of spender)]
    | .create token => record "Create" [("token", .of token)]

instance : OfDatum TokenResult where
  ofDatum datum :=
    match datum.get "kind" with
    | "Mint" => .mint datum.read
    | "Burn" => .burn datum.read
    | "Wipe" => .wipe datum.read
    | "Approve" => .approve (datum.get "approved")
    | "GetApproved" => .getApproved (datum.get "spender")
    | "Create" => .create (datum.get "token")
    | _ => .status

end TokenResult

instance : OfDatum CallSetting where
  ofDatum datum :=
    match datum.get "kind" with
    | "Approve" =>
        .approval
          ⟨datum.get "token", datum.get "sender", datum.get "owner", datum.get "fungible"⟩
    | "ErcTransfer" =>
        .transfer
          ⟨datum.get "selector", datum.get "sender", datum.get "token", datum.get "nft"⟩
    | "Create" => .creation ⟨datum.get "selector", datum.get "account"⟩
    | _ => .plain

instance : ToDatum SpenderQuery where
  toDatum query := .record [("token", .of query.token), ("serial", .of query.serial)]

instance : ToDatum TokenCall where
  toDatum
    | .write body kind => .record
        [("write", .of body), ("cost", .of kind), ("tinycents", .of kind.tinycents)]
    | .query query => .record [("get_approved", .of query)]

instance : OfDatum SystemCall where
  ofDatum datum :=
    { sender := datum.get "sender"
      timestamp := datum.get "timestamp"
      gasLimit := datum.getD "gas_limit" 15000000
      isStatic := datum.get "static" }

instance : ToDatum SystemAnswer where
  toDatum answer := .record
    [("gas_cost", .of answer.gasCost), ("output", .of answer.output),
     ("state_changed", .of answer.stateChanged)]

end LedgerEvm
