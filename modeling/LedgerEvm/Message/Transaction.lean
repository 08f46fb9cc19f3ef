import LedgerEvm.Message.Name
import LedgerEvm.Transaction

namespace LedgerEvm

/-!
# Transactions in requests and answers

A body is a record that names its type; a type that is not known has a name of its
own.
-/

instance : OfDatum AccountAmount where
  ofDatum datum := ⟨datum.get "account", datum.get "amount", datum.get "approval"⟩

instance : ToDatum AccountAmount where
  toDatum leg := .record
    [("account", .of leg.account), ("amount", .of leg.amount), ("approval", .of leg.isApproval)]

instance : OfDatum NftTransfer where
  ofDatum datum :=
    ⟨datum.get "sender", datum.get "receiver", datum.get "serial", datum.get "approval"⟩

instance : ToDatum NftTransfer where
  toDatum leg := .record
    [("sender", .of leg.sender), ("receiver", .of leg.receiver), ("serial", .of leg.serial),
     ("approval", .of leg.isApproval)]

instance : OfDatum TokenTransfers where
  ofDatum datum := ⟨datum.get "token", datum.get "transfers", datum.get "nft_transfers"⟩

instance : ToDatum TokenTransfers where
  toDatum list := .record
    [("token", .of list.token), ("transfers", .of list.transfers),
     ("nft_transfers", .of list.nftTransfers)]

instance : OfDatum TokenAllowance where
  ofDatum datum :=
    ⟨datum.get "token", datum.get "owner", datum.get "spender", datum.get "amount"⟩

instance : ToDatum TokenAllowance where
  toDatum allowance := .record
    [("token", .of allowance.token), ("owner", .of allowance.owner),
     ("spender", .of allowance.spender), ("amount", .of allowance.amount)]

instance : OfDatum NftAllowance where
  ofDatum datum :=
    ⟨datum.get "token", datum.get "owner", datum.get "spender", datum.get "serials"⟩

instance : ToDatum NftAllowance where
  toDatum allowance := .record
    [("token", .of allowance.token), ("owner", .of allowance.owner),
     ("spender", .of allowance.spender), ("serials", .of allowance.serials)]

instance : OfDatum TokenRelations where
  ofDatum datum := ⟨datum.get "account", datum.get "tokens"⟩

namespace TransactionBody

/-- The bodies without fields. -/
def bare : List TransactionBody :=
  [.contractCreate, .contractUpdate, .contractDelete, .ethereumTransaction,
   .cryptoDeleteAllowance, .cryptoCreate, .cryptoDelete, .cryptoUpdate, .freeze,
   .tokenFreezeAccount, .tokenUnfreezeAccount, .tokenGrantKycToAccount,
   .tokenRevokeKycFromAccount, .tokenUpdate, .tokenPause, .tokenUnpause]

/-- The name of a body's type. -/
def typeName : TransactionBody → String
  | .unrecognized _ => "Unrecognized"
  | body => body.functionalityOrNone.name

/-- The fields of a body. -/
def fields : TransactionBody → List (String × Datum)
  | .contractCall call =>
      [("contract", .of call.contract), ("gas", .of call.gas), ("amount", .of call.amount),
       ("parameters", .of call.parameters)]
  | .cryptoApproveAllowance approval =>
      [("token_allowances", .of approval.tokenAllowances),
       ("nft_allowances", .of approval.nftAllowances)]
  | .cryptoTransfer transfer =>
      [("hbar_transfers", .of transfer.hbarTransfers),
       ("token_transfers", .of transfer.tokenTransfers)]
  | .tokenCreate creation =>
      [("name", .of creation.name), ("symbol", .of creation.symbol),
       ("treasury", .of creation.treasury), ("initial_supply", .of creation.initialSupply),
       ("decimals", .of creation.decimals), ("token_type", .of creation.kind),
       ("supply_key", .of creation.supplyKey)]
  | .tokenDelete token => [("token", .of token)]
  | .tokenMint mint =>
      [("token", .of mint.token), ("amount", .of mint.amount),
       ("metadata", .of mint.metadata)]
  | .tokenBurn burn =>
      [("token", .of burn.token), ("amount", .of burn.amount), ("serials", .of burn.serials)]
  | .tokenAccountWipe wipe =>
      [("token", .of wipe.token), ("account", .of wipe.account), ("amount", .of wipe.amount),
       ("serials", .of wipe.serials)]
  | .tokenAssociateToAccount relations =>
      [("account", .of relations.account), ("tokens", .of relations.tokens)]
  | .tokenDissociateFromAccount relations =>
      [("account", .of relations.account), ("tokens", .of relations.tokens)]
  | .unrecognized kind => [("name", .of kind)]
  | _ => []

instance : ToDatum TransactionBody where
  toDatum body := .record (("type", .of body.typeName) :: body.fields)

/-- The body of a type without fields, or one that is not known. -/
def ofBareType (type name : String) : TransactionBody :=
  (bare.find? fun body => body.typeName == type).getD (.unrecognized name)

instance : OfDatum TransactionBody where
  ofDatum datum :=
    match datum.get "type" with
    | "ContractCall" =>
        .contractCall
          ⟨datum.get "contract", datum.get "gas", datum.get "amount", datum.get "parameters"⟩
    | "CryptoApproveAllowance" =>
        .cryptoApproveAllowance ⟨datum.get "token_allowances", datum.get "nft_allowances"⟩
    | "CryptoTransfer" =>
        .cryptoTransfer ⟨datum.get "hbar_transfers", datum.get "token_transfers"⟩
    | "TokenCreate" =>
        .tokenCreate
          { name := datum.get "name"
            symbol := datum.get "symbol"
            treasury := datum.get "treasury"
            initialSupply := datum.get "initial_supply"
            decimals := datum.get "decimals"
            kind := datum.get "token_type"
            supplyKey := datum.get "supply_key" }
    | "TokenDelete" => .tokenDelete (datum.get "token")
    | "TokenMint" =>
        .tokenMint ⟨datum.get "token", datum.get "amount", datum.get "metadata"⟩
    | "TokenBurn" =>
        .tokenBurn ⟨datum.get "token", datum.get "amount", datum.get "serials"⟩
    | "TokenAccountWipe" =>
        .tokenAccountWipe
          ⟨datum.get "token", datum.get "account", datum.get "amount", datum.get "serials"⟩
    | "TokenAssociateToAccount" => .tokenAssociateToAccount datum.read
    | "TokenDissociateFromAccount" => .tokenDissociateFromAccount datum.read
    | type => ofBareType type (datum.get "name")

/-- The type of a body without fields leads back to it. -/
theorem ofBareType_typeName
    {body : TransactionBody}
    (known : body ∈ bare)
    (name : String) :
    ofBareType body.typeName name = body := by
  simp only [bare, List.mem_cons, List.not_mem_nil, or_false] at known
  rcases known with rfl | rfl | rfl | rfl | rfl | rfl | rfl | rfl | rfl | rfl | rfl | rfl | rfl |
    rfl | rfl | rfl <;> rfl

end TransactionBody

instance : OfDatum Transaction where
  ofDatum datum :=
    { payer := datum.get "payer"
      validStart := datum.get "valid_start"
      memo := datum.get "memo"
      body := datum.get "body" }

end LedgerEvm
