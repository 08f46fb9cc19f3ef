import LedgerEvm.Error
import LedgerEvm.Ledger.Token
import LedgerEvm.Timestamp

namespace LedgerEvm

/-!
# Transactions

A transaction is a payer, a start time, a memo and a body.  Prices are listed by
the kind of the body, its functionality.
-/

/-- The kinds of work that a price list names. -/
inductive Functionality where
  | none
  | contractCall
  | contractCreate
  | contractUpdate
  | contractDelete
  | ethereumTransaction
  | cryptoApproveAllowance
  | cryptoDeleteAllowance
  | cryptoCreate
  | cryptoDelete
  | cryptoTransfer
  | cryptoUpdate
  | freeze
  | tokenCreate
  | tokenFreezeAccount
  | tokenUnfreezeAccount
  | tokenGrantKycToAccount
  | tokenRevokeKycFromAccount
  | tokenDelete
  | tokenUpdate
  | tokenMint
  | tokenBurn
  | tokenAccountWipe
  | tokenAssociateToAccount
  | tokenDissociateFromAccount
  | tokenPause
  | tokenUnpause
  | tokenGetInfo
  deriving Repr, DecidableEq

namespace Functionality

/-- The name of a functionality in messages. -/
def name : Functionality → String
  | .none => "None"
  | .contractCall => "ContractCall"
  | .contractCreate => "ContractCreate"
  | .contractUpdate => "ContractUpdate"
  | .contractDelete => "ContractDelete"
  | .ethereumTransaction => "EthereumTransaction"
  | .cryptoApproveAllowance => "CryptoApproveAllowance"
  | .cryptoDeleteAllowance => "CryptoDeleteAllowance"
  | .cryptoCreate => "CryptoCreate"
  | .cryptoDelete => "CryptoDelete"
  | .cryptoTransfer => "CryptoTransfer"
  | .cryptoUpdate => "CryptoUpdate"
  | .freeze => "Freeze"
  | .tokenCreate => "TokenCreate"
  | .tokenFreezeAccount => "TokenFreezeAccount"
  | .tokenUnfreezeAccount => "TokenUnfreezeAccount"
  | .tokenGrantKycToAccount => "TokenGrantKycToAccount"
  | .tokenRevokeKycFromAccount => "TokenRevokeKycFromAccount"
  | .tokenDelete => "TokenDelete"
  | .tokenUpdate => "TokenUpdate"
  | .tokenMint => "TokenMint"
  | .tokenBurn => "TokenBurn"
  | .tokenAccountWipe => "TokenAccountWipe"
  | .tokenAssociateToAccount => "TokenAssociateToAccount"
  | .tokenDissociateFromAccount => "TokenDissociateFromAccount"
  | .tokenPause => "TokenPause"
  | .tokenUnpause => "TokenUnpause"
  | .tokenGetInfo => "TokenGetInfo"

/-- Every functionality. -/
def all : List Functionality :=
  [.none, .contractCall, .contractCreate, .contractUpdate, .contractDelete,
   .ethereumTransaction, .cryptoApproveAllowance, .cryptoDeleteAllowance, .cryptoCreate,
   .cryptoDelete, .cryptoTransfer, .cryptoUpdate, .freeze, .tokenCreate,
   .tokenFreezeAccount, .tokenUnfreezeAccount, .tokenGrantKycToAccount,
   .tokenRevokeKycFromAccount, .tokenDelete, .tokenUpdate, .tokenMint, .tokenBurn,
   .tokenAccountWipe, .tokenAssociateToAccount, .tokenDissociateFromAccount, .tokenPause,
   .tokenUnpause, .tokenGetInfo]

/-- The list of functionalities misses none. -/
theorem mem_all
    (functionality : Functionality) :
    functionality ∈ all := by
  cases functionality <;> simp [all]

end Functionality

/-- A call of a contract. -/
structure ContractCall where
  contract : Address
  gas : UInt64
  amount : Int64
  parameters : Bytes
  deriving Repr, DecidableEq

/-- Associating an account with tokens, or ending the association. -/
structure TokenRelations where
  account : Address
  tokens : List Address
  deriving Repr, DecidableEq

/-- Minting an amount, or one numbered piece for each metadata. -/
structure TokenMint where
  token : Address
  amount : UInt64
  metadata : List Bytes
  deriving Repr, DecidableEq

/-- Burning an amount, or the pieces with the given serial numbers. -/
structure TokenBurn where
  token : Address
  amount : UInt64
  serials : List Int64
  deriving Repr, DecidableEq

/-- Wiping an amount, or the pieces with the given serial numbers, from an account. -/
structure TokenWipe where
  token : Address
  account : Address
  amount : UInt64
  serials : List Int64
  deriving Repr, DecidableEq

/-- Creating a token. -/
structure TokenCreate where
  name : String
  symbol : String
  treasury : Address
  initialSupply : UInt64
  decimals : UInt32
  kind : TokenKind
  supplyKey : Bool
  deriving Repr, DecidableEq

/-- One leg of a fungible movement: a credit when positive, a debit when negative. -/
structure AccountAmount where
  account : Address
  amount : Int64
  isApproval : Bool
  deriving Repr, DecidableEq

/-- The move of one numbered piece. -/
structure NftTransfer where
  sender : Address
  receiver : Address
  serial : Int64
  isApproval : Bool
  deriving Repr, DecidableEq

/-- The movements of one token. -/
structure TokenTransfers where
  token : Address
  transfers : List AccountAmount
  nftTransfers : List NftTransfer
  deriving Repr, DecidableEq

/-- Movements of currency and of tokens that happen together. -/
structure CryptoTransfer where
  hbarTransfers : List AccountAmount
  tokenTransfers : List TokenTransfers
  deriving Repr, DecidableEq

/-- Letting a spender move an amount of a token. -/
structure TokenAllowance where
  token : Address
  owner : Address
  spender : Address
  amount : UInt64
  deriving Repr, DecidableEq

/-- Letting a spender move numbered pieces of a token. -/
structure NftAllowance where
  token : Address
  owner : Address
  spender : Address
  serials : List Int64
  deriving Repr, DecidableEq

/-- Allowances that are granted together. -/
structure ApproveAllowance where
  tokenAllowances : List TokenAllowance
  nftAllowances : List NftAllowance
  deriving Repr, DecidableEq

/-- What a transaction asks for. -/
inductive TransactionBody where
  | contractCall (call : ContractCall)
  | contractCreate
  | contractUpdate
  | contractDelete
  | ethereumTransaction
  | cryptoApproveAllowance (approval : ApproveAllowance)
  | cryptoDeleteAllowance
  | cryptoCreate
  | cryptoDelete
  | cryptoTransfer (transfer : CryptoTransfer)
  | cryptoUpdate
  | freeze
  | tokenCreate (creation : TokenCreate)
  | tokenFreezeAccount
  | tokenUnfreezeAccount
  | tokenGrantKycToAccount
  | tokenRevokeKycFromAccount
  | tokenDelete (token : Address)
  | tokenUpdate
  | tokenMint (mint : TokenMint)
  | tokenBurn (burn : TokenBurn)
  | tokenAccountWipe (wipe : TokenWipe)
  | tokenAssociateToAccount (relations : TokenRelations)
  | tokenDissociateFromAccount (relations : TokenRelations)
  | tokenPause
  | tokenUnpause
  | unrecognized (kind : String)
  deriving Repr, DecidableEq

namespace TransactionBody

/-- The functionality of a body, or the name of a kind that has none. -/
def classify : TransactionBody → Except String Functionality
  | .contractCall _ => .ok .contractCall
  | .contractCreate => .ok .contractCreate
  | .contractUpdate => .ok .contractUpdate
  | .contractDelete => .ok .contractDelete
  | .ethereumTransaction => .ok .ethereumTransaction
  | .cryptoApproveAllowance _ => .ok .cryptoApproveAllowance
  | .cryptoDeleteAllowance => .ok .cryptoDeleteAllowance
  | .cryptoCreate => .ok .cryptoCreate
  | .cryptoDelete => .ok .cryptoDelete
  | .cryptoTransfer _ => .ok .cryptoTransfer
  | .cryptoUpdate => .ok .cryptoUpdate
  | .freeze => .ok .freeze
  | .tokenCreate _ => .ok .tokenCreate
  | .tokenFreezeAccount => .ok .tokenFreezeAccount
  | .tokenUnfreezeAccount => .ok .tokenUnfreezeAccount
  | .tokenGrantKycToAccount => .ok .tokenGrantKycToAccount
  | .tokenRevokeKycFromAccount => .ok .tokenRevokeKycFromAccount
  | .tokenDelete _ => .ok .tokenDelete
  | .tokenUpdate => .ok .tokenUpdate
  | .tokenMint _ => .ok .tokenMint
  | .tokenBurn _ => .ok .tokenBurn
  | .tokenAccountWipe _ => .ok .tokenAccountWipe
  | .tokenAssociateToAccount _ => .ok .tokenAssociateToAccount
  | .tokenDissociateFromAccount _ => .ok .tokenDissociateFromAccount
  | .tokenPause => .ok .tokenPause
  | .tokenUnpause => .ok .tokenUnpause
  | .unrecognized kind => .error kind

/-- The functionality of a body, as a pricing question. -/
def functionality (body : TransactionBody) : Except PricingError Functionality :=
  match body.classify with
  | .ok functionality => .ok functionality
  | .error kind => .error (.unknownFunction kind)

/-- The functionality of a body, `none` standing for an unrecognized one. -/
def functionalityOrNone (body : TransactionBody) : Functionality :=
  match body.classify with
  | .ok functionality => functionality
  | .error _ => .none

end TransactionBody

/-- A transaction as far as its price depends on it. -/
structure Transaction where
  payer : Address
  validStart : Timestamp
  memo : String
  body : TransactionBody
  deriving Repr, DecidableEq

end LedgerEvm
