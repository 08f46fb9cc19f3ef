import LedgerEvm.TokenService.Approval
import LedgerEvm.TokenService.Output
import LedgerEvm.TokenService.Pricing

namespace LedgerEvm

/-!
# Calls of token functions

A call is read into the transaction it stands for, with the kind of operation that
sets its minimum price, or into a question.  The functions at a token's address
need to be told which token it is.
-/

/-- The surroundings of an approval. -/
structure ApprovalSetting where
  token : Address
  sender : Address
  owner : Address
  isFungible : Bool
  deriving Repr, DecidableEq

/-- The surroundings of a transfer at a token's address. -/
structure TransferSetting where
  selector : Selector
  sender : Address
  token : Address
  isNonFungible : Bool
  deriving Repr, DecidableEq

/-- The surroundings of a creation. -/
structure CreationSetting where
  selector : Selector
  account : Address
  deriving Repr, DecidableEq

/-- What a call needs to be read beside its input. -/
inductive CallSetting where
  | plain
  | approval (setting : ApprovalSetting)
  | transfer (setting : TransferSetting)
  | creation (setting : CreationSetting)
  deriving Repr, DecidableEq

/-- A call that has been read. -/
inductive TokenCall where
  | write (body : TransactionBody) (kind : OperationKind)
  | query (query : SpenderQuery)
  deriving Repr, DecidableEq

namespace CryptoTransfer

/-- A transfer of one token. -/
def ofToken (list : TokenTransfers) : CryptoTransfer :=
  ⟨[], [list]⟩

/-- The transfer of an amount from one account to another. -/
def fungible
    (token source target : Address)
    (amount : Int64)
    (isApproval : Bool) :
    CryptoTransfer :=
  ofToken ⟨token, [⟨source, amount.negClamp, isApproval⟩, ⟨target, amount, false⟩], []⟩

/-- The move of one numbered piece. -/
def piece
    (token source target : Address)
    (serial : Int64)
    (isApproval : Bool) :
    CryptoTransfer :=
  ofToken ⟨token, [], [⟨source, target, serial, isApproval⟩]⟩

/-- Mark the legs that take something from another account than the caller as made on approval. -/
def markApprovals (transfer : CryptoTransfer) (caller : Address) : CryptoTransfer :=
  { transfer with
    tokenTransfers := transfer.tokenTransfers.map fun list =>
      { list with
        transfers := list.transfers.map fun leg =>
          { leg with isApproval := decide (leg.amount < 0) && leg.account != caller }
        nftTransfers := list.nftTransfers.map fun leg =>
          { leg with isApproval := leg.sender != caller } } }

end CryptoTransfer

namespace TokenFunction

/-- Read the arguments of a call. -/
def readArguments
    {α : Type}
    (selector : Selector)
    (types : List AbiType)
    (input : Bytes)
    (reader : ValueReader α) :
    Except PrecompileError α :=
  ValueReader.readFrom (AbiValue.decodeCall selector types input) reader

/-- Read an account with one token or with several. -/
def readRelations
    (selector : Selector)
    (input : Bytes)
    (several : Bool) :
    Except PrecompileError TokenRelations :=
  if several then
    readArguments selector [.address, .array .address] input do
      let account ← ValueReader.nextAs AbiValue.asAddress
      let tokens ← ValueReader.nextList AbiValue.asAddress
      pure ⟨account, tokens⟩
  else
    readArguments selector [.address, .address] input do
      let account ← ValueReader.nextAs AbiValue.asAddress
      let token ← ValueReader.nextAs AbiValue.asAddress
      pure ⟨account, [token]⟩

/-- Read a mint. -/
def readMint (selector : Selector) (input : Bytes) : Except PrecompileError TokenMint :=
  readArguments selector [.address, .uint, .array .bytes] input do
    let token ← ValueReader.nextAs AbiValue.asAddress
    let amount ← ValueReader.nextAs AbiValue.asUInt64
    let metadata ← ValueReader.nextList AbiValue.asBytes
    pure ⟨token, amount, metadata⟩

/-- Read a burn. -/
def readBurn (selector : Selector) (input : Bytes) : Except PrecompileError TokenBurn :=
  readArguments selector [.address, .uint, .array .int64] input do
    let token ← ValueReader.nextAs AbiValue.asAddress
    let amount ← ValueReader.nextAs AbiValue.asUInt64
    let serials ← ValueReader.nextList AbiValue.asInt64
    pure ⟨token, amount, serials⟩

/-- Read the wiping of an amount. -/
def readWipe (selector : Selector) (input : Bytes) : Except PrecompileError TokenWipe :=
  readArguments selector [.address, .address, .uint] input do
    let token ← ValueReader.nextAs AbiValue.asAddress
    let account ← ValueReader.nextAs AbiValue.asAddress
    let amount ← ValueReader.nextAs AbiValue.asUInt64
    pure ⟨token, account, amount, []⟩

/-- Read the wiping of pieces. -/
def readWipePieces (selector : Selector) (input : Bytes) : Except PrecompileError TokenWipe :=
  readArguments selector [.address, .address, .array .int64] input do
    let token ← ValueReader.nextAs AbiValue.asAddress
    let account ← ValueReader.nextAs AbiValue.asAddress
    let serials ← ValueReader.nextList AbiValue.asInt64
    pure ⟨token, account, 0, serials⟩

/-- Read the transfer of an amount, or of a piece when the token is non-fungible. -/
def readTransfer
    (selector : Selector)
    (input : Bytes)
    (isNonFungible : Bool) :
    Except PrecompileError CryptoTransfer :=
  readArguments selector [.address, .address, .address, .int64] input do
    let token ← ValueReader.nextAs AbiValue.asAddress
    let source ← ValueReader.nextAs AbiValue.asAddress
    let target ← ValueReader.nextAs AbiValue.asAddress
    let value ← ValueReader.nextAs AbiValue.asInt64
    pure
      (if isNonFungible then
        CryptoTransfer.piece token source target value false
      else
        CryptoTransfer.fungible token source target value false)

/-- Read a transfer of a token with a list of accounts and one of amounts. -/
def readTransferList
    (selector : Selector)
    (input : Bytes) :
    Except PrecompileError CryptoTransfer :=
  readArguments selector [.address, .array .address, .array .int64] input do
    let token ← ValueReader.nextAs AbiValue.asAddress
    let accounts ← ValueReader.nextList AbiValue.asAddress
    let amounts ← ValueReader.nextList AbiValue.asInt64
    if accounts.length ≠ amounts.length then
      throw
        (.decode
          (toString accounts.length ++ " accounts but " ++ toString amounts.length ++ " amounts"))
    let legs := (accounts.zip amounts).map fun (account, amount) => ⟨account, amount, false⟩
    pure (CryptoTransfer.ofToken ⟨token, legs, []⟩)

/-- The transfer of a value at a token's address. -/
def transferAt
    (setting : TransferSetting)
    (source target : Address)
    (value : Int64)
    (isApproval : Bool) :
    CryptoTransfer :=
  if setting.isNonFungible then
    CryptoTransfer.piece setting.token source target value isApproval
  else
    CryptoTransfer.fungible setting.token source target value isApproval

/-- Read a transfer at a token's address by the owner. -/
def readOwnTransfer
    (input : Bytes)
    (setting : TransferSetting) :
    Except PrecompileError CryptoTransfer :=
  readArguments setting.selector [.address, .uint] input do
    let target ← ValueReader.nextAs AbiValue.asAddress
    let value ← ValueReader.nextAs AbiValue.asSerial
    pure (transferAt setting setting.sender target value false)

/-- Read a transfer at a token's address for an owner, on approval unless the owner calls. -/
def readTransferFor
    (input : Bytes)
    (setting : TransferSetting) :
    Except PrecompileError CryptoTransfer :=
  readArguments setting.selector [.address, .address, .uint] input do
    let source ← ValueReader.nextAs AbiValue.asAddress
    let target ← ValueReader.nextAs AbiValue.asAddress
    let value ← ValueReader.nextAs AbiValue.asSerial
    pure (transferAt setting source target value (source != setting.sender))

/-- Read the spender and what is approved: an amount, or a piece. -/
def readGrant
    (setting : ApprovalSetting)
    (token : Address) :
    ValueReader ApproveAllowance := do
  let spender ← ValueReader.nextAs AbiValue.asAddress
  if setting.isFungible then
    let amount ← ValueReader.nextAs AbiValue.asUInt64
    pure ⟨[⟨token, setting.owner, spender, amount⟩], []⟩
  else
    let serial ← ValueReader.nextAs AbiValue.asSerial
    pure ⟨[], [⟨token, setting.owner, spender, [serial]⟩]⟩

/-- Read an approval that names its token. -/
def readApproval
    (selector : Selector)
    (input : Bytes)
    (setting : ApprovalSetting) :
    Except PrecompileError ApproveAllowance :=
  readArguments selector [.address, .address, .uint] input do
    let token ← ValueReader.nextAs AbiValue.asAddress
    readGrant setting token

/-- Read an approval at a token's address. -/
def readApprovalAt
    (selector : Selector)
    (input : Bytes)
    (setting : ApprovalSetting) :
    Except PrecompileError ApproveAllowance :=
  readArguments selector [.address, .uint] input (readGrant setting setting.token)

/-- Read a question for a spender that names its token. -/
def readQuery (selector : Selector) (input : Bytes) : Except PrecompileError SpenderQuery :=
  readArguments selector [.address, .uint] input do
    let token ← ValueReader.nextAs AbiValue.asAddress
    let serial ← ValueReader.nextAs AbiValue.asWord
    pure ⟨token, serial⟩

/-- Read a question for a spender at a token's address. -/
def readQueryAt
    (selector : Selector)
    (input : Bytes)
    (token : Address) :
    Except PrecompileError SpenderQuery :=
  readArguments selector [.uint] input do
    pure ⟨token, ← ValueReader.nextAs AbiValue.asWord⟩

/-- Read the creation of a fungible token. -/
def readCreation (selector : Selector) (input : Bytes) : Except PrecompileError TokenCreate :=
  readArguments selector [.string, .string, .address, .uint, .uint] input do
    let name ← ValueReader.nextAs AbiValue.asString
    let symbol ← ValueReader.nextAs AbiValue.asString
    let treasury ← ValueReader.nextAs AbiValue.asAddress
    let initialSupply ← ValueReader.nextAs AbiValue.asUInt64
    let decimals ← ValueReader.nextAs AbiValue.asUInt64
    match UInt32.ofNat? decimals.toNat with
    | some decimals =>
        pure
          { name, symbol, treasury, initialSupply, decimals
            kind := .fungible
            supplyKey := true }
    | none => throw (.decode "decimals exceed uint32")

/-- A function at a token's address was called without telling the token. -/
def missingToken (function : TokenFunction) : PrecompileError :=
  .decode (function.name ++ " needs a token context")

/-- A transfer with the kind of operation it is. -/
def writeTransfer (transfer : CryptoTransfer) (isNonFungible : Bool) : TokenCall :=
  .write (.cryptoTransfer transfer)
    (if isNonFungible then .transferNft else .transferFungible)

/-- Read a call of a function. -/
def readCall
    (function : TokenFunction)
    (input : Bytes)
    (setting : CallSetting)
    (sender : Address) :
    Except PrecompileError TokenCall := do
  let selector := function.selector
  match function with
  | .associateToken =>
      return .write (.tokenAssociateToAccount (← readRelations selector input false)) .associate
  | .associateTokens =>
      return .write (.tokenAssociateToAccount (← readRelations selector input true)) .associate
  | .dissociateToken =>
      return .write (.tokenDissociateFromAccount (← readRelations selector input false))
        .dissociate
  | .dissociateTokens =>
      return .write (.tokenDissociateFromAccount (← readRelations selector input true))
        .dissociate
  | .mintToken =>
      let mint ← readMint selector input
      return .write (.tokenMint mint) (if mint.metadata.isEmpty then .mintFungible else .mintNft)
  | .burnToken =>
      let burn ← readBurn selector input
      return .write (.tokenBurn burn) (if burn.serials.isEmpty then .burnFungible else .burnNft)
  | .wipeTokenAccount =>
      return .write (.tokenAccountWipe (← readWipe selector input)) .wipeFungible
  | .wipeTokenAccountNft =>
      return .write (.tokenAccountWipe (← readWipePieces selector input)) .wipeNft
  | .transferToken =>
      return writeTransfer ((← readTransfer selector input false).markApprovals sender) false
  | .transferNft =>
      return writeTransfer ((← readTransfer selector input true).markApprovals sender) true
  | .transferTokens =>
      return writeTransfer ((← readTransferList selector input).markApprovals sender) false
  | .approve =>
      let approval ← readApproval selector input ⟨Address.zero, sender, sender, true⟩
      return .write (.cryptoApproveAllowance approval) .approve
  | .approveNft =>
      let approval ← readApproval selector input ⟨Address.zero, sender, sender, false⟩
      return .write (.cryptoApproveAllowance approval) .approve
  | .getApproved =>
      return .query (← readQuery selector input)
  | .createFungibleToken =>
      return .write (.tokenCreate (← readCreation selector input)) .create
  | .ercApprove =>
      match setting with
      | .approval approval =>
          return .write (.cryptoApproveAllowance (← readApprovalAt selector input approval))
            .approve
      | _ => throw function.missingToken
  | .ercTransfer =>
      match setting with
      | .transfer transfer =>
          return writeTransfer (← readOwnTransfer input transfer) transfer.isNonFungible
      | _ => throw function.missingToken
  | .ercTransferFrom =>
      match setting with
      | .transfer transfer =>
          return writeTransfer (← readTransferFor input transfer) transfer.isNonFungible
      | _ => throw function.missingToken
  | .ercGetApproved =>
      match setting with
      | .approval approval =>
          return .query (← readQueryAt selector input approval.token)
      | _ => throw function.missingToken

end TokenFunction

end LedgerEvm
