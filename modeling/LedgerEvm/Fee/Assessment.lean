import LedgerEvm.Fee.Estimate

namespace LedgerEvm

/-!
# Counted usage

The usage of token operations and transfers, counted by reading the body: so many
bytes for each account, amount, serial number and text in it, and storage for as
long as what it creates is kept.
-/

/-- A transaction with the number of signatures on it. -/
structure SignedTransaction where
  transaction : Transaction
  functionality : Functionality
  numSigs : Int32 := 1
  deriving Repr, DecidableEq

namespace SignedTransaction

/-- A transaction with one signature; its kind must be known. -/
def ofTransaction (transaction : Transaction) : Except PricingError SignedTransaction := do
  return { transaction, functionality := ← transaction.body.functionality }

/-- The transaction with another number of signatures, at least zero. -/
def withSignatures (signed : SignedTransaction) (numSigs : Int32) : SignedTransaction :=
  { signed with numSigs := if numSigs < 0 then 0 else numSigs }

/-- The bytes of a signature with its public key. -/
def signatureSize : Int :=
  96

/-- What the signatures use. -/
def signatureUsage (signed : SignedTransaction) (numPayerKeys : Int32) : SignatureUsage where
  numSigs := signed.numSigs
  sigsSize := Int32.ofIntClamp (signed.numSigs.toInt * signatureSize)
  numPayerKeys

/-- What the memo and the currency legs use. -/
def baseUsage (signed : SignedTransaction) : BaseUsage where
  memoBytes := Int32.ofIntClamp signed.transaction.memo.utf8ByteSize
  numTransfers :=
    match signed.transaction.body with
    | .cryptoTransfer transfer => Int32.ofIntClamp transfer.hbarTransfers.length
    | _ => 0

/-- The price variant of a body. -/
def variantOf : TransactionBody → PriceVariant
  | .tokenMint mint => if mint.metadata.isEmpty then .standard else .nonFungibleToken
  | .tokenBurn burn => if burn.serials.isEmpty then .standard else .nonFungibleToken
  | .tokenAccountWipe wipe => if wipe.serials.isEmpty then .standard else .nonFungibleToken
  | .tokenCreate creation =>
      match creation.kind with
      | .fungible => .fungibleToken
      | .nonFungible => .nonFungibleToken
  | _ => .standard

/-- The price variant of the transaction. -/
def variant (signed : SignedTransaction) : PriceVariant :=
  variantOf signed.transaction.body

end SignedTransaction

namespace Assessment

/-- How long what a body creates is charged for. -/
def threeMonths : Int64 :=
  7776000

/-- The bytes of a token's entry without its texts. -/
def tokenEntity : Int64 :=
  3 * Size.entityId + 3 * Size.long + Size.int

/-- The bytes of one fungible leg. -/
def accountAmountBytes : Int64 :=
  Size.long + Size.entityId

/-- The bytes of the move of one numbered piece. -/
def nftTransferBytes : Int64 :=
  Size.long + 2 * Size.entityId

/-- The functionalities whose usage is counted. -/
def counted : List Functionality :=
  [.cryptoTransfer, .cryptoApproveAllowance, .tokenMint, .tokenBurn, .tokenAccountWipe,
   .tokenPause, .tokenUnpause, .tokenFreezeAccount, .tokenUnfreezeAccount, .tokenCreate,
   .tokenDissociateFromAccount]

/-- Whether the usage of a functionality is counted. -/
def counts (functionality : Functionality) : Bool :=
  counted.contains functionality

/-- The sum of some lengths. -/
def total {α : Type} (measure : α → Int64) (items : List α) : Int64 :=
  (items.map measure).sum

/-- The bytes of serial numbers, or of the amount that stands in their place. -/
def serialOrAmountBytes (serials : List Int64) : Int64 :=
  if serials.isEmpty then Size.long else lengthOf serials * Size.long

/-- Add what a transfer uses. -/
def addTransfer (usage : Usage) (transfer : CryptoTransfer) : Usage :=
  let fungible := total (fun list => lengthOf list.transfers) transfer.tokenTransfers
  let unique := total (fun list => lengthOf list.nftTransfers) transfer.tokenTransfers
  ((usage.addBpt
      (Size.entityId * lengthOf transfer.tokenTransfers + accountAmountBytes * fungible +
        nftTransferBytes * unique)).addRbs
    (Size.accountAmount * lengthOf transfer.hbarTransfers * Size.receiptSeconds)).addNftTransfers
      unique

/-- Add what granting allowances uses. -/
def addApproval (usage : Usage) (approval : ApproveAllowance) : Usage :=
  let fungible := lengthOf approval.tokenAllowances * (3 * Size.entityId + Size.long)
  let serials := total (fun allowance => lengthOf allowance.serials) approval.nftAllowances
  let unique := lengthOf approval.nftAllowances * 3 * Size.entityId + serials * Size.long
  (usage.addBpt (fungible + unique)).addRbs ((fungible + unique) * threeMonths)

/-- Add what minting uses. -/
def addMint (usage : Usage) (mint : TokenMint) : Usage :=
  if mint.metadata.isEmpty then
    (usage.addBpt (Size.entityId + Size.long)).addNetworkRbs (Size.long * Size.receiptSeconds)
  else
    let metadata := total lengthOf mint.metadata
    let count := lengthOf mint.metadata
    ((usage.addBpt (Size.entityId + metadata)).addRbs
        ((Size.nft * count + metadata) * threeMonths)).addNetworkRbs
      (count * Size.long * Size.receiptSeconds)

/-- Add what creating a token uses. -/
def addCreation (usage : Usage) (creation : TokenCreate) : Usage :=
  let bytes := tokenEntity + (textLength creation.name + textLength creation.symbol)
  ((usage.addBpt bytes).addRbs ((bytes + Size.tokenRelation) * threeMonths)).addNetworkRbs
    (Size.entityId * Size.receiptSeconds)

/-- Add what a body uses; a body that is not counted has no answer. -/
def addBody? (usage : Usage) : TransactionBody → Option Usage
  | .cryptoTransfer transfer => some (addTransfer usage transfer)
  | .cryptoApproveAllowance approval => some (addApproval usage approval)
  | .tokenMint mint => some (addMint usage mint)
  | .tokenBurn burn =>
      some
        ((usage.addBpt (Size.entityId + serialOrAmountBytes burn.serials)).addNetworkRbs
          (Size.long * Size.receiptSeconds))
  | .tokenAccountWipe wipe =>
      some
        ((usage.addBpt (2 * Size.entityId + serialOrAmountBytes wipe.serials)).addNetworkRbs
          (Size.long * Size.receiptSeconds))
  | .tokenPause => some (usage.addBpt Size.entityId)
  | .tokenUnpause => some (usage.addBpt Size.entityId)
  | .tokenFreezeAccount => some (usage.addBpt (2 * Size.entityId))
  | .tokenUnfreezeAccount => some (usage.addBpt (2 * Size.entityId))
  | .tokenCreate creation => some (addCreation usage creation)
  | .tokenDissociateFromAccount relations =>
      some (usage.addBpt (Size.entityId * (1 + lengthOf relations.tokens)))
  | _ => none

/-- The usage of a signed transaction, counted afresh. -/
def assess
    (signed : SignedTransaction)
    (signatures : SignatureUsage) :
    Except PricingError Usage :=
  match addBody? (Usage.ofTransaction signed.baseUsage signatures) signed.transaction.body with
  | some usage => .ok usage
  | none => .error (.unknownFunction signed.functionality.name)

/-- A body is counted exactly when its functionality is in the list. -/
theorem isSome_addBody?
    (usage : Usage)
    (body : TransactionBody) :
    (addBody? usage body).isSome = counts body.functionalityOrNone := by
  cases body <;> rfl

end Assessment

/-- Fees of counted transactions. -/
def countedFees
    (signed : SignedTransaction)
    (prices : FeeData)
    (rate : ExchangeRate)
    (numPayerKeys : Int32) :
    Except PricingError (Fees × Usage) := do
  let usage ← Assessment.assess signed (signed.signatureUsage numPayerKeys)
  return (Fees.ofUsage usage prices rate 1, usage)

namespace SignedTransaction

/--
The fee of a transaction: the prices of its variant at the rate in effect, for its
usage counted where that is possible and estimated otherwise.
-/
def fees
    (signed : SignedTransaction)
    (numPayerKeys : Int32)
    (source : PriceSource)
    (world : World)
    (instant : Timestamp) :
    Except PricingError Fees := do
  let prices ← source.schedule.variantPrices signed.functionality signed.variant instant
  let rate ← source.rates.rateAt instant
  rate.validate
  if Assessment.counts signed.functionality then
    return (← countedFees signed prices rate numPayerKeys).1
  else
    let transaction := signed.transaction
    let estimator := Estimator.forBody transaction.body
    let amounts ← estimator.amounts transaction (signed.signatureUsage numPayerKeys) world
    return Fees.ofAmounts prices amounts rate 1

end SignedTransaction

end LedgerEvm
