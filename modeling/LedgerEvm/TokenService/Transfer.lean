import LedgerEvm.TokenService.Action
import LedgerEvm.Transaction

namespace LedgerEvm

/-!
# Transfers

A transfer moves currency, amounts of fungible tokens and numbered pieces.  The
legs of each movement of currency or of one fungible token have to add up to zero.
A debit may be made on approval, which uses up an allowance of the spender.
-/

namespace TokenAction

/-- The sum of the legs' amounts. -/
def netAmount (legs : List AccountAmount) : Int :=
  legs.foldr (fun leg total => leg.amount.toInt + total) 0

/-- The size of an amount as a word. -/
def magnitude (amount : Int64) : Word :=
  BitVec.ofNat 256 amount.toInt.natAbs

/-- Refuse a leg of currency that its account cannot take part in. -/
def checkCurrencyLeg (leg : AccountAmount) : TokenAction Unit := do
  let balance ← ask fun world => world.balance leg.account
  ensureAccount leg.account .invalidAccountId
  if leg.amount < 0 then
    ensure (decide (magnitude leg.amount ≤ balance)) .insufficientAccountBalance

/-- A balance after a leg of currency. -/
def applyCurrency (balance : Word) (amount : Int64) : Word :=
  if amount < 0 then
    balance.subClamp (magnitude amount)
  else
    balance.addClamp (magnitude amount)

/-- Move currency. -/
def transferCurrency (legs : List AccountAmount) : TokenAction Unit := do
  if !legs.isEmpty then
    ensure (netAmount legs == 0) .invalidTransactionBody
    legs.forM checkCurrencyLeg
    legs.forM fun leg =>
      adjust leg.account fun account =>
        { account with balance := applyCurrency account.balance leg.amount }

/-- Use up an allowance of the spender for a debit. -/
def spendAllowance (token spender : Address) (leg : AccountAmount) : TokenAction Unit := do
  let debit := UInt64.ofNat leg.amount.toInt.natAbs
  let allowed ← ask fun world => world.allowance leg.account token spender
  ensure (allowed > 0) .spenderDoesNotHaveAllowance
  ensure (debit ≤ allowed) .amountExceedsAllowance
  change fun world => world.setAllowance leg.account token spender (allowed - debit)

/-- Apply one leg of a fungible token. -/
def applyLeg (token spender : Address) (leg : AccountAmount) : TokenAction Unit := do
  let holding ← relationship leg.account token
  ensure (!holding.frozen) .accountFrozenForToken
  ensure holding.kycGranted .accountKycNotGrantedForToken
  if leg.isApproval ∧ leg.amount < 0 then
    spendAllowance token spender leg
  let balance ← shifted holding.balance leg.amount .insufficientTokenBalance
  setBalance holding balance

/-- Move one numbered piece; its approved spender is forgotten. -/
def movePiece (token spender : Address) (leg : NftTransfer) : TokenAction Unit := do
  let found ← piece token leg.serial
  ensure (found.owner == leg.sender) .senderDoesNotOwnNftSerialNo
  if leg.isApproval then
    ensure (found.spender == spender) .spenderDoesNotHaveAllowance
  ensureAccount leg.receiver .invalidAccountId
  let giving ← relationship leg.sender token
  let taking ← relationship leg.receiver token
  ensure (!giving.frozen && !taking.frozen) .accountFrozenForToken
  let givingBalance ← shifted giving.balance (-1) .insufficientTokenBalance
  let takingBalance ← shifted taking.balance 1 .invalidTransactionBody
  setBalance giving givingBalance
  setBalance taking takingBalance
  change fun world =>
    world.putNft token leg.serial
      (some { found with owner := leg.receiver, spender := Address.zero })
  adjust leg.sender fun account =>
    { account with ownedNfts := account.ownedNfts.subClamp 1 }
  adjust leg.receiver fun account =>
    { account with ownedNfts := account.ownedNfts + 1 }

/-- Move amounts and pieces of one token. -/
def transferToken (spender : Address) (list : TokenTransfers) : TokenAction Unit := do
  let token ← liveToken list.token
  if !list.transfers.isEmpty then
    ensure (!token.isNonFungible) .invalidTransactionBody
    ensure (netAmount list.transfers == 0) .invalidTransactionBody
  list.transfers.forM (applyLeg list.token spender)
  list.nftTransfers.forM fun leg => do
    ensure token.isNonFungible .invalidTransactionBody
    movePiece list.token spender leg

/-- Apply a transfer; the spender acts on the legs made on approval. -/
def transfer (body : CryptoTransfer) (spender : Address) : TokenAction Unit := do
  transferCurrency body.hbarTransfers
  body.tokenTransfers.forM (transferToken spender)

end TokenAction

end LedgerEvm
