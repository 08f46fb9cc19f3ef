import LedgerEvm.TokenService.Action
import LedgerEvm.Transaction

namespace LedgerEvm

/-!
# Approvals

An owner lets a spender move an amount of a fungible token, or numbered pieces of a
non-fungible one.  The approved spender of a piece can be asked for.
-/

/-- A question for the approved spender of a numbered piece. -/
structure SpenderQuery where
  token : Address
  serial : Word
  deriving Repr, DecidableEq

namespace TokenAction

/-- Grant an allowance of a fungible token. -/
def grantAllowance (allowance : TokenAllowance) : TokenAction Unit := do
  ensureAccount allowance.owner .invalidAllowanceOwnerId
  ensureAccount allowance.spender .invalidAllowanceSpenderId
  let token ← liveToken allowance.token
  ensure (!token.isNonFungible) .invalidTokenId
  let _ ← relationship allowance.owner allowance.token
  change fun world =>
    world.setAllowance allowance.owner allowance.token allowance.spender allowance.amount

/-- Approve a spender for one numbered piece. -/
def approvePiece (allowance : NftAllowance) (serial : Int64) : TokenAction Unit := do
  let found ← piece allowance.token serial
  ensure (found.owner == allowance.owner) .senderDoesNotOwnNftSerialNo
  change fun world =>
    world.putNft allowance.token serial (some { found with spender := allowance.spender })

/-- Approve a spender for numbered pieces; the zero spender takes approvals back. -/
def grantPieces (allowance : NftAllowance) : TokenAction Unit := do
  ensureAccount allowance.owner .invalidAllowanceOwnerId
  if !allowance.spender.isZero then
    ensureAccount allowance.spender .invalidAllowanceSpenderId
  let token ← liveToken allowance.token
  ensure token.isNonFungible .invalidTokenId
  allowance.serials.forM (approvePiece allowance)

/-- Grant allowances and approvals. -/
def approve (approval : ApproveAllowance) : TokenAction Unit := do
  approval.tokenAllowances.forM grantAllowance
  approval.nftAllowances.forM grantPieces

/-- The approved spender of a numbered piece, the zero address when there is none. -/
def approvedSpender (query : SpenderQuery) : TokenAction Address := do
  let token ← knownToken query.token
  ensure token.isNonFungible .invalidTokenId
  let serial ← require (Int64.ofInt? query.serial.toNat) .invalidNftId
  let found ← piece query.token serial
  pure found.spender

end TokenAction

end LedgerEvm
