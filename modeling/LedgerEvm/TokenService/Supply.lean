import LedgerEvm.TokenService.Action
import LedgerEvm.Transaction

namespace LedgerEvm

/-!
# Minting, burning and wiping

Supply enters at the treasury and leaves from the treasury or, by wiping, from
another account.  Of a fungible token an amount comes or goes, of a non-fungible
token numbered pieces; the serial numbers of new pieces follow the last one used.
-/

/-- The supply after a change, and the serial numbers it concerned. -/
structure SupplyChange where
  totalSupply : UInt64
  serials : List Int64
  deriving Repr, DecidableEq

namespace TokenAction

/-- The serial numbers after one, as many as asked for, while they are in range. -/
def serialsAfter? (last : Int64) (count : Nat) : Option (List Int64) :=
  if last.toInt + count ≤ Int64.maxValue.toInt then
    some ((List.range count).map fun (index : Nat) => Int64.ofInt (last.toInt + index + 1))
  else
    none

/-- Put one piece of a token for each serial number with its metadata. -/
def putPieces (token owner : Address) (pieces : List (Int64 × Bytes)) : TokenAction Unit :=
  pieces.forM fun (serial, metadata) =>
    change fun world =>
      world.putNft token serial
        (some { token, serial, owner, spender := Address.zero, metadata })

/-- How much is minted, and under which serial numbers. -/
def mintedAmount (token : Token) (mint : TokenMint) : TokenAction (UInt64 × List Int64) := do
  if token.isNonFungible then
    ensure (mint.amount == 0 && !mint.metadata.isEmpty) .invalidTokenMintAmount
    let serials ←
      require (serialsAfter? token.lastUsedSerial mint.metadata.length) .invalidTokenMintAmount
    pure (UInt64.ofNat mint.metadata.length, serials)
  else
    ensure (mint.amount > 0 && mint.metadata.isEmpty) .invalidTokenMintAmount
    pure (mint.amount, [])

/-- Mint an amount or pieces into the treasury. -/
def mint (body : TokenMint) : TokenAction SupplyChange := do
  let token ← liveToken body.token
  ensure token.hasSupplyKey .tokenHasNoSupplyKey
  let holding ← relationship token.treasury body.token
  let (minted, serials) ← mintedAmount token body
  let totalSupply ←
    require (UInt64.ofNat? (token.totalSupply.toNat + minted.toNat)) .invalidTokenMintAmount
  ensure (token.maxSupply == 0 || decide (totalSupply ≤ token.maxSupply)) .tokenMaxSupplyReached
  let balance ← shifted holding.balance minted.toInt64 .invalidTokenMintAmount
  putPieces body.token token.treasury (serials.zip body.metadata)
  let lastUsedSerial := serials.getLast?.getD token.lastUsedSerial
  if !serials.isEmpty then
    adjust token.treasury fun account =>
      { account with ownedNfts := account.ownedNfts + UInt64.ofNat serials.length }
  change fun world => world.putToken { token with lastUsedSerial, totalSupply }
  setBalance holding balance
  pure ⟨totalSupply, serials⟩

/-- Refuse a piece that does not exist or has another owner. -/
def checkOwned (token owner : Address) (serial : Int64) : TokenAction Unit := do
  let found ← piece token serial
  ensure (found.owner == owner) .senderDoesNotOwnNftSerialNo

/-- Remove pieces from their owner. -/
def removePieces
    (token : Address)
    (serials : List Int64)
    (owner : Address)
    (whenEmpty : ResponseCode) :
    TokenAction Unit := do
  ensure (!serials.isEmpty) whenEmpty
  ensure (decide serials.Nodup) .invalidNftId
  serials.forM (checkOwned token owner)
  serials.forM fun serial => change fun world => world.putNft token serial none
  adjust owner fun account =>
    { account with ownedNfts := account.ownedNfts.subClamp (UInt64.ofNat serials.length) }

/-- Write a smaller supply and the balance it was taken from. -/
def shrink
    (token : Token)
    (holding : Relationship)
    (amount balance : UInt64)
    (serials : List Int64) :
    TokenAction SupplyChange := do
  let totalSupply := token.totalSupply.subClamp amount
  change fun world => world.putToken { token with totalSupply }
  setBalance holding balance
  pure ⟨totalSupply, serials⟩

/-- Burn an amount or pieces of the treasury. -/
def burn (body : TokenBurn) : TokenAction SupplyChange := do
  let token ← liveToken body.token
  ensure token.hasSupplyKey .tokenHasNoSupplyKey
  let holding ← relationship token.treasury body.token
  if token.isNonFungible then
    ensure (body.amount == 0) .invalidTokenBurnAmount
  else
    ensure (body.amount > 0 && body.serials.isEmpty) .invalidTokenBurnAmount
  let burned :=
    if token.isNonFungible then UInt64.ofNat body.serials.length else body.amount
  let balance ← reduced holding.balance burned .insufficientTokenBalance
  if token.isNonFungible then
    removePieces body.token body.serials token.treasury .invalidTokenBurnAmount
  shrink token holding burned balance body.serials

/-- Wipe an amount or pieces from an account that is not the treasury. -/
def wipe (body : TokenWipe) : TokenAction SupplyChange := do
  let token ← liveToken body.token
  ensure token.hasWipeKey .tokenHasNoWipeKey
  ensureSubject body.account
  ensure (token.treasury != body.account) .cannotWipeTokenTreasuryAccount
  let holding ← relationship body.account body.token
  if !token.isNonFungible then
    ensure (body.amount > 0 && body.serials.isEmpty) .invalidWipingAmount
  let wiped :=
    if token.isNonFungible then UInt64.ofNat body.serials.length else body.amount
  let balance ← reduced holding.balance wiped .invalidWipingAmount
  if token.isNonFungible then
    removePieces body.token body.serials body.account .invalidWipingAmount
  shrink token holding wiped balance body.serials

end TokenAction

end LedgerEvm
