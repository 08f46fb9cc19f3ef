import LedgerEvm.Ledger.World
import LedgerEvm.Machine.Ruleset

namespace LedgerEvm

/-!
# Admission of addresses

Before an instruction looks up an address the rules of the version decide whether
it may; before a contract destroys itself they decide whether anything stands
against it.
-/

namespace Address

/-- The greatest number of a system account. -/
def lastSystemNum : UInt64 :=
  750

/-- Whether the address belongs to a system account. -/
def isSystemAccount (address : Address) : Bool :=
  (EntityId.ofAddress? address).any fun entity => entity.num ≤ lastSystemNum

/-- Whether calls to the address are answered without an account. -/
def isBuiltIn (address : Address) : Bool :=
  address.isFixedContract || address == tokenService || address == exchangeRate ||
    address == randomSeed

end Address

/-- The verdict on an address that an instruction wants to look up. -/
inductive AddressVerdict where
  | regular
  | systemAccount
  | invalid
  deriving Repr, DecidableEq

namespace World

/-- Whether something answers at an address. -/
def answersAt (world : World) (address : Address) : Except StateError Bool := do
  if address.isBuiltIn then
    return true
  world.reaches address

/-- The verdict on an address under a rule. -/
def judge
    (world : World)
    (rule : AddressRule)
    (address : Address) :
    Except StateError AddressVerdict := do
  if rule.detectsSystemAccounts && address.isSystemAccount then
    return .systemAccount
  if rule.validatesExistence then
    if !(← world.answersAt address) then
      return .invalid
  return .regular

/-- What stands against deleting a contract, the first reason first. -/
def objectionToDeletion?
    (world : World)
    (contract beneficiary : Address) :
    Except StateError (Option HaltReason) := do
  if contract = beneficiary then
    return some .selfDestructToSelf
  if ← world.isTokenTreasury contract then
    return some .contractIsTreasury
  if ← world.hasTokenBalance contract then
    return some .transactionRequiresZeroTokenBalances
  if ← world.ownsNfts contract then
    return some .contractStillOwnsNfts
  return none

/--
What stands against the self-destruction of a contract.  The beneficiary may be
checked first; where old contracts are spared, nothing else is asked about them.
-/
def objectionToSelfDestruct?
    (world : World)
    (rule : SelfDestructRule)
    (contract beneficiary : Address) :
    Except StateError (Option HaltReason) := do
  if rule.validatesBeneficiary then
    if beneficiary.isSystemAccount then
      return some .invalidSolidityAddress
    if !(← world.answersAt beneficiary) then
      return some .invalidSolidityAddress
  if rule.sparesOldContracts && !world.isCreated contract then
    return none
  world.objectionToDeletion? contract beneficiary

end World

end LedgerEvm
