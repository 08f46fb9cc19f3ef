import LedgerEvm.Ledger.World

namespace LedgerEvm

/-!
# Moving currency

Calls, creations and self-destruction move currency between accounts.  A target
that is not there comes into being; a token cannot hold currency.
-/

namespace World

/-- A reading of the world, as the machine sees its failure. -/
def lookUp {α : Type} (result : Except StateError α) : Except VmError α :=
  result.mapError VmError.state

/-- Move a value from one account to another. -/
def transfer
    (world : World)
    (source target : Address)
    (value : Word) :
    Except VmError World := do
  if value = 0 ∨ source = target then
    return world
  let available ← lookUp (world.balance source)
  if available < value then
    throw (.insufficientBalance value available)
  let (_, debited) ←
    lookUp (world.updateAccount source fun account =>
      { account with balance := account.balance - value })
  let (reached, credited) ←
    lookUp (debited.updateAccount target fun account =>
      { account with balance := account.balance.addClamp value })
  if reached then
    return credited
  if ← lookUp (credited.reaches target) then
    throw (.halt .invalidSolidityAddress)
  return credited.createAccount { address := target, balance := value }

end World

end LedgerEvm
