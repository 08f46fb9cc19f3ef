import LedgerEvm.TokenService.Action
import LedgerEvm.Transaction

namespace LedgerEvm

/-!
# Creating tokens

A new token gets the next free address.  Its treasury is associated with it from
the start and holds the initial supply.
-/

namespace TokenAction

/-- A free address for a new entity; the numbers drawn on the way stay used. -/
def freshAddress (sponsor : Address) : TokenAction Address := fun world =>
  match world.newContractAddress sponsor with
  | (.ok address, drawn) => .ok address drawn
  | (.error error, drawn) => .error (.ofState error) drawn

/-- Create a token; the answer is its address. -/
def create (body : TokenCreate) (sponsor : Address) : TokenAction Address := do
  ensureAccount body.treasury .invalidTreasuryAccountForToken
  ensure (!body.name.isEmpty && !body.symbol.isEmpty) .invalidTransactionBody
  let address ← freshAddress sponsor
  change fun world =>
    world.putToken
      { address
        kind := body.kind
        treasury := body.treasury
        totalSupply := body.initialSupply
        decimals := body.decimals
        name := body.name
        symbol := body.symbol
        hasSupplyKey := body.supplyKey }
  change fun world =>
    world.putRelationship body.treasury address
      (some
        { account := body.treasury
          token := address
          balance := body.initialSupply
          kycGranted := true })
  adjust body.treasury fun account =>
    { account with
      numTreasuryTitles := account.numTreasuryTitles + 1
      numAssociations := account.numAssociations + 1
      numPositiveBalances :=
        if body.initialSupply > 0 then
          account.numPositiveBalances + 1
        else
          account.numPositiveBalances }
  pure address

end TokenAction

end LedgerEvm
