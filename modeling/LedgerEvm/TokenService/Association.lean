import LedgerEvm.TokenService.Action
import LedgerEvm.Transaction

namespace LedgerEvm

/-!
# Associating and dissociating

An account is associated with a list of tokens, or its associations with them end,
all at once: every token is checked before anything is written.
-/

namespace TokenAction

/-- Refuse a list without tokens or with a repeated one, and the zero account. -/
def checkRelations (relations : TokenRelations) : TokenAction Unit := do
  ensure (!relations.account.isZero) .invalidAccountId
  ensure (!relations.tokens.isEmpty) .emptyTokenList
  ensure (decide relations.tokens.Nodup) .tokenIdRepeatedInTokenList

/-- The association that an account is about to have with a token. -/
def newRelationship (account address : Address) : TokenAction Relationship := do
  let token ← knownToken address
  ensure (!token.deleted) .tokenWasDeleted
  let present ← ask fun world => world.relationship account address
  ensure present.isNone .tokenAlreadyAssociatedToAccount
  pure { account, token := address, frozen := token.freezeDefault, kycGranted := true }

/-- Associate an account with tokens. -/
def associate (relations : TokenRelations) : TokenAction Unit := do
  checkRelations relations
  ensureSubject relations.account
  let created ← relations.tokens.mapM (newRelationship relations.account)
  created.forM fun holding =>
    change fun world => world.putRelationship holding.account holding.token (some holding)
  adjust relations.account fun account =>
    { account with
      numAssociations := account.numAssociations + UInt32.ofNat created.length }

/-- Refuse to end an association that still matters. -/
def checkDissociation (account address : Address) : TokenAction Unit := do
  let token ← knownToken address
  let holding ← relationship account address
  if !token.deleted then
    ensure (token.treasury != account) .accountIsTreasury
    ensure (holding.balance == 0) .transactionRequiresZeroTokenBalances

/-- End an association; the answer tells whether it held a positive balance. -/
def removeRelationship (account address : Address) : TokenAction Bool := do
  let holding ← ask fun world => world.relationship account address
  change fun world => world.putRelationship account address none
  pure (holding.any fun found => found.balance > 0)

/-- End the associations of an account with tokens. -/
def dissociate (relations : TokenRelations) : TokenAction Unit := do
  checkRelations relations
  ensureSubject relations.account
  relations.tokens.forM (checkDissociation relations.account)
  let removed ← relations.tokens.mapM (removeRelationship relations.account)
  adjust relations.account fun account =>
    { account with
      numAssociations :=
        account.numAssociations.subClamp (UInt32.ofNat relations.tokens.length)
      numPositiveBalances :=
        account.numPositiveBalances.subClamp (UInt32.ofNat (removed.count true)) }

end TokenAction

end LedgerEvm
