import LedgerEvm.Error
import LedgerEvm.Ledger.Token

namespace LedgerEvm

/-!
# Snapshots

A snapshot answers lookups about the ledger at one instant.  Each lookup may fail
on its own.  An absent storage slot reads as zero and an absent allowance as none.
-/

/-- The lookups a simulation may make. -/
structure Snapshot where
  account : Address → Except StateError (Option Account)
  storage : Address → Word → Except StateError Word
  token : Address → Except StateError (Option Token)
  relationship : Address → Address → Except StateError (Option Relationship)
  nft : Address → Int64 → Except StateError (Option Nft)
  allowance : Address → Address → Address → Except StateError UInt64

namespace Snapshot

/-- Whether a token lives at an address. -/
def isToken (snapshot : Snapshot) (address : Address) : Except StateError Bool := do
  return (← snapshot.token address).isSome

/-- Ledger contents as finite tables. -/
structure Contents where
  accounts : Table Address Account := .empty
  storage : Table Slot Word := .empty
  tokens : Table Address Token := .empty
  relationships : Table Holding Relationship := .empty
  nfts : Table NftId Nft := .empty
  allowances : Table Grant UInt64 := .empty

/-- The snapshot of finite tables, whose lookups never fail. -/
def ofContents (contents : Contents) : Snapshot where
  account address := .ok (contents.accounts.get? address)
  storage address key := .ok ((contents.storage.get? ⟨address, key⟩).getD 0)
  token address := .ok (contents.tokens.get? address)
  relationship account token := .ok (contents.relationships.get? ⟨account, token⟩)
  nft token serial := .ok (contents.nfts.get? ⟨token, serial⟩)
  allowance owner token spender :=
    .ok ((contents.allowances.get? ⟨owner, token, spender⟩).getD 0)

end Snapshot

end LedgerEvm
