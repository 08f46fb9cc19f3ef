import LedgerEvm.Ledger.Token

namespace LedgerEvm

/-!
# Journals

A journal collects what one frame has written and touched.  When the frame
succeeds its journal is laid over the caller's; when it fails it is dropped.
-/

/-- The writes of one frame. -/
structure Journal where
  accounts : Table Address Account := .empty
  storage : Table Slot Word := .empty
  transient : Table Slot Word := .empty
  tokens : Table Address Token := .empty
  relationships : Table Holding (Option Relationship) := .empty
  nfts : Table NftId (Option Nft) := .empty
  allowances : Table Grant UInt64 := .empty
  created : KeySet Address := .empty
  warmAccounts : KeySet Address := .empty
  warmSlots : KeySet Slot := .empty

namespace Journal

/-- The journal of a frame that has written nothing. -/
def empty : Journal :=
  { }

instance : Inhabited Journal := ⟨empty⟩

/-- Whether nothing was written or touched. -/
def isEmpty (journal : Journal) : Bool :=
  journal.accounts.isEmpty && journal.storage.isEmpty && journal.transient.isEmpty &&
    journal.tokens.isEmpty && journal.relationships.isEmpty && journal.nfts.isEmpty &&
    journal.allowances.isEmpty && journal.created.isEmpty && journal.warmAccounts.isEmpty &&
    journal.warmSlots.isEmpty

/-- The number of accounts with an entry. -/
def touchedAccounts (journal : Journal) : Nat :=
  journal.accounts.size

/-- The journal of a frame after a frame it called has succeeded. -/
def absorb (journal child : Journal) : Journal where
  accounts := journal.accounts.overlay child.accounts
  storage := journal.storage.overlay child.storage
  transient := journal.transient.overlay child.transient
  tokens := journal.tokens.overlay child.tokens
  relationships := journal.relationships.overlay child.relationships
  nfts := journal.nfts.overlay child.nfts
  allowances := journal.allowances.overlay child.allowances
  created := journal.created.overlay child.created
  warmAccounts := journal.warmAccounts.overlay child.warmAccounts
  warmSlots := journal.warmSlots.overlay child.warmSlots

end Journal

end LedgerEvm
