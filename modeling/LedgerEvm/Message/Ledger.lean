import LedgerEvm.Ledger.Snapshot
import LedgerEvm.Message.Name

namespace LedgerEvm

/-!
# Ledger entries in requests and answers

The contents of a ledger are read from lists of entries, of which later ones replace
earlier ones with the same key.
-/

namespace Account

instance : OfDatum Account where
  ofDatum datum :=
    { address := datum.get "address"
      kind := datum.get "kind"
      balance := datum.get "balance"
      nonce := datum.get "nonce"
      code := datum.get "code"
      deleted := datum.get "deleted"
      expiry := datum.get "expiry"
      numAssociations := datum.get "num_associations"
      numPositiveBalances := datum.get "num_positive_balances"
      numTreasuryTitles := datum.get "num_treasury_titles"
      ownedNfts := datum.get "owned_nfts" }

instance : ToDatum Account where
  toDatum account := .record
    [("address", .of account.address), ("kind", .of account.kind),
     ("balance", .of account.balance), ("nonce", .of account.nonce),
     ("code", .of account.code), ("deleted", .of account.deleted),
     ("expiry", .of account.expiry), ("num_associations", .of account.numAssociations),
     ("num_positive_balances", .of account.numPositiveBalances),
     ("num_treasury_titles", .of account.numTreasuryTitles),
     ("owned_nfts", .of account.ownedNfts), ("id", .of account.id?)]

end Account

namespace Token

instance : OfDatum Token where
  ofDatum datum :=
    { address := datum.get "address"
      kind := datum.get "type"
      treasury := datum.get "treasury"
      totalSupply := datum.get "total_supply"
      maxSupply := datum.get "max_supply"
      decimals := datum.get "decimals"
      name := datum.get "name"
      symbol := datum.get "symbol"
      deleted := datum.get "deleted"
      paused := datum.get "paused"
      hasSupplyKey := datum.get "supply_key"
      hasWipeKey := datum.get "wipe_key"
      freezeDefault := datum.get "freeze_default"
      lastUsedSerial := datum.get "last_serial" }

instance : ToDatum Token where
  toDatum token := .record
    [("address", .of token.address), ("type", .of token.kind),
     ("treasury", .of token.treasury), ("total_supply", .of token.totalSupply),
     ("max_supply", .of token.maxSupply), ("decimals", .of token.decimals),
     ("name", .of token.name), ("symbol", .of token.symbol), ("deleted", .of token.deleted),
     ("paused", .of token.paused), ("supply_key", .of token.hasSupplyKey),
     ("wipe_key", .of token.hasWipeKey), ("freeze_default", .of token.freezeDefault),
     ("last_serial", .of token.lastUsedSerial)]

end Token

namespace Relationship

instance : OfDatum Relationship where
  ofDatum datum :=
    { account := datum.get "account"
      token := datum.get "token"
      balance := datum.get "balance"
      frozen := datum.get "frozen"
      kycGranted := datum.get "kyc" }

instance : ToDatum Relationship where
  toDatum holding := .record
    [("account", .of holding.account), ("token", .of holding.token),
     ("balance", .of holding.balance), ("frozen", .of holding.frozen),
     ("kyc", .of holding.kycGranted)]

end Relationship

namespace Nft

instance : OfDatum Nft where
  ofDatum datum :=
    { token := datum.get "token"
      serial := datum.get "serial"
      owner := datum.get "owner"
      spender := datum.get "spender"
      metadata := datum.get "metadata" }

instance : ToDatum Nft where
  toDatum piece := .record
    [("token", .of piece.token), ("serial", .of piece.serial), ("owner", .of piece.owner),
     ("spender", .of piece.spender), ("metadata", .of piece.metadata)]

end Nft

namespace Snapshot.Contents

/-- The table of the entries under a key of a record. -/
def table
    {κ ν : Type}
    [Numbered κ]
    (datum : Datum)
    (key : String)
    (read : Datum → κ × ν) :
    Table κ ν :=
  Table.ofList ((datum.field key).items.map read)

instance : OfDatum Snapshot.Contents where
  ofDatum datum :=
    { accounts := table datum "accounts" fun entry => (entry.get "address", entry.read)
      storage := table datum "storage" fun entry =>
        (⟨(entry.item 0).read, (entry.item 1).read⟩, (entry.item 2).read)
      tokens := table datum "tokens" fun entry => (entry.get "address", entry.read)
      relationships := table datum "relationships" fun entry =>
        (⟨entry.get "account", entry.get "token"⟩, entry.read)
      nfts := table datum "nfts" fun entry =>
        (⟨entry.get "token", entry.get "serial"⟩, entry.read)
      allowances := table datum "allowances" fun entry =>
        (⟨entry.get "owner", entry.get "token", entry.get "spender"⟩, entry.get "amount") }

end Snapshot.Contents

end LedgerEvm
