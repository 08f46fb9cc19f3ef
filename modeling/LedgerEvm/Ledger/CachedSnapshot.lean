import LedgerEvm.Cache
import LedgerEvm.Ledger.Snapshot

namespace LedgerEvm

/-!
# Cached snapshots

A snapshot behind two caches, one for accounts and one for tokens.  That an address
has no account or token is kept like any other answer; the remaining lookups are
passed on.
-/

/-- A snapshot with caches in front of it, and the number of lookups they passed on. -/
structure CachedSnapshot where
  snapshot : Snapshot
  accounts : Cache Address (Option Account)
  tokens : Cache Address (Option Token)
  loads : Nat

namespace CachedSnapshot

/-- The snapshot behind empty caches. -/
def ofSnapshot
    (snapshot : Snapshot)
    (accounts tokens : CachePolicy) :
    CachedSnapshot :=
  ⟨snapshot, Cache.ofPolicy accounts, Cache.ofPolicy tokens, 0⟩

/-- One more lookup, when it was passed on. -/
def countLoad (loads : Nat) (loaded : Bool) : Nat :=
  if loaded then loads + 1 else loads

/-- Look up an account at a time. -/
def account
    (cached : CachedSnapshot)
    (address : Address)
    (now : Nat) :
    Except StateError (Option Account) × CachedSnapshot :=
  let (answer, loaded, accounts) :=
    cached.accounts.getOrLoad address now (cached.snapshot.account address)
  (answer, { cached with accounts, loads := countLoad cached.loads loaded })

/-- Look up a token at a time. -/
def token
    (cached : CachedSnapshot)
    (address : Address)
    (now : Nat) :
    Except StateError (Option Token) × CachedSnapshot :=
  let (answer, loaded, tokens) :=
    cached.tokens.getOrLoad address now (cached.snapshot.token address)
  (answer, { cached with tokens, loads := countLoad cached.loads loaded })

/-- Look up whether a token lives at an address. -/
def isToken
    (cached : CachedSnapshot)
    (address : Address)
    (now : Nat) :
    Except StateError Bool × CachedSnapshot :=
  let (answer, after) := cached.token address now
  (answer.map Option.isSome, after)

end CachedSnapshot

end LedgerEvm
