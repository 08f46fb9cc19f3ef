import LedgerEvm.Ledger.Journal
import LedgerEvm.Ledger.Snapshot
import LedgerEvm.Timestamp

namespace LedgerEvm

/-!
# The simulated world

A world is a snapshot with a stack of journals over it, the innermost frame's
first.  A read asks the journals from the innermost outward and then the snapshot;
a write goes to the innermost journal only.  A world without journals is the bare
view of the snapshot.

Addresses for new entities are drawn from a counter that belongs to the whole
simulation: reverting a frame does not give its numbers back.
-/

/-- The ledger as a frame of a simulation sees it. -/
structure World where
  snapshot : Snapshot
  redirectsTokenCalls : Bool
  timestamp : Timestamp
  nextNum : UInt64
  layers : List Journal

namespace World

/-- The bare view of a snapshot. -/
def ofSnapshot
    (snapshot : Snapshot)
    (redirectsTokenCalls : Bool)
    (timestamp : Timestamp)
    (firstNum : UInt64) :
    World :=
  { snapshot, redirectsTokenCalls, timestamp, nextNum := firstNum, layers := [] }

/-! ## Frames -/

/-- Open a frame that has written nothing. -/
def push (world : World) : World :=
  { world with layers := .empty :: world.layers }

/-- End the innermost frame and keep its writes; the outermost one has no caller to keep them. -/
def commit (world : World) : World :=
  match world.layers with
  | child :: parent :: outer => { world with layers := parent.absorb child :: outer }
  | _ => { world with layers := [] }

/-- End the innermost frame and drop its writes. -/
def revert (world : World) : World :=
  { world with layers := world.layers.tail }

/-- The innermost journal; the bare view has an empty one. -/
def journal (world : World) : Journal :=
  world.layers.headD .empty

/-- The number of frames around the innermost one. -/
def depth (world : World) : Nat :=
  world.layers.length - 1

/-- Change the innermost journal. -/
def record (world : World) (change : Journal → Journal) : World :=
  match world.layers with
  | [] => world
  | journal :: outer => { world with layers := change journal :: outer }

/-! ## Reading -/

/-- What the innermost journal that knows an entry says about it. -/
def latest? {α : Type} (world : World) (look : Journal → Option α) : Option α :=
  world.layers.findSome? look

/-- The account under an address, deleted or not. -/
def accountEntry (world : World) (address : Address) : Except StateError (Option Account) :=
  match world.latest? fun journal => journal.accounts.get? address with
  | some account => .ok (some account)
  | none => world.snapshot.account address

/-- The value of a storage slot. -/
def storage (world : World) (address : Address) (key : Word) : Except StateError Word :=
  match world.latest? fun journal => journal.storage.get? ⟨address, key⟩ with
  | some value => .ok value
  | none => world.snapshot.storage address key

/-- The value a storage slot had before the simulation. -/
def initialStorage (world : World) (address : Address) (key : Word) : Except StateError Word :=
  world.snapshot.storage address key

/-- The value of a transient slot, which is zero until written. -/
def transient (world : World) (address : Address) (key : Word) : Word :=
  (world.latest? fun journal => journal.transient.get? ⟨address, key⟩).getD 0

/-- The token at an address, deleted or not. -/
def token (world : World) (address : Address) : Except StateError (Option Token) :=
  match world.latest? fun journal => journal.tokens.get? address with
  | some token => .ok (some token)
  | none => world.snapshot.token address

/-- The association of an account with a token. -/
def relationship
    (world : World)
    (account token : Address) :
    Except StateError (Option Relationship) :=
  match world.latest? fun journal => journal.relationships.get? ⟨account, token⟩ with
  | some entry => .ok entry
  | none => world.snapshot.relationship account token

/-- A numbered piece of a token. -/
def nft (world : World) (token : Address) (serial : Int64) : Except StateError (Option Nft) :=
  match world.latest? fun journal => journal.nfts.get? ⟨token, serial⟩ with
  | some entry => .ok entry
  | none => world.snapshot.nft token serial

/-- How much of a token a spender may move for its owner. -/
def allowance (world : World) (owner token spender : Address) : Except StateError UInt64 :=
  match world.latest? fun journal => journal.allowances.get? ⟨owner, token, spender⟩ with
  | some amount => .ok amount
  | none => world.snapshot.allowance owner token spender

/-- Whether the account was created in this simulation. -/
def isCreated (world : World) (address : Address) : Bool :=
  world.layers.any fun journal => journal.created.contains address

/-- Whether the account was accessed before in this simulation. -/
def isWarmAccount (world : World) (address : Address) : Bool :=
  world.layers.any fun journal => journal.warmAccounts.contains address

/-- Whether the storage slot was accessed before in this simulation. -/
def isWarmSlot (world : World) (address : Address) (key : Word) : Bool :=
  world.layers.any fun journal => journal.warmSlots.contains ⟨address, key⟩

/--
The account that calls to an address reach.  When token calls are redirected, a
token stands for an account of its own; a deleted account is not reached.
-/
def get (world : World) (address : Address) : Except StateError (Option Account) := do
  if world.redirectsTokenCalls then
    if (← world.token address).isSome then
      return some (Account.ofToken address)
  return (← world.accountEntry address).filter fun account => !account.deleted

/-- Whether calls to an address reach an account. -/
def reaches (world : World) (address : Address) : Except StateError Bool := do
  return (← world.get address).isSome

/-- The currency held at an address. -/
def balance (world : World) (address : Address) : Except StateError Word := do
  return ((← world.get address).map Account.balance).getD 0

/-- The code at an address. -/
def code (world : World) (address : Address) : Except StateError Bytes := do
  return ((← world.get address).map Account.code).getD []

/-- Whether the account is treasury of a token. -/
def isTokenTreasury (world : World) (address : Address) : Except StateError Bool := do
  return (← world.accountEntry address).any fun account => account.numTreasuryTitles > 0

/-- Whether the account holds a positive balance of a token. -/
def hasTokenBalance (world : World) (address : Address) : Except StateError Bool := do
  return (← world.accountEntry address).any fun account => account.numPositiveBalances > 0

/-- Whether the account owns a numbered piece of a token. -/
def ownsNfts (world : World) (address : Address) : Except StateError Bool := do
  return (← world.accountEntry address).any fun account => account.ownedNfts > 0

/-!
## The ledger as a whole

A simulated world is neither hashed nor stored, and lookups do not list what there is.
-/

/-- The hash over the ledger, which is always the zero hash. -/
def rootHash (_world : World) : Hash :=
  Hash.zero

/-- The hash over the frontier of the ledger, which is always the zero hash. -/
def frontierRootHash (_world : World) : Hash :=
  Hash.zero

/-- So many accounts in the order of their hashes from a first one on, which no world can tell. -/
def streamAccounts
    (_world : World)
    (_start : Hash)
    (_limit : Nat) :
    Except StateError (List Account) :=
  .error (.unsupported "stream_accounts")

/-- What is given back for storage that is not used to its end; none is paid for ahead. -/
def storageRefund (_world : World) : Int64 :=
  0

/-! ## Writing -/

/-- Write an account entry. -/
def putAccount (world : World) (account : Account) : World :=
  world.record fun journal =>
    { journal with accounts := journal.accounts.insert account.address account }

/--
The account under an address, brought into the innermost journal for writing.  A
token or a deleted account is not given out.
-/
def claimAccount
    (world : World)
    (address : Address) :
    Except StateError (Option Account × World) := do
  match world.journal.accounts.get? address with
  | some account => return (if account.deleted then none else some account, world)
  | none =>
      match ← world.get address with
      | some account =>
          if account.isToken then
            return (none, world)
          else
            return (some account,
              world.record fun journal =>
                { journal with accounts := journal.accounts.insert address account })
      | none => return (none, world)

/-- Change the account under an address; the answer tells whether there was one. -/
def updateAccount
    (world : World)
    (address : Address)
    (change : Account → Account) :
    Except StateError (Bool × World) := do
  match ← world.claimAccount address with
  | (some account, claimed) =>
      return (true,
        claimed.record fun journal =>
          { journal with accounts := journal.accounts.insert address (change account) })
  | (none, claimed) => return (false, claimed)

/-- Put a new account, known as created and accessed from now on. -/
def createAccount (world : World) (account : Account) : World :=
  world.record fun journal =>
    { journal with
      created := journal.created.insert account.address ()
      warmAccounts := journal.warmAccounts.insert account.address ()
      accounts := journal.accounts.insert account.address account }

/-- Mark an account deleted. -/
def deleteAccount (world : World) (address : Address) : Except StateError World := do
  match ← world.updateAccount address fun account => { account with deleted := true } with
  | (true, changed) => return changed
  | (false, _) => throw (.missingEntity address.text)

/-- Write a storage slot. -/
def setStorage (world : World) (address : Address) (key value : Word) : World :=
  world.record fun journal =>
    { journal with storage := journal.storage.insert ⟨address, key⟩ value }

/-- Write a transient slot. -/
def setTransient (world : World) (address : Address) (key value : Word) : World :=
  world.record fun journal =>
    { journal with transient := journal.transient.insert ⟨address, key⟩ value }

/-- Mark an account as accessed. -/
def warmAccount (world : World) (address : Address) : World :=
  world.record fun journal =>
    { journal with warmAccounts := journal.warmAccounts.insert address () }

/-- Mark a storage slot as accessed. -/
def warmSlot (world : World) (address : Address) (key : Word) : World :=
  world.record fun journal =>
    { journal with warmSlots := journal.warmSlots.insert ⟨address, key⟩ () }

/-- Write a token entry. -/
def putToken (world : World) (token : Token) : World :=
  world.record fun journal =>
    { journal with tokens := journal.tokens.insert token.address token }

/-- Write or remove the association of an account with a token. -/
def putRelationship
    (world : World)
    (account token : Address)
    (entry : Option Relationship) :
    World :=
  world.record fun journal =>
    { journal with relationships := journal.relationships.insert ⟨account, token⟩ entry }

/-- Write or remove a numbered piece of a token. -/
def putNft
    (world : World)
    (token : Address)
    (serial : Int64)
    (entry : Option Nft) :
    World :=
  world.record fun journal =>
    { journal with nfts := journal.nfts.insert ⟨token, serial⟩ entry }

/-- Write an allowance. -/
def setAllowance
    (world : World)
    (owner token spender : Address)
    (amount : UInt64) :
    World :=
  world.record fun journal =>
    { journal with allowances := journal.allowances.insert ⟨owner, token, spender⟩ amount }

/-! ## New addresses -/

/--
Draw the next address.  It lies in the sponsor's shard and realm when the
sponsor's address tells them, and in shard and realm zero otherwise.
-/
def nextAddress (world : World) (sponsor : Address) : Address × World :=
  let home := (EntityId.ofAddress? sponsor).getD (EntityId.ofNum 0)
  (EntityId.toAddress ⟨home.shard, home.realm, world.nextNum⟩,
    { world with nextNum := world.nextNum + 1 })

/-- Whether neither an account entry nor a token is at an address. -/
def isFree (world : World) (address : Address) : Except StateError Bool := do
  if (← world.accountEntry address).isSome then
    return false
  return (← world.token address).isNone

/-- How many addresses are drawn in search of a free one. -/
def addressAttempts : Nat :=
  1000

/-- Draw addresses until one is free. -/
def drawFreeAddress
    (sponsor : Address) :
    Nat → World → Except StateError Address × World
  | 0, world =>
      (.error (.snapshot
        ("no free contract address after " ++ toString addressAttempts ++ " attempts")), world)
  | attempts + 1, world =>
      let (candidate, drawn) := world.nextAddress sponsor
      match drawn.isFree candidate with
      | .error error => (.error error, drawn)
      | .ok true => (.ok candidate, drawn)
      | .ok false => drawFreeAddress sponsor attempts drawn

/-- A free address for a new entity. -/
def newContractAddress
    (world : World)
    (sponsor : Address) :
    Except StateError Address × World :=
  drawFreeAddress sponsor addressAttempts world

/-! ## Small facts -/

/-- Opening a frame and dropping it changes nothing. -/
@[simp] theorem revert_push
    (world : World) :
    world.push.revert = world := by
  simp [push, revert]

/-- Dropping a frame drops all that was recorded in it. -/
@[simp] theorem revert_record
    (world : World)
    (change : Journal → Journal) :
    (world.record change).revert = world.revert := by
  cases shape : world.layers with
  | nil =>
      simp [record, shape]
  | cons journal outer =>
      simp [record, revert, shape]

/-- Initial values are the snapshot's, whatever has been recorded. -/
@[simp] theorem initialStorage_record
    (world : World)
    (change : Journal → Journal)
    (address : Address)
    (key : Word) :
    (world.record change).initialStorage address key = world.initialStorage address key := by
  cases shape : world.layers with
  | nil =>
      simp [record, shape]
  | cons journal outer =>
      simp [record, initialStorage, shape]

end World

end LedgerEvm
