import LedgerEvm.Proofs.Ledger.Accounts

namespace LedgerEvm

/-!
# The world as a flat store

A flat store keeps one overlay over a snapshot.  A write takes effect in it at once;
opening a frame saves a copy of it, keeping the frame's writes drops the copy, and
dropping them restores it.  The world of stacked journals gives the same answers as
long as an account changed inside the frame that wrote it is one that any other frame
could change as well.
-/

/-- What can be done to a ledger in the course of a simulation. -/
inductive LedgerOperation where
  | mutate (address : Address) (change : Account → Account)
  | create (account : Account)
  | put (account : Account)
  | delete (address : Address)
  | setStorage (address : Address) (key value : Word)
  | setTransient (address : Address) (key value : Word)
  | putToken (token : Token)
  | putRelationship (account token : Address) (entry : Option Relationship)
  | putNft (token : Address) (serial : Int64) (entry : Option Nft)
  | setAllowance (owner token spender : Address) (amount : UInt64)
  | warmAccount (address : Address)
  | warmSlot (address : Address) (key : Word)
  | push
  | commit
  | revert

/-- One overlay over a snapshot, with the copies that open frames have saved. -/
structure FlatStore where
  snapshot : Snapshot
  redirectsTokenCalls : Bool
  overlay : Journal
  saved : List Journal

namespace FlatStore

open World (readThrough)

/-- The store in which nothing has been written. -/
def ofSnapshot (snapshot : Snapshot) (redirectsTokenCalls : Bool) : FlatStore :=
  { snapshot, redirectsTokenCalls, overlay := .empty, saved := [] }

/-! ## Reading -/

/-- The account under an address, deleted or not. -/
def accountEntry
    (store : FlatStore)
    (address : Address) :
    Except StateError (Option Account) :=
  readThrough ((store.overlay.accounts.get? address).map some)
    (store.snapshot.account address)

/-- The token at an address, deleted or not. -/
def token (store : FlatStore) (address : Address) : Except StateError (Option Token) :=
  readThrough ((store.overlay.tokens.get? address).map some) (store.snapshot.token address)

/-- The account that calls to an address reach. -/
def get (store : FlatStore) (address : Address) : Except StateError (Option Account) := do
  if store.redirectsTokenCalls then
    if (← store.token address).isSome then
      return some (Account.ofToken address)
  return (← store.accountEntry address).filter fun account => !account.deleted

/-- The answers of a flat store. -/
def view (store : FlatStore) : LedgerView where
  accountEntry := store.accountEntry
  get := store.get
  storage address key :=
    readThrough (store.overlay.storage.get? ⟨address, key⟩)
      (store.snapshot.storage address key)
  initialStorage := store.snapshot.storage
  transient address key := (store.overlay.transient.get? ⟨address, key⟩).getD 0
  token := store.token
  relationship account token :=
    readThrough (store.overlay.relationships.get? ⟨account, token⟩)
      (store.snapshot.relationship account token)
  nft token serial :=
    readThrough (store.overlay.nfts.get? ⟨token, serial⟩)
      (store.snapshot.nft token serial)
  allowance owner token spender :=
    readThrough (store.overlay.allowances.get? ⟨owner, token, spender⟩)
      (store.snapshot.allowance owner token spender)
  isCreated address := store.overlay.created.contains address
  isWarmAccount address := store.overlay.warmAccounts.contains address
  isWarmSlot address key := store.overlay.warmSlots.contains ⟨address, key⟩

/-! ## Writing -/

/-- Change the overlay. -/
def write (store : FlatStore) (change : Journal → Journal) : FlatStore :=
  { store with overlay := change store.overlay }

/--
Change the account under an address.  Where no account is reached, or one that stands
for a token, nothing happens.
-/
def mutate
    (store : FlatStore)
    (address : Address)
    (change : Account → Account) :
    FlatStore :=
  match store.get address with
  | .ok (some account) =>
      if account.isToken then
        store
      else
        store.write fun overlay =>
          { overlay with accounts := overlay.accounts.insert address (change account) }
  | _ => store

/-- Carry out an operation on a flat store. -/
def perform (store : FlatStore) : LedgerOperation → FlatStore
  | .mutate address change => store.mutate address change
  | .create account =>
      store.write fun overlay =>
        { overlay with
          created := overlay.created.insert account.address ()
          warmAccounts := overlay.warmAccounts.insert account.address ()
          accounts := overlay.accounts.insert account.address account }
  | .put account =>
      store.write fun overlay =>
        { overlay with accounts := overlay.accounts.insert account.address account }
  | .delete address => store.mutate address fun account => { account with deleted := true }
  | .setStorage address key value =>
      store.write fun overlay =>
        { overlay with storage := overlay.storage.insert ⟨address, key⟩ value }
  | .setTransient address key value =>
      store.write fun overlay =>
        { overlay with transient := overlay.transient.insert ⟨address, key⟩ value }
  | .putToken token =>
      store.write fun overlay =>
        { overlay with tokens := overlay.tokens.insert token.address token }
  | .putRelationship account token entry =>
      store.write fun overlay =>
        { overlay with
          relationships := overlay.relationships.insert ⟨account, token⟩ entry }
  | .putNft token serial entry =>
      store.write fun overlay =>
        { overlay with nfts := overlay.nfts.insert ⟨token, serial⟩ entry }
  | .setAllowance owner token spender amount =>
      store.write fun overlay =>
        { overlay with
          allowances := overlay.allowances.insert ⟨owner, token, spender⟩ amount }
  | .warmAccount address =>
      store.write fun overlay =>
        { overlay with warmAccounts := overlay.warmAccounts.insert address () }
  | .warmSlot address key =>
      store.write fun overlay =>
        { overlay with warmSlots := overlay.warmSlots.insert ⟨address, key⟩ () }
  | .push => { store with saved := store.overlay :: store.saved }
  | .commit =>
      match store.saved with
      | [] => { store with overlay := .empty }
      | _ :: rest => { store with saved := rest }
  | .revert =>
      match store.saved with
      | [] => { store with overlay := .empty }
      | copy :: rest => { store with overlay := copy, saved := rest }

/-- Carry out operations one after the other. -/
def play (store : FlatStore) (operations : List LedgerOperation) : FlatStore :=
  operations.foldl perform store

end FlatStore

namespace World

/-- A world whose outermost frame has ended begins a new one. -/
def reopened (world : World) : World :=
  if world.layers.isEmpty then world.push else world

/-- The world after a change that may fail, and then changes nothing. -/
def orUnchanged {α : Type} (world : World) (result : Except α World) : World :=
  match result with
  | .ok changed => changed
  | .error _ => world

/-- Carry out an operation on a world. -/
def perform (world : World) : LedgerOperation → World
  | .mutate address change =>
      world.orUnchanged ((world.updateAccount address change).map Prod.snd)
  | .create account => world.createAccount account
  | .put account => world.putAccount account
  | .delete address => world.orUnchanged (world.deleteAccount address)
  | .setStorage address key value => world.setStorage address key value
  | .setTransient address key value => world.setTransient address key value
  | .putToken token => world.putToken token
  | .putRelationship account token entry => world.putRelationship account token entry
  | .putNft token serial entry => world.putNft token serial entry
  | .setAllowance owner token spender amount =>
      world.setAllowance owner token spender amount
  | .warmAccount address => world.warmAccount address
  | .warmSlot address key => world.warmSlot address key
  | .push => world.push
  | .commit => world.commit.reopened
  | .revert => world.revert.reopened

/-- Carry out operations one after the other. -/
def play (world : World) (operations : List LedgerOperation) : World :=
  operations.foldl perform world

/--
An account that the innermost frame has written itself is changed without being looked
up: that is what a flat store does too when the account stands for no token and calls to
it are not redirected, or when the change leaves it as it is.
-/
def AdmitsChange
    (world : World)
    (address : Address)
    (change : Account → Account) :
    Prop :=
  ∀ account,
    world.journal.accounts.get? address = some account →
    account.deleted = false →
    account.isToken = false ∧ world.IsPlain address ∨ change account = account

/-- Whether an operation does to a world what it does to a flat store. -/
def Admits (world : World) : LedgerOperation → Prop
  | .mutate address change => world.AdmitsChange address change
  | .delete address =>
      world.AdmitsChange address fun account => { account with deleted := true }
  | _ => True

/-- Whether each operation is admitted by the world it meets. -/
def AdmitsAll (world : World) : List LedgerOperation → Prop
  | [] => True
  | operation :: rest =>
      world.Admits operation ∧ (world.perform operation).AdmitsAll rest

end World

/-! ## Agreement -/

namespace World

variable {world : World}

/-- Where a change is given an account, it is made. -/
theorem orUnchanged_of_claim?
    {address : Address}
    {account : Account}
    (claimed : world.claim? address = .ok (some account))
    (change : Account → Account) :
    world.orUnchanged ((world.updateAccount address change).map Prod.snd) =
      world.setAccount address (change account) := by
  rw [updateAccount_eq, claimed]
  rfl

/-- Where a change is given no account, nothing happens. -/
theorem orUnchanged_of_not_claim?
    {address : Address}
    (refused : ∀ account, world.claim? address ≠ .ok (some account))
    (change : Account → Account) :
    world.orUnchanged ((world.updateAccount address change).map Prod.snd) = world := by
  rw [updateAccount_eq]
  cases claimed : world.claim? address with
  | error error =>
      rfl
  | ok given =>
      cases given with
      | none => rfl
      | some account => exact (refused account claimed).elim

/-- Failing to delete an account is finding none to change. -/
theorem orUnchanged_deleteAccount
    (address : Address) :
    world.orUnchanged (world.deleteAccount address) =
      world.orUnchanged
        ((world.updateAccount address fun account => { account with deleted := true }).map
          Prod.snd) := by
  unfold deleteAccount
  rw [updateAccount_eq]
  cases world.claim? address with
  | error error =>
      rfl
  | ok given =>
      cases given <;> rfl

end World

namespace FlatStore

/-- Where an account that stands for no token is reached, it is changed. -/
theorem mutate_of_get
    {store : FlatStore}
    {address : Address}
    {account : Account}
    (reached : store.get address = .ok (some account))
    (noToken : account.isToken = false)
    (change : Account → Account) :
    store.mutate address change =
      store.write fun overlay =>
        { overlay with accounts := overlay.accounts.insert address (change account) } := by
  simp [mutate, reached, noToken]

/-- Where no other account than one for a token is reached, nothing happens. -/
theorem mutate_of_refused
    {store : FlatStore}
    {address : Address}
    (refused :
      ∀ account, store.get address = .ok (some account) → account.isToken = true)
    (change : Account → Account) :
    store.mutate address change = store := by
  unfold mutate
  split
  · rename_i account reached
    rw [if_pos (refused account reached)]
  · rfl

/-- Writing the account that is known changes nothing. -/
theorem write_known
    {store : FlatStore}
    {address : Address}
    {account : Account}
    (known : store.overlay.accounts.get? address = some account) :
    (store.write fun overlay =>
      { overlay with accounts := overlay.accounts.insert address account }) = store := by
  simp [write, Table.insert_get?_self known]

/-- Replacing an account by itself changes nothing. -/
theorem mutate_of_unchanged
    {store : FlatStore}
    {address : Address}
    {account : Account}
    {change : Account → Account}
    (known : store.overlay.accounts.get? address = some account)
    (unchanged : change account = account)
    (onlyThis : ∀ other, store.get address = .ok (some other) → other.isToken = false →
      other = account) :
    store.mutate address change = store := by
  unfold mutate
  split
  · rename_i other reached
    cases isToken : other.isToken with
    | true =>
        rfl
    | false =>
        rw [onlyThis other reached isToken, unchanged]
        exact write_known known
  · rfl

/-- The copies that opening the frames around the innermost one has left behind. -/
def copies : List Journal → List Journal
  | [] => []
  | parent :: outer => Journal.merged (parent :: outer) :: copies outer

/-- A flat store that stands for a world. -/
structure Represents (store : FlatStore) (world : World) : Prop where
  isOpen : world.IsOpen
  snapshot : store.snapshot = world.snapshot
  redirects : store.redirectsTokenCalls = world.redirectsTokenCalls
  overlay : store.overlay = world.overlay
  saved : store.saved = copies world.layers.tail

namespace Represents

variable
  {store : FlatStore}
  {world : World}

theorem accountEntry_eq
    (represents : store.Represents world)
    (address : Address) :
    store.accountEntry address = world.accountEntry address := by
  rw [world.accountEntry_eq, accountEntry, represents.overlay, represents.snapshot]

theorem token_eq
    (represents : store.Represents world)
    (address : Address) :
    store.token address = world.token address := by
  rw [world.token_eq, token, represents.overlay, represents.snapshot]

theorem get_eq
    (represents : store.Represents world)
    (address : Address) :
    store.get address = world.get address := by
  simp only [FlatStore.get, World.get, represents.redirects, represents.token_eq,
    represents.accountEntry_eq]

/-- A flat store answers every question as the world does that it stands for. -/
theorem view_eq
    (represents : store.Represents world) :
    world.view = store.view := by
  have accountEntry := funext represents.accountEntry_eq
  have token := funext represents.token_eq
  have get := funext represents.get_eq
  simp only [World.view, FlatStore.view, accountEntry, token, get, LedgerView.mk.injEq,
    represents.overlay, represents.snapshot, true_and]
  refine ⟨?_, rfl, ?_, ?_, ?_, ?_, ?_, ?_, ?_⟩
  · funext address key
    exact world.storage_eq address key
  · funext address key
    exact world.transient_eq address key
  · funext account token
    exact world.relationship_eq account token
  · funext token serial
    exact world.nft_eq token serial
  · funext owner token spender
    exact world.allowance_eq owner token spender
  · funext address
    exact world.isCreated_eq address
  · funext address
    exact world.isWarmAccount_eq address
  · funext address key
    exact world.isWarmSlot_eq address key

/-- A write to the innermost journal is the same write to the overlay. -/
theorem write
    (represents : store.Represents world)
    {change : Journal → Journal}
    (isLocal : Journal.IsLocal change) :
    (store.write change).Represents (world.record change) := by
  have overlay := World.overlay_record represents.isOpen isLocal
  cases shape : world.layers with
  | nil =>
      exact (represents.isOpen shape).elim
  | cons inner outer =>
      refine ⟨?_, represents.snapshot.trans ?_, represents.redirects.trans ?_, ?_, ?_⟩
      · simp [World.IsOpen, World.record, shape]
      · simp [World.record, shape]
      · simp [World.record, shape]
      · rw [overlay, ← represents.overlay]
        rfl
      · simpa [World.record, shape, FlatStore.write] using represents.saved

theorem push
    (represents : store.Represents world) :
    (store.perform .push).Represents world.push := by
  refine ⟨by simp [World.IsOpen, World.push], represents.snapshot,
    represents.redirects, ?_, ?_⟩
  · rw [World.overlay_push]
    exact represents.overlay
  · cases shape : world.layers with
    | nil =>
        exact (represents.isOpen shape).elim
    | cons inner outer =>
        have saved := represents.saved
        have overlay := represents.overlay
        simp only [shape, List.tail_cons] at saved
        simp only [World.overlay, shape] at overlay
        simp [perform, World.push, shape, copies, saved, overlay]

theorem commit
    (represents : store.Represents world) :
    (store.perform .commit).Represents (world.perform .commit) := by
  have overlay := represents.overlay
  have saved := represents.saved
  match shape : world.layers with
  | [] =>
      exact (represents.isOpen shape).elim
  | [_] =>
      simp only [shape, List.tail_cons, copies] at saved
      simp only [perform, saved, World.perform, World.commit, shape, World.reopened,
        List.isEmpty_nil, if_true]
      refine ⟨by simp [World.IsOpen, World.push], represents.snapshot,
        represents.redirects, ?_, ?_⟩
      · simp [World.overlay, Journal.merged, World.push, Journal.absorb_empty]
      · simp [World.push, copies]
  | child :: parent :: outer =>
      simp only [shape, List.tail_cons, copies] at saved
      rw [← World.overlay_commit shape] at overlay
      simp only [World.commit, shape] at overlay
      simp only [perform, saved, World.perform, World.commit, shape, World.reopened,
        List.isEmpty_cons, Bool.false_eq_true, if_false]
      exact ⟨by simp [World.IsOpen], represents.snapshot, represents.redirects,
        overlay, rfl⟩

theorem revert
    (represents : store.Represents world) :
    (store.perform .revert).Represents (world.perform .revert) := by
  have saved := represents.saved
  match shape : world.layers with
  | [] =>
      exact (represents.isOpen shape).elim
  | [_] =>
      simp only [shape, List.tail_cons, copies] at saved
      simp only [perform, saved, World.perform, World.revert, shape, World.reopened,
        List.tail_cons, List.isEmpty_nil, if_true]
      refine ⟨by simp [World.IsOpen, World.push], represents.snapshot,
        represents.redirects, ?_, ?_⟩
      · simp [World.overlay, Journal.merged, World.push, Journal.absorb_empty]
      · simp [World.push, copies]
  | child :: parent :: outer =>
      simp only [shape, List.tail_cons, copies] at saved
      simp only [perform, saved, World.perform, World.revert, shape, World.reopened,
        List.tail_cons, List.isEmpty_cons, Bool.false_eq_true, if_false]
      exact ⟨by simp [World.IsOpen], represents.snapshot, represents.redirects,
        rfl, rfl⟩

/-- An account that the innermost frame has not written is changed alike. -/
theorem mutate_unwritten
    (represents : store.Represents world)
    {address : Address}
    (unwritten : world.journal.accounts.get? address = none)
    (change : Account → Account) :
    (store.mutate address change).Represents
      (world.orUnchanged ((world.updateAccount address change).map Prod.snd)) := by
  have claim :
      world.claim? address =
        (world.get address).map fun found =>
          found.filter fun account => !account.isToken := by
    simp [World.claim?, unwritten]
  by_cases found :
      ∃ account, world.get address = .ok (some account) ∧ account.isToken = false
  · obtain ⟨account, reached, noToken⟩ := found
    have claimed : world.claim? address = .ok (some account) := by
      simp [claim, reached, Except.map, Option.filter, noToken]
    rw [World.orUnchanged_of_claim? claimed,
      mutate_of_get ((represents.get_eq address).trans reached) noToken]
    exact represents.write (Journal.isLocal_insertAccount _ _)
  · have onlyTokens :
        ∀ account, world.get address = .ok (some account) → account.isToken = true := by
      intro account reached
      cases isToken : account.isToken with
      | true => rfl
      | false => exact (found ⟨account, reached, isToken⟩).elim
    have refused : ∀ account, world.claim? address ≠ .ok (some account) := by
      intro account claimed
      rw [claim] at claimed
      cases reached : world.get address with
      | error error =>
          rw [reached] at claimed
          cases claimed
      | ok given =>
          rw [reached] at claimed
          obtain ⟨same, noToken⟩ := Option.filter_eq_some_iff.mp (Except.ok.inj claimed)
          have isToken := onlyTokens account (by rw [reached, same])
          simp [isToken] at noToken
    rw [World.orUnchanged_of_not_claim? refused, mutate_of_refused]
    · exact represents
    · intro account reached
      exact onlyTokens account ((represents.get_eq address).symm.trans reached)

/--
An account that the innermost frame has written is changed alike when that is admitted.
-/
theorem mutate_written
    (represents : store.Represents world)
    {address : Address}
    {account : Account}
    {change : Account → Account}
    (inJournal : world.journal.accounts.get? address = some account)
    (admits : world.AdmitsChange address change) :
    (store.mutate address change).Represents
      (world.orUnchanged ((world.updateAccount address change).map Prod.snd)) := by
  have entry := World.accountEntry_of_journal inJournal
  have reachedOnly :
      ∀ other, store.get address = .ok (some other) → other.isToken = false →
        other = account ∧ account.deleted = false := by
    intro other reached noToken
    rw [represents.get_eq] at reached
    obtain ⟨_, otherEntry, alive⟩ := World.of_get_of_not_isToken reached noToken
    rw [entry] at otherEntry
    cases otherEntry
    exact ⟨rfl, alive⟩
  cases gone : account.deleted with
  | true =>
      have refused : ∀ other, world.claim? address ≠ .ok (some other) := by
        simp [World.claim?, inJournal, gone]
      rw [World.orUnchanged_of_not_claim? refused, mutate_of_refused]
      · exact represents
      · intro other reached
        cases isToken : other.isToken with
        | true => rfl
        | false =>
            have alive := (reachedOnly other reached isToken).2
            simp [gone] at alive
  | false =>
      have claimed : world.claim? address = .ok (some account) := by
        simp [World.claim?, inJournal, gone]
      have written :=
        represents.write (Journal.isLocal_insertAccount address (change account))
      rw [World.orUnchanged_of_claim? claimed]
      rcases admits account inJournal gone with ⟨noToken, isPlain⟩ | unchanged
      · have reached : store.get address = .ok (some account) := by
          rw [represents.get_eq, World.get_of_isPlain isPlain, entry]
          simp [Except.map, Option.filter, gone]
        rw [mutate_of_get reached noToken]
        exact written
      · have known : store.overlay.accounts.get? address = some account := by
          rw [represents.overlay]
          exact World.overlay_accounts_of_journal inJournal
        rw [mutate_of_unchanged known unchanged fun other reached noToken =>
          (reachedOnly other reached noToken).1]
        rw [unchanged, write_known known] at written
        rw [unchanged]
        exact written

/-- A flat store changes the account that the world gives out. -/
theorem mutate
    (represents : store.Represents world)
    {address : Address}
    {change : Account → Account}
    (admits : world.AdmitsChange address change) :
    (store.mutate address change).Represents
      (world.orUnchanged ((world.updateAccount address change).map Prod.snd)) := by
  cases inJournal : world.journal.accounts.get? address with
  | none => exact represents.mutate_unwritten inJournal change
  | some account => exact represents.mutate_written inJournal admits

/-- An admitted operation is the same on the world and on the flat store. -/
theorem perform
    (represents : store.Represents world)
    {operation : LedgerOperation}
    (admits : world.Admits operation) :
    (store.perform operation).Represents (world.perform operation) := by
  cases operation with
  | mutate address change =>
      exact represents.mutate admits
  | delete address =>
      rw [World.perform, World.orUnchanged_deleteAccount]
      exact represents.mutate admits
  | push =>
      exact represents.push
  | commit =>
      exact represents.commit
  | revert =>
      exact represents.revert
  | _ =>
      simp only [FlatStore.perform, World.perform, World.createAccount, World.putAccount,
        World.setStorage, World.setTransient, World.putToken, World.putRelationship,
        World.putNft, World.setAllowance, World.warmAccount, World.warmSlot]
      refine represents.write ?_
      intro outer inner
      simp [Journal.absorb, Table.overlay_insert]

/-- A change that is not admitted is seen. -/
theorem view_ne_of_not_admitsChange
    (represents : store.Represents world)
    {address : Address}
    {change : Account → Account}
    (refused : ¬ world.AdmitsChange address change) :
    (world.orUnchanged ((world.updateAccount address change).map Prod.snd)).view ≠
      (store.mutate address change).view := by
  -- the frame gives its own token account out; the flat store sees a token and does not
  simp only [World.AdmitsChange, Classical.not_forall, not_or, not_and] at refused
  obtain ⟨account, inJournal, alive, hidden, changed⟩ := refused
  have claimed : world.claim? address = .ok (some account) := by
    simp [World.claim?, inJournal, alive]
  have entry := World.accountEntry_of_journal inJournal
  have onlyTokens :
      ∀ other, store.get address = .ok (some other) → other.isToken = true := by
    intro other reached
    cases isToken : other.isToken with
    | true => rfl
    | false =>
        rw [represents.get_eq] at reached
        obtain ⟨isPlain, otherEntry, _⟩ := World.of_get_of_not_isToken reached isToken
        rw [entry] at otherEntry
        cases otherEntry
        exact (hidden isToken isPlain).elim
  rw [World.orUnchanged_of_claim? claimed, mutate_of_refused onlyTokens]
  intro same
  have entries := congrFun (congrArg LedgerView.accountEntry same) address
  have before : store.accountEntry address = .ok (some account) :=
    (represents.accountEntry_eq address).trans entry
  have after :
      (world.setAccount address (change account)).accountEntry address =
        .ok (some (change account)) := by
    rw [World.accountEntry_eq, World.overlay_setAccount represents.isOpen]
    simp [World.readThrough]
  change (world.setAccount address (change account)).accountEntry address =
    store.accountEntry address at entries
  rw [after, before] at entries
  exact changed (Option.some.inj (Except.ok.inj entries))

/-- An operation is the same on the world and on the flat store only if it is admitted. -/
theorem admits_of_view_eq
    (represents : store.Represents world)
    {operation : LedgerOperation}
    (same : (world.perform operation).view = (store.perform operation).view) :
    world.Admits operation := by
  cases operation with
  | mutate address change =>
      exact Classical.byContradiction fun refused =>
        represents.view_ne_of_not_admitsChange refused same
  | delete address =>
      rw [World.perform, World.orUnchanged_deleteAccount] at same
      exact Classical.byContradiction fun refused =>
        represents.view_ne_of_not_admitsChange refused same
  | _ =>
      trivial

/-- The answers agree all along a list of operations exactly when every one is admitted. -/
theorem agree_iff
    (represents : store.Represents world)
    (operations : List LedgerOperation) :
    (∀ count,
      (world.play (operations.take count)).view =
        (store.play (operations.take count)).view) ↔
      world.AdmitsAll operations := by
  induction operations generalizing store world with
  | nil =>
      simp [World.play, FlatStore.play, World.AdmitsAll, represents.view_eq]
  | cons operation rest inductionHypothesis =>
      constructor
      · intro agree
        -- only with the first operation admitted do world and store still correspond
        have admits : world.Admits operation :=
          represents.admits_of_view_eq (agree 1)
        refine ⟨admits, ?_⟩
        rw [← inductionHypothesis (represents.perform admits)]
        intro count
        exact agree (count + 1)
      · rintro ⟨admits, admitsRest⟩ count
        rw [← inductionHypothesis (represents.perform admits)] at admitsRest
        cases count with
        | zero =>
            exact represents.view_eq
        | succ count =>
            exact admitsRest count

end Represents

/-- The store in which nothing has been written stands for the world of a first frame. -/
theorem represents_ofSnapshot
    (snapshot : Snapshot)
    (redirectsTokenCalls : Bool)
    (timestamp : Timestamp)
    (firstNum : UInt64) :
    (ofSnapshot snapshot redirectsTokenCalls).Represents
      (World.ofSnapshot snapshot redirectsTokenCalls timestamp firstNum).push :=
  ⟨by simp [World.IsOpen, World.push], rfl, rfl, rfl, rfl⟩

/--
Stacked journals give the answers of a flat store all along a list of operations,
whichever frames are opened, kept and dropped on the way, exactly when each change of an
account that the changing frame has written itself is admitted.
-/
theorem stacked_agrees_with_flat_iff
    (snapshot : Snapshot)
    (redirectsTokenCalls : Bool)
    (timestamp : Timestamp)
    (firstNum : UInt64)
    (operations : List LedgerOperation) :
    let world := (World.ofSnapshot snapshot redirectsTokenCalls timestamp firstNum).push
    let store := ofSnapshot snapshot redirectsTokenCalls
    (∀ count,
      (world.play (operations.take count)).view =
        (store.play (operations.take count)).view) ↔
      world.AdmitsAll operations :=
  (represents_ofSnapshot snapshot redirectsTokenCalls timestamp firstNum).agree_iff
    operations

/--
Where they part: an account that stands for a token, put and changed in one frame, is
changed, although a token account is given out to no one.
-/
theorem stacked_differs_from_flat :
    let token : Account := { address := Address.ofNum 1001, kind := .token, balance := 5 }
    let operations : List LedgerOperation :=
      [.create token,
        .mutate (Address.ofNum 1001) fun account => { account with balance := 7 }]
    ((World.ofSnapshot (Snapshot.ofContents { }) false ⟨0⟩ 5000).push.play
        operations).view ≠
      ((ofSnapshot (Snapshot.ofContents { }) false).play operations).view := by
  intro token operations same
  have created : Represents _ _ :=
    (represents_ofSnapshot (Snapshot.ofContents { }) false ⟨0⟩ 5000).perform
      (show World.Admits _ (.create token) from trivial)
  simp only [operations, World.play, play, List.foldl_cons, List.foldl_nil] at same
  have admits := created.admits_of_view_eq same
  have known := Table.get?_insert_self Table.empty (Address.ofNum 1001) token
  rcases admits token known rfl with ⟨noToken, _⟩ | unchanged
  · cases noToken
  · have balances : (7 : Word) = 5 := congrArg Account.balance unchanged
    exact absurd balances (by decide)

end FlatStore

end LedgerEvm
