import LedgerEvm.Proofs.Ledger.FlatStore
import LedgerEvm.Proofs.Ledger.Holdings

namespace LedgerEvm

/-!
# Accounts that are given out

An account is given out for writing by a way of its own: one that the innermost frame has an
entry of already is taken from there, and only another one is looked up as calls look it up.
The two ways come to the same as long as every entry of a frame is one that calls reach.
Operations that keep it so are told here one by one; a frame inside which they all do keeps it so
for the frames around it as well, until it hands them a token where they have an account.
-/

/-- What a frame can do to the ledger: an operation on it, or a search for a free address. -/
inductive FrameOperation where
  | change (operation : LedgerOperation)
  | search (sponsor : Address)

namespace World

variable {world : World}

/-! ## One moment -/

/--
What an address gives out for writing is what calls to it reach, unless that stands for a token.
-/
def GivesOutWhatIsReached (world : World) (address : Address) : Prop :=
  ∀ account,
    (∃ claimed, world.claimAccount address = .ok (some account, claimed)) ↔
      world.get address = .ok (some account) ∧ account.isToken = false

/-- Each account that the innermost frame has an entry of is deleted or reached by calls. -/
def OwnAccountsAreReached (world : World) : Prop :=
  ∀ address account,
    world.journal.accounts.get? address = some account →
    account.deleted = false →
    account.isToken = false ∧ world.IsPlain address

/-- The account that is given out comes with the world in which it may be written. -/
theorem exists_claimAccount_iff
    {address : Address}
    {account : Account} :
    (∃ claimed, world.claimAccount address = .ok (some account, claimed)) ↔
      world.claim? address = .ok (some account) := by
  unfold claimAccount claim?
  cases inJournal : world.journal.accounts.get? address with
  | some known =>
      cases gone : known.deleted <;>
        simp [gone, pure, Except.pure]
  | none =>
      cases found : world.get address with
      | error error => simp [bind, Except.bind, Except.map]
      | ok reached =>
          cases reached with
          | none => simp [bind, Except.bind, Except.map, pure, Except.pure]
          | some known =>
              cases isToken : known.isToken <;>
                simp [isToken, bind, Except.bind, Except.map, pure, Except.pure, Option.filter]

/-- Where the innermost frame has no entry the two ways are one. -/
theorem givesOutWhatIsReached_of_unwritten
    {address : Address}
    (unwritten : world.journal.accounts.get? address = none) :
    world.GivesOutWhatIsReached address := by
  intro account
  rw [exists_claimAccount_iff, claim?]
  simp only [unwritten]
  cases reached : world.get address with
  | error error => simp [Except.map]
  | ok found => simp [Except.map, Option.filter_eq_some_iff]

/-- A deleted account is not given out, and what calls then reach stands for a token. -/
theorem givesOutWhatIsReached_of_deleted
    {address : Address}
    {known : Account}
    (inJournal : world.journal.accounts.get? address = some known)
    (deleted : known.deleted = true) :
    world.GivesOutWhatIsReached address := by
  intro account
  rw [exists_claimAccount_iff, claim?]
  simp only [inJournal, deleted]
  constructor
  · intro impossible
    cases impossible
  · rintro ⟨reached, noToken⟩
    obtain ⟨_, entry, alive⟩ := of_get_of_not_isToken reached noToken
    rw [accountEntry_of_journal inJournal] at entry
    cases entry
    rw [deleted] at alive
    cases alive

/-- An account that is there is given out, whether or not a token stands before it. -/
theorem givesOutWhatIsReached_iff_of_alive
    {address : Address}
    {known : Account}
    (inJournal : world.journal.accounts.get? address = some known)
    (alive : known.deleted = false) :
    world.GivesOutWhatIsReached address ↔ known.isToken = false ∧ world.IsPlain address := by
  have claimed : world.claim? address = .ok (some known) := by
    simp [claim?, inJournal, alive]
  constructor
  · intro same
    obtain ⟨reached, noToken⟩ := (same known).mp (exists_claimAccount_iff.mpr claimed)
    exact ⟨noToken, (of_get_of_not_isToken reached noToken).1⟩
  · rintro ⟨noToken, isPlain⟩ account
    rw [exists_claimAccount_iff, claimed, get_of_isPlain isPlain,
      accountEntry_of_journal inJournal]
    simp only [Except.map, Except.ok.injEq, Option.some.injEq, Option.filter_some, alive,
      Bool.not_false, if_true]
    constructor
    · rintro rfl
      exact ⟨rfl, noToken⟩
    · exact And.left

/-- The two ways come to the same everywhere exactly if the frame's own accounts are reached. -/
theorem givesOutWhatIsReached_iff :
    (∀ address, world.GivesOutWhatIsReached address) ↔ world.OwnAccountsAreReached := by
  constructor
  · intro same address account inJournal alive
    exact (givesOutWhatIsReached_iff_of_alive inJournal alive).mp (same address)
  · intro reached address
    cases inJournal : world.journal.accounts.get? address with
    | none => exact givesOutWhatIsReached_of_unwritten inJournal
    | some account =>
        cases gone : account.deleted with
        | true => exact givesOutWhatIsReached_of_deleted inJournal gone
        | false =>
            exact (givesOutWhatIsReached_iff_of_alive inJournal gone).mpr
              (reached address account inJournal gone)

/-! ## What operations do to entries -/

/-- What an open frame records is in its journal. -/
theorem journal_record
    (isOpen : world.IsOpen)
    (change : Journal → Journal) :
    (world.record change).journal = change world.journal := by
  cases shape : world.layers with
  | nil => exact (isOpen shape).elim
  | cons inner outer => simp [journal, record, shape]

theorem isOpen_record
    (isOpen : world.IsOpen)
    (change : Journal → Journal) :
    (world.record change).IsOpen := by
  cases shape : world.layers with
  | nil => exact (isOpen shape).elim
  | cons inner outer => simp [IsOpen, record, shape]

/-- Whether calls are redirected depends on tokens only. -/
theorem isPlain_congr
    {after : World}
    {address : Address}
    (redirects : after.redirectsTokenCalls = world.redirectsTokenCalls)
    (token : after.token address = world.token address) :
    after.IsPlain address ↔ world.IsPlain address := by
  rw [IsPlain, IsPlain, redirects, token]

/-- What is recorded of neither accounts nor tokens changes nothing here. -/
theorem ownAccountsAreReached_record
    (isOpen : world.IsOpen)
    {change : Journal → Journal}
    (sameAccounts : ∀ journal, (change journal).accounts = journal.accounts)
    (sameTokens : ∀ journal, (change journal).tokens = journal.tokens) :
    (world.record change).OwnAccountsAreReached ↔ world.OwnAccountsAreReached := by
  have isPlain (address : Address) :
      (world.record change).IsPlain address ↔ world.IsPlain address :=
    isPlain_congr (redirectsTokenCalls_record world change) (token_record world address sameTokens)
  simp only [OwnAccountsAreReached, journal_record isOpen, sameAccounts, isPlain]

/-- An account may be put under an address if it is deleted or calls would reach it there. -/
theorem ownAccountsAreReached_setAccount
    (isOpen : world.IsOpen)
    (reached : world.OwnAccountsAreReached)
    (address : Address)
    (account : Account) :
    (world.setAccount address account).OwnAccountsAreReached ↔
      (account.deleted = false → account.isToken = false ∧ world.IsPlain address) := by
  have sameAccounts :
      (world.setAccount address account).journal.accounts =
        world.journal.accounts.insert address account := by
    rw [setAccount, journal_record isOpen]
  simp only [OwnAccountsAreReached, isPlain_setAccount, sameAccounts]
  constructor
  · exact fun after alive => after address account (Table.get?_insert_self _ _ _) alive
  · intro allowed other known inJournal alive
    by_cases same : other = address
    · subst same
      rw [Table.get?_insert_self] at inJournal
      cases inJournal
      exact allowed alive
    · rw [Table.get?_insert_of_ne _ same] at inJournal
      exact reached other known inJournal alive

theorem ownAccountsAreReached_createAccount
    (isOpen : world.IsOpen)
    (reached : world.OwnAccountsAreReached)
    (account : Account) :
    (world.createAccount account).OwnAccountsAreReached ↔
      (account.deleted = false → account.isToken = false ∧ world.IsPlain account.address) := by
  have stillOpen : (world.markCreated account.address).IsOpen := isOpen_record isOpen _
  have marked : (world.markCreated account.address).OwnAccountsAreReached := by
    refine (ownAccountsAreReached_record isOpen ?_ ?_).mpr reached
    · exact fun _ => rfl
    · exact fun _ => rfl
  rw [createAccount_eq, ownAccountsAreReached_setAccount stillOpen marked, isPlain_markCreated]

/-- Where calls are redirected, a token may be put where the frame has no account of its own. -/
theorem ownAccountsAreReached_putToken
    (isOpen : world.IsOpen)
    (reached : world.OwnAccountsAreReached)
    (token : Token) :
    (world.putToken token).OwnAccountsAreReached ↔
      (world.redirectsTokenCalls = true →
        ∀ account,
          world.journal.accounts.get? token.address = some account → account.deleted = true) := by
  have sameAccounts : (world.putToken token).journal.accounts = world.journal.accounts := by
    rw [putToken, journal_record isOpen]
  simp only [OwnAccountsAreReached, sameAccounts]
  constructor
  · intro after redirects account inJournal
    by_contra alive
    obtain ⟨_, isPlain⟩ :=
      after token.address account inJournal (Bool.eq_false_iff.mpr alive)
    have hidden := isPlain ((redirectsTokenCalls_putToken token).trans redirects)
    rw [token_putToken_self isOpen] at hidden
    cases hidden
  · intro apart address account inJournal alive
    obtain ⟨noToken, isPlain⟩ := reached address account inJournal alive
    refine ⟨noToken, fun redirects => ?_⟩
    rw [redirectsTokenCalls_putToken] at redirects
    have different : address ≠ token.address := by
      rintro rfl
      rw [apart redirects account inJournal] at alive
      cases alive
    rw [token_putToken_of_ne different]
    exact isPlain redirects

/-- A change of an account that is given out may delete it, but not have it stand for a token. -/
theorem ownAccountsAreReached_update
    (isOpen : world.IsOpen)
    (reached : world.OwnAccountsAreReached)
    (address : Address)
    (change : Account → Account) :
    (world.orUnchanged
        ((world.updateAccount address change).map Prod.snd)).OwnAccountsAreReached ↔
      ∀ account, world.claim? address = .ok (some account) →
        (change account).deleted = false → (change account).isToken = false := by
  by_cases given : ∃ account, world.claim? address = .ok (some account)
  · obtain ⟨account, claimed⟩ := given
    have isPlain : world.IsPlain address := by
      obtain ⟨found, noToken⟩ :=
        (givesOutWhatIsReached_iff.mpr reached address account).mp
          (exists_claimAccount_iff.mpr claimed)
      exact (of_get_of_not_isToken found noToken).1
    rw [orUnchanged_of_claim? claimed, ownAccountsAreReached_setAccount isOpen reached]
    constructor
    · intro allowed other claimed' alive
      rw [claimed] at claimed'
      cases claimed'
      exact (allowed alive).1
    · exact fun allowed alive => ⟨allowed account claimed alive, isPlain⟩
  · rw [orUnchanged_of_not_claim? fun account claimed => given ⟨account, claimed⟩]
    exact ⟨fun _ account claimed => (given ⟨account, claimed⟩).elim, fun _ => reached⟩

/-! ## Frames -/

/-- The world as the frames around so many of the innermost ones have left it. -/
def around (world : World) (count : Nat) : World :=
  { world with layers := world.layers.drop count }

/-- In every frame that is open its own accounts are reached. -/
structure ReachesAllAround (world : World) : Prop where
  isOpen : world.IsOpen
  around : ∀ count, (world.around count).OwnAccountsAreReached

theorem ReachesAllAround.innermost
    (everywhere : world.ReachesAllAround) :
    world.OwnAccountsAreReached :=
  everywhere.around 0

/-- A frame without entries has none that calls do not reach. -/
theorem ownAccountsAreReached_of_no_entries
    (nothing : ∀ address, world.journal.accounts.get? address = none) :
    world.OwnAccountsAreReached := by
  intro address account inJournal
  rw [nothing] at inJournal
  cases inJournal

theorem around_succ_record
    (change : Journal → Journal)
    (count : Nat) :
    (world.record change).around (count + 1) = world.around (count + 1) := by
  cases shape : world.layers <;> simp [around, record, shape]

/-- What is recorded in the innermost frame is of no concern to the others. -/
theorem ReachesAllAround.record
    (everywhere : world.ReachesAllAround)
    {change : Journal → Journal}
    (inside : (world.record change).OwnAccountsAreReached) :
    (world.record change).ReachesAllAround where
  isOpen := isOpen_record everywhere.isOpen change
  around count := by
    cases count with
    | zero => exact inside
    | succ count =>
        rw [around_succ_record]
        exact everywhere.around (count + 1)

/-- A change of an account is either one write or none. -/
theorem ReachesAllAround.update
    (everywhere : world.ReachesAllAround)
    {address : Address}
    {change : Account → Account}
    (keeps :
      ∀ account, world.claim? address = .ok (some account) →
        (change account).deleted = false → (change account).isToken = false) :
    (world.orUnchanged
      ((world.updateAccount address change).map Prod.snd)).ReachesAllAround := by
  have inside :=
    (ownAccountsAreReached_update everywhere.isOpen everywhere.innermost address change).mpr keeps
  by_cases given : ∃ account, world.claim? address = .ok (some account)
  · obtain ⟨account, claimed⟩ := given
    rw [orUnchanged_of_claim? claimed] at inside ⊢
    exact everywhere.record inside
  · rw [orUnchanged_of_not_claim? fun account claimed => given ⟨account, claimed⟩]
    exact everywhere

/-- A frame that is opened has no entries yet. -/
theorem ReachesAllAround.push
    (everywhere : ∀ count, (world.around count).OwnAccountsAreReached) :
    world.push.ReachesAllAround where
  isOpen := isOpen_push world
  around count := by
    cases count with
    | zero => exact ownAccountsAreReached_of_no_entries fun address => Table.get?_empty address
    | succ count => exact everywhere count

/-- After the outermost frame has ended a new one is opened. -/
theorem ReachesAllAround.reopened
    (everywhere : ∀ count, (world.around count).OwnAccountsAreReached) :
    world.reopened.ReachesAllAround := by
  unfold World.reopened
  split
  · exact .push everywhere
  · rename_i notEmpty
    exact ⟨fun shape => notEmpty (List.isEmpty_iff.mpr shape), everywhere⟩

/-- A frame that is dropped leaves the ones around it as they were. -/
theorem ReachesAllAround.revert
    (everywhere : world.ReachesAllAround) :
    world.revert.reopened.ReachesAllAround := by
  refine .reopened fun count => ?_
  have same : world.revert.around count = world.around (count + 1) := by
    simp only [World.around, World.revert, List.drop_tail]
  rw [same]
  exact everywhere.around (count + 1)

/--
A frame whose writes are kept may put a token where the frame around it has an account only if
it has put an account of its own there.
-/
def MayCommit (world : World) : Prop :=
  ∀ address account,
    (world.around 1).journal.accounts.get? address = some account →
    account.deleted = false →
    world.journal.accounts.get? address = none →
    world.IsPlain address

/-- The entries of a frame and the one inside it, after the inner one's have been kept. -/
theorem get?_commit
    {child parent : Journal}
    {outer : List Journal}
    (layers : world.layers = child :: parent :: outer)
    (address : Address) :
    world.commit.journal.accounts.get? address =
      (world.journal.accounts.get? address).or
        ((world.around 1).journal.accounts.get? address) := by
  simp [commit, journal, around, layers, Journal.absorb, Table.get?_overlay]

theorem isPlain_commit
    {child parent : Journal}
    {outer : List Journal}
    (layers : world.layers = child :: parent :: outer)
    (address : Address) :
    world.commit.IsPlain address ↔ world.IsPlain address := by
  have redirects : world.commit.redirectsTokenCalls = world.redirectsTokenCalls := by
    simp only [commit, layers]
  have snapshot : world.commit.snapshot = world.snapshot := by
    simp only [commit, layers]
  refine isPlain_congr redirects ?_
  rw [token_eq, token_eq, overlay_commit layers, snapshot]

theorem ownAccountsAreReached_commit
    {child parent : Journal}
    {outer : List Journal}
    (layers : world.layers = child :: parent :: outer)
    (everywhere : world.ReachesAllAround) :
    world.commit.OwnAccountsAreReached ↔ world.MayCommit := by
  simp only [OwnAccountsAreReached, get?_commit layers, isPlain_commit layers]
  constructor
  · intro after address account inParent alive notInChild
    have kept := after address account
    rw [notInChild, inParent] at kept
    exact (kept rfl alive).2
  · intro allowed address account inEither alive
    cases inChild : world.journal.accounts.get? address with
    | some known =>
        rw [inChild] at inEither
        cases inEither
        exact everywhere.innermost address account inChild alive
    | none =>
        rw [inChild] at inEither
        obtain ⟨noToken, _⟩ := everywhere.around 1 address account inEither alive
        exact ⟨noToken, allowed address account inEither alive inChild⟩

theorem ReachesAllAround.commit
    (everywhere : world.ReachesAllAround)
    (allowed : world.MayCommit) :
    world.commit.reopened.ReachesAllAround := by
  refine .reopened fun count => ?_
  match layers : world.layers with
  | [] => exact (everywhere.isOpen layers).elim
  | [_] =>
      -- the outermost frame has nothing around it
      refine ownAccountsAreReached_of_no_entries fun address => ?_
      simp [World.around, World.commit, layers, journal, Journal.empty]
  | child :: parent :: outer =>
      cases count with
      | zero => exact (ownAccountsAreReached_commit layers everywhere).mpr allowed
      | succ count =>
          have same : world.commit.around (count + 1) = world.around (count + 2) := by
            simp [World.around, World.commit, layers]
          rw [same]
          exact everywhere.around (count + 2)

/-! ## Operations one after the other -/

/-- Carry out an operation of a frame. -/
def enact (world : World) : FrameOperation → World
  | .change operation => world.perform operation
  | .search sponsor => (world.newContractAddress sponsor).2

/-- Carry out operations one after the other. -/
def enactAll (world : World) (operations : List FrameOperation) : World :=
  operations.foldl enact world

/-- Whether an operation leaves the entries of accounts where calls reach them. -/
def KeepsReached (world : World) : FrameOperation → Prop
  | .change (.mutate address change) =>
      ∀ account, world.claim? address = .ok (some account) →
        (change account).deleted = false → (change account).isToken = false
  | .change (.create account) | .change (.put account) =>
      account.deleted = false → account.isToken = false ∧ world.IsPlain account.address
  | .change (.putToken token) =>
      world.redirectsTokenCalls = true →
        ∀ account,
          world.journal.accounts.get? token.address = some account → account.deleted = true
  | .change .commit => world.MayCommit
  | _ => True

/-- Whether each operation does so in the world it meets. -/
def KeepsReachedAll (world : World) : List FrameOperation → Prop
  | [] => True
  | operation :: rest =>
      world.KeepsReached operation ∧ (world.enact operation).KeepsReachedAll rest

/-- Drawing addresses writes nothing. -/
theorem around_newContractAddress
    (sponsor : Address)
    (count : Nat) :
    ((world.newContractAddress sponsor).2.around count).OwnAccountsAreReached ↔
      (world.around count).OwnAccountsAreReached := by
  rw [newContractAddress, drawFreeAddress_eq]
  rfl

/-- Where the accounts of the innermost frame are reached after an operation, it leaves them so. -/
theorem keepsReached_of_enact
    (everywhere : world.ReachesAllAround)
    {operation : FrameOperation}
    (after : (world.enact operation).OwnAccountsAreReached) :
    world.KeepsReached operation := by
  have isOpen : world.IsOpen := everywhere.isOpen
  have reached : world.OwnAccountsAreReached := everywhere.innermost
  cases operation with
  | search sponsor => trivial
  | change operation =>
      cases operation with
      | mutate address change =>
          exact (ownAccountsAreReached_update isOpen reached address change).mp after
      | create account =>
          exact (ownAccountsAreReached_createAccount isOpen reached account).mp after
      | put account =>
          exact (ownAccountsAreReached_setAccount isOpen reached account.address account).mp after
      | putToken token => exact (ownAccountsAreReached_putToken isOpen reached token).mp after
      | commit =>
          match layers : world.layers with
          | [] => exact (isOpen layers).elim
          | [_] =>
              intro address account inParent
              simp [around, layers, journal, Journal.empty] at inParent
          | child :: parent :: outer =>
              refine (ownAccountsAreReached_commit layers everywhere).mp ?_
              simpa [enact, perform, World.reopened, World.commit, layers] using after
      | _ => trivial

/-- An operation that leaves the innermost frame's entries where calls reach them does so in
every frame. -/
theorem ReachesAllAround.enact
    (everywhere : world.ReachesAllAround)
    {operation : FrameOperation}
    (keeps : world.KeepsReached operation) :
    (world.enact operation).ReachesAllAround := by
  have isOpen : world.IsOpen := everywhere.isOpen
  have reached : world.OwnAccountsAreReached := everywhere.innermost
  cases operation with
  | search sponsor =>
      refine ⟨?_, fun count => (around_newContractAddress sponsor count).mpr
        (everywhere.around count)⟩
      rw [World.enact, newContractAddress, drawFreeAddress_eq]
      exact isOpen
  | change operation =>
      cases operation with
      | mutate address change => exact everywhere.update keeps
      | delete address =>
          rw [World.enact, World.perform, orUnchanged_deleteAccount]
          exact everywhere.update fun _ _ alive => by cases alive
      | create account =>
          exact everywhere.record
            ((ownAccountsAreReached_createAccount isOpen reached account).mpr keeps)
      | put account =>
          exact everywhere.record
            ((ownAccountsAreReached_setAccount isOpen reached account.address account).mpr keeps)
      | putToken token =>
          exact everywhere.record
            ((ownAccountsAreReached_putToken isOpen reached token).mpr keeps)
      | push => exact .push everywhere.around
      | commit => exact everywhere.commit keeps
      | revert => exact everywhere.revert
      | _ =>
          refine everywhere.record ((ownAccountsAreReached_record isOpen ?_ ?_).mpr reached)
          · exact fun _ => rfl
          · exact fun _ => rfl

/-- All along a list of operations, exactly if each of them leaves the entries as they should be. -/
theorem ReachesAllAround.along_iff
    (everywhere : world.ReachesAllAround)
    (operations : List FrameOperation) :
    (∀ count, (world.enactAll (operations.take count)).OwnAccountsAreReached) ↔
      world.KeepsReachedAll operations := by
  induction operations generalizing world with
  | nil => simp [enactAll, KeepsReachedAll, everywhere.innermost]
  | cons operation rest inductionHypothesis =>
      constructor
      · intro along
        have keeps : world.KeepsReached operation :=
          keepsReached_of_enact everywhere (along 1)
        refine ⟨keeps, ?_⟩
        rw [← inductionHypothesis (everywhere.enact keeps)]
        exact fun count => along (count + 1)
      · rintro ⟨keeps, keepsRest⟩ count
        rw [← inductionHypothesis (everywhere.enact keeps)] at keepsRest
        cases count with
        | zero => exact everywhere.innermost
        | succ count => exact keepsRest count

/--
All along what is done to a ledger, in whichever frames, each address gives out for writing what
calls to it reach, unless that stands for a token, exactly if no frame has an entry that calls do
not reach: if no account is put, or changed into one, that stands for a token, none is put where
a token is, and no token is put where the frame, or one that keeps its writes, has an account.
-/
theorem given_accounts_are_reached_iff
    (snapshot : Snapshot)
    (redirectsTokenCalls : Bool)
    (timestamp : Timestamp)
    (firstNum : UInt64)
    (operations : List FrameOperation) :
    let world := (World.ofSnapshot snapshot redirectsTokenCalls timestamp firstNum).push
    (∀ count address,
      (world.enactAll (operations.take count)).GivesOutWhatIsReached address) ↔
      world.KeepsReachedAll operations := by
  intro world
  have begins : world.ReachesAllAround := by
    refine .push fun count => ownAccountsAreReached_of_no_entries fun address => ?_
    simp [around, ofSnapshot, journal, Journal.empty]
  rw [← begins.along_iff]
  exact forall_congr' fun count => givesOutWhatIsReached_iff

/-- An account over which a token is put is given out still, though calls reach the token. -/
theorem account_under_token_is_given_out :
    let account : Account := { address := Address.ofNum 1001, balance := 5 }
    let token : Token := { address := Address.ofNum 1001, treasury := Address.ofNum 1002 }
    let world :=
      ((World.ofSnapshot (Snapshot.ofContents { }) true ⟨0⟩ 5000).push.enactAll
        [.change (.create account), .change (.putToken token)])
    (∃ claimed, world.claimAccount account.address = .ok (some account, claimed)) ∧
      world.get account.address = .ok (some (Account.ofToken account.address)) ∧
      ¬ world.GivesOutWhatIsReached account.address := by
  intro account token world
  have given : world.claim? account.address = .ok (some account) := by decide +kernel
  have reached : world.get account.address = .ok (some (Account.ofToken account.address)) := by
    decide +kernel
  refine ⟨exists_claimAccount_iff.mpr given, reached, fun same => ?_⟩
  obtain ⟨reached', _⟩ := (same account).mp (exists_claimAccount_iff.mpr given)
  rw [reached] at reached'
  cases congrArg Account.isToken (Option.some.inj (Except.ok.inj reached'))

end World

end LedgerEvm
