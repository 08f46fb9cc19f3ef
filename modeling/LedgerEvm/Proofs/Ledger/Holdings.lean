import Mathlib.Algebra.BigOperators.Group.Finset.Basic
import Mathlib.Algebra.GroupWithZero.Nat
import Mathlib.Algebra.Order.BigOperators.Group.Finset
import Mathlib.Data.Fintype.OfMap
import LedgerEvm.Proofs.Ledger.Evolution

namespace LedgerEvm

/-!
# The currency in the world

The total is taken over all addresses, as the balances are read through the journals.
A single write changes it by what is put less what was there; a move that debits one
account and credits another leaves it, as long as the total fits in a word.
-/

/-- There are finitely many addresses. -/
noncomputable instance Address.instFintype : Fintype Address :=
  Fintype.ofInjective (fun address => address.bits.toFin) fun _ _ same =>
    congrArg Address.mk (BitVec.toFin_inj.mp same)

/-- What one of finitely many contributes is exchanged in their sum. -/
theorem sum_add_of_ne
    {ι : Type}
    [Fintype ι]
    {before after : ι → Nat}
    (one : ι)
    (others : ∀ other, other ≠ one → after other = before other) :
    ∑ other, after other + before one = ∑ other, before other + after one := by
  classical
  rw [← Finset.add_sum_erase _ after (Finset.mem_univ one),
    ← Finset.add_sum_erase _ before (Finset.mem_univ one)]
  have same :
      ∑ other ∈ Finset.univ.erase one, after other =
        ∑ other ∈ Finset.univ.erase one, before other :=
    Finset.sum_congr rfl fun other member => others other (Finset.ne_of_mem_erase member)
  rw [same]
  omega

namespace World

/-- The currency that is read at an address; none where the reading fails. -/
def held (world : World) (address : Address) : Nat :=
  match world.balance address with
  | .ok balance => balance.toNat
  | .error _ => 0

/-- The currency at all addresses. -/
noncomputable def total (world : World) : Nat :=
  ∑ address, world.held address

theorem held_le_total
    (world : World)
    (address : Address) :
    world.held address ≤ world.total :=
  Finset.single_le_sum (fun _ _ => Nat.zero_le _) (Finset.mem_univ address)

/-! ## What holdings depend on -/

/-- What is reached depends on the snapshot, on redirection and on what the journals say. -/
theorem get_congr
    {world other : World}
    (snapshot : other.snapshot = world.snapshot)
    (redirects : other.redirectsTokenCalls = world.redirectsTokenCalls)
    (accounts : other.overlay.accounts = world.overlay.accounts)
    (tokens : other.overlay.tokens = world.overlay.tokens)
    (address : Address) :
    other.get address = world.get address := by
  simp only [get, token_eq, accountEntry_eq, snapshot, redirects, accounts, tokens]

theorem held_eq_of_get
    {world other : World}
    {address : Address}
    (same : other.get address = world.get address) :
    other.held address = world.held address := by
  simp only [held, balance, same]

theorem held_of_get
    {world : World}
    {address : Address}
    {reached : Option Account}
    (found : world.get address = .ok reached) :
    world.held address = ((reached.map Account.balance).getD 0).toNat := by
  simp only [held, balance, found]
  rfl

/-- No more is held at an address than its entry says. -/
theorem held_le_of_accountEntry
    {world : World}
    {address : Address}
    {entry : Option Account}
    (found : world.accountEntry address = .ok entry) :
    world.held address ≤ (entry.map fun account => account.balance.toNat).getD 0 := by
  by_cases isPlain : world.IsPlain address
  · have reached := get_of_isPlain isPlain
    rw [found] at reached
    rw [held_of_get reached]
    cases entry with
    | none => exact Nat.le_refl _
    | some account => cases gone : account.deleted <;> simp [Option.filter, gone]
  · rcases get_of_not_isPlain isPlain with standsForToken | ⟨error, failed⟩
    · rw [held_of_get standsForToken]
      exact Nat.zero_le _
    · simp [held, balance, failed, bind, Except.bind]

/-- Worlds in which the same is held everywhere have the same total. -/
theorem total_eq_of_held
    {world other : World}
    (same : ∀ address, other.held address = world.held address) :
    other.total = world.total :=
  Finset.sum_congr rfl fun address _ => same address

theorem total_eq_of_get
    {world other : World}
    (same : ∀ address, other.get address = world.get address) :
    other.total = world.total :=
  total_eq_of_held fun address => held_eq_of_get (same address)

@[simp] theorem total_push
    (world : World) :
    world.push.total = world.total :=
  total_eq_of_get fun address =>
    get_congr rfl rfl (by rw [overlay_push]) (by rw [overlay_push]) address

end World

/-! ## Sound worlds -/

/--
What is relied on about a snapshot: a token is found under its own address, as in every
store that enters things under their addresses (`isConsistent_ofContents`), and the
accounts that stand for tokens hold no currency.
-/
structure Snapshot.IsConsistent (snapshot : Snapshot) : Prop where
  tokens :
    ∀ {address : Address} {token : Token},
      snapshot.token address = .ok (some token) → token.address = address
  accounts :
    ∀ {address : Address} {account : Account},
      snapshot.account address = .ok (some account) →
      account.isToken = true →
      account.balance = 0

namespace Table

variable {κ ν : Type} [Numbered κ]

/-- What is found after things have been put under keys of their own. -/
theorem of_get?_foldl_insert
    [DecidableEq κ]
    (key : ν → κ)
    {query : κ}
    {value : ν}
    (values : List ν)
    (table : Table κ ν)
    (found :
      ((values.map fun value => (key value, value)).foldl
        (fun table entry => table.insert entry.1 entry.2) table).get? query = some value) :
    value ∈ values ∧ key value = query ∨ table.get? query = some value := by
  induction values generalizing table with
  | nil =>
      exact .inr found
  | cons first rest inductionHypothesis =>
      rcases inductionHypothesis _ found with ⟨member, own⟩ | earlier
      · exact .inl ⟨List.mem_cons_of_mem _ member, own⟩
      · rw [get?_insert] at earlier
        by_cases same : query = key first
        · rw [if_pos same] at earlier
          cases earlier
          exact .inl ⟨List.mem_cons_self, same.symm⟩
        · rw [if_neg same] at earlier
          exact .inr earlier

/-- In a table of things under keys of their own each is found under its key. -/
theorem key_eq_of_get?_ofList
    [DecidableEq κ]
    (key : ν → κ)
    {query : κ}
    {value : ν}
    (values : List ν)
    (found :
      (ofList (values.map fun value => (key value, value))).get? query = some value) :
    value ∈ values ∧ key value = query := by
  rcases of_get?_foldl_insert key values empty found with known | nothing
  · exact known
  · rw [get?_empty] at nothing
    cases nothing

end Table

namespace Snapshot

/--
A snapshot of accounts and tokens that are kept under their own addresses is consistent.
-/
theorem isConsistent_ofContents
    (contents : Contents)
    (accounts : List Account)
    (tokens : List Token)
    (keepsAccounts :
      contents.accounts =
        Table.ofList (accounts.map fun account => (account.address, account)))
    (keepsTokens :
      contents.tokens = Table.ofList (tokens.map fun token => (token.address, token)))
    (noCurrency :
      ∀ account ∈ accounts, account.isToken = true → account.balance = 0) :
    (ofContents contents).IsConsistent := by
  constructor
  · intro address token found
    have found := Except.ok.inj found
    rw [keepsTokens] at found
    exact (Table.key_eq_of_get?_ofList Token.address tokens found).2
  · intro address account found
    have found := Except.ok.inj found
    rw [keepsAccounts] at found
    exact noCurrency account
      (Table.key_eq_of_get?_ofList Account.address accounts found).1

/-- What a table of accounts says is held at an address. -/
def listed (accounts : Table Address Account) (address : Address) : Nat :=
  ((accounts.get? address).map fun account => account.balance.toNat).getD 0

/-- Entering accounts one after the other adds at most what they hold. -/
theorem sum_listed_foldl_le
    (accounts : List Account)
    (table : Table Address Account) :
    ∑ address, listed
        ((accounts.map fun account => (account.address, account)).foldl
          (fun table entry => table.insert entry.1 entry.2) table) address ≤
      ∑ address, listed table address +
        (accounts.map fun account => account.balance.toNat).sum := by
  induction accounts generalizing table with
  | nil =>
      simp
  | cons account rest inductionHypothesis =>
      have later := inductionHypothesis (table.insert account.address account)
      have entered :
          ∑ other, listed (table.insert account.address account) other +
              listed table account.address =
            ∑ other, listed table other +
              listed (table.insert account.address account) account.address :=
        sum_add_of_ne account.address fun other different => by
          rw [listed, Table.get?_insert_of_ne _ different, listed]
      have own :
          listed (table.insert account.address account) account.address =
            account.balance.toNat := by
        rw [listed, Table.get?_insert_self]
        rfl
      simp only [List.map_cons, List.sum_cons, List.foldl_cons]
      omega

/-- The total over a snapshot of accounts is at most what the accounts hold together. -/
theorem total_ofContents_le
    (contents : Contents)
    (accounts : List Account)
    (keepsAccounts :
      contents.accounts =
        Table.ofList (accounts.map fun account => (account.address, account)))
    (redirectsTokenCalls : Bool)
    (timestamp : Timestamp)
    (firstNum : UInt64) :
    (World.ofSnapshot (ofContents contents) redirectsTokenCalls timestamp firstNum).total ≤
      (accounts.map fun account => account.balance.toNat).sum := by
  have each (address : Address) :
      (World.ofSnapshot (ofContents contents) redirectsTokenCalls timestamp firstNum).held
          address ≤
        listed contents.accounts address :=
    World.held_le_of_accountEntry rfl
  have nothing : ∑ address, listed .empty address = 0 :=
    Finset.sum_eq_zero fun _ _ => by rw [listed, Table.get?_empty]; rfl
  calc
    (World.ofSnapshot (ofContents contents) redirectsTokenCalls timestamp firstNum).total
      ≤ ∑ address, listed contents.accounts address :=
        Finset.sum_le_sum fun _ _ => each _
    _ ≤ ∑ address, listed .empty address +
          (accounts.map fun account => account.balance.toNat).sum := by
        rw [keepsAccounts]
        exact sum_listed_foldl_le accounts .empty
    _ = (accounts.map fun account => account.balance.toNat).sum := by
        rw [nothing, Nat.zero_add]

end Snapshot

namespace World

/--
A world over a consistent snapshot in whose journals tokens are under their own
addresses, and accounts neither stand for tokens nor are hidden by one.
-/
structure IsSound (world : World) : Prop where
  isOpen : world.IsOpen
  snapshot : world.snapshot.IsConsistent
  tokens :
    ∀ {address : Address} {token : Token},
      world.overlay.tokens.get? address = some token → token.address = address
  accounts :
    ∀ {address : Address} {account : Account},
      world.overlay.accounts.get? address = some account →
      account.isToken = false ∧ world.IsPlain address

namespace IsSound

variable
  {world after : World}
  (sound : world.IsSound)
include sound

/-- A token that is found is found under its own address. -/
theorem address_of_token
    {address : Address}
    {token : Token}
    (found : world.token address = .ok (some token)) :
    token.address = address := by
  rw [token_eq] at found
  cases known : world.overlay.tokens.get? address with
  | some written =>
      rw [known] at found
      cases found
      exact sound.tokens known
  | none =>
      rw [known] at found
      exact sound.snapshot.tokens found

/-- What is reached and stands for a token holds no currency. -/
theorem balance_of_isToken
    {address : Address}
    {account : Account}
    (reached : world.get address = .ok (some account))
    (isToken : account.isToken = true) :
    account.balance = 0 := by
  by_cases isPlain : world.IsPlain address
  · rw [get_of_isPlain isPlain, accountEntry_eq] at reached
    cases known : world.overlay.accounts.get? address with
    | some written =>
        rw [known] at reached
        have kept := Option.filter_eq_some_iff.mp (Except.ok.inj reached)
        cases kept.1
        rw [(sound.accounts known).1] at isToken
        cases isToken
    | none =>
        rw [known] at reached
        cases entry : world.snapshot.account address with
        | error error =>
            rw [entry] at reached
            cases reached
        | ok found =>
            rw [entry] at reached
            have kept := Option.filter_eq_some_iff.mp (Except.ok.inj reached)
            exact sound.snapshot.accounts (by rw [entry, kept.1]) isToken
  · rcases get_of_not_isPlain isPlain with standsForToken | ⟨error, failed⟩
    · rw [standsForToken] at reached
      cases reached
      rfl
    · rw [failed] at reached
      cases reached

/-- An account that is given out is reached under its address and stands for no token. -/
theorem of_claim?
    {address : Address}
    {account : Account}
    (claimed : world.claim? address = .ok (some account)) :
    world.IsPlain address ∧ account.isToken = false ∧
      world.get address = .ok (some account) := by
  obtain ⟨entry, alive⟩ := accountEntry_of_claim? claimed
  have plain : world.IsPlain address ∧ account.isToken = false := by
    unfold claim? at claimed
    cases inJournal : world.journal.accounts.get? address with
    | some written =>
        have known := overlay_accounts_of_journal inJournal
        have same : account = written := by
          rw [accountEntry_of_journal inJournal] at entry
          cases entry
          rfl
        subst same
        exact ⟨(sound.accounts known).2, (sound.accounts known).1⟩
    | none =>
        simp only [inJournal] at claimed
        cases reached : world.get address with
        | error error =>
            rw [reached] at claimed
            cases claimed
        | ok found =>
            rw [reached] at claimed
            obtain ⟨rfl, noToken⟩ :=
              Option.filter_eq_some_iff.mp (Except.ok.inj claimed)
            have noToken : account.isToken = false := by simpa using noToken
            exact ⟨(of_get_of_not_isToken reached noToken).1, noToken⟩
  refine ⟨plain.1, plain.2, ?_⟩
  rw [get_of_isPlain plain.1, entry]
  simp [Except.map, Option.filter, alive]

/-- Where no account is given out no currency is held. -/
theorem held_of_claim?_none
    {address : Address}
    (refused : world.claim? address = .ok none) :
    world.held address = 0 := by
  unfold claim? at refused
  cases inJournal : world.journal.accounts.get? address with
  | some written =>
      have known := overlay_accounts_of_journal inJournal
      simp only [inJournal, Except.ok.injEq] at refused
      have gone : written.deleted = true := by
        cases gone : written.deleted with
        | true => rfl
        | false =>
            rw [gone] at refused
            cases refused
      have nothing : world.get address = .ok none := by
        rw [get_of_isPlain (sound.accounts known).2, accountEntry_of_journal inJournal]
        simp [Except.map, Option.filter, gone]
      exact held_of_get nothing
  | none =>
      simp only [inJournal] at refused
      cases reached : world.get address with
      | error error =>
          rw [reached] at refused
          cases refused
      | ok found =>
          rw [reached] at refused
          rw [held_of_get reached]
          cases found with
          | none => rfl
          | some account =>
              have isToken : account.isToken = true := by
                simpa [Except.map, Option.filter] using refused
              simp [sound.balance_of_isToken reached isToken]

/-- A token that calls are redirected to hides no account, and holds no currency. -/
theorem hidden_of_token
    (redirects : world.redirectsTokenCalls = true)
    {address : Address}
    {token : Token}
    (found : world.token address = .ok (some token)) :
    world.overlay.accounts.get? address = none ∧ world.held address = 0 := by
  have hides : ¬ world.IsPlain address := by
    intro isPlain
    rw [isPlain redirects] at found
    cases found
  constructor
  · rw [Option.eq_none_iff_forall_ne_some]
    exact fun account known => hides (sound.accounts known).2
  · have reached : world.get address = .ok (some (Account.ofToken address)) := by
      simp only [get, redirects, if_true, found]
      rfl
    rw [held_of_get reached]
    rfl

end IsSound

/-- At a free address there is no account, and no currency is held. -/
theorem vacant_of_isFree
    {world : World}
    {address : Address}
    (free : world.isFree address = .ok true) :
    world.overlay.accounts.get? address = none ∧ world.held address = 0 := by
  obtain ⟨entry, token⟩ := isFree_iff.mp free
  constructor
  · rw [accountEntry_eq] at entry
    cases known : world.overlay.accounts.get? address with
    | none => rfl
    | some account =>
        rw [known] at entry
        cases entry
  · have nothing : world.get address = .ok none := by
      rw [get_of_isPlain fun _ => token, entry]
      rfl
    exact held_of_get nothing

/-! ## Single writes -/

theorem IsOpen.record
    {world : World}
    (isOpen : world.IsOpen)
    (change : Journal → Journal) :
    (world.record change).IsOpen := by
  cases shape : world.layers with
  | nil =>
      exact (isOpen shape).elim
  | cons inner outer =>
      simp [IsOpen, World.record, shape]

/--
Soundness depends on the snapshot, on redirection and on the entries of accounts and
tokens.
-/
theorem IsSound.congr
    {world other : World}
    (sound : world.IsSound)
    (isOpen : other.IsOpen)
    (snapshot : other.snapshot = world.snapshot)
    (redirects : other.redirectsTokenCalls = world.redirectsTokenCalls)
    (accounts : ∀ address,
      other.overlay.accounts.get? address = world.overlay.accounts.get? address)
    (tokens : ∀ address,
      other.overlay.tokens.get? address = world.overlay.tokens.get? address) :
    other.IsSound := by
  refine ⟨isOpen, snapshot ▸ sound.snapshot, fun found => ?_, fun found => ?_⟩
  · rw [tokens] at found
    exact sound.tokens found
  · rw [accounts] at found
    refine ⟨(sound.accounts found).1, fun redirected => ?_⟩
    rw [token_eq, tokens, snapshot, ← token_eq]
    exact (sound.accounts found).2 (redirects ▸ redirected)

/-- A write that concerns neither accounts nor tokens. -/
theorem IsSound.record
    {world : World}
    (sound : world.IsSound)
    {change : Journal → Journal}
    (sameAccounts : ∀ journal, (change journal).accounts = journal.accounts)
    (sameTokens : ∀ journal, (change journal).tokens = journal.tokens) :
    (world.record change).IsSound := by
  refine sound.congr (sound.isOpen.record change) (snapshot_record _ _)
    (redirectsTokenCalls_record _ _) (fun address => ?_) fun address => ?_
  · rw [← latest?_eq _ (Journal.isLayered_accounts address),
      ← latest?_eq _ (Journal.isLayered_accounts address)]
    exact latest?_record world fun journal => by rw [sameAccounts]
  · rw [← latest?_eq _ (Journal.isLayered_tokens address),
      ← latest?_eq _ (Journal.isLayered_tokens address)]
    exact latest?_record world fun journal => by rw [sameTokens]

theorem total_record
    (world : World)
    {change : Journal → Journal}
    (sameAccounts : ∀ journal, (change journal).accounts = journal.accounts)
    (sameTokens : ∀ journal, (change journal).tokens = journal.tokens) :
    (world.record change).total = world.total :=
  total_eq_of_get fun address => get_record world address sameAccounts sameTokens

/-- Mark an account as created and accessed. -/
def markCreated (world : World) (address : Address) : World :=
  world.record fun journal =>
    { journal with
      created := journal.created.insert address ()
      warmAccounts := journal.warmAccounts.insert address () }

section

variable
  {world : World}
  (sound : world.IsSound)
include sound

/-- An account is put where no token hides it. -/
theorem IsSound.setAccount
    {address : Address}
    {account : Account}
    (isPlain : world.IsPlain address)
    (noToken : account.isToken = false) :
    (world.setAccount address account).IsSound := by
  have overlay := overlay_setAccount sound.isOpen address account
  refine ⟨sound.isOpen.record _, (snapshot_record world _).symm ▸ sound.snapshot,
    fun found => ?_, @fun other written found => ?_⟩
  · rw [overlay] at found
    exact sound.tokens found
  · rw [overlay, Table.get?_insert] at found
    rw [isPlain_setAccount]
    by_cases same : other = address
    · rw [if_pos same] at found
      cases found
      exact ⟨noToken, same ▸ isPlain⟩
    · rw [if_neg same] at found
      exact sound.accounts found

/-- A token is put where, if calls are redirected to it, it hides no account. -/
theorem IsSound.putToken
    {token : Token}
    (vacant : world.redirectsTokenCalls = true →
      world.overlay.accounts.get? token.address = none) :
    (world.putToken token).IsSound := by
  have overlay := overlay_putToken sound.isOpen token
  refine ⟨sound.isOpen.record _, (snapshot_record world _).symm ▸ sound.snapshot,
    @fun address found known => ?_, @fun address account known => ?_⟩
  · rw [overlay, Table.get?_insert] at known
    by_cases same : address = token.address
    · rw [if_pos same] at known
      cases known
      exact same.symm
    · rw [if_neg same] at known
      exact sound.tokens known
  · rw [overlay] at known
    obtain ⟨noToken, isPlain⟩ := sound.accounts known
    refine ⟨noToken, fun redirects => ?_⟩
    rw [redirectsTokenCalls_putToken] at redirects
    have different : address ≠ token.address := by
      rintro rfl
      rw [vacant redirects] at known
      cases known
    rw [token_putToken_of_ne different]
    exact isPlain redirects

theorem held_setAccount_self
    {address : Address}
    (isPlain : world.IsPlain address)
    (account : Account) :
    (world.setAccount address account).held address =
      if account.deleted then 0 else account.balance.toNat := by
  rw [held_of_get (get_setAccount_self sound.isOpen isPlain account)]
  cases account.deleted <;> rfl

omit sound in
theorem held_setAccount_of_ne
    {address other : Address}
    (different : other ≠ address)
    (account : Account) :
    (world.setAccount address account).held other = world.held other :=
  held_eq_of_get (get_setAccount_of_ne different account)

/-- Putting an account changes the total by what is put less what was there. -/
theorem total_setAccount
    {address : Address}
    (isPlain : world.IsPlain address)
    (account : Account) :
    (world.setAccount address account).total + world.held address =
      world.total + (if account.deleted then 0 else account.balance.toNat) := by
  rw [← held_setAccount_self sound isPlain account]
  -- the two sums differ at one address only
  exact sum_add_of_ne address fun other different =>
    held_setAccount_of_ne different account

/-- What a living account that is put holds is held at its address. -/
theorem held_setAccount_of_alive
    {address : Address}
    (isPlain : world.IsPlain address)
    {account : Account}
    (alive : account.deleted = false) :
    (world.setAccount address account).held address = account.balance.toNat := by
  rw [held_setAccount_self sound isPlain, alive]
  rfl

theorem total_setAccount_of_alive
    {address : Address}
    (isPlain : world.IsPlain address)
    {account : Account}
    (alive : account.deleted = false) :
    (world.setAccount address account).total + world.held address =
      world.total + account.balance.toNat := by
  rw [total_setAccount sound isPlain, alive]
  rfl

/-- An account is changed where it is reached; else nothing is held there. -/
theorem IsSound.updateAccount_cases
    {after : World}
    {address : Address}
    {change : Account → Account}
    {reached : Bool}
    (result : world.updateAccount address change = .ok (reached, after)) :
    (world.held address = 0 ∧ reached = false ∧ after = world) ∨
    ∃ account,
      world.IsPlain address ∧ account.isToken = false ∧ account.deleted = false ∧
        world.get address = .ok (some account) ∧ reached = true ∧
        after = world.setAccount address (change account) := by
  rcases World.updateAccount_cases result with
    ⟨refused, rfl, rfl⟩ | ⟨account, claimed, rfl, rfl⟩
  · exact .inl ⟨sound.held_of_claim?_none refused, rfl, rfl⟩
  · obtain ⟨isPlain, noToken, found⟩ := sound.of_claim? claimed
    have alive := (accountEntry_of_claim? claimed).2
    exact .inr ⟨account, isPlain, noToken, alive, found, rfl, rfl⟩

omit sound in
/-- Creating an account is marking it and putting it. -/
theorem createAccount_eq
    (world : World)
    (account : Account) :
    world.createAccount account =
      (world.markCreated account.address).setAccount account.address account := by
  rw [setAccount, markCreated, record_record]
  rfl

omit sound in
theorem get_markCreated
    (world : World)
    (address other : Address) :
    (world.markCreated address).get other = world.get other :=
  get_record world other (fun _ => rfl) fun _ => rfl

theorem IsSound.markCreated
    (address : Address) :
    (world.markCreated address).IsSound :=
  sound.record (fun _ => rfl) fun _ => rfl

omit sound in
theorem isPlain_markCreated
    (address other : Address) :
    (world.markCreated address).IsPlain other ↔ world.IsPlain other := by
  have same : (world.markCreated address).token other = world.token other :=
    token_record world other fun _ => rfl
  simp only [IsPlain, same]
  simp only [World.markCreated, redirectsTokenCalls_record]

theorem IsSound.createAccount
    {account : Account}
    (isPlain : world.IsPlain account.address)
    (noToken : account.isToken = false) :
    (world.createAccount account).IsSound := by
  rw [createAccount_eq]
  exact (sound.markCreated _).setAccount ((isPlain_markCreated _ _).mpr isPlain) noToken

omit sound in
theorem held_createAccount_of_ne
    {account : Account}
    {other : Address}
    (different : other ≠ account.address) :
    (world.createAccount account).held other = world.held other := by
  rw [createAccount_eq, held_setAccount_of_ne different]
  exact held_eq_of_get (get_markCreated _ _ _)

/-- Creating an account changes the total by what it holds less what was there. -/
theorem total_createAccount
    (account : Account)
    (isPlain : world.IsPlain account.address)
    (alive : account.deleted = false) :
    (world.createAccount account).total + world.held account.address =
      world.total + account.balance.toNat := by
  have marked := get_markCreated world account.address
  have put :=
    total_setAccount_of_alive (sound.markCreated account.address)
      ((isPlain_markCreated _ _).mpr isPlain) alive
  rw [held_eq_of_get (marked account.address), total_eq_of_get marked] at put
  rw [createAccount_eq]
  exact put

end

end World

end LedgerEvm
