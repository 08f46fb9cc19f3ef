import Mathlib.Data.FinEnum
import Mathlib.Data.Finite.Prod
import LedgerEvm.Ledger.CachedSnapshot

namespace LedgerEvm

/-!
# Lookups

A cache keeps a value only as what was loaded for its key, so whatever it serves is what a load
would answer: at any time, however many values it has room for and however long it keeps them.
A snapshot behind caches therefore answers every lookup as it does without them.
-/

namespace Cache

variable {κ ν ε : Type}

/-- Every value that is kept is the one that is loaded for its key. -/
def IsFaithful (load : κ → Except ε ν) (cache : Cache κ ν) : Prop :=
  ∀ entry ∈ cache.entries, load entry.key = .ok entry.value

theorem isFaithful_ofPolicy
    (load : κ → Except ε ν)
    (policy : CachePolicy) :
    (ofPolicy policy).IsFaithful load :=
  nofun

variable
  [DecidableEq κ]
  {load : κ → Except ε ν}
  {cache : Cache κ ν}
  {key : κ}

theorem IsFaithful.of_mem_others
    (faithful : cache.IsFaithful load)
    {entry : CacheEntry κ ν}
    (member : entry ∈ cache.others key) :
    load entry.key = .ok entry.value :=
  faithful entry (List.mem_filter.mp member).1

theorem IsFaithful.of_find?
    (faithful : cache.IsFaithful load)
    {entry : CacheEntry κ ν}
    (found : cache.find? key = some entry) :
    load key = .ok entry.value := by
  have same : entry.key = key := by simpa using List.find?_some found
  rw [← same]
  exact faithful entry (List.mem_of_find?_eq_some found)

theorem IsFaithful.invalidate
    (faithful : cache.IsFaithful load)
    (key : κ) :
    (cache.invalidate key).IsFaithful load :=
  fun _ member => faithful.of_mem_others member

/-- What is put has been loaded; what there is no room for is only left out. -/
theorem IsFaithful.put
    (faithful : cache.IsFaithful load)
    {value : ν}
    (loaded : load key = .ok value)
    (now : Nat) :
    (cache.put key value now).IsFaithful load := by
  intro entry member
  cases member with
  | head => exact loaded
  | tail _ kept => exact faithful.of_mem_others (List.mem_of_mem_take kept)

/-- A lookup serves what would be loaded. -/
theorem IsFaithful.lookup
    (faithful : cache.IsFaithful load)
    (key : κ)
    (now : Nat) :
    (∀ value, (cache.lookup key now).1 = some value → load key = .ok value) ∧
      (cache.lookup key now).2.IsFaithful load := by
  unfold Cache.lookup
  cases found : cache.find? key with
  | none => exact ⟨nofun, faithful⟩
  | some entry =>
      have loaded := faithful.of_find? found
      dsimp only
      split
      · exact ⟨nofun, faithful.invalidate key⟩
      · refine ⟨fun value served => ?_, fun other member => ?_⟩
        · cases served
          exact loaded
        · cases member with
          | head => exact faithful entry (List.mem_of_find?_eq_some found)
          | tail _ kept => exact faithful.of_mem_others kept

/-- Whether a value is kept or has to be loaded, the answer is that of the load. -/
theorem IsFaithful.getOrLoad
    (faithful : cache.IsFaithful load)
    (key : κ)
    (now : Nat) :
    (cache.getOrLoad key now (load key)).1 = load key ∧
      (cache.getOrLoad key now (load key)).2.2.IsFaithful load := by
  obtain ⟨serves, kept⟩ := faithful.lookup key now
  unfold Cache.getOrLoad
  split
  · rename_i value served found
    rw [found] at serves kept
    exact ⟨(serves value rfl).symm, kept⟩
  · rename_i missed found
    rw [found] at kept
    cases loaded : load key with
    | ok value => exact ⟨rfl, kept.put loaded now⟩
    | error error => exact ⟨rfl, kept⟩

end Cache

namespace CachedSnapshot

/-- Both caches keep only what the snapshot answers. -/
structure IsFaithful (cached : CachedSnapshot) (snapshot : Snapshot) : Prop where
  behind : cached.snapshot = snapshot
  accounts : cached.accounts.IsFaithful snapshot.account
  tokens : cached.tokens.IsFaithful snapshot.token

variable
  {cached : CachedSnapshot}
  {snapshot : Snapshot}

theorem isFaithful_ofSnapshot
    (snapshot : Snapshot)
    (accounts tokens : CachePolicy) :
    (ofSnapshot snapshot accounts tokens).IsFaithful snapshot where
  behind := rfl
  accounts := Cache.isFaithful_ofPolicy _ accounts
  tokens := Cache.isFaithful_ofPolicy _ tokens

theorem IsFaithful.account
    (faithful : cached.IsFaithful snapshot)
    (address : Address)
    (now : Nat) :
    (cached.account address now).1 = snapshot.account address ∧
      (cached.account address now).2.IsFaithful snapshot := by
  obtain ⟨rfl, accounts, tokens⟩ := faithful
  obtain ⟨answer, kept⟩ := accounts.getOrLoad address now
  exact ⟨answer, rfl, kept, tokens⟩

theorem IsFaithful.token
    (faithful : cached.IsFaithful snapshot)
    (address : Address)
    (now : Nat) :
    (cached.token address now).1 = snapshot.token address ∧
      (cached.token address now).2.IsFaithful snapshot := by
  obtain ⟨rfl, accounts, tokens⟩ := faithful
  obtain ⟨answer, kept⟩ := tokens.getOrLoad address now
  exact ⟨answer, rfl, accounts, kept⟩

end CachedSnapshot

/-!
## Inquiries

Whatever makes lookups one after the other, each one depending on the answers so far, is an
inquiry.  It can be made of a snapshot, whose answers are always the same, or through caches
that change with every lookup and with time.  The outcome is the same.
-/

/-- What a snapshot can be asked. -/
inductive Lookup where
  | account (address : Address)
  | storage (address : Address) (key : Word)
  | token (address : Address)
  | relationship (account token : Address)
  | nft (token : Address) (serial : Int64)
  | allowance (owner token spender : Address)
  deriving DecidableEq

/-- The answers to a lookup. -/
def Lookup.Answer : Lookup → Type
  | .account _ => Except StateError (Option Account)
  | .storage _ _ => Except StateError Word
  | .token _ => Except StateError (Option Token)
  | .relationship _ _ => Except StateError (Option Relationship)
  | .nft _ _ => Except StateError (Option Nft)
  | .allowance _ _ _ => Except StateError UInt64

/-- The answer of a snapshot. -/
def Snapshot.answer (snapshot : Snapshot) : (lookup : Lookup) → lookup.Answer
  | .account address => snapshot.account address
  | .storage address key => snapshot.storage address key
  | .token address => snapshot.token address
  | .relationship account token => snapshot.relationship account token
  | .nft token serial => snapshot.nft token serial
  | .allowance owner token spender => snapshot.allowance owner token spender

/-- The answer through caches at a time, and the caches after it. -/
def CachedSnapshot.answer
    (cached : CachedSnapshot)
    (now : Nat) :
    (lookup : Lookup) → lookup.Answer × CachedSnapshot
  | .account address => cached.account address now
  | .token address => cached.token address now
  | other => (cached.snapshot.answer other, cached)

/-- A chain of lookups, each chosen by the answers to those before it, that ends with an outcome. -/
inductive Inquiry (α : Type) where
  | done (outcome : α)
  | ask (lookup : Lookup) (next : lookup.Answer → Inquiry α)

namespace Inquiry

variable {α : Type}

/-- The outcome when a snapshot is asked. -/
def run (snapshot : Snapshot) : Inquiry α → α
  | .done outcome => outcome
  | .ask lookup next => (next (snapshot.answer lookup)).run snapshot

/--
The outcome when the caches are asked, and the caches after it.  The clock tells the time of each
lookup, by how many were made before it.
-/
def through (clock : Nat → Nat) : Inquiry α → CachedSnapshot → Nat → α × CachedSnapshot × Nat
  | .done outcome, cached, made => (outcome, cached, made)
  | .ask lookup next, cached, made =>
      let (answer, cached) := cached.answer (clock made) lookup
      (next answer).through clock cached (made + 1)

end Inquiry

/-- Through faithful caches every lookup is answered as by the snapshot, and they stay so. -/
theorem CachedSnapshot.IsFaithful.answer
    {cached : CachedSnapshot}
    {snapshot : Snapshot}
    (faithful : cached.IsFaithful snapshot)
    (now : Nat)
    (lookup : Lookup) :
    (cached.answer now lookup).1 = snapshot.answer lookup ∧
      (cached.answer now lookup).2.IsFaithful snapshot := by
  cases lookup with
  | account address => exact faithful.account address now
  | token address => exact faithful.token address now
  | _ =>
      refine ⟨?_, faithful⟩
      rw [← faithful.behind]
      rfl

/-- An inquiry has the same outcome through caches, whenever its lookups are made. -/
theorem Inquiry.through_eq_run
    {α : Type}
    (clock : Nat → Nat)
    (inquiry : Inquiry α)
    {cached : CachedSnapshot}
    {snapshot : Snapshot}
    (faithful : cached.IsFaithful snapshot)
    (made : Nat) :
    (inquiry.through clock cached made).1 = inquiry.run snapshot ∧
      (inquiry.through clock cached made).2.1.IsFaithful snapshot := by
  induction inquiry generalizing cached made with
  | done outcome => exact ⟨rfl, faithful⟩
  | ask lookup next inductionHypothesis =>
      obtain ⟨answer, stays⟩ := faithful.answer (clock made) lookup
      obtain ⟨outcome, kept⟩ :=
        inductionHypothesis (cached.answer (clock made) lookup).1 stays (made + 1)
      refine ⟨?_, kept⟩
      rw [run, ← answer, ← outcome]
      rfl

/-! ### Every function of a snapshot is an inquiry -/

/-- The snapshot of given answers. -/
def Snapshot.ofAnswers (answers : (lookup : Lookup) → lookup.Answer) : Snapshot where
  account address := answers (.account address)
  storage address key := answers (.storage address key)
  token address := answers (.token address)
  relationship account token := answers (.relationship account token)
  nft token serial := answers (.nft token serial)
  allowance owner token spender := answers (.allowance owner token spender)

theorem Snapshot.answer_ofAnswers
    (answers : (lookup : Lookup) → lookup.Answer)
    (lookup : Lookup) :
    (ofAnswers answers).answer lookup = answers lookup := by
  cases lookup <;> rfl

theorem Snapshot.ofAnswers_answer
    (snapshot : Snapshot) :
    ofAnswers snapshot.answer = snapshot :=
  rfl

/-- There are finitely many lookups. -/
instance : Finite Lookup := by
  have address : Finite Address :=
    Finite.of_injective Address.bits fun ⟨_⟩ ⟨_⟩ => congrArg Address.mk
  let code (lookup : Lookup) : Fin 6 × Address × Address × Address × Word × Int64 :=
    match lookup with
    | .account address => ⟨0, address, address, address, 0, 0⟩
    | .storage address key => ⟨1, address, address, address, key, 0⟩
    | .token address => ⟨2, address, address, address, 0, 0⟩
    | .relationship account token => ⟨3, account, token, token, 0, 0⟩
    | .nft token serial => ⟨4, token, token, token, 0, serial⟩
    | .allowance owner token spender => ⟨5, owner, token, spender, 0, 0⟩
  refine Finite.of_injective code fun one other same => ?_
  cases one <;> cases other <;> simp_all only [code, Prod.mk.injEq, Fin.reduceEq, false_and]

/-- What depends on some lookups only is the outcome of an inquiry that makes them all. -/
theorem Inquiry.exists_run_of_lookups
    {α : Type}
    (lookups : List Lookup)
    (outcome : Snapshot → α)
    (depends :
      ∀ one other : Snapshot,
        (∀ lookup ∈ lookups, one.answer lookup = other.answer lookup) →
          outcome one = outcome other) :
    ∃ inquiry : Inquiry α, ∀ snapshot, inquiry.run snapshot = outcome snapshot := by
  induction lookups generalizing outcome with
  | nil =>
      exact ⟨.done (outcome (.ofContents { })), fun snapshot => depends _ _ nofun⟩
  | cons lookup lookups inductionHypothesis =>
      -- Once the first lookup is answered, the outcome depends on the others only.
      have later (answer : lookup.Answer) :
          ∃ inquiry : Inquiry α, ∀ snapshot : Snapshot,
            inquiry.run snapshot =
              outcome (.ofAnswers (Function.update snapshot.answer lookup answer)) := by
        refine inductionHypothesis _ fun one other same => depends _ _ fun asked member => ?_
        rw [Snapshot.answer_ofAnswers, Snapshot.answer_ofAnswers]
        by_cases here : asked = lookup
        · subst here
          rw [Function.update_self, Function.update_self]
        · rw [Function.update_of_ne here, Function.update_of_ne here]
          exact same asked ((List.mem_cons.mp member).resolve_left here)
      choose next runNext using later
      refine ⟨.ask lookup next, fun snapshot => ?_⟩
      rw [run, runNext, Function.update_eq_self, Snapshot.ofAnswers_answer]

/-- Whatever is computed from a snapshot is the outcome of an inquiry. -/
theorem Inquiry.exists_run
    {α : Type}
    (outcome : Snapshot → α) :
    ∃ inquiry : Inquiry α, ∀ snapshot, inquiry.run snapshot = outcome snapshot := by
  obtain ⟨lookups⟩ := nonempty_fintype Lookup
  refine exists_run_of_lookups Finset.univ.toList outcome fun one other same => ?_
  have all : one.answer = other.answer :=
    funext fun lookup => same lookup (Finset.mem_toList.mpr (Finset.mem_univ lookup))
  rw [← one.ofAnswers_answer, all, other.ofAnswers_answer]

/-!
## Lookups through caches

However many lookups have been made through the caches of a snapshot, and whenever, the next one
is answered by what the snapshot answers, and neither cache holds more than it has room for.  A
lookup that fails leaves no trace in them, so it is passed on each time it is made.
-/

namespace Cache

variable {κ ν ε : Type}

/-- The cache follows the policy and keeps no more values than it allows, one at least. -/
structure HoldsTo (cache : Cache κ ν) (policy : CachePolicy) : Prop where
  follows : cache.policy = policy
  size : cache.size ≤ max 1 policy.maxSize

theorem holdsTo_ofPolicy
    (policy : CachePolicy) :
    (ofPolicy policy : Cache κ ν).HoldsTo policy where
  follows := rfl
  size := Nat.zero_le _

variable
  [DecidableEq κ]
  {load : κ → Except ε ν}
  {cache : Cache κ ν}
  {key : κ}
  {policy : CachePolicy}

/-- The other entries of a key that is kept are fewer. -/
theorem length_others_lt
    {entry : CacheEntry κ ν}
    (found : cache.find? key = some entry) :
    (cache.others key).length < cache.size := by
  refine List.length_filter_lt_length_iff_exists.mpr ⟨entry, List.mem_of_find?_eq_some found, ?_⟩
  have same : entry.key = key := by simpa using List.find?_some found
  simp [same]

theorem HoldsTo.lookup
    (holds : cache.HoldsTo policy)
    (key : κ)
    (now : Nat) :
    (cache.lookup key now).2.HoldsTo policy := by
  obtain ⟨rfl, size⟩ := holds
  unfold Cache.lookup
  cases found : cache.find? key with
  | none => exact ⟨rfl, size⟩
  | some entry =>
      have fewer := length_others_lt found
      dsimp only
      split
      · exact ⟨rfl, (Nat.le_of_lt fewer).trans size⟩
      · exact ⟨rfl, Nat.le_trans fewer size⟩

/-- Whatever is kept in addition, something has to go for it if there is no room. -/
theorem HoldsTo.getOrLoad
    (holds : cache.HoldsTo policy)
    (key : κ)
    (now : Nat)
    (loaded : Except ε ν) :
    (cache.getOrLoad key now loaded).2.2.HoldsTo policy := by
  have asked := holds.lookup key now
  unfold Cache.getOrLoad
  split
  · rename_i found
    rw [found] at asked
    exact asked
  · rename_i missed found
    rw [found] at asked
    cases loaded with
    | error error => exact asked
    | ok value =>
        obtain ⟨rfl, -⟩ := asked
        exact ⟨rfl, Nat.max_comm _ _ ▸ missed.size_put_le key value now⟩

/-- A key whose load fails has no entry. -/
theorem IsFaithful.find?_eq_none
    (faithful : cache.IsFaithful load)
    {error : ε}
    (fails : load key = .error error) :
    cache.find? key = none := by
  cases found : cache.find? key with
  | none => rfl
  | some entry =>
      have loaded := faithful.of_find? found
      rw [fails] at loaded
      cases loaded

/-- A key without an entry is loaded. -/
theorem getOrLoad_of_find?_eq_none
    (missing : cache.find? key = none)
    (now : Nat)
    (loaded : Except ε ν) :
    cache.getOrLoad key now loaded =
      match loaded with
      | .ok value => (.ok value, true, cache.put key value now)
      | .error error => (.error error, true, cache) := by
  cases loaded <;> simp only [getOrLoad, lookup, missing]

/-- Without an entry the answer is what is loaded now, whatever was loaded before. -/
theorem answer_of_find?_eq_none
    (missing : cache.find? key = none)
    (now : Nat)
    (loaded : Except ε ν) :
    (cache.getOrLoad key now loaded).1 = loaded := by
  rw [getOrLoad_of_find?_eq_none missing]
  cases loaded <;> rfl

end Cache

/-- The answer is an error. -/
def Lookup.Fails : (lookup : Lookup) → lookup.Answer → Prop
  | .account _, answer => ∃ error, answer = .error error
  | .storage _ _, answer => ∃ error, answer = .error error
  | .token _, answer => ∃ error, answer = .error error
  | .relationship _ _, answer => ∃ error, answer = .error error
  | .nft _ _, answer => ∃ error, answer = .error error
  | .allowance _ _ _, answer => ∃ error, answer = .error error

namespace CachedSnapshot

/-- The caches after some lookups, each made at its time. -/
def after (cached : CachedSnapshot) : List (Nat × Lookup) → CachedSnapshot
  | [] => cached
  | (now, lookup) :: later => (cached.answer now lookup).2.after later

/-- Both caches hold to their policies. -/
structure HoldsTo (cached : CachedSnapshot) (accounts tokens : CachePolicy) : Prop where
  accounts : cached.accounts.HoldsTo accounts
  tokens : cached.tokens.HoldsTo tokens

variable
  {cached : CachedSnapshot}
  {snapshot : Snapshot}
  {accounts tokens : CachePolicy}

theorem HoldsTo.answer
    (holds : cached.HoldsTo accounts tokens)
    (now : Nat)
    (lookup : Lookup) :
    (cached.answer now lookup).2.HoldsTo accounts tokens := by
  cases lookup with
  | account address => exact ⟨holds.accounts.getOrLoad address now _, holds.tokens⟩
  | token address => exact ⟨holds.accounts, holds.tokens.getOrLoad address now _⟩
  | _ => exact holds

/-- What every lookup keeps, any number of them keeps. -/
theorem after_induction
    {motive : CachedSnapshot → Prop}
    (keeps : ∀ cached now lookup, motive cached → motive (cached.answer now lookup).2)
    (holds : motive cached)
    (made : List (Nat × Lookup)) :
    motive (cached.after made) := by
  induction made generalizing cached with
  | nil => exact holds
  | cons first _ inductionHypothesis =>
      exact inductionHypothesis (keeps cached first.1 first.2 holds)

/-- A failed lookup leaves the caches as they are. -/
theorem IsFaithful.caches_of_fails
    (faithful : cached.IsFaithful snapshot)
    {lookup : Lookup}
    (fails : lookup.Fails (snapshot.answer lookup))
    (now : Nat) :
    (cached.answer now lookup).2.accounts = cached.accounts ∧
      (cached.answer now lookup).2.tokens = cached.tokens := by
  obtain ⟨rfl, accounts, tokens⟩ := faithful
  cases lookup with
  | account address =>
      obtain ⟨error, fails⟩ := fails
      refine ⟨?_, rfl⟩
      change (cached.accounts.getOrLoad address now (cached.snapshot.account address)).2.2 = _
      rw [Cache.getOrLoad_of_find?_eq_none (accounts.find?_eq_none fails)]
      change cached.snapshot.account address = _ at fails
      rw [fails]
  | token address =>
      obtain ⟨error, fails⟩ := fails
      refine ⟨rfl, ?_⟩
      change (cached.tokens.getOrLoad address now (cached.snapshot.token address)).2.2 = _
      rw [Cache.getOrLoad_of_find?_eq_none (tokens.find?_eq_none fails)]
      change cached.snapshot.token address = _ at fails
      rw [fails]
  | _ => exact ⟨rfl, rfl⟩

/-- A lookup that fails is passed on, also when another snapshot has taken the place of this one. -/
theorem IsFaithful.answer_of_fails
    (faithful : cached.IsFaithful snapshot)
    {lookup : Lookup}
    (fails : lookup.Fails (snapshot.answer lookup))
    (now : Nat)
    (other : Snapshot) :
    (({ cached with snapshot := other } : CachedSnapshot).answer now lookup).1 =
      other.answer lookup := by
  cases lookup with
  | account address =>
      obtain ⟨error, fails⟩ := fails
      exact Cache.answer_of_find?_eq_none (faithful.accounts.find?_eq_none fails) now _
  | token address =>
      obtain ⟨error, fails⟩ := fails
      exact Cache.answer_of_find?_eq_none (faithful.tokens.find?_eq_none fails) now _
  | _ => rfl

/--
Of whatever size the caches are and whenever their values expire: after any lookups, made at any
times, the next one is answered as by the snapshot without caches, absent entries and errors
included.  One that fails leaves the caches as they are and is passed on again when it is made the
next time, even to a snapshot that has recovered.  Neither cache holds more values than its policy
allows, or more than one where it allows none.
-/
theorem lookups_through_caches_are_transparent
    (snapshot : Snapshot)
    (accounts tokens : CachePolicy)
    (made : List (Nat × Lookup)) :
    let cached := (ofSnapshot snapshot accounts tokens).after made
    (∀ now lookup, (cached.answer now lookup).1 = snapshot.answer lookup) ∧
      (∀ now address,
        cached.isToken address now =
          (snapshot.isToken address, (cached.answer now (.token address)).2)) ∧
      (∀ now lookup, lookup.Fails (snapshot.answer lookup) →
        let failed := (cached.answer now lookup).2
        failed.accounts = cached.accounts ∧
          failed.tokens = cached.tokens ∧
          ∀ later recovered,
            (({ failed with snapshot := recovered } : CachedSnapshot).answer later lookup).1 =
              recovered.answer lookup) ∧
      cached.accounts.size ≤ max 1 accounts.maxSize ∧
      cached.tokens.size ≤ max 1 tokens.maxSize := by
  intro cached
  have faithful : cached.IsFaithful snapshot :=
    after_induction (motive := fun cached => cached.IsFaithful snapshot)
      (fun _ now lookup faithful => (faithful.answer now lookup).2)
      (isFaithful_ofSnapshot snapshot accounts tokens) made
  have holds : cached.HoldsTo accounts tokens :=
    after_induction (motive := fun cached => cached.HoldsTo accounts tokens)
      (fun _ now lookup holds => holds.answer now lookup)
      ⟨Cache.holdsTo_ofPolicy accounts, Cache.holdsTo_ofPolicy tokens⟩ made
  refine ⟨fun now lookup => (faithful.answer now lookup).1, fun now address => ?_,
    fun now lookup fails => ?_, holds.accounts.size, holds.tokens.size⟩
  · have answer := (faithful.token address now).1
    change ((cached.token address now).1.map Option.isSome, (cached.token address now).2) = _
    rw [answer]
    rfl
  · obtain ⟨sameAccounts, sameTokens⟩ := faithful.caches_of_fails fails now
    have still := (faithful.answer now lookup).2
    exact ⟨sameAccounts, sameTokens, fun later recovered =>
      still.answer_of_fails fails later recovered⟩

end CachedSnapshot

end LedgerEvm
