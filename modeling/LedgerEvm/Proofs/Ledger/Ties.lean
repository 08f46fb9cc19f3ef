import LedgerEvm.Ledger.Account
import LedgerEvm.Proofs.Machine.Conservation
import LedgerEvm.Proofs.Ledger.Evolution
import LedgerEvm.Proofs.Ledger.Payments
import LedgerEvm.Proofs.Ledger.TokenEntries

namespace LedgerEvm

/-!
# What ties an account to tokens

An account holds positive balances, owns numbered pieces and is the treasury of tokens, and
it counts all three.  Whether it may be removed is asked of what it has counted; what there
is to count is found here in the entries of the ledger.
-/

/-- The ways in which an account is tied to tokens. -/
inductive TokenTie where
  | balance
  | piece
  | title
  deriving DecidableEq

/-- The number of ties of a kind at which an account can count no further. -/
def TokenTie.capacity : TokenTie → Nat
  | .balance => UInt32.size
  | .piece => UInt64.size
  | .title => UInt32.size

namespace Account

/-- What the account has counted. -/
def counted (account : Account) : TokenTie → Nat
  | .balance => account.numPositiveBalances.toNat
  | .piece => account.ownedNfts.toNat
  | .title => account.numTreasuryTitles.toNat

/-- Accounts that differ in other respects have counted the same. -/
theorem counted_eq
    {account other : Account}
    (balances : other.numPositiveBalances = account.numPositiveBalances)
    (pieces : other.ownedNfts = account.ownedNfts)
    (titles : other.numTreasuryTitles = account.numTreasuryTitles) :
    other.counted = account.counted := by
  funext tie
  cases tie with
  | balance => exact congrArg UInt32.toNat balances
  | piece => exact congrArg UInt64.toNat pieces
  | title => exact congrArg UInt32.toNat titles

theorem counted_withPositiveBalances_of_ne
    (account : Account)
    (numPositiveBalances : UInt32)
    {tie : TokenTie}
    (different : tie ≠ .balance) :
    { account with numPositiveBalances }.counted tie = account.counted tie := by
  cases tie with
  | balance => exact (different rfl).elim
  | piece => rfl
  | title => rfl

theorem counted_withOwnedNfts_of_ne
    (account : Account)
    (ownedNfts : UInt64)
    {tie : TokenTie}
    (different : tie ≠ .piece) :
    { account with ownedNfts }.counted tie = account.counted tie := by
  cases tie with
  | balance => rfl
  | piece => exact (different rfl).elim
  | title => rfl

end Account

namespace World

variable {world after : World}

/-! ## What there is to count -/

/-- The account is the treasury of the token at an address, which is not deleted. -/
def hasTitle (world : World) (account token : Address) : Bool :=
  match world.token token with
  | .ok (some found) => !found.deleted && found.treasury == account
  | _ => false

/-- The ties of an account to all tokens. -/
noncomputable def ties (world : World) (account : Address) : TokenTie → Nat
  | .balance => ∑ token, if 0 < world.units account token then 1 else 0
  | .piece => ∑ token, world.owned token account
  | .title => ∑ token, if world.hasTitle account token then 1 else 0

theorem hasTitle_congr
    {token : Address}
    (same : after.token token = world.token token)
    (account : Address) :
    after.hasTitle account token = world.hasTitle account token := by
  simp only [hasTitle, same]

theorem hasTitle_of_token
    {token : Address}
    {entry : Option Token}
    (found : world.token token = .ok entry)
    (account : Address) :
    world.hasTitle account token =
      entry.any fun token => !token.deleted && token.treasury == account := by
  cases entry <;> simp [hasTitle, found]

/-- The ties depend on the entries about tokens only. -/
theorem ties_congr
    (same : SameEntries world after)
    (account : Address) :
    after.ties account = world.ties account := by
  funext tie
  cases tie with
  | balance => simp only [ties, units_congr same.toSameHoldings]
  | piece => simp only [ties, fun token => owned_congr (same.nft token) account]
  | title => simp only [ties, fun token => hasTitle_congr (same.token token) account]

/-- An account without any ties to tokens. -/
structure HasNoTies (world : World) (account : Address) : Prop where
  balances :
    ∀ {token : Address} {holding : Relationship},
      world.relationship account token = .ok (some holding) → holding.balance = 0
  pieces :
    ∀ {token : Address} {serial : Int64} {piece : Nft},
      world.nft token serial = .ok (some piece) → piece.owner ≠ account
  titles :
    ∀ {address : Address} {token : Token},
      world.token address = .ok (some token) → token.deleted = false → token.treasury ≠ account

/-- Where no ties are found in a count there are none. -/
theorem hasNoTies_of_ties
    {account : Address}
    (none : ∀ tie, world.ties account tie = 0) :
    world.HasNoTies account where
  balances {token holding} found := by
    have empty := Finset.sum_eq_zero_iff.mp (none .balance) token (Finset.mem_univ token)
    rw [units_of_relationship found, unitsOf_some] at empty
    have zero : holding.balance.toNat = 0 := by
      by_contra positive
      rw [if_pos (Nat.pos_of_ne_zero positive)] at empty
      cases empty
    exact UInt64.toNat_inj.mp zero
  pieces {token serial piece} found own := by
    have unowned := Finset.sum_eq_zero_iff.mp (none .piece) token (Finset.mem_univ token)
    have other := Finset.sum_eq_zero_iff.mp unowned serial (Finset.mem_univ serial)
    simp [ownerOf?_of_nft found, own] at other
  titles {address token} found alive own := by
    have untitled := Finset.sum_eq_zero_iff.mp (none .title) address (Finset.mem_univ address)
    simp [hasTitle_of_token found, alive, own] at untitled

/-! ## Writing entries -/

/-- Writing a relationship exchanges whether its balance is positive. -/
theorem ties_putRelationship
    (isOpen : world.IsOpen)
    (account token : Address)
    (entry : Option Relationship)
    (holder : Address)
    (tie : TokenTie) :
    (world.putRelationship account token entry).ties holder tie +
        (if tie = .balance ∧ account = holder ∧ 0 < world.units account token then 1 else 0) =
      world.ties holder tie +
        (if tie = .balance ∧ account = holder ∧ 0 < unitsOf entry then 1 else 0) := by
  cases tie with
  | balance =>
      by_cases own : account = holder
      · subst own
        simp only [ties, true_and]
        rw [← units_putRelationship_self isOpen account token entry]
        apply sum_add_of_ne token
        intro other different
        rw [units_putRelationship_of_ne fun same => different same.2]
      · simp only [ties, own, false_and, and_false, if_false,
          units_putRelationship_of_ne fun same => own same.1.symm]
  | piece =>
      simp only [ties, owned_congr (nft_putRelationship world account token entry _), reduceCtorEq,
        false_and, if_false]
  | title =>
      simp only [ties, hasTitle_congr (token_putRelationship world account token entry _),
        reduceCtorEq, false_and, if_false]

/-- Writing a piece exchanges its owner. -/
theorem ties_putNft
    (isOpen : world.IsOpen)
    (token : Address)
    (serial : Int64)
    (entry : Option Nft)
    (holder : Address)
    (tie : TokenTie) :
    (world.putNft token serial entry).ties holder tie +
        (if tie = .piece ∧ world.ownerOf? token serial = some holder then 1 else 0) =
      world.ties holder tie +
        (if tie = .piece ∧ entry.map Nft.owner = some holder then 1 else 0) := by
  have same := sameHoldings_putNft world token serial entry
  cases tie with
  | balance =>
      simp only [ties, units_congr same, reduceCtorEq, false_and, if_false]
  | piece =>
      have exchanged := owned_putNft isOpen token serial entry holder
      have summed :
          ∑ other, (world.putNft token serial entry).owned other holder +
              world.owned token holder =
            ∑ other, world.owned other holder +
              (world.putNft token serial entry).owned token holder :=
        sum_add_of_ne token fun other different =>
          owned_congr (fun _ => nft_putNft_of_ne (fun same => different same.1) entry) holder
      simp only [ties, true_and]
      omega
  | title =>
      simp only [ties, hasTitle_congr (same.token _), reduceCtorEq, false_and, if_false]

/-- Writing a token exchanges its treasury. -/
theorem ties_putToken
    (isOpen : world.IsOpen)
    (token : Token)
    (holder : Address)
    (tie : TokenTie) :
    (world.putToken token).ties holder tie +
        (if tie = .title ∧ world.hasTitle holder token.address = true then 1 else 0) =
      world.ties holder tie +
        (if tie = .title ∧ (!token.deleted && token.treasury == holder) = true then 1
          else 0) := by
  cases tie with
  | balance =>
      have units (other : Address) :
          (world.putToken token).units holder other = world.units holder other := by
        simp only [World.units, relationship_putToken]
      simp only [ties, units, reduceCtorEq, false_and, if_false]
  | piece =>
      simp only [ties, owned_congr (nft_putToken world token _), reduceCtorEq, false_and, if_false]
  | title =>
      have written :
          (world.putToken token).hasTitle holder token.address =
            (!token.deleted && token.treasury == holder) :=
        hasTitle_of_token (token_putToken_self isOpen token) holder
      have exchanged :=
        @sum_add_of_ne Address _ (fun other => if world.hasTitle holder other then 1 else 0)
          (fun other => if (world.putToken token).hasTitle holder other then 1 else 0)
          token.address fun other different => by
            rw [hasTitle_congr (token_putToken_of_ne different)]
      rw [written] at exchanged
      simpa only [ties, true_and] using exchanged

/-! ## What has been counted -/

/-- What the account under an address has counted; a deleted one, or none, counts nothing. -/
def counted (world : World) (address : Address) : Except StateError (TokenTie → Nat) :=
  (world.accountEntry address).map fun entry =>
    ((entry.filter fun account => !account.deleted).map Account.counted).getD 0

theorem counted_congr
    {address : Address}
    (same : after.accountEntry address = world.accountEntry address) :
    after.counted address = world.counted address := by
  simp only [counted, same]

theorem counted_of_alive
    {address : Address}
    {account : Account}
    (found : world.accountEntry address = .ok (some account))
    (alive : account.deleted = false) :
    world.counted address = .ok account.counted := by
  simp [counted, found, alive, Except.map, Option.filter]

theorem counted_of_none
    {address : Address}
    (nobody : world.accountEntry address = .ok none) :
    world.counted address = .ok 0 := by
  simp [counted, nobody, Except.map]

theorem counted_of_deleted
    {address : Address}
    {account : Account}
    (found : world.accountEntry address = .ok (some account))
    (deleted : account.deleted = true) :
    world.counted address = .ok 0 := by
  simp [counted, found, deleted, Except.map, Option.filter]

/-- Where nothing is reached nothing has been counted. -/
theorem counted_of_not_reaches
    {address : Address}
    (absent : world.reaches address = .ok false) :
    world.counted address = .ok 0 := by
  obtain ⟨reached, found, unreached⟩ := exists_of_bind_eq_ok absent
  rw [get_of_isPlain (isPlain_of_not_reaches absent)] at found
  cases entry : world.accountEntry address with
  | error error =>
      rw [entry] at found
      cases found
  | ok account? =>
      rw [entry] at found
      cases found
      simp only [pure, Except.pure, Except.ok.injEq, Option.isSome_eq_false_iff,
        Option.isNone_iff_eq_none] at unreached
      simp only [counted, entry, Except.map, unreached, Option.map_none, Option.getD_none]

/-- An account that is changed in other respects has counted the same. -/
theorem counted_updateAccount
    {address : Address}
    {change : Account → Account}
    {reached : Bool}
    (isOpen : world.IsOpen)
    (sameCounted : ∀ account, (change account).counted = account.counted)
    (sameDeleted : ∀ account, (change account).deleted = account.deleted)
    (updated : world.updateAccount address change = .ok (reached, after)) :
    after.counted = world.counted := by
  rcases updateAccount_cases updated with ⟨_, _, rfl⟩ | ⟨account, claimed, _, rfl⟩
  · rfl
  · obtain ⟨found, alive⟩ := accountEntry_of_claim? claimed
    funext other
    by_cases own : other = address
    · subst own
      rw [counted_of_alive (accountEntry_setAccount_self isOpen _ _)
          ((sameDeleted account).trans alive),
        counted_of_alive found alive, sameCounted]
    · exact counted_congr (accountEntry_setAccount_of_ne own _)

/-- An account that comes into being where nothing was counted has nothing to count. -/
theorem counted_createAccount
    {account : Account}
    (isOpen : world.IsOpen)
    (nothing : world.counted account.address = .ok 0)
    (fresh : account.counted = 0) :
    (world.createAccount account).counted = world.counted := by
  have marked (address : Address) :
      (world.markCreated account.address).accountEntry address = world.accountEntry address :=
    accountEntry_record world address fun _ => rfl
  rw [createAccount_eq]
  funext other
  by_cases own : other = account.address
  · subst own
    have marked : (world.markCreated account.address).IsOpen := isOpen.record _
    have written := accountEntry_setAccount_self marked account.address account
    rw [nothing]
    cases gone : account.deleted with
    | true => exact counted_of_deleted written gone
    | false => rw [counted_of_alive written gone, fresh]
  · rw [counted_congr (accountEntry_setAccount_of_ne own _), counted_congr (marked other)]

/-! ## Moves that concern no ties -/

/-- From one world to the other no tie to a token and nothing counted has changed. -/
structure SameTies (before after : World) : Prop extends SameEntries before after where
  counted : after.counted = before.counted

namespace SameTies

theorem refl
    (world : World) :
    SameTies world world :=
  ⟨.refl world, rfl⟩

theorem trans
    {middle : World}
    (first : SameTies world middle)
    (second : SameTies middle after) :
    SameTies world after :=
  ⟨first.toSameEntries.trans second.toSameEntries, second.counted.trans first.counted⟩

/-- The ties and what is counted of them are among the answers of a world. -/
theorem of_view
    (isOpen : world.IsOpen → after.IsOpen)
    (same : after.view = world.view) :
    SameTies world after := by
  have entries : after.accountEntry = world.accountEntry := congrArg LedgerView.accountEntry same
  exact ⟨.of_view isOpen same, funext fun address => counted_congr (congrFun entries address)⟩

theorem push
    (world : World) :
    SameTies world world.push :=
  of_view (fun _ => isOpen_push world) (view_push world)

theorem draw
    (world : World)
    (number : UInt64) :
    SameTies world { world with nextNum := number } :=
  ⟨.nextNum world number, rfl⟩

/-- Dropping a frame restores what it has changed. -/
theorem revert
    (opened : SameBelow world.push after) :
    SameTies world after.revert :=
  of_view (fun isOpen => opened.revert.isOpen isOpen) (view_revert opened)

/-- Keeping a frame inside another one keeps what it has changed. -/
theorem commit
    (isOpen : world.IsOpen)
    (opened : SameBelow world.push after) :
    SameTies after after.commit :=
  of_view (fun _ => opened.commit.isOpen isOpen) (view_commit isOpen opened)

/-- A write that concerns neither accounts nor tokens nor what is held of them. -/
theorem record
    (world : World)
    {change : Journal → Journal}
    (sameAccounts : ∀ journal, (change journal).accounts = journal.accounts)
    (sameTokens : ∀ journal, (change journal).tokens = journal.tokens)
    (sameRelationships :
      ∀ journal, (change journal).relationships = journal.relationships)
    (sameNfts : ∀ journal, (change journal).nfts = journal.nfts) :
    SameTies world (world.record change) :=
  ⟨.record world sameTokens sameRelationships sameNfts,
    funext fun address => counted_congr (accountEntry_record world address sameAccounts)⟩

variable (isOpen : world.IsOpen)
include isOpen

theorem updateAccount
    {address : Address}
    {change : Account → Account}
    {reached : Bool}
    (sameCounted : ∀ account, (change account).counted = account.counted)
    (sameDeleted : ∀ account, (change account).deleted = account.deleted)
    (updated : world.updateAccount address change = .ok (reached, after)) :
    SameTies world after :=
  ⟨.updateAccount updated, counted_updateAccount isOpen sameCounted sameDeleted updated⟩

theorem createAccount
    {account : Account}
    (nothing : world.counted account.address = .ok 0)
    (fresh : account.counted = 0) :
    SameTies world (world.createAccount account) :=
  ⟨.record world (fun _ => rfl) (fun _ => rfl) fun _ => rfl,
    counted_createAccount isOpen nothing fresh⟩

theorem newContract
    {address : Address}
    (free : world.isFree address = .ok true) :
    SameTies world
      (world.createAccount { Account.newContract address [] with nonce := 1 }) := by
  refine createAccount isOpen (counted_of_none (isFree_iff.mp free).1) ?_
  funext tie
  cases tie <;> rfl

/-- Currency is no tie to a token, and who comes into being by it has counted nothing. -/
theorem transfer
    {source target : Address}
    {value : Word}
    (moved : world.transfer source target value = .ok after) :
    SameTies world after := by
  have countedAlike (change : Word → Word) (account : Account) :
      { account with balance := change account.balance }.counted = account.counted :=
    Account.counted_eq rfl rfl rfl
  rcases transfer_cases moved with
    ⟨_, rfl⟩ | ⟨_, _, _, _, debited, _, credited, _, _, debit, credit, ends⟩
  · exact refl _
  · have paid : SameTies world debited :=
      updateAccount isOpen (countedAlike (· - value)) (fun _ => rfl) debit
    have received : SameTies debited credited :=
      updateAccount (paid.isOpen isOpen) (countedAlike (Word.addClamp · value))
        (fun _ => rfl) credit
    rcases ends with ⟨_, rfl⟩ | ⟨_, absent, rfl⟩
    · exact paid.trans received
    · refine (paid.trans received).trans
        (createAccount (received.isOpen (paid.isOpen isOpen)) (counted_of_not_reaches absent) ?_)
      funext tie
      cases tie <;> rfl

end SameTies

/-! ## Removals -/

/-- A payment marks nobody but the payee as created. -/
theorem isCreated_transfer_of_ne
    {source target other : Address}
    {value : Word}
    (moved : world.transfer source target value = .ok after)
    (different : other ≠ target) :
    after.isCreated other = world.isCreated other := by
  have update
      {world after : World}
      {address : Address}
      {change : Account → Account}
      {reached : Bool}
      (updated : world.updateAccount address change = .ok (reached, after)) :
      after.isCreated other = world.isCreated other := by
    rcases updateAccount_cases updated with ⟨_, _, rfl⟩ | ⟨account, _, _, rfl⟩
    · rfl
    · exact isCreated_record world other fun _ => rfl
  rcases transfer_cases moved with
    ⟨_, rfl⟩ | ⟨_, _, _, _, debited, _, credited, _, _, debit, credit, ends⟩
  · rfl
  · have paid := (update credit).trans (update debit)
    rcases ends with ⟨_, rfl⟩ | ⟨_, _, rfl⟩
    · exact paid
    · exact (isCreated_createAccount_of_ne different).trans paid

/-- Nothing stands against a deletion only where nothing has been counted. -/
theorem counted_of_no_objection
    {contract beneficiary : Address}
    (unopposed : world.objectionToDeletion? contract beneficiary = .ok none) :
    world.counted contract = .ok 0 := by
  rw [objectionToDeletion?_eq_firstStanding?, Objection.firstStanding?_eq_none_iff] at unopposed
  simp only [objectionsToDeletion, List.forall_mem_cons] at unopposed
  obtain ⟨_, noTitles, noBalances, noPieces, _⟩ := unopposed
  cases entry : world.accountEntry contract with
  | error error =>
      rw [isTokenTreasury, entry] at noTitles
      cases noTitles
  | ok account? =>
      cases account? with
      | none => exact counted_of_none entry
      | some account =>
          have nothing : account.counted = 0 := by
            have noTitles : account.numTreasuryTitles = 0 := by
              simpa [isTokenTreasury, entry, bind, Except.bind, pure, Except.pure] using noTitles
            have noBalances : account.numPositiveBalances = 0 := by
              simpa [hasTokenBalance, entry, bind, Except.bind, pure, Except.pure] using noBalances
            have noPieces : account.ownedNfts = 0 := by
              simpa [ownsNfts, entry, bind, Except.bind, pure, Except.pure] using noPieces
            funext tie
            cases tie <;> simp [Account.counted, noTitles, noBalances, noPieces]
          cases gone : account.deleted with
          | true => exact counted_of_deleted entry gone
          | false => rw [counted_of_alive entry gone, nothing]

/-- A contract that is deleted has counted nothing, so nothing counted is lost. -/
theorem SameTies.destroy
    {emptied : World}
    {rule : SelfDestructRule}
    {contract beneficiary : Address}
    {balance : Word}
    (isOpen : world.IsOpen)
    (unopposed : world.objectionToSelfDestruct? rule contract beneficiary = .ok none)
    (swept : world.transfer contract beneficiary balance = .ok emptied)
    (doomed : rule.sparesOldContracts = true → emptied.isCreated contract = true)
    (deleted : emptied.deleteAccount contract = .ok after) :
    SameTies world after := by
  have paid := SameTies.transfer isOpen swept
  refine paid.trans ⟨.updateAccount (updateAccount_of_deleteAccount deleted), ?_⟩
  have different := ne_of_unopposed_of_swept unopposed swept doomed
  have nothing : emptied.counted contract = .ok 0 := by
    rw [paid.counted]
    refine counted_of_no_objection (objectionToDeletion?_of_unopposed unopposed fun spares => ?_)
    rw [← isCreated_transfer_of_ne swept different]
    exact doomed spares
  rcases updateAccount_cases (updateAccount_of_deleteAccount deleted) with
    ⟨_, impossible, _⟩ | ⟨account, claimed, _, rfl⟩
  · cases impossible
  · funext other
    by_cases own : other = contract
    · subst own
      rw [nothing]
      exact counted_of_deleted
        (accountEntry_setAccount_self (paid.isOpen isOpen) _ _) rfl
    · exact counted_congr (accountEntry_setAccount_of_ne own _)

/-! ## Counts that cover the ties -/

/-- An address reaches an account, which stands for no token. -/
def HasAccount (world : World) (address : Address) : Prop :=
  ∃ account, world.get address = .ok (some account) ∧ account.isToken = false

/-- The account under an address has counted all its ties to tokens. -/
structure CountsTies (address : Address) (world : World) : Prop where
  filed : world.IsFiled
  covers :
    ∀ {counted : TokenTie → Nat},
      world.counted address = .ok counted → ∀ tie, world.ties address tie ≤ counted tie

namespace CountsTies

variable {address : Address}

theorem congr
    (counts : world.CountsTies address)
    (same : SameTies world after) :
    after.CountsTies address where
  filed := counts.filed.congr same.toSameHoldings
  covers read := by
    rw [same.counted] at read
    rw [ties_congr same.toSameEntries]
    exact counts.covers read

/-- An account that is deleted has no ties left. -/
theorem hasNoTies_of_deleted
    (counts : world.CountsTies address)
    {account : Account}
    (found : world.accountEntry address = .ok (some account))
    (deleted : account.deleted = true) :
    world.HasNoTies address :=
  hasNoTies_of_ties fun tie =>
    Nat.le_zero.mp (counts.covers (counted_of_deleted found deleted) tie)

end CountsTies

/-- In a world with an open frame the account has counted all its ties to tokens. -/
structure Settled (address : Address) (world : World) : Prop extends CountsTies address world where
  isOpen : world.IsOpen

namespace Settled

variable {address : Address}

theorem congr
    (settled : world.Settled address)
    (same : SameTies world after) :
    after.Settled address :=
  ⟨settled.toCountsTies.congr same, same.isOpen settled.isOpen⟩

/-- What has been counted, and what there is to count, are among the answers of a world. -/
theorem isAboutAnswers
    (address : Address) :
    IsAboutAnswers (Settled address) where
  isOpen settled := settled.isOpen
  congr isOpen _ same settled := settled.congr (.of_view (fun _ => isOpen) same)

end Settled

end World

end LedgerEvm
