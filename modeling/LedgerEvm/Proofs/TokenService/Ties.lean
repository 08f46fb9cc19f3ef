import Mathlib.Algebra.Ring.Int.Defs
import LedgerEvm.Proofs.Ledger.Ties
import LedgerEvm.Proofs.TokenService.PieceSupply

namespace LedgerEvm

/-!
# Token actions and what an account has counted

A token action that ties an account to a token, or takes a tie from it, writes that first
and counts it afterwards.  What is owed to the counts of one account is followed from write
to write.
-/

namespace TokenTransfers

/-- An account is credited an amount of the token. -/
def Credits (list : TokenTransfers) (address : Address) : Prop :=
  ∃ leg ∈ list.transfers, leg.account = address ∧ 0 < leg.amount

/-- The most that the movements of one token add to what an account has counted. -/
def countings (list : TokenTransfers) : Nat :=
  (list.transfers.map fun _ => 1).sum + (list.nftTransfers.map fun _ => 2).sum

end TokenTransfers

namespace World

/--
The account under an address has counted its ties to tokens, except for what is owed to its
counts, and they have room for more.  There is an account if one is needed.
-/
structure TiesOffBy
    (address : Address)
    (needed : Prop)
    (room : Nat)
    (owed : TokenTie → Int)
    (world : World) : Prop where
  isOpen : world.IsOpen
  filed : world.IsFiled
  there : needed → world.HasAccount address
  covers :
    ∀ {counted : TokenTie → Nat},
      world.counted address = .ok counted →
      ∀ tie, (world.ties address tie : Int) ≤ counted tie + owed tie
  fits :
    ∀ {counted : TokenTie → Nat},
      world.counted address = .ok counted → ∀ tie, counted tie + room < tie.capacity

variable
  {world after : World}
  {address : Address}

theorem HasAccount.congr
    (hasAccount : world.HasAccount address)
    (same : after.get address = world.get address) :
    after.HasAccount address := by
  obtain ⟨account, found, noToken⟩ := hasAccount
  exact ⟨account, same.trans found, noToken⟩

/-- Where calls are redirected to tokens, an account is reached only if there is none. -/
theorem HasAccount.ne_of_token
    (hasAccount : world.HasAccount address)
    (redirects : world.redirectsTokenCalls = true)
    {other : Address}
    {token : Token}
    (found : world.token other = .ok (some token)) :
    address ≠ other := by
  rintro rfl
  obtain ⟨account, reached, noToken⟩ := hasAccount
  rw [(of_get_of_not_isToken reached noToken).1 redirects] at found
  cases found

/-- If the relationship is the account's own, then it says what the account holds. -/
def IsCurrent (world : World) (address : Address) (holding : Relationship) : Prop :=
  holding.account = address → world.units address holding.token = holding.balance.toNat

theorem IsCurrent.of_relationship
    {account token : Address}
    {holding : Relationship}
    (own : holding.account = account ∧ holding.token = token)
    (held : world.relationship account token = .ok (some holding)) :
    world.IsCurrent address holding := by
  obtain ⟨rfl, rfl⟩ := own
  rintro rfl
  rw [units_of_relationship held, unitsOf_some]

theorem isAboutEntries_isCurrent
    (address : Address)
    (holding : Relationship) :
    IsAboutEntries fun world => world.IsCurrent address holding := by
  intro before after same current here
  rw [units_congr same.toSameHoldings]
  exact current here

namespace TiesOffBy

variable
  {needed needed' : Prop}
  {room room' : Nat}
  {owed owed' : TokenTie → Int}
  (books : world.TiesOffBy address needed room owed)
include books

theorem congr
    (same : SameTies world after)
    (reached : after.get address = world.get address) :
    after.TiesOffBy address needed room owed where
  isOpen := same.isOpen books.isOpen
  filed := books.filed.congr same.toSameHoldings
  there needs := (books.there needs).congr reached
  covers read tie := by
    rw [same.counted] at read
    rw [ties_congr same.toSameEntries]
    exact books.covers read tie
  fits read := by
    rw [same.counted] at read
    exact books.fits read

theorem of_view
    (isOpen : after.IsOpen)
    (same : after.view = world.view) :
    after.TiesOffBy address needed room owed :=
  books.congr (.of_view (fun _ => isOpen) same) (congrFun (congrArg LedgerView.get same) address)

/-- Less may be needed, less room left, and more owed. -/
theorem imp
    (needs : needed' → needed)
    (less : room' ≤ room)
    (more : ∀ tie, owed tie ≤ owed' tie) :
    world.TiesOffBy address needed' room' owed' where
  isOpen := books.isOpen
  filed := books.filed
  there holds := books.there (needs holds)
  covers read tie := (books.covers read tie).trans (by have := more tie; omega)
  fits read tie := by
    have fits := books.fits read tie
    omega

/-! ## Writes -/

/-- A write that leaves all accounts owes them what ties it exchanges. -/
theorem record
    {change : Journal → Journal}
    (sameAccounts : ∀ journal, (change journal).accounts = journal.accounts)
    (filed : (world.record change).IsFiled)
    (there : needed → (world.record change).HasAccount address)
    (exchanged :
      ∀ tie,
        ((world.record change).ties address tie : Int) + owed tie ≤
          world.ties address tie + owed' tie) :
    (world.record change).TiesOffBy address needed room owed' := by
  have same : (world.record change).counted address = world.counted address :=
    counted_congr (accountEntry_record world address sameAccounts)
  refine ⟨books.isOpen.record _, filed, there, fun read tie => ?_, fun read => ?_⟩
  · rw [same] at read
    have covers := books.covers read tie
    have exchanged := exchanged tie
    omega
  · rw [same] at read
    exact books.fits read

/-- Writing a relationship owes the account whether its balance is positive. -/
theorem putRelationship
    {account token : Address}
    {entry : Option Relationship}
    (own : ∀ holding ∈ entry, holding.account = account ∧ holding.token = token)
    (exchanged :
      ∀ tie,
        owed tie +
            (if tie = .balance ∧ account = address ∧ 0 < unitsOf entry then 1 else 0 : Nat) ≤
          owed' tie +
            (if tie = .balance ∧ account = address ∧ 0 < world.units account token then 1
              else 0 : Nat)) :
    (world.putRelationship account token entry).TiesOffBy address needed room owed' := by
  refine books.record (fun _ => rfl) (books.filed.putRelationship books.isOpen own)
    (fun needs => ?_) fun tie => ?_
  · exact (books.there needs).congr (get_record world address (fun _ => rfl) fun _ => rfl)
  · have written := ties_putRelationship books.isOpen account token entry address tie
    have exchanged := exchanged tie
    change ((world.putRelationship account token entry).ties address tie : Int) + _ ≤ _
    omega

/-- Writing a piece takes it from its old owner and owes it to its new one. -/
theorem putNft
    {token : Address}
    {serial : Int64}
    {entry : Option Nft}
    (exchanged :
      ∀ tie,
        owed tie +
            (if tie = .piece ∧ entry.map Nft.owner = some address then 1 else 0 : Nat) ≤
          owed' tie +
            (if tie = .piece ∧ world.ownerOf? token serial = some address then 1
              else 0 : Nat)) :
    (world.putNft token serial entry).TiesOffBy address needed room owed' := by
  refine books.record (fun _ => rfl)
    (books.filed.congr (sameHoldings_putNft world token serial entry))
    (fun needs => ?_) fun tie => ?_
  · exact (books.there needs).congr (get_record world address (fun _ => rfl) fun _ => rfl)
  · have written := ties_putNft books.isOpen token serial entry address tie
    have exchanged := exchanged tie
    change ((world.putNft token serial entry).ties address tie : Int) + _ ≤ _
    omega

/-- Writing a token owes it to its treasury. -/
theorem putToken
    {token : Token}
    (elsewhere : needed → world.redirectsTokenCalls = true → address ≠ token.address)
    (exchanged :
      ∀ tie,
        owed tie +
            (if tie = .title ∧ (!token.deleted && token.treasury == address) = true then 1
              else 0 : Nat) ≤
          owed' tie +
            (if tie = .title ∧ world.hasTitle address token.address = true then 1
              else 0 : Nat)) :
    (world.putToken token).TiesOffBy address needed room owed' := by
  refine books.record (fun _ => rfl) (books.filed.putToken books.isOpen token)
    (fun needs => ?_) fun tie => ?_
  · exact (books.there needs).congr (get_putToken (elsewhere needs))
  · have written := ties_putToken books.isOpen token address tie
    have exchanged := exchanged tie
    change ((world.putToken token).ties address tie : Int) + _ ≤ _
    omega

/-- Writing what a token counts leaves its title. -/
theorem putSupply
    {other : Address}
    {token : Token}
    (found : world.token other = .ok (some token))
    (totalSupply : UInt64)
    (lastUsedSerial : Int64) :
    (world.putToken { token with totalSupply, lastUsedSerial }).TiesOffBy address needed room
      owed := by
  obtain rfl : token.address = other := books.filed.token found
  refine books.putToken (fun needs redirects => ?_) fun tie => ?_
  · exact (books.there needs).ne_of_token redirects found
  · rw [hasTitle_of_token found]
    exact Int.le_refl _

end TiesOffBy

end World

namespace TokenAction

open World (TiesOffBy SameEntries SameTies IsAboutEntries unitsOf)

variable
  {world : World}
  {address : Address}
  {needed : Prop}
  {room room' : Nat}
  {owed : TokenTie → Int}

/-! ## Counting -/

/-- An account that is counted for is given what is owed to it. -/
theorem yields_settle
    {update : Account → Account}
    (isCounting : Account.IsCounting update)
    (counts :
      ∀ account tie,
        0 ≤ (account.counted tie : Int) + owed tie →
        (account.counted tie : Int) + owed tie < tie.capacity →
        ((update account).counted tie : Int) = account.counted tie + owed tie)
    (needs : ∀ tie, 0 < owed tie → needed)
    (enough : ∀ tie, room' + (owed tie).toNat ≤ room) :
    Yields (TiesOffBy address needed room owed) (adjust address update)
      fun _ => TiesOffBy address needed room' 0 := by
  intro world books
  unfold adjust
  cases updated : world.updateAccount address update with
  | error error => trivial
  | ok result =>
      obtain ⟨reached, after⟩ := result
      have same := SameEntries.updateAccount updated
      rcases World.updateAccount_cases updated with
        ⟨refused, _, rfl⟩ | ⟨account, claimed, _, changed⟩
      · -- nobody is there to be counted for, so nothing may be owed
        refine books.imp id (by have := enough .balance; omega) fun tie => ?_
        by_contra positive
        obtain ⟨account, found, noToken⟩ := books.there (needs tie (by simpa using positive))
        cases (World.claim?_of_get found noToken).symm.trans refused
      · obtain ⟨found, alive⟩ := World.accountEntry_of_claim? claimed
        have kind : (update account).isToken = account.isToken ∧
            (update account).deleted = account.deleted := by
          obtain ⟨_, _, _, _, updates⟩ := isCounting account
          rw [updates]
          exact ⟨rfl, rfl⟩
        have before := World.counted_of_alive found alive
        have counted : after.counted address = .ok (update account).counted := by
          rw [changed]
          exact World.counted_of_alive
            (World.accountEntry_setAccount_self books.isOpen _ _) (kind.2.trans alive)
        have given (tie : TokenTie) :
            ((update account).counted tie : Int) = account.counted tie + owed tie := by
          have covers := books.covers before tie
          have fits := books.fits before tie
          have enough := enough tie
          exact counts account tie (by omega) (by omega)
        refine ⟨same.isOpen books.isOpen, books.filed.congr same.toSameHoldings, ?_, ?_, ?_⟩
        · intro holds
          obtain ⟨account', reached', noToken⟩ := books.there holds
          cases (World.claim?_of_get reached' noToken).symm.trans claimed
          exact ⟨update account, World.get_updateAccount_self books.isOpen reached' noToken
            (kind.2.trans alive) updated, kind.1.trans noToken⟩
        · intro counted' read tie
          cases counted.symm.trans read
          rw [World.ties_congr same, given tie]
          have covers := books.covers before tie
          simpa using covers
        · intro counted' read tie
          cases counted.symm.trans read
          have fits := books.fits before tie
          have enough := enough tie
          have given := given tie
          omega

/-- So much is owed to the count of one kind of ties. -/
def owing (tie : TokenTie) (amount : Int) : TokenTie → Int := fun other =>
  if other = tie then amount else 0

@[simp] theorem owing_self
    (tie : TokenTie)
    (amount : Int) :
    owing tie amount tie = amount :=
  if_pos rfl

@[simp] theorem owing_zero
    (tie : TokenTie) :
    owing tie 0 = 0 := by
  funext other
  simp [owing]

theorem owing_of_ne
    {tie other : TokenTie}
    (different : other ≠ tie)
    (amount : Int) :
    owing tie amount other = 0 :=
  if_neg different

/-- More may be owed. -/
theorem of_owing
    {tie : TokenTie}
    {amount amount' : Int}
    (books : world.TiesOffBy address needed room (owing tie amount))
    (more : amount ≤ amount') :
    world.TiesOffBy address needed room (owing tie amount') := by
  refine books.imp id (Nat.le_refl _) fun other => ?_
  unfold owing
  split
  · exact more
  · exact Int.le_refl _

/-- What is owed to one count is settled by changing that count. -/
theorem yields_settle_owing
    {update : Account → Account}
    {tie : TokenTie}
    {amount : Int}
    (isCounting : Account.IsCounting update)
    (counts :
      ∀ account,
        0 ≤ (account.counted tie : Int) + amount →
        (account.counted tie : Int) + amount < tie.capacity →
        ((update account).counted tie : Int) = account.counted tie + amount)
    (others :
      ∀ account other, other ≠ tie → (update account).counted other = account.counted other)
    (needs : 0 < amount → needed)
    (enough : room' + amount.toNat ≤ room) :
    Yields (TiesOffBy address needed room (owing tie amount)) (adjust address update)
      fun _ => TiesOffBy address needed room' 0 := by
  refine yields_settle isCounting (fun account other => ?_) (fun other positive => ?_)
    fun other => ?_
  · by_cases same : other = tie
    · subst same
      rw [owing_self]
      exact counts account
    · rw [owing_of_ne same, others account other same]
      omega
  · by_cases same : other = tie
    · subst same
      rw [owing_self] at positive
      exact needs positive
    · rw [owing_of_ne same] at positive
      omega
  · by_cases same : other = tie
    · subst same
      rw [owing_self]
      exact enough
    · rw [owing_of_ne same]
      omega

/-- What is counted for another account matters to nothing here. -/
theorem yields_adjust_ties
    {other : Address}
    (different : address ≠ other)
    (update : Account → Account) :
    Yields (TiesOffBy address needed room owed) (adjust other update)
      fun _ => TiesOffBy address needed room owed := by
  intro world books
  unfold adjust
  cases updated : world.updateAccount other update with
  | error error => trivial
  | ok result =>
      obtain ⟨reached, after⟩ := result
      have same := SameEntries.updateAccount updated
      have entry : after.counted address = world.counted address := by
        rcases World.updateAccount_cases updated with ⟨_, _, rfl⟩ | ⟨account, _, _, rfl⟩
        · rfl
        · exact World.counted_congr (World.accountEntry_setAccount_of_ne different _)
      refine ⟨same.isOpen books.isOpen, books.filed.congr same.toSameHoldings, ?_, ?_, ?_⟩
      · intro holds
        exact (books.there holds).congr (World.get_updateAccount_of_ne different updated)
      · intro counted read tie
        rw [entry] at read
        rw [World.ties_congr same]
        exact books.covers read tie
      · intro counted read
        rw [entry] at read
        exact books.fits read

/-- A write that leaves accounts, tokens and what is held of them leaves the ties. -/
theorem keeps_record_ties
    {update : Journal → Journal}
    (sameAccounts : ∀ journal, (update journal).accounts = journal.accounts)
    (sameTokens : ∀ journal, (update journal).tokens = journal.tokens)
    (sameRelationships :
      ∀ journal, (update journal).relationships = journal.relationships)
    (sameNfts : ∀ journal, (update journal).nfts = journal.nfts) :
    Keeps (TiesOffBy address needed room owed) (change fun world => world.record update) :=
  keeps_change fun world books =>
    books.congr (.record world sameAccounts sameTokens sameRelationships sameNfts)
      (World.get_record world address sameAccounts sameTokens)

/-! ## Balances -/

/-- A balance that is written is counted, where the account has the former one. -/
theorem yields_setBalance_ties
    {holding : Relationship}
    {balance : UInt64}
    (needs : holding.account = address → holding.balance = 0 → 0 < balance → needed)
    (enough :
      room' + (if holding.account = address ∧ holding.balance = 0 ∧ 0 < balance then 1 else 0) ≤
        room) :
    Yields
      (fun world =>
        world.TiesOffBy address needed room 0 ∧ world.IsCurrent address holding)
      (setBalance holding balance)
      fun _ => TiesOffBy address needed room' 0 := by
  have own := World.own_of_mem_some { holding with balance }
  by_cases here : holding.account = address
  · subst here
    have positive : 0 < balance ↔ 0 < balance.toNat := UInt64.lt_iff_toNat_lt
    have hadPositive : 0 < holding.balance ↔ 0 < holding.balance.toNat :=
      UInt64.lt_iff_toNat_lt
    have empty : balance = 0 ↔ balance.toNat = 0 := UInt64.toNat_inj.symm
    have hadEmpty : holding.balance = 0 ↔ holding.balance.toNat = 0 := UInt64.toNat_inj.symm
    have written (amount : Int)
        (exchanged :
          (if 0 < balance.toNat then 1 else 0 : Nat) ≤
            amount + (if 0 < holding.balance.toNat then 1 else 0 : Nat)) :
        Yields
          (fun world =>
            world.TiesOffBy holding.account needed room 0 ∧
              world.IsCurrent holding.account holding)
          (change fun world =>
            world.putRelationship holding.account holding.token (some { holding with balance }))
          fun _ => TiesOffBy holding.account needed room (owing .balance amount) := by
      refine yields_change ?_
      rintro world ⟨books, held⟩
      refine books.putRelationship own fun tie => ?_
      rw [held rfl, World.unitsOf_some]
      by_cases isBalance : tie = .balance
      · simpa [isBalance] using exchanged
      · simp [isBalance, owing]
    simp only [true_and] at enough
    unfold setBalance
    split
    · rename_i gains
      refine (written 1 ?_).bind fun _ => ?_
      · simp [positive.mp gains.2, hadEmpty.mp gains.1]
      · refine yields_settle_owing (fun _ => ⟨_, _, _, _, rfl⟩) (fun account _ fits => ?_)
          (fun account _ => account.counted_withPositiveBalances_of_ne _)
          (fun _ => needs rfl gains.1 gains.2) ?_
        · exact congrArg _ (UInt32.toNat_add_of_lt (by exact_mod_cast fits))
        · simpa [gains.1, gains.2] using enough
    · rename_i noGain
      have less : room' ≤ room := by omega
      split
      · rename_i loses
        refine (written (-1) ?_).bind fun _ => ?_
        · simp [hadPositive.mp loses.1, empty.mp loses.2]
        · refine yields_settle_owing (fun _ => ⟨_, _, _, _, rfl⟩) (fun account enough _ => ?_)
            (fun account _ => account.counted_withPositiveBalances_of_ne _)
            (fun owes => by omega) (by simpa using less)
          have one : (1 : UInt32).toNat = 1 := rfl
          simp only [Account.counted, UInt32.toNat_subClamp, one] at enough ⊢
          omega
      · rename_i noLoss
        refine (written 0 ?_).bind fun _ => Ensures.pure fun world books => ?_
        · have noGain : ¬ (holding.balance.toNat = 0 ∧ 0 < balance.toNat) := by
            rw [← hadEmpty, ← positive]
            exact noGain
          rw [Int.zero_add, Int.ofNat_le]
          split <;> split <;> omega
        · refine books.imp id less fun tie => ?_
          simp [owing]
  · have other := Ne.symm here
    simp only [here, false_and, if_false, Nat.add_zero] at enough
    have written :
        Yields
          (fun world =>
            world.TiesOffBy address needed room 0 ∧ world.IsCurrent address holding)
          (change fun world =>
            world.putRelationship holding.account holding.token (some { holding with balance }))
          fun _ => TiesOffBy address needed room' 0 := by
      refine yields_change ?_
      rintro world ⟨books, _⟩
      refine (books.imp id enough fun _ => Int.le_refl _).putRelationship own fun tie => ?_
      simp [here]
    refine written.bind fun _ => ?_
    split
    · exact yields_adjust_ties other _
    · split
      · exact yields_adjust_ties other _
      · exact Ensures.pure fun _ => id

/-! ## Transfers -/

/-- An account that is asked for is there. -/
theorem reads_ensureAccount
    (other : Address)
    (code : ResponseCode) :
    Reads world (ensureAccount other code) fun _ => world.HasAccount other := by
  refine (reads_ask _).bind fun found asked => ?_
  refine (reads_ensure _ _).imp (fun _ => id) ?_
  intro _ _ ⟨same, isAccount⟩
  cases found with
  | none => cases isAccount
  | some account => exact ⟨same, account, asked, by simpa using isAccount⟩

/-- Using up an allowance matters to no ties. -/
theorem keeps_spendAllowance_ties
    (token spender : Address)
    (leg : AccountAmount) :
    Keeps (TiesOffBy address needed room owed) (spendAllowance token spender leg) := by
  refine (keeps_ask _).bind fun allowed => ?_
  refine (keeps_ensure _ _).bind fun _ => ?_
  refine (keeps_ensure _ _).bind fun _ => ?_
  exact keeps_record_ties (fun _ => rfl) (fun _ => rfl) (fun _ => rfl) fun _ => rfl

/-- A leg ties its account to the token at most once, and only if it is a credit. -/
theorem yields_applyLeg_ties
    (token spender : Address)
    {leg : AccountAmount}
    (needs : leg.account = address → 0 < leg.amount → needed) :
    Yields (TiesOffBy address needed (room + 1) 0) (applyLeg token spender leg)
      fun _ => TiesOffBy address needed room 0 := by
  refine Yields.of_each fun world books => ?_
  refine (reads_relationship leg.account token).bind fun holding held => ?_
  have own := books.filed.relationship held
  refine (reads_ensure _ _).bind fun _ _ => ?_
  refine (reads_ensure _ _).bind fun _ _ => ?_
  have current : world.IsCurrent address holding := .of_relationship own held
  have about := World.isAboutEntries_isCurrent address holding
  have settled :
      Yields
        (fun world =>
          world.TiesOffBy address needed (room + 1) 0 ∧ world.IsCurrent address holding)
        (do
          let balance ← shifted holding.balance leg.amount .insufficientTokenBalance
          setBalance holding balance)
        fun _ => TiesOffBy address needed room 0 := by
    refine Yields.of_each fun world books => ?_
    refine (reads_shifted _ _ _).bind fun balance exactly => ?_
    refine (yields_setBalance_ties (fun here vacant positive => ?_) ?_).at_state books
    · refine needs (own.1.symm.trans here) (Int64.lt_iff_toInt_lt.mpr ?_)
      rw [vacant] at exactly
      have positive := UInt64.lt_iff_toNat_lt.mp positive
      have zero : (0 : UInt64).toNat = 0 := rfl
      rw [Int64.toInt_zero]
      omega
    · split <;> omega
  dsimp only
  split
  · have spent :
        Yields
          (fun world =>
            world.TiesOffBy address needed (room + 1) 0 ∧ world.IsCurrent address holding)
          (spendAllowance token spender leg)
          fun _ world =>
            world.TiesOffBy address needed (room + 1) 0 ∧ world.IsCurrent address holding :=
      (Yields.of_keeps (keeps_spendAllowance_ties token spender leg)).and
        (yields_spendAllowance about token spender leg)
    exact (spent.bind fun _ => settled).at_state ⟨books, current⟩
  · exact settled.at_state ⟨books, current⟩

/-- A piece that is handed over is counted out here and in there. -/
theorem yields_handOver
    {token : Address}
    {leg : NftTransfer}
    (moves : ¬ (leg.sender = address ∧ leg.receiver = address))
    {found : Nft} :
    Yields
      (fun world =>
        world.TiesOffBy address (needed ∨ leg.receiver = address) (room + 1) 0 ∧
          world.ownerOf? token leg.serial = some leg.sender)
      (do
        change fun world =>
          world.putNft token leg.serial
            (some { found with owner := leg.receiver, spender := Address.zero })
        adjust leg.sender fun account =>
          { account with ownedNfts := account.ownedNfts.subClamp 1 }
        adjust leg.receiver fun account =>
          { account with ownedNfts := account.ownedNfts + 1 })
      fun _ => TiesOffBy address needed room 0 := by
  have handed (amount : Int)
      (exchanged :
        (if leg.receiver = address then 1 else 0 : Nat) ≤
          amount + (if leg.sender = address then 1 else 0 : Nat)) :
      Yields
        (fun world =>
          world.TiesOffBy address (needed ∨ leg.receiver = address) (room + 1) 0 ∧
            world.ownerOf? token leg.serial = some leg.sender)
        (change fun world =>
          world.putNft token leg.serial
            (some { found with owner := leg.receiver, spender := Address.zero }))
        fun _ =>
          TiesOffBy address (needed ∨ leg.receiver = address) (room + 1)
            (owing .piece amount) := by
    refine yields_change fun world ⟨books, owned⟩ => books.putNft fun tie => ?_
    rw [owned]
    by_cases isPiece : tie = .piece
    · simpa [isPiece] using exchanged
    · simp [isPiece, owing]
  have weaken {world : World}
      (books : world.TiesOffBy address (needed ∨ leg.receiver = address) room 0) :
      world.TiesOffBy address needed room 0 :=
    books.imp .inl (Nat.le_refl _) fun _ => Int.le_refl _
  have one : (1 : UInt64).toNat = 1 := rfl
  by_cases gives : leg.sender = address
  · have elsewhere : leg.receiver ≠ address := fun takes => moves ⟨gives, takes⟩
    have given :
        Yields
          (TiesOffBy address (needed ∨ leg.receiver = address) (room + 1) (owing .piece (-1)))
          (adjust leg.sender fun account =>
            { account with ownedNfts := account.ownedNfts.subClamp 1 })
          fun _ => TiesOffBy address (needed ∨ leg.receiver = address) room 0 := by
      rw [gives]
      refine yields_settle_owing (fun _ => ⟨_, _, _, _, rfl⟩) (fun account enough _ => ?_)
        (fun account _ => account.counted_withOwnedNfts_of_ne _) (fun owes => by omega)
        (by simp)
      simp only [Account.counted, UInt64.toNat_subClamp, one] at enough ⊢
      omega
    refine (handed (-1) (by simp [gives, elsewhere])).bind fun _ => given.bind fun _ => ?_
    exact (yields_adjust_ties (Ne.symm elsewhere) _).imp (fun _ => id) fun _ _ => weaken
  · by_cases takes : leg.receiver = address
    · have taken :
          Yields
            (TiesOffBy address (needed ∨ leg.receiver = address) (room + 1) (owing .piece 1))
            (adjust leg.receiver fun account =>
              { account with ownedNfts := account.ownedNfts + 1 })
            fun _ => TiesOffBy address (needed ∨ leg.receiver = address) room 0 := by
        rw [takes]
        refine yields_settle_owing (fun _ => ⟨_, _, _, _, rfl⟩) (fun account _ fits => ?_)
          (fun account _ => account.counted_withOwnedNfts_of_ne _) (fun _ => .inr rfl) (by simp)
        exact congrArg _ (UInt64.toNat_add_of_lt (by exact_mod_cast fits))
      refine (handed 1 (by simp [gives, takes])).bind fun _ => ?_
      refine (yields_adjust_ties (Ne.symm gives) _).bind fun _ => ?_
      exact taken.imp (fun _ => id) fun _ _ => weaken
    · refine (handed 0 (by simp [gives, takes])).bind fun _ => ?_
      refine (yields_adjust_ties (Ne.symm gives) _).bind fun _ => ?_
      refine (yields_adjust_ties (Ne.symm takes) _).imp (fun _ => id) fun _ _ books => ?_
      exact weaken (books.imp id (Nat.le_succ _) fun tie => by simp [owing])

/--
A piece that moves from one account to another is counted out here and in there.  Both
balances are those before the move, which is why it may not stay with one account.
-/
theorem yields_movePiece_ties
    (token spender : Address)
    {leg : NftTransfer}
    (moves : ¬ (leg.sender = address ∧ leg.receiver = address)) :
    Yields (TiesOffBy address needed (room + 2) 0) (movePiece token spender leg)
      fun _ => TiesOffBy address needed room 0 := by
  refine Yields.of_each fun world books => ?_
  refine (reads_piece _ _).bind fun found piece => ?_
  refine (reads_ensure _ _).bind fun _ owns => ?_
  dsimp only
  refine Reads.guarded (fun _ => reads_ensure _ _) fun _ => ?_
  refine (reads_ensureAccount _ _).bind fun _ hasReceiver => ?_
  refine (reads_relationship _ _).bind fun giving held => ?_
  refine (reads_relationship _ _).bind fun taking held' => ?_
  refine (reads_ensure _ _).bind fun _ _ => ?_
  refine (reads_shifted _ _ _).bind fun givingBalance debited => ?_
  refine (reads_shifted _ _ _).bind fun takingBalance credited => ?_
  have givingOwn := books.filed.relationship held
  have takingOwn := books.filed.relationship held'
  let owned (world : World) : Prop := world.ownerOf? token leg.serial = some leg.sender
  have aboutOwned : IsAboutEntries owned := fun _ _ same owned =>
    (World.ownerOf?_congr (same.nft _ _)).trans owned
  have aboutTaking := World.isAboutEntries_isCurrent address taking
  have isHeld : giving.balance ≠ 0 := by
    intro vacant
    have debited : (givingBalance.toNat : Int) = giving.balance.toNat - 1 := debited
    rw [vacant] at debited
    have zero : (0 : UInt64).toNat = 0 := rfl
    omega
  have gives :
      Yields
        (fun world =>
          (world.TiesOffBy address (needed ∨ leg.receiver = address) (room + 2) 0 ∧
              world.IsCurrent address giving) ∧
            owned world ∧ world.IsCurrent address taking)
        (setBalance giving givingBalance)
        fun _ world =>
          world.TiesOffBy address (needed ∨ leg.receiver = address) (room + 2) 0 ∧
            owned world ∧ world.IsCurrent address taking := by
    refine (yields_setBalance_ties (fun _ vacant _ => (isHeld vacant).elim) ?_).and
      (yields_setBalance (fun _ _ same holds => ⟨aboutOwned same holds.1, aboutTaking same holds.2⟩)
        fun world ⟨owned, current⟩ => ⟨?_, fun here => ?_⟩)
    · simp [isHeld]
    · exact (World.ownerOf?_congr (World.nft_putRelationship _ _ _ _ _ _)).trans owned
    · rw [World.units_putRelationship_of_ne]
      · exact current here
      · rintro ⟨same, _⟩
        exact moves ⟨givingOwn.1.symm.trans same.symm, takingOwn.1.symm.trans here⟩
  have takes :
      Yields
        (fun world =>
          (world.TiesOffBy address (needed ∨ leg.receiver = address) (room + 2) 0 ∧
              world.IsCurrent address taking) ∧
            owned world)
        (setBalance taking takingBalance)
        fun _ world =>
          world.TiesOffBy address (needed ∨ leg.receiver = address) (room + 1) 0 ∧
            owned world := by
    refine (yields_setBalance_ties (fun here _ _ => .inr (takingOwn.1.symm.trans here)) ?_).and
      (yields_setBalance aboutOwned fun world owned => ?_)
    · split <;> omega
    · exact (World.ownerOf?_congr (World.nft_putRelationship _ _ _ _ _ _)).trans owned
  have hasReceiver (needs : needed ∨ leg.receiver = address) : world.HasAccount address := by
    rcases needs with needs | rfl
    · exact books.there needs
    · exact hasReceiver
  have ownedAt : owned world := by
    change world.ownerOf? token leg.serial = some leg.sender
    rw [World.ownerOf?_of_nft piece]
    simpa using owns
  refine (gives.at_state ⟨⟨{ books with there := hasReceiver }, .of_relationship givingOwn held⟩,
    ownedAt, .of_relationship takingOwn held'⟩).bind fun _ => ?_
  refine (takes.imp (fun _ ⟨books, owned, current⟩ => ⟨⟨books, current⟩, owned⟩)
    fun _ _ => id).bind fun _ => ?_
  exact yields_handOver moves

/-- A loop whose rounds leave nothing owed needs the room of all its rounds. -/
theorem yields_forM_ties
    {β : Type}
    (cost : β → Nat)
    {step : β → TokenAction PUnit}
    {items : List β}
    (round :
      ∀ item ∈ items, ∀ room,
        Yields (TiesOffBy address needed (room + cost item) 0) (step item)
          fun _ => TiesOffBy address needed room 0)
    (room : Nat) :
    Yields (TiesOffBy address needed (room + (items.map cost).sum) 0) (items.forM step)
      fun _ => TiesOffBy address needed room 0 := by
  induction items with
  | nil =>
      exact Ensures.pure fun _ => id
  | cons item rest inductionHypothesis =>
      rw [List.map_cons, List.sum_cons, Nat.add_comm (cost item), ← Nat.add_assoc]
      refine (round item (by simp) _).bind fun _ => ?_
      exact inductionHypothesis fun other member =>
        round other (List.mem_cons_of_mem _ member)

theorem yields_transferToken_ties
    (spender : Address)
    {list : TokenTransfers}
    (needs : list.Credits address → needed)
    (moves : ∀ leg ∈ list.nftTransfers, ¬ (leg.sender = address ∧ leg.receiver = address)) :
    Yields (TiesOffBy address needed (room + list.countings) 0) (transferToken spender list)
      fun _ => TiesOffBy address needed room 0 := by
  have legs (token : Token) :
      Yields (TiesOffBy address needed (room + list.countings) 0)
        (do
          list.transfers.forM (applyLeg list.token spender)
          list.nftTransfers.forM fun leg => do
            ensure token.isNonFungible .invalidTransactionBody
            movePiece list.token spender leg)
        fun _ => TiesOffBy address needed room 0 := by
    have amounts :
        Yields (TiesOffBy address needed (room + list.countings) 0)
          (list.transfers.forM (applyLeg list.token spender))
          fun _ =>
            TiesOffBy address needed (room + (list.nftTransfers.map fun _ => 2).sum) 0 := by
      rw [TokenTransfers.countings, Nat.add_comm (List.sum _), ← Nat.add_assoc]
      refine yields_forM_ties (fun _ => 1) (fun leg member room => ?_) _
      exact yields_applyLeg_ties list.token spender fun here positive =>
        needs ⟨leg, member, here, positive⟩
    refine amounts.bind fun _ => ?_
    refine yields_forM_ties (fun _ => 2) (fun leg member room => ?_) room
    refine (Yields.of_keeps (keeps_ensure _ _)).bind fun _ => ?_
    exact yields_movePiece_ties list.token spender (moves leg member)
  refine (Yields.of_keeps (keeps_liveToken _)).bind fun token => ?_
  dsimp only
  split
  · refine (Yields.of_keeps (keeps_ensure _ _)).bind fun _ => ?_
    refine (Yields.of_keeps (keeps_ensure _ _)).bind fun _ => ?_
    exact legs token
  · exact legs token

theorem yields_transfer_ties
    {transfer : CryptoTransfer}
    (noCurrency : transfer.hbarTransfers = [])
    (spender : Address)
    (needs : ∀ list ∈ transfer.tokenTransfers, list.Credits address → needed)
    (moves :
      ∀ list ∈ transfer.tokenTransfers, ∀ leg ∈ list.nftTransfers,
        ¬ (leg.sender = address ∧ leg.receiver = address))
    (room : Nat) :
    Yields
      (TiesOffBy address needed
        (room + (transfer.tokenTransfers.map TokenTransfers.countings).sum) 0)
      (TokenAction.transfer transfer spender)
      fun _ => TiesOffBy address needed room 0 := by
  unfold TokenAction.transfer transferCurrency
  rw [noCurrency]
  refine (Yields.of_keeps (Keeps.pure _)).bind fun _ => ?_
  refine yields_forM_ties TokenTransfers.countings (fun list member room => ?_) room
  exact yields_transferToken_ties spender (needs list member) (moves list member)

end TokenAction

end LedgerEvm
