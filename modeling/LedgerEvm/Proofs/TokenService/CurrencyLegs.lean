import Mathlib.Algebra.BigOperators.Ring.Finset
import LedgerEvm.Proofs.Clamp
import LedgerEvm.Proofs.TokenService.Ties

namespace LedgerEvm

/-!
# Legs of currency

Of the legs of a transfer every debit is checked against the balance that its account has
before all of them, and then each leg is applied to the balance that those before it have
left.  What a debit would take below zero is forgiven, and what a credit would add beyond the
greatest word is cut off.  So a balance moves by the sum of the account's own legs, what has
been forgiven and what has been cut off, and so does the total.
-/

/-- A balance brought into the range of a word. -/
def inWord (balance : Int) : Nat :=
  min balance.toNat (2 ^ 256 - 1)

/-- The legs of one account in their order. -/
def ownLegs (address : Address) (legs : List AccountAmount) : List AccountAmount :=
  legs.filter fun leg => leg.account = address

theorem ownLegs_cons
    (address : Address)
    (leg : AccountAmount)
    (legs : List AccountAmount) :
    ownLegs address (leg :: legs) =
      if leg.account = address then leg :: ownLegs address legs else ownLegs address legs := by
  simp only [ownLegs, List.filter_cons, decide_eq_true_eq]

/-- A balance after legs that are applied in turn. -/
def settled : Nat → List AccountAmount → Nat
  | held, [] => held
  | held, leg :: rest => settled (inWord (held + leg.amount.toInt)) rest

/-- What debits would have taken below zero, applied in turn. -/
def forgiven : Nat → List AccountAmount → Nat
  | _, [] => 0
  | held, leg :: rest =>
      (-(held + leg.amount.toInt)).toNat + forgiven (inWord (held + leg.amount.toInt)) rest

/-- What credits would have added beyond the greatest word, applied in turn. -/
def cutOff : Nat → List AccountAmount → Nat
  | _, [] => 0
  | held, leg :: rest =>
      (held + leg.amount.toInt - (2 ^ 256 - 1)).toNat +
        cutOff (inWord (held + leg.amount.toInt)) rest

/-! ## One balance -/

/-- Nothing else is added or lost than what is forgiven and what is cut off. -/
theorem settled_add_cutOff
    (held : Nat)
    (legs : List AccountAmount) :
    (settled held legs : Int) + cutOff held legs =
      held + TokenAction.netAmount legs + forgiven held legs := by
  induction legs generalizing held with
  | nil => simp [settled, cutOff, forgiven, TokenAction.netAmount]
  | cons leg rest inductionHypothesis =>
      have others := inductionHypothesis (inWord (held + leg.amount.toInt))
      have net :
          TokenAction.netAmount (leg :: rest) =
            leg.amount.toInt + TokenAction.netAmount rest :=
        rfl
      rw [net, settled, cutOff, forgiven]
      unfold inWord at others ⊢
      omega

/-- Credits alone are forgiven nothing. -/
theorem forgiven_of_credits
    (held : Nat)
    {legs : List AccountAmount}
    (credits : ∀ leg ∈ legs, 0 ≤ leg.amount.toInt) :
    forgiven held legs = 0 := by
  induction legs generalizing held with
  | nil => rfl
  | cons leg rest inductionHypothesis =>
      obtain ⟨credit, others⟩ := List.forall_mem_cons.mp credits
      rw [forgiven, inductionHypothesis _ others]
      omega

/-- A single debit that is within the balance at the beginning is forgiven nothing. -/
theorem forgiven_of_single_debit
    {start held : Nat}
    {legs : List AccountAmount}
    (enough : start ≤ held)
    (inRange : held < 2 ^ 256)
    (within : ∀ leg ∈ legs, 0 ≤ start + leg.amount.toInt)
    (single : legs.countP (fun leg => leg.amount < 0) ≤ 1) :
    forgiven held legs = 0 := by
  induction legs generalizing held with
  | nil => rfl
  | cons leg rest inductionHypothesis =>
      obtain ⟨covered, others⟩ := List.forall_mem_cons.mp within
      rw [forgiven]
      by_cases debit : leg.amount < 0
      · -- only credits came before, so the balance covers what it covered at the beginning
        rw [List.countP_cons_of_pos (by simpa using debit)] at single
        have credits : ∀ other ∈ rest, 0 ≤ other.amount.toInt := by
          have none := List.countP_eq_zero.mp (Nat.le_zero.mp (Nat.le_of_succ_le_succ single))
          intro other member
          have credit := none other member
          simpa [Int64.lt_iff_toInt_lt] using credit
        rw [forgiven_of_credits _ credits]
        omega
      · rw [List.countP_cons_of_neg (by simpa using debit)] at single
        have credit : 0 ≤ leg.amount.toInt := by
          simpa [Int64.lt_iff_toInt_lt] using debit
        rw [inductionHypothesis ?_ ?_ others single]
        · omega
        · unfold inWord
          omega
        · unfold inWord
          omega

/-! ## All balances -/

/-- The own legs of all accounts add up to all legs. -/
theorem sum_netAmount_ownLegs
    (legs : List AccountAmount) :
    ∑ address, TokenAction.netAmount (ownLegs address legs) = TokenAction.netAmount legs := by
  induction legs with
  | nil => exact Finset.sum_const_zero
  | cons leg rest inductionHypothesis =>
      have first (address : Address) :
          TokenAction.netAmount (ownLegs address (leg :: rest)) =
            (if leg.account = address then leg.amount.toInt else 0) +
              TokenAction.netAmount (ownLegs address rest) := by
        rw [ownLegs_cons]
        split
        · rfl
        · exact (Int.zero_add _).symm
      classical
      simp only [first, Finset.sum_add_distrib, inductionHypothesis]
      rw [Finset.sum_ite_eq, if_pos (Finset.mem_univ _)]
      rfl

namespace World

variable {world after : World}

/-- What is held at an address after legs of currency. -/
def heldAfter (world : World) (legs : List AccountAmount) (address : Address) : Nat :=
  settled (world.held address) (ownLegs address legs)

/-- What the debits of an account have been forgiven. -/
def forgivenAt (world : World) (legs : List AccountAmount) (address : Address) : Nat :=
  forgiven (world.held address) (ownLegs address legs)

/-- What the credits of an account have lost. -/
def cutOffAt (world : World) (legs : List AccountAmount) (address : Address) : Nat :=
  cutOff (world.held address) (ownLegs address legs)

theorem held_lt
    (world : World)
    (address : Address) :
    world.held address < 2 ^ 256 := by
  unfold held
  split
  · exact BitVec.isLt _
  · exact Nat.two_pow_pos _

theorem held_record
    {change : Journal → Journal}
    (address : Address)
    (sameAccounts : ∀ journal, (change journal).accounts = journal.accounts)
    (sameTokens : ∀ journal, (change journal).tokens = journal.tokens) :
    (world.record change).held address = world.held address :=
  held_eq_of_get (get_record world address sameAccounts sameTokens)

/-- An account that is put is what is held at its address; elsewhere as much is held as before. -/
theorem held_setAccount
    (isOpen : world.IsOpen)
    {address : Address}
    (isPlain : world.IsPlain address)
    {account : Account}
    (alive : account.deleted = false)
    (other : Address) :
    (world.setAccount address account).held other =
      if address = other then account.balance.toNat else world.held other := by
  split
  · rename_i same
    subst same
    rw [held_of_get (get_setAccount_self isOpen isPlain account), alive]
    rfl
  · rename_i different
    exact held_setAccount_of_ne (Ne.symm different) account

/-- Counting holdings leaves what is held, also where a token hides the account. -/
theorem held_updateAccount_of_isCounting
    (isOpen : world.IsOpen)
    {address : Address}
    {change : Account → Account}
    {reached : Bool}
    (isCounting : Account.IsCounting change)
    (updated : world.updateAccount address change = .ok (reached, after))
    (other : Address) :
    after.held other = world.held other := by
  rcases updateAccount_cases updated with ⟨_, _, rfl⟩ | ⟨account, claimed, _, rfl⟩
  · rfl
  · by_cases isPlain : world.IsPlain address
    · obtain ⟨entry, alive⟩ := accountEntry_of_claim? claimed
      obtain ⟨_, _, _, _, counted⟩ := isCounting account
      rw [held_setAccount isOpen isPlain (by rw [counted]; exact alive)]
      split
      · rename_i same
        subst same
        have found : world.get address = .ok (some account) := by
          rw [get_of_isPlain isPlain, entry]
          simp [Except.map, Option.filter, alive]
        rw [held_of_get found, counted]
        rfl
      · rfl
    · by_cases same : other = address
      · subst same
        exact held_eq_of_get (get_setAccount_of_not_isPlain isPlain _)
      · exact held_setAccount_of_ne same _

end World

namespace TokenAction

variable {world after : World}

/-- As much is held at each address as is told. -/
def HoldsAsTold (held : Address → Nat) (world : World) : Prop :=
  world.IsOpen ∧ ∀ address, world.held address = held address

theorem HoldsAsTold.record
    {held : Address → Nat}
    (holds : HoldsAsTold held world)
    {change : Journal → Journal}
    (sameAccounts : ∀ journal, (change journal).accounts = journal.accounts)
    (sameTokens : ∀ journal, (change journal).tokens = journal.tokens) :
    HoldsAsTold held (world.record change) :=
  ⟨holds.1.record change, fun address =>
    (World.held_record address sameAccounts sameTokens).trans (holds.2 address)⟩

/-- What is held at each address does not change with holdings of tokens. -/
theorem keptByHoldings_holdsAsTold
    (held : Address → Nat) :
    KeptByHoldings (HoldsAsTold held) where
  count isCounting counted holds :=
    ⟨(World.SameBelow.updateAccount counted).isOpen holds.1, fun address =>
      (World.held_updateAccount_of_isCounting holds.1 isCounting counted address).trans
        (holds.2 address)⟩
  putRelationship _ _ _ holds := holds.record (fun _ => rfl) fun _ => rfl
  putNft _ _ _ holds := holds.record (fun _ => rfl) fun _ => rfl
  setAllowance _ _ _ _ holds := holds.record (fun _ => rfl) fun _ => rfl

theorem toNat_magnitude
    (amount : Int64) :
    (magnitude amount).toNat = amount.toInt.natAbs := by
  have lower := Int64.le_toInt amount
  have upper := Int64.toInt_lt amount
  unfold magnitude
  rw [BitVec.toNat_ofNat]
  exact Nat.mod_eq_of_lt (by omega)

/-- A leg of currency is one sum, brought into the range of a word. -/
theorem toNat_applyCurrency
    (balance : Word)
    (amount : Int64) :
    (applyCurrency balance amount).toNat = inWord (balance.toNat + amount.toInt) := by
  have inRange := balance.isLt
  have zero : (0 : Int64).toInt = 0 := rfl
  unfold applyCurrency inWord
  split
  · rename_i debit
    rw [Int64.lt_iff_toInt_lt] at debit
    rw [Word.toNat_subClamp, toNat_magnitude]
    omega
  · rename_i credit
    rw [Int64.lt_iff_toInt_lt] at credit
    rw [Word.toNat_addClamp, BitVec.toNat_allOnes, toNat_magnitude]
    omega

/-- A leg of currency moves one balance. -/
theorem held_of_leg
    (isOpen : world.IsOpen)
    {leg : AccountAmount}
    {subject : Account}
    (has : world.HasSubject leg.account subject)
    (applied :
      adjust leg.account
          (fun account => { account with balance := applyCurrency account.balance leg.amount })
          world =
        .ok () after) :
    after.IsOpen ∧
      (∀ address, world.HasAccount address → after.HasAccount address) ∧
        ∀ address,
          after.held address =
            if leg.account = address then inWord (world.held address + leg.amount.toInt)
            else world.held address := by
  obtain ⟨isPlain, _, alive⟩ := World.of_get_of_not_isToken has.1 has.2
  rw [adjust_of_hasSubject has] at applied
  cases applied
  let changed : Account := { subject with balance := applyCurrency subject.balance leg.amount }
  have stays : changed.deleted = false := alive
  refine ⟨isOpen.record _, fun address hasAccount => ?_, fun address => ?_⟩
  · by_cases same : address = leg.account
    · subst same
      exact ⟨changed, has.setAccount isOpen stays has.2⟩
    · rw [World.HasAccount, World.get_setAccount_of_ne same]
      exact hasAccount
  · refine (World.held_setAccount isOpen isPlain stays address).trans ?_
    split
    · rename_i same
      subst same
      rw [World.held_of_get has.1]
      exact toNat_applyCurrency _ _
    · rfl

/-- Legs of currency that are applied in turn move each balance by its own legs. -/
theorem held_of_legs
    (isOpen : world.IsOpen)
    {legs : List AccountAmount}
    (reached : ∀ leg ∈ legs, world.HasAccount leg.account)
    (applied :
      legs.forM
          (fun leg =>
            adjust leg.account fun account =>
              { account with balance := applyCurrency account.balance leg.amount })
          world =
        .ok () after) :
    after.IsOpen ∧ ∀ address, after.held address = world.heldAfter legs address := by
  induction legs generalizing world with
  | nil =>
      cases applied
      exact ⟨isOpen, fun _ => rfl⟩
  | cons leg rest inductionHypothesis =>
      obtain ⟨⟨subject, has⟩, others⟩ := List.forall_mem_cons.mp reached
      obtain ⟨_, middle, first, applied⟩ := exists_of_run_eq_ok applied
      obtain ⟨isOpen, keepsAccounts, moved⟩ := held_of_leg isOpen has first
      obtain ⟨isOpen, held⟩ := inductionHypothesis isOpen
        (fun other member => keepsAccounts _ (others other member)) applied
      refine ⟨isOpen, fun address => ?_⟩
      rw [held, World.heldAfter, World.heldAfter, moved, ownLegs_cons]
      split <;> rfl

/-- A leg of currency that is let through is of an account that can cover it alone. -/
theorem reads_checkCurrencyLeg
    (leg : AccountAmount) :
    Reads world (checkCurrencyLeg leg) fun _ =>
      world.HasAccount leg.account ∧ 0 ≤ world.held leg.account + leg.amount.toInt := by
  refine (reads_ask _).bind fun balance found => ?_
  refine (reads_ensureAccount _ _).bind fun _ hasAccount => ?_
  have held : world.held leg.account = balance.toNat := by
    rw [World.held, found]
  have zero : (0 : Int64).toInt = 0 := rfl
  split
  · refine (reads_ensure _ _).imp (fun _ => id) ?_
    rintro _ _ ⟨same, enough⟩
    refine ⟨same, hasAccount, ?_⟩
    rw [decide_eq_true_eq, BitVec.le_def, toNat_magnitude] at enough
    omega
  · rename_i credit
    rw [Int64.lt_iff_toInt_lt] at credit
    exact Reads.pure ⟨hasAccount, by omega⟩

/-- Currency that is moved adds up to zero and moves each balance by its own legs. -/
theorem of_transferCurrency
    (isOpen : world.IsOpen)
    {legs : List AccountAmount}
    (moved : transferCurrency legs world = .ok () after) :
    netAmount legs = 0 ∧
      (∀ leg ∈ legs, 0 ≤ world.held leg.account + leg.amount.toInt) ∧
        after.IsOpen ∧ ∀ address, after.held address = world.heldAfter legs address := by
  unfold transferCurrency at moved
  split at moved
  · obtain ⟨_, _, ensured, goesOn⟩ := exists_of_run_eq_ok moved
    obtain ⟨rfl, balanced⟩ := (reads_ensure _ _).of_ok ensured rfl
    obtain ⟨_, _, checked, applied⟩ := exists_of_run_eq_ok goesOn
    obtain ⟨rfl, covered⟩ :=
      (Reads.forM fun leg _ => reads_checkCurrencyLeg leg).of_ok checked rfl
    obtain ⟨isOpen, held⟩ := held_of_legs isOpen (fun leg member => (covered leg member).1) applied
    exact ⟨by simpa using balanced, fun leg member => (covered leg member).2, isOpen, held⟩
  · rename_i empty
    have nothing : legs = [] := by simpa using empty
    subst nothing
    cases moved
    exact ⟨rfl, nofun, isOpen, fun _ => rfl⟩

/-- A transfer moves balances by its legs of currency, whatever tokens it moves. -/
theorem held_of_transfer
    (isOpen : world.IsOpen)
    {body : CryptoTransfer}
    {spender : Address}
    (accepted : transfer body spender world = .ok () after) :
    netAmount body.hbarTransfers = 0 ∧
      (∀ leg ∈ body.hbarTransfers, 0 ≤ world.held leg.account + leg.amount.toInt) ∧
        ∀ address, after.held address = world.heldAfter body.hbarTransfers address := by
  obtain ⟨_, funded, currency, tokens⟩ := exists_of_run_eq_ok accepted
  obtain ⟨balanced, covered, isOpen, held⟩ := of_transferCurrency isOpen currency
  have kept := keptByHoldings_holdsAsTold funded.held
  have keeps := Keeps.forM fun list (_ : list ∈ body.tokenTransfers) =>
    kept.transferToken spender list
  have same := keeps.of_ok tokens ⟨isOpen, fun _ => rfl⟩
  exact ⟨balanced, covered, fun address => (same.2 address).trans (held address)⟩

/--
An accepted transfer moves each balance by the sum of its own legs of currency, by what has
been forgiven and by what has been cut off, and so the total, since all legs add up to zero.
The balances and the total are exact just if at every address as much has been forgiven as cut
off.  Only an account that is debited more than once is forgiven anything.
-/
theorem accepted_currency_is_settled
    {body : CryptoTransfer}
    {spender : Address}
    (isOpen : world.IsOpen)
    (accepted : transfer body spender world = .ok () after) :
    let legs := body.hbarTransfers
    (∀ address,
        (after.held address : Int) + world.cutOffAt legs address =
          world.held address + netAmount (ownLegs address legs) +
            world.forgivenAt legs address) ∧
      after.total + ∑ address, world.cutOffAt legs address =
          world.total + ∑ address, world.forgivenAt legs address ∧
        (((∀ address,
              (after.held address : Int) =
                world.held address + netAmount (ownLegs address legs)) ∧
            after.total = world.total) ↔
          ∀ address, world.forgivenAt legs address = world.cutOffAt legs address) ∧
          ∀ address,
            (ownLegs address legs).countP (fun leg => leg.amount < 0) ≤ 1 →
              world.forgivenAt legs address = 0 := by
  intro legs
  obtain ⟨balanced, covered, held⟩ := held_of_transfer isOpen accepted
  have each (address : Address) :
      (after.held address : Int) + world.cutOffAt legs address =
        world.held address + netAmount (ownLegs address legs) + world.forgivenAt legs address := by
    rw [held]
    exact settled_add_cutOff _ _
  have all :
      after.total + ∑ address, world.cutOffAt legs address =
        world.total + ∑ address, world.forgivenAt legs address := by
    have sums := Finset.sum_congr rfl fun address (_ : address ∈ Finset.univ) => each address
    simp only [Finset.sum_add_distrib, sum_netAmount_ownLegs] at sums
    have zero : netAmount legs = 0 := balanced
    rw [zero, Int.add_zero] at sums
    unfold World.total
    exact_mod_cast sums
  refine ⟨each, all, ⟨fun ⟨exactly, _⟩ address => ?_, fun even => ⟨fun address => ?_, ?_⟩⟩,
    fun address single => ?_⟩
  · have here := each address
    have here' := exactly address
    omega
  · have here := each address
    have here' := even address
    omega
  · simp only [even] at all
    exact Nat.add_right_cancel all
  · refine forgiven_of_single_debit (Nat.le_refl _) (world.held_lt address) ?_ single
    intro leg member
    obtain ⟨among, own⟩ := List.mem_filter.mp member
    have own : leg.account = address := by simpa using own
    exact own ▸ covered leg among

/-- A payment from one account to another is settled exactly. -/
theorem payment_is_settled :
    let payer : Account := { address := Address.ofNum 1001, balance := 5 }
    let payee : Account := { address := Address.ofNum 1002 }
    let contents : Snapshot.Contents :=
      { accounts :=
          Table.ofList ([payer, payee].map fun account => (account.address, account)) }
    let world := (World.ofSnapshot (.ofContents contents) false ⟨0⟩ 5000).push
    let body : CryptoTransfer := ⟨[⟨payer.address, -5, false⟩, ⟨payee.address, 5, false⟩], []⟩
    world.IsOpen ∧
      ∃ after,
        transfer body payer.address world = .ok () after ∧
          world.forgivenAt body.hbarTransfers payer.address = 0 ∧
            (after.held payer.address : Int) +
                world.cutOffAt body.hbarTransfers payer.address =
              world.held payer.address +
                  netAmount (ownLegs payer.address body.hbarTransfers) +
                world.forgivenAt body.hbarTransfers payer.address := by
  intro payer payee contents world body
  have isOpen : world.IsOpen := World.isOpen_push _
  obtain ⟨after, accepted⟩ : ∃ after, transfer body payer.address world = .ok () after :=
    exists_of_answerOf_eq_ok (by decide +kernel)
  obtain ⟨each, _, _, single⟩ := accepted_currency_is_settled isOpen accepted
  exact ⟨isOpen, after, accepted, single payer.address (by decide +kernel), each payer.address⟩

/-- An account that is debited twice pays more than it has, and the rest is created. -/
theorem account_debited_twice_pays_too_much :
    let payer : Account := { address := Address.ofNum 1001, balance := 5 }
    let payee : Account := { address := Address.ofNum 1002 }
    let contents : Snapshot.Contents :=
      { accounts :=
          Table.ofList ([payer, payee].map fun account => (account.address, account)) }
    let world := (World.ofSnapshot (.ofContents contents) false ⟨0⟩ 5000).push
    let debit : AccountAmount := ⟨payer.address, -5, false⟩
    let body : CryptoTransfer := ⟨[debit, debit, ⟨payee.address, 10, false⟩], []⟩
    ∃ after,
      transfer body payer.address world = .ok () after ∧
        world.held payer.address = 5 ∧ world.held payee.address = 0 ∧
          after.held payer.address = 0 ∧ after.held payee.address = 10 ∧
            (after.held payer.address : Int) ≠
              world.held payer.address +
                netAmount (ownLegs payer.address body.hbarTransfers) := by
  intro payer payee contents world debit body
  obtain ⟨after, accepted⟩ : ∃ after, transfer body payer.address world = .ok () after :=
    exists_of_answerOf_eq_ok (by decide +kernel)
  have ends :
      (leaves (transfer body payer.address) world).held payer.address = 0 ∧
        (leaves (transfer body payer.address) world).held payee.address = 10 := by
    decide +kernel
  rw [leaves, accepted] at ends
  have begins : world.held payer.address = 5 ∧ world.held payee.address = 0 := by
    decide +kernel
  refine ⟨after, accepted, begins.1, begins.2, ends.1, ends.2, ?_⟩
  rw [ends.1, begins.1]
  decide +kernel

end TokenAction

end LedgerEvm
