import LedgerEvm.Proofs.Ledger.Payments
import LedgerEvm.Proofs.Ledger.Ties

namespace LedgerEvm

/-!
# Payers

A payment to another account is covered by what its payer holds, and whatever is held can be
paid to any address but a token's.  A payer may be written to after a payment if it could be
before.
-/

namespace World

variable
  {world after : World}
  {source target address other : Address}
  {value : Word}

/-! ## Accounts that are given out -/

/-- Whether the account under an address is given out for writing. -/
def givesOut (world : World) (address : Address) : Except StateError Bool :=
  (world.claim? address).map Option.isSome

theorem exists_updateAccount_of_givesOut
    {reached : Bool}
    (given : world.givesOut address = .ok reached)
    (change : Account → Account) :
    ∃ after, world.updateAccount address change = .ok (reached, after) := by
  rw [updateAccount_eq]
  unfold givesOut at given
  cases claimed : world.claim? address with
  | error error =>
      rw [claimed] at given
      cases given
  | ok account? =>
      rw [claimed] at given
      cases given
      cases account? with
      | none => exact ⟨world, rfl⟩
      | some account => exact ⟨_, rfl⟩

/-- Where an account can be looked up it is known whether it is given out. -/
theorem exists_givesOut
    {account? : Option Account}
    (found : world.get address = .ok account?) :
    ∃ reached, world.givesOut address = .ok reached := by
  unfold givesOut claim?
  cases world.journal.accounts.get? address with
  | some account => exact ⟨_, rfl⟩
  | none =>
      rw [found]
      exact ⟨_, rfl⟩

/-- What is recorded in other tables makes no difference to who is given out. -/
theorem givesOut_record
    (world : World)
    (address : Address)
    {change : Journal → Journal}
    (accounts : ∀ journal : Journal, (change journal).accounts = journal.accounts)
    (tokens : ∀ journal : Journal, (change journal).tokens = journal.tokens) :
    (world.record change).givesOut address = world.givesOut address := by
  have entries : (world.record change).get address = world.get address := by
    simp only [get, redirectsTokenCalls_record,
      token_record world address fun journal => by rw [tokens],
      accountEntry_record world address fun journal => by rw [accounts]]
  have written :
      (world.record change).journal.accounts.get? address =
        world.journal.accounts.get? address := by
    cases shape : world.layers with
    | nil => simp only [record, shape]
    | cons inner outer => simp only [journal, record, shape, List.headD_cons, accounts]
  simp only [givesOut, claim?, entries, written]

theorem givesOut_setAccount_of_ne
    (different : other ≠ address)
    (account : Account) :
    (world.setAccount address account).givesOut other = world.givesOut other := by
  have written :
      (world.setAccount address account).journal.accounts.get? other =
        world.journal.accounts.get? other := by
    cases shape : world.layers with
    | nil => simp only [setAccount, record, shape]
    | cons inner outer =>
        simp only [journal, setAccount, record, shape, List.headD_cons,
          Table.get?_insert_of_ne _ different]
  simp only [givesOut, claim?, written, get_setAccount_of_ne different]

/-- An account that was given out and has not been deleted is given out again. -/
theorem givesOut_setAccount_self
    (given : world.givesOut address = .ok true)
    {account : Account}
    (alive : account.deleted = false) :
    (world.setAccount address account).givesOut address = .ok true := by
  cases shape : world.layers with
  | nil =>
      simp only [setAccount, record, shape]
      exact given
  | cons inner outer =>
      simp [givesOut, claim?, journal, setAccount, record, shape, Table.get?_insert_self, alive,
        Except.map]

/-- A change that deletes nothing leaves who is given out. -/
theorem givesOut_updateAccount
    {change : Account → Account}
    {reached : Bool}
    (updated : world.updateAccount address change = .ok (reached, after))
    (spares : ∀ account, (change account).deleted = account.deleted)
    (other : Address) :
    after.givesOut other = world.givesOut other := by
  rcases updateAccount_cases updated with ⟨_, _, rfl⟩ | ⟨account, given, _, rfl⟩
  · rfl
  · by_cases same : other = address
    · subst same
      have known : world.givesOut other = .ok true := by
        simp only [givesOut, given, Except.map, Option.isSome_some]
      rw [known]
      refine givesOut_setAccount_self known ?_
      rw [spares]
      exact (accountEntry_of_claim? given).2
    · exact givesOut_setAccount_of_ne same _

theorem givesOut_warmAccount
    (world : World)
    (warmed address : Address) :
    (world.warmAccount warmed).givesOut address = world.givesOut address :=
  givesOut_record world address (fun _ => rfl) fun _ => rfl

/-- A payment leaves whether its payer is given out. -/
theorem givesOut_source_of_transfer
    (moved : world.transfer source target value = .ok after) :
    after.givesOut source = world.givesOut source := by
  rcases transfer_cases moved with
    ⟨_, rfl⟩ | ⟨_, different, _, _, debited, _, credited, _, _, debit, credit, ends⟩
  · rfl
  · have paid : credited.givesOut source = world.givesOut source :=
      (givesOut_updateAccount credit (fun _ => rfl) source).trans
        (givesOut_updateAccount debit (fun _ => rfl) source)
    rcases ends with ⟨_, rfl⟩ | ⟨_, _, rfl⟩
    · exact paid
    · rw [← paid, createAccount_eq, givesOut_setAccount_of_ne different]
      exact givesOut_record credited source (fun _ => rfl) fun _ => rfl

/-- A payment does not create its payer. -/
theorem isCreated_source_of_transfer
    (moved : world.transfer source target value = .ok after) :
    after.isCreated source = world.isCreated source := by
  by_cases same : source = target
  · rcases transfer_cases moved with ⟨_, rfl⟩ | ⟨_, different, _⟩
    · rfl
    · exact (different same).elim
  · exact isCreated_transfer_of_ne moved same

/-- There is no account of its own to write to: none, a deleted one or one of a token. -/
def LacksAccount (world : World) (address : Address) : Prop :=
  world.accountEntry address = .ok none ∨
    (∃ account, world.accountEntry address = .ok (some account) ∧ account.deleted = true) ∨
    ∃ account, world.get address = .ok (some account) ∧ account.isToken = true

/-- Nobody is given out only where there is no account to write to. -/
theorem lacksAccount_of_refused
    (refused : world.givesOut address = .ok false) :
    world.LacksAccount address := by
  unfold givesOut claim? at refused
  cases inJournal : world.journal.accounts.get? address with
  | some known =>
      simp only [inJournal] at refused
      cases deleted : known.deleted with
      | false =>
          rw [deleted] at refused
          cases refused
      | true => exact .inr (.inl ⟨known, accountEntry_of_journal inJournal, deleted⟩)
  | none =>
      simp only [inJournal] at refused
      cases reached : world.get address with
      | error error =>
          rw [reached] at refused
          cases refused
      | ok account? =>
          rw [reached] at refused
          cases account? with
          | some account =>
              cases isToken : account.isToken with
              | true => exact .inr (.inr ⟨account, reached, isToken⟩)
              | false =>
                  simp only [Except.map, Option.filter, isToken, Bool.not_false, if_true,
                    Option.isSome_some, reduceCtorEq, Except.ok.injEq] at refused
          | none =>
              have isPlain : world.IsPlain address :=
                isPlain_of_not_reaches (by rw [reaches, reached]; rfl)
              rw [get_of_isPlain isPlain] at reached
              cases entry : world.accountEntry address with
              | error error =>
                  rw [entry] at reached
                  cases reached
              | ok entry? =>
                  rw [entry] at reached
                  cases entry? with
                  | none => exact .inl entry
                  | some account =>
                      have hidden := Option.filter_eq_none_iff.mp (Except.ok.inj reached)
                      exact .inr (.inl ⟨account, entry, by simpa using hidden account rfl⟩)

/-- An account that is deleted has to be given out for that. -/
theorem deleteAccount_eq
    {reached : Bool}
    (given : world.givesOut address = .ok reached) :
    if reached then
      ∃ after, world.deleteAccount address = .ok after
    else
      world.deleteAccount address = .error (.missingEntity address.text) := by
  obtain ⟨after, updated⟩ :=
    exists_updateAccount_of_givesOut given fun account => { account with deleted := true }
  unfold deleteAccount
  rw [updated]
  cases reached with
  | true => exact ⟨after, rfl⟩
  | false => rfl

/-! ## What payers hold -/

/-- The account holds a value, unless there is nothing to hold. -/
def Covers (world : World) (payer : Address) (value : Word) : Prop :=
  value = 0 ∨ ∃ held, world.balance payer = .ok held ∧ value ≤ held

/-- Worlds that reach the same account cover the same values. -/
theorem Covers.congr
    {payer : Address}
    (covers : world.Covers payer value)
    (same : world.balance payer = after.balance payer) :
    after.Covers payer value := by
  refine covers.imp_right ?_
  rintro ⟨held, read, enough⟩
  exact ⟨held, same.symm.trans read, enough⟩

/-- What is paid to another account is covered. -/
theorem covers_of_transfer
    (moved : world.transfer source target value = .ok after)
    (different : source ≠ target) :
    world.Covers source value := by
  rcases transfer_cases moved with
    ⟨nothing, _⟩ | ⟨_, _, available, _, _, _, _, held, enough, _⟩
  · exact .inl (nothing.resolve_right different)
  · exact .inr ⟨available, held, enough⟩

/-- A payment to oneself goes ahead, whatever is held. -/
theorem transfer_self
    (world : World)
    (source : Address)
    (value : Word) :
    world.transfer source source value = .ok world :=
  if_pos (.inr rfl)

/-- A change that leaves the balance of an account leaves what is read as its balance. -/
theorem balance_updateAccount
    {change : Account → Account}
    {reached : Bool}
    (updated : world.updateAccount address change = .ok (reached, after))
    (balance : ∀ account, (change account).balance = account.balance)
    (deleted : ∀ account, (change account).deleted = account.deleted) :
    after.balance address = world.balance address := by
  rcases updateAccount_cases updated with ⟨_, _, rfl⟩ | ⟨account, given, _, rfl⟩
  · rfl
  · obtain ⟨entry, alive⟩ := accountEntry_of_claim? given
    by_cases isOpen : world.IsOpen
    · by_cases isPlain : world.IsPlain address
      · have read : world.get address = .ok (some account) := by
          rw [get_of_isPlain isPlain, entry]
          simp only [Except.map, Option.filter, alive, Bool.not_false, if_true]
        simp only [World.balance, get_setAccount_self isOpen isPlain, read, deleted, alive,
          Bool.false_eq_true, if_false, bind, Except.bind, Option.map_some, balance]
      · simp only [World.balance, get_setAccount_of_not_isPlain isPlain]
    · -- the bare view takes no writes
      simp only [IsOpen, not_not] at isOpen
      simp only [setAccount, record, isOpen]

/-- All that an account holds can be paid to an address where no token is reached. -/
theorem exists_transfer_of_balance
    {heir? : Option Account}
    (held : world.balance source = .ok value)
    (found : world.get target = .ok heir?)
    (regular : ∀ heir ∈ heir?, heir.isToken = false) :
    ∃ after, world.transfer source target value = .ok after := by
  unfold transfer
  by_cases nothing : value = 0 ∨ source = target
  · exact ⟨world, if_pos nothing⟩
  · rw [if_neg nothing, held]
    obtain ⟨account?, payer, _⟩ := exists_of_bind_eq_ok held
    obtain ⟨reached, given⟩ := exists_givesOut payer
    obtain ⟨debited, debit⟩ :=
      exists_updateAccount_of_givesOut given fun account =>
        { account with balance := account.balance - value }
    have different : target ≠ source := fun same => nothing (.inr same.symm)
    have found : debited.get target = .ok heir? :=
      (get_updateAccount_of_ne different debit).trans found
    obtain ⟨reached', given'⟩ := exists_givesOut found
    obtain ⟨credited, credit⟩ :=
      exists_updateAccount_of_givesOut given' fun account =>
        { account with balance := account.balance.addClamp value }
    simp only [lookUp, Except.mapError, bind, Except.bind, BitVec.lt_irrefl, if_false, debit,
      credit]
    cases reached' with
    | true => exact ⟨credited, rfl⟩
    | false =>
        -- whoever is not given out is not reached either, unless a token is
        have absent : heir? = none := by
          cases heir? with
          | none => rfl
          | some heir =>
              have claimed := claim?_of_get found (regular heir rfl)
              rw [givesOut, claimed] at given'
              cases given'
        have unchanged : credited = debited := by
          rcases updateAccount_cases credit with ⟨_, _, same⟩ | ⟨_, _, impossible, _⟩
          · exact same
          · cases impossible
        subst unchanged absent
        simp only [reaches, found, bind, Except.bind, pure, Except.pure, Option.isSome_none,
          Bool.false_eq_true, if_false]
        exact ⟨_, rfl⟩

end World

end LedgerEvm
