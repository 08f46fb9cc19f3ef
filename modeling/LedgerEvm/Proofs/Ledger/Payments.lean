import LedgerEvm.Proofs.Ledger.Holdings

namespace LedgerEvm

/-!
# What payments leave

A payment debits the account of the payer and credits that of the payee.  An account that is
reached, and stands for no token, is changed by it in its balance only.
-/

namespace World

variable {world after : World}

/-! ## Reached accounts -/

/-- An account reached at an address that can be the subject of an operation. -/
def HasSubject (world : World) (address : Address) (subject : Account) : Prop :=
  world.get address = .ok (some subject) ∧ subject.isToken = false

theorem HasSubject.unique
    {address : Address}
    {subject other : Account}
    (has : world.HasSubject address subject)
    (hasOther : world.HasSubject address other) :
    subject = other :=
  Option.some.inj (Except.ok.inj (has.1.symm.trans hasOther.1))

/-- A subject that is put is found in its place, unless it is deleted or stands for a token. -/
theorem HasSubject.setAccount
    (isOpen : world.IsOpen)
    {address : Address}
    {subject account : Account}
    (has : world.HasSubject address subject)
    (alive : account.deleted = false)
    (noToken : account.isToken = false) :
    (world.setAccount address account).HasSubject address account := by
  refine ⟨?_, noToken⟩
  rw [get_setAccount_self isOpen (of_get_of_not_isToken has.1 has.2).1, alive]
  rfl

/-- An account that is reached and stands for no token is given out for writing. -/
theorem claim?_of_get
    {address : Address}
    {account : Account}
    (found : world.get address = .ok (some account))
    (noToken : account.isToken = false) :
    world.claim? address = .ok (some account) := by
  obtain ⟨_, entry, alive⟩ := of_get_of_not_isToken found noToken
  unfold claim?
  cases inJournal : world.journal.accounts.get? address with
  | some known =>
      have read := accountEntry_of_journal inJournal
      rw [entry] at read
      cases read
      simp only [alive, Bool.false_eq_true, if_false]
  | none =>
      simp only [found, Except.map, Option.filter, noToken, Bool.not_false, if_true]

theorem get_updateAccount_self
    {address : Address}
    {account : Account}
    {change : Account → Account}
    {reached : Bool}
    (isOpen : world.IsOpen)
    (found : world.get address = .ok (some account))
    (noToken : account.isToken = false)
    (alive : (change account).deleted = false)
    (updated : world.updateAccount address change = .ok (reached, after)) :
    after.get address = .ok (some (change account)) := by
  have claimed := claim?_of_get found noToken
  rcases updateAccount_cases updated with ⟨refused, _, _⟩ | ⟨given, given?, rfl, rfl⟩
  · rw [claimed] at refused
    cases refused
  · rw [claimed] at given?
    cases given?
    rw [get_setAccount_self isOpen (of_get_of_not_isToken found noToken).1, alive]
    rfl

theorem get_updateAccount_of_ne
    {address other : Address}
    {change : Account → Account}
    {reached : Bool}
    (different : other ≠ address)
    (updated : world.updateAccount address change = .ok (reached, after)) :
    after.get other = world.get other := by
  rcases updateAccount_cases updated with ⟨_, _, rfl⟩ | ⟨account, _, _, rfl⟩
  · rfl
  · exact get_setAccount_of_ne different _

theorem get_createAccount_of_ne
    {account : Account}
    {other : Address}
    (different : other ≠ account.address) :
    (world.createAccount account).get other = world.get other := by
  rw [createAccount_eq, get_setAccount_of_ne different, get_markCreated]

theorem get_createAccount_self
    {account : Account}
    (isOpen : world.IsOpen)
    (isPlain : world.IsPlain account.address)
    (alive : account.deleted = false) :
    (world.createAccount account).get account.address = .ok (some account) := by
  have marked : (world.markCreated account.address).IsOpen := isOpen.record _
  rw [createAccount_eq, get_setAccount_self marked ((isPlain_markCreated _ _).mpr isPlain),
    alive]
  rfl

/-- A change of an account that leaves its code, and does not delete it, leaves every code. -/
theorem code_updateAccount
    {address : Address}
    {change : Account → Account}
    {reached : Bool}
    (isOpen : world.IsOpen)
    (updated : world.updateAccount address change = .ok (reached, after))
    (keeps :
      ∀ account,
        (change account).code = account.code ∧ (change account).deleted = account.deleted)
    (other : Address) :
    after.code other = world.code other := by
  rcases updateAccount_cases updated with ⟨_, _, rfl⟩ | ⟨account, claimed, _, rfl⟩
  · rfl
  · by_cases same : other = address
    · subst same
      by_cases isPlain : world.IsPlain other
      · obtain ⟨entry, alive⟩ := accountEntry_of_claim? claimed
        obtain ⟨sameCode, sameDeleted⟩ := keeps account
        have before : world.get other = .ok (some account) := by
          rw [get_of_isPlain isPlain, entry]
          simp [Except.map, Option.filter, alive]
        have changed :
            (world.setAccount other (change account)).get other = .ok (some (change account)) := by
          rw [get_setAccount_self isOpen isPlain, sameDeleted, alive]
          rfl
        simp only [code, before, changed]
        exact congrArg Except.ok sameCode
      · simp only [code, get_setAccount_of_not_isPlain isPlain]
    · simp only [code, get_setAccount_of_ne same]

/-! ## Payments -/

section

variable
  {source target : Address}
  {value : Word}
  (isOpen : world.IsOpen)
  (moved : world.transfer source target value = .ok after)
include isOpen moved

/-- The payer's balance drops by what is paid to another. -/
theorem get_source_of_transfer
    {payer : Account}
    (found : world.get source = .ok (some payer))
    (noToken : payer.isToken = false)
    (something : value ≠ 0)
    (different : source ≠ target) :
    after.get source = .ok (some { payer with balance := payer.balance - value }) := by
  have alive := (of_get_of_not_isToken found noToken).2.2
  rcases transfer_cases moved with
    ⟨nothing, _⟩ | ⟨_, _, _, _, debited, _, credited, _, _, debit, credit, ends⟩
  · exact (nothing.elim something different).elim
  · have paid := get_updateAccount_self isOpen found noToken alive debit
    rw [← get_updateAccount_of_ne different credit] at paid
    rcases ends with ⟨_, rfl⟩ | ⟨_, _, rfl⟩
    · exact paid
    · rwa [get_createAccount_of_ne different]

/-- A payment changes an account in its balance only. -/
theorem exists_get_of_transfer
    {address : Address}
    {account : Account}
    (found : world.get address = .ok (some account))
    (noToken : account.isToken = false) :
    ∃ balance, after.get address = .ok (some { account with balance }) := by
  have alive := (of_get_of_not_isToken found noToken).2.2
  have update
      {world after : World}
      {other : Address}
      {balance : Word}
      {reached : Bool}
      (change : Word → Word)
      (isOpen : world.IsOpen)
      (found : world.get address = .ok (some { account with balance }))
      (updated :
        world.updateAccount other
            (fun account => { account with balance := change account.balance }) =
          .ok (reached, after)) :
      ∃ balance, after.get address = .ok (some { account with balance }) := by
    by_cases same : address = other
    · subst same
      exact ⟨_, get_updateAccount_self isOpen found noToken alive updated⟩
    · exact ⟨balance, (get_updateAccount_of_ne same updated).trans found⟩
  rcases transfer_cases moved with
    ⟨_, rfl⟩ | ⟨_, _, _, _, debited, _, credited, _, _, debit, credit, ends⟩
  · exact ⟨account.balance, found⟩
  · obtain ⟨_, found⟩ := update (· - value) isOpen found debit
    obtain ⟨_, found⟩ :=
      update (Word.addClamp · value) ((SameBelow.updateAccount debit).isOpen isOpen) found credit
    rcases ends with ⟨_, rfl⟩ | ⟨_, absent, rfl⟩
    · exact ⟨_, found⟩
    · -- nothing is reached where the account comes into being, so it is another one
      have different : address ≠ target := by
        rintro rfl
        simp [reaches, found, bind, Except.bind, pure, Except.pure] at absent
      exact ⟨_, (get_createAccount_of_ne different).trans found⟩

/-- A payment changes no code, and an account that it brings into being has none. -/
theorem code_transfer
    (address : Address) :
    after.code address = world.code address := by
  rcases transfer_cases moved with
    ⟨_, rfl⟩ | ⟨_, _, _, _, debited, _, credited, _, _, debit, credit, ends⟩
  · rfl
  · have openDebited : debited.IsOpen := (SameBelow.updateAccount debit).isOpen isOpen
    have openCredited : credited.IsOpen := (SameBelow.updateAccount credit).isOpen openDebited
    have paid : credited.code address = world.code address :=
      (code_updateAccount openDebited credit (fun _ => ⟨rfl, rfl⟩) address).trans
        (code_updateAccount isOpen debit (fun _ => ⟨rfl, rfl⟩) address)
    rcases ends with ⟨_, rfl⟩ | ⟨_, absent, rfl⟩
    · exact paid
    · by_cases same : address = target
      · subst same
        have nothing : credited.get address = .ok none := by
          unfold reaches at absent
          cases found : credited.get address with
          | error error =>
              rw [found] at absent
              cases absent
          | ok account? =>
              rw [found] at absent
              cases account? with
              | none => rfl
              | some account => cases absent
        have new :=
          @get_createAccount_self credited { address, balance := value } openCredited
            (isPlain_of_not_reaches absent) rfl
        rw [← paid]
        simp only [code, nothing, new]
        rfl
      · rw [← paid]
        simp only [code, @get_createAccount_of_ne credited { address := target, balance := value }
          address same]

end

/-! ## Numbers -/

theorem nextNum_record
    (world : World)
    (change : Journal → Journal) :
    (world.record change).nextNum = world.nextNum := by
  cases shape : world.layers <;> simp only [record, shape]

theorem nextNum_updateAccount
    {address : Address}
    {change : Account → Account}
    {reached : Bool}
    (updated : world.updateAccount address change = .ok (reached, after)) :
    after.nextNum = world.nextNum := by
  rcases updateAccount_cases updated with ⟨_, _, rfl⟩ | ⟨account, _, _, rfl⟩
  · rfl
  · exact nextNum_record _ _

/-- A payment draws no numbers. -/
theorem nextNum_transfer
    {source target : Address}
    {value : Word}
    (moved : world.transfer source target value = .ok after) :
    after.nextNum = world.nextNum := by
  rcases transfer_cases moved with
    ⟨_, rfl⟩ | ⟨_, _, _, _, debited, _, credited, _, _, debit, credit, ends⟩
  · rfl
  · have drawn := (nextNum_updateAccount credit).trans (nextNum_updateAccount debit)
    rcases ends with ⟨_, rfl⟩ | ⟨_, _, rfl⟩
    · exact drawn
    · exact (nextNum_record _ _).trans drawn

end World

end LedgerEvm
