import LedgerEvm.Ledger.Transfer
import LedgerEvm.Proofs.Actions
import LedgerEvm.Proofs.Ledger.Overlay

namespace LedgerEvm

/-!
# Writing accounts

An account is changed in two steps: it is claimed for writing, which may refuse it,
and then replaced in the innermost journal.  Here the claim is a question to the world
and the replacement is one write, so that every change of an account is one of these.
-/

namespace Table

variable {κ ν : Type} [Numbered κ]

/-- Of two entries put under one key the later counts. -/
theorem insert_insert
    (table : Table κ ν)
    (key : κ)
    (first second : ν) :
    (table.insert key first).insert key second = table.insert key second := by
  apply ext_rows
  intro number
  simp only [insert, Std.ExtTreeMap.getElem?_insert]
  split <;> rfl

/-- Putting the entry that is there changes nothing. -/
theorem insert_get?_self
    {table : Table κ ν}
    {key : κ}
    {value : ν}
    (present : table.get? key = some value) :
    table.insert key value = table := by
  apply ext_rows
  intro number
  simp only [insert, Std.ExtTreeMap.getElem?_insert, Std.compare_eq_iff_eq]
  split
  · rename_i same
    rw [← same]
    exact present.symm
  · rfl

end Table

namespace Journal

theorem isLocal_insertAccount
    (address : Address)
    (account : Account) :
    IsLocal fun journal =>
      { journal with accounts := journal.accounts.insert address account } := by
  intro outer inner
  simp [absorb, Table.overlay_insert]

end Journal

namespace World

variable {world : World}

/-! ## Reaching accounts -/

/-- Calls to the address are not redirected to a token. -/
def IsPlain (world : World) (address : Address) : Prop :=
  world.redirectsTokenCalls = true → world.token address = .ok none

/-- Without redirection the account under the address is reached, unless it is deleted. -/
theorem get_of_isPlain
    {address : Address}
    (isPlain : world.IsPlain address) :
    world.get address =
      (world.accountEntry address).map fun entry =>
        entry.filter fun account => !account.deleted := by
  unfold get
  cases redirects : world.redirectsTokenCalls with
  | false =>
      rfl
  | true =>
      simp only [isPlain redirects, if_true]
      rfl

/-- Redirection answers with an account that stands for the token, if it answers. -/
theorem get_of_not_isPlain
    {address : Address}
    (redirected : ¬ world.IsPlain address) :
    world.get address = .ok (some (Account.ofToken address)) ∨
      ∃ error, world.get address = .error error := by
  simp only [IsPlain, Classical.not_imp] at redirected
  obtain ⟨redirects, found⟩ := redirected
  unfold get
  simp only [redirects, if_true]
  cases token : world.token address with
  | error error =>
      exact .inr ⟨error, rfl⟩
  | ok token? =>
      cases token? with
      | none => exact (found token).elim
      | some _ => exact .inl rfl

/-- An account that stands for no token is reached under its own address. -/
theorem of_get_of_not_isToken
    {address : Address}
    {account : Account}
    (reached : world.get address = .ok (some account))
    (noToken : account.isToken = false) :
    world.IsPlain address ∧ world.accountEntry address = .ok (some account) ∧
      account.deleted = false := by
  by_cases isPlain : world.IsPlain address
  · rw [get_of_isPlain isPlain] at reached
    cases entry : world.accountEntry address with
    | error error =>
        rw [entry] at reached
        cases reached
    | ok found =>
        rw [entry] at reached
        have kept := Option.filter_eq_some_iff.mp (Except.ok.inj reached)
        exact ⟨isPlain, by rw [kept.1], by simpa using kept.2⟩
  · rcases get_of_not_isPlain isPlain with standsForToken | ⟨error, failed⟩
    · rw [standsForToken] at reached
      cases reached
      cases noToken
    · rw [failed] at reached
      cases reached

/-- A token is always reached. -/
theorem isPlain_of_not_reaches
    {address : Address}
    (absent : world.reaches address = .ok false) :
    world.IsPlain address := by
  apply Classical.byContradiction
  intro redirected
  rcases get_of_not_isPlain redirected with standsForToken | ⟨error, failed⟩
  · simp [reaches, standsForToken, bind, Except.bind, pure, Except.pure] at absent
  · simp [reaches, failed, bind, Except.bind] at absent

/-! ## Changing accounts -/

/-- Put an account under an address. -/
def setAccount (world : World) (address : Address) (account : Account) : World :=
  world.record fun journal =>
    { journal with accounts := journal.accounts.insert address account }

/-- The account that an address gives out for writing. -/
def claim? (world : World) (address : Address) : Except StateError (Option Account) :=
  match world.journal.accounts.get? address with
  | some account => .ok (if account.deleted then none else some account)
  | none =>
      (world.get address).map fun found => found.filter fun account => !account.isToken

/-- Recording twice is recording both changes at once. -/
theorem record_record
    (world : World)
    (first second : Journal → Journal) :
    (world.record first).record second = world.record (second ∘ first) := by
  cases shape : world.layers <;> simp [record, shape]

/-- Of two accounts put under one address the later counts. -/
theorem setAccount_setAccount
    (world : World)
    (address : Address)
    (first second : Account) :
    (world.setAccount address first).setAccount address second =
      world.setAccount address second := by
  simp only [setAccount, record_record]
  congr 1
  funext journal
  simp [Table.insert_insert]

/-- A change of an account is a claim and one write. -/
theorem updateAccount_eq
    (world : World)
    (address : Address)
    (change : Account → Account) :
    world.updateAccount address change =
      (world.claim? address).map fun
        | some account => (true, world.setAccount address (change account))
        | none => (false, world) := by
  unfold updateAccount claimAccount claim?
  cases inJournal : world.journal.accounts.get? address with
  | some account =>
      cases gone : account.deleted <;>
        simp [gone, bind, Except.bind, Except.map, pure, Except.pure, setAccount]
  | none =>
      cases found : world.get address with
      | error error =>
          rfl
      | ok reached =>
          cases reached with
          | none =>
              rfl
          | some account =>
              cases isToken : account.isToken with
              | true =>
                  simp [isToken, bind, Except.bind, Except.map, pure, Except.pure, Option.filter]
              | false =>
                  have twice := setAccount_setAccount world address account (change account)
                  unfold setAccount at twice
                  simp [isToken, bind, Except.bind, Except.map, pure, Except.pure,
                    Option.filter, setAccount, twice]

/-- An address that gives no account out leaves the world as it is. -/
theorem updateAccount_cases
    {address : Address}
    {change : Account → Account}
    {reached : Bool}
    {after : World}
    (result : world.updateAccount address change = .ok (reached, after)) :
    (world.claim? address = .ok none ∧ reached = false ∧ after = world) ∨
    ∃ account,
      world.claim? address = .ok (some account) ∧ reached = true ∧
        after = world.setAccount address (change account) := by
  rw [updateAccount_eq] at result
  cases claimed : world.claim? address with
  | error error =>
      rw [claimed] at result
      cases result
  | ok given =>
      rw [claimed] at result
      cases given with
      | none =>
          cases result
          exact .inl ⟨rfl, rfl, rfl⟩
      | some account =>
          cases result
          exact .inr ⟨account, rfl, rfl, rfl⟩

/-- The overlay after an account has been put. -/
theorem overlay_setAccount
    (isOpen : world.IsOpen)
    (address : Address)
    (account : Account) :
    (world.setAccount address account).overlay =
      { world.overlay with
        accounts := world.overlay.accounts.insert address account } :=
  overlay_record isOpen (Journal.isLocal_insertAccount address account)

/-- What the innermost journal holds is what all of them say. -/
theorem overlay_accounts_of_journal
    {address : Address}
    {account : Account}
    (inJournal : world.journal.accounts.get? address = some account) :
    world.overlay.accounts.get? address = some account := by
  cases shape : world.layers with
  | nil =>
      simp [journal, shape, Journal.empty] at inJournal
  | cons inner outer =>
      simp only [journal, shape, List.headD_cons] at inJournal
      simp [overlay, shape, Journal.merged, Journal.absorb, Table.get?_overlay, inJournal]

/-- What the innermost journal holds is what is read. -/
theorem accountEntry_of_journal
    {address : Address}
    {account : Account}
    (inJournal : world.journal.accounts.get? address = some account) :
    world.accountEntry address = .ok (some account) := by
  rw [accountEntry_eq, overlay_accounts_of_journal inJournal]
  rfl

/-- An account that is given out is read under its address and is not deleted. -/
theorem accountEntry_of_claim?
    {address : Address}
    {account : Account}
    (claimed : world.claim? address = .ok (some account)) :
    world.accountEntry address = .ok (some account) ∧ account.deleted = false := by
  unfold claim? at claimed
  cases inJournal : world.journal.accounts.get? address with
  | some known =>
      simp only [inJournal, Except.ok.injEq] at claimed
      cases gone : known.deleted with
      | true =>
          rw [gone] at claimed
          cases claimed
      | false =>
          rw [gone] at claimed
          cases claimed
          exact ⟨accountEntry_of_journal inJournal, gone⟩
  | none =>
      simp only [inJournal] at claimed
      cases reached : world.get address with
      | error error =>
          rw [reached] at claimed
          cases claimed
      | ok found =>
          rw [reached] at claimed
          obtain ⟨rfl, noToken⟩ := Option.filter_eq_some_iff.mp (Except.ok.inj claimed)
          exact (of_get_of_not_isToken reached (by simpa using noToken)).2

/-- Putting an account leaves the entries of other addresses. -/
theorem accountEntry_setAccount_of_ne
    {address other : Address}
    (different : other ≠ address)
    (account : Account) :
    (world.setAccount address account).accountEntry other = world.accountEntry other := by
  simp only [accountEntry, setAccount, snapshot_record]
  rw [latest?_record world fun journal => Table.get?_insert_of_ne _ different _]

/-- Putting an account leaves all tokens. -/
theorem token_setAccount
    (address other : Address)
    (account : Account) :
    (world.setAccount address account).token other = world.token other :=
  token_record world other fun _ => rfl

theorem redirectsTokenCalls_setAccount
    (address : Address)
    (account : Account) :
    (world.setAccount address account).redirectsTokenCalls = world.redirectsTokenCalls :=
  redirectsTokenCalls_record world _

/-- Putting an account redirects no calls. -/
theorem isPlain_setAccount
    (address other : Address)
    (account : Account) :
    (world.setAccount address account).IsPlain other ↔ world.IsPlain other := by
  simp only [IsPlain, token_setAccount, redirectsTokenCalls_setAccount]

/-- The account that has been put is read under its address. -/
theorem accountEntry_setAccount_self
    (isOpen : world.IsOpen)
    (address : Address)
    (account : Account) :
    (world.setAccount address account).accountEntry address = .ok (some account) := by
  rw [accountEntry_eq, overlay_setAccount isOpen, Table.get?_insert_self]
  rfl

/-- The account that has been put is reached, unless it is deleted or hidden by a token. -/
theorem get_setAccount_self
    (isOpen : world.IsOpen)
    {address : Address}
    (isPlain : world.IsPlain address)
    (account : Account) :
    (world.setAccount address account).get address =
      .ok (if account.deleted then none else some account) := by
  rw [get_of_isPlain ((isPlain_setAccount _ _ _).mpr isPlain),
    accountEntry_setAccount_self isOpen]
  cases gone : account.deleted <;> simp [Except.map, Option.filter, gone]

/-- Putting an account leaves what is reached at other addresses. -/
theorem get_setAccount_of_ne
    {address other : Address}
    (different : other ≠ address)
    (account : Account) :
    (world.setAccount address account).get other = world.get other := by
  simp only [get, token_setAccount, accountEntry_setAccount_of_ne different,
    redirectsTokenCalls_setAccount]

/-- Putting an account under the address of a token leaves what is reached there. -/
theorem get_setAccount_of_not_isPlain
    {address : Address}
    (redirected : ¬ world.IsPlain address)
    (account : Account) :
    (world.setAccount address account).get address = world.get address := by
  simp only [IsPlain, Classical.not_imp] at redirected
  obtain ⟨redirects, found⟩ := redirected
  simp only [get, token_setAccount, redirectsTokenCalls_setAccount, redirects, if_true]
  cases token : world.token address with
  | error error =>
      rfl
  | ok token? =>
      cases token? with
      | none => exact (found token).elim
      | some _ => rfl

/-- Putting an account leaves every answer that is not about accounts. -/
theorem view_setAccount
    (world : World)
    (address : Address)
    (account : Account) :
    { (world.setAccount address account).view with
        accountEntry := world.accountEntry
        get := world.get } = world.view := by
  obtain ⟨snapshot, redirects, timestamp, nextNum, layers⟩ := world
  cases layers <;> rfl

/-! ## Creating accounts -/

/-- The account that has been created is read under its address. -/
theorem accountEntry_createAccount_self
    (isOpen : world.IsOpen)
    (account : Account) :
    (world.createAccount account).accountEntry account.address = .ok (some account) := by
  cases shape : world.layers with
  | nil => exact (isOpen shape).elim
  | cons inner outer =>
      simp [accountEntry, createAccount, record, latest?, shape, Table.get?_insert_self]

/-- Creating an account leaves the entries of other addresses. -/
theorem accountEntry_createAccount_of_ne
    {account : Account}
    {other : Address}
    (different : other ≠ account.address) :
    (world.createAccount account).accountEntry other = world.accountEntry other := by
  simp only [accountEntry, createAccount, snapshot_record]
  rw [latest?_record world fun journal => Table.get?_insert_of_ne _ different _]

/-- Creating an account marks no other address. -/
theorem isCreated_createAccount_of_ne
    {account : Account}
    {other : Address}
    (different : other ≠ account.address) :
    (world.createAccount account).isCreated other = world.isCreated other := by
  cases shape : world.layers with
  | nil => simp [createAccount, record, shape]
  | cons journal outer =>
      simp [createAccount, record, shape, isCreated, Table.contains,
        Table.get?_insert_of_ne _ different]

/-! ## Putting tokens -/

/-- The overlay after a token has been put. -/
theorem overlay_putToken
    (isOpen : world.IsOpen)
    (token : Token) :
    (world.putToken token).overlay =
      { world.overlay with
        tokens := world.overlay.tokens.insert token.address token } :=
  overlay_record isOpen fun outer inner => by
    simp [Journal.absorb, Table.overlay_insert]

theorem redirectsTokenCalls_putToken
    (token : Token) :
    (world.putToken token).redirectsTokenCalls = world.redirectsTokenCalls :=
  redirectsTokenCalls_record world _

/-- Putting a token leaves all entries of accounts. -/
theorem accountEntry_putToken
    (token : Token)
    (address : Address) :
    (world.putToken token).accountEntry address = world.accountEntry address :=
  accountEntry_record world address fun _ => rfl

/-- The token that has been put is found under its address. -/
theorem token_putToken_self
    (isOpen : world.IsOpen)
    (token : Token) :
    (world.putToken token).token token.address = .ok (some token) := by
  rw [token_eq, overlay_putToken isOpen, Table.get?_insert_self]
  rfl

/-- Putting a token leaves the tokens of other addresses. -/
theorem token_putToken_of_ne
    {token : Token}
    {address : Address}
    (different : address ≠ token.address) :
    (world.putToken token).token address = world.token address := by
  simp only [World.token, putToken, snapshot_record]
  rw [latest?_record world fun journal => Table.get?_insert_of_ne _ different _]

/-- Where calls are redirected, the token that has been put is what is reached. -/
theorem get_putToken_self
    (isOpen : world.IsOpen)
    (redirects : world.redirectsTokenCalls = true)
    (token : Token) :
    (world.putToken token).get token.address =
      .ok (some (Account.ofToken token.address)) := by
  simp only [get, redirectsTokenCalls_putToken, redirects, if_true,
    token_putToken_self isOpen]
  rfl

/-- Putting a token leaves what is reached where no call is redirected to it. -/
theorem get_putToken
    {token : Token}
    {address : Address}
    (elsewhere : world.redirectsTokenCalls = true → address ≠ token.address) :
    (world.putToken token).get address = world.get address := by
  simp only [get, redirectsTokenCalls_putToken, accountEntry_putToken]
  cases redirects : world.redirectsTokenCalls with
  | false =>
      rfl
  | true =>
      rw [token_putToken_of_ne (elsewhere redirects)]

/-! ## Free addresses -/

/-- An address is free when neither an account nor a token has ever been there. -/
theorem isFree_iff
    {address : Address} :
    world.isFree address = .ok true ↔
      world.accountEntry address = .ok none ∧ world.token address = .ok none := by
  unfold isFree
  cases world.accountEntry address with
  | error error =>
      simp [bind, Except.bind]
  | ok entry =>
      cases entry with
      | some account =>
          simp [bind, Except.bind, pure, Except.pure]
      | none =>
          cases world.token address with
          | error error =>
              simp [bind, Except.bind]
          | ok token =>
              simp [bind, Except.bind, pure, Except.pure]

/-- Changing an account, which has to be there, does not occupy a free address. -/
theorem isFree_updateAccount
    {after : World}
    {address other : Address}
    {change : Account → Account}
    {reached : Bool}
    (free : world.isFree other = .ok true)
    (result : world.updateAccount address change = .ok (reached, after)) :
    after.isFree other = .ok true := by
  rcases updateAccount_cases result with ⟨_, _, rfl⟩ | ⟨account, claimed, _, rfl⟩
  · exact free
  · rw [isFree_iff] at free ⊢
    have different : other ≠ address := by
      rintro rfl
      rw [(accountEntry_of_claim? claimed).1] at free
      cases free.1
    rw [accountEntry_setAccount_of_ne different, token_setAccount]
    exact free

/-- Opening a frame occupies no address. -/
theorem isFree_push
    (address : Address) :
    world.push.isFree address = world.isFree address := by
  simp [isFree]

/-! ## Moving currency -/

/-- A question that is answered to the machine is answered by the world. -/
theorem eq_ok_of_lookUp
    {α : Type}
    {result : Except StateError α}
    {answer : α}
    (found : lookUp result = .ok answer) :
    result = .ok answer := by
  cases result with
  | error error => cases found
  | ok value =>
      cases found
      rfl

/--
What moving a value does: nothing when there is nothing to move; else it debits the
source, and credits the target or brings it into being.
-/
theorem transfer_cases
    {after : World}
    {source target : Address}
    {value : Word}
    (moved : world.transfer source target value = .ok after) :
    ((value = 0 ∨ source = target) ∧ after = world) ∨
    (value ≠ 0 ∧ source ≠ target ∧
      ∃ available reached debited reached' credited,
        world.balance source = .ok available ∧
        value ≤ available ∧
        world.updateAccount source
            (fun account => { account with balance := account.balance - value }) =
          .ok (reached, debited) ∧
        debited.updateAccount target
            (fun account => { account with balance := account.balance.addClamp value }) =
          .ok (reached', credited) ∧
        (reached' = true ∧ after = credited ∨
          reached' = false ∧ credited.reaches target = .ok false ∧
            after = credited.createAccount { address := target, balance := value })) := by
  unfold transfer at moved
  split at moved
  · rename_i nothing
    cases moved
    exact .inl ⟨nothing, rfl⟩
  · rename_i something
    obtain ⟨available, balance, moved⟩ := exists_of_bind_eq_ok moved
    have enough : value ≤ available := by
      by_cases short : available < value
      · simp only [if_pos short] at moved
        cases moved
      · exact BitVec.not_lt.mp short
    simp only [if_neg (BitVec.not_lt.mpr enough)] at moved
    obtain ⟨⟨reached, debited⟩, debit, moved⟩ := exists_of_bind_eq_ok moved
    obtain ⟨⟨reached', credited⟩, credit, moved⟩ := exists_of_bind_eq_ok moved
    simp only [not_or] at something
    refine .inr ⟨something.1, something.2, available, reached, debited, reached',
      credited, eq_ok_of_lookUp balance, enough, eq_ok_of_lookUp debit,
      eq_ok_of_lookUp credit, ?_⟩
    cases reached' with
    | true =>
        cases moved
        exact .inl ⟨rfl, rfl⟩
    | false =>
        obtain ⟨there, reaches, moved⟩ := exists_of_bind_eq_ok moved
        cases there with
        | true =>
            cases moved
        | false =>
            cases moved
            exact .inr ⟨rfl, eq_ok_of_lookUp reaches, rfl⟩

/-- Deleting an account is one change of it. -/
theorem updateAccount_of_deleteAccount
    {after : World}
    {address : Address}
    (deleted : world.deleteAccount address = .ok after) :
    world.updateAccount address (fun account => { account with deleted := true }) =
      .ok (true, after) := by
  obtain ⟨⟨reached, changed⟩, result, deleted⟩ := exists_of_bind_eq_ok deleted
  cases reached with
  | true =>
      cases deleted
      exact result
  | false =>
      cases deleted

end World

end LedgerEvm
