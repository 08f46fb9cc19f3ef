import LedgerEvm.Proofs.Ledger.Evolution
import LedgerEvm.Proofs.Machine.StartedFrames
import LedgerEvm.Proofs.Machine.StaticEntries
import LedgerEvm.Proofs.TokenService.Effects

namespace LedgerEvm

/-!
# Old accounts

Contracts are founded at free addresses, payments bring accounts into being where nothing is
reached, and new tokens get free addresses: nothing of this happens where an account or a
token stands already.  So what stood somewhere before a simulation stands there after any
write, and does not count as created, as long as it is not destroyed and is given no code.
-/

/--
What may stand at an address: the entry of an account with a code, the account that is reached
there with that code, or a token that stands for an account.
-/
inductive Occupant where
  | entry (code : Bytes)
  | account (code : Bytes)
  | token

namespace World

variable
  {world after : World}
  {address : Address}
  {occupant : Occupant}

/-- The entry of an account with the code, which is not deleted. -/
def HasCode (address : Address) (code : Bytes) (world : World) : Prop :=
  ∃ account,
    world.accountEntry address = .ok (some account) ∧ account.deleted = false ∧
      account.code = code

/-- No token that is found elsewhere carries the address as its name. -/
def NamesNoOther (address : Address) (world : World) : Prop :=
  ∀ {place : Address} {token : Token},
    world.token place = .ok (some token) → token.address = address → place = address

/-- The occupant stands at the address. -/
def HasOccupant (address : Address) (world : World) : Occupant → Prop
  | .entry code => world.HasCode address code
  | .account code =>
      world.HasCode address code ∧ world.IsPlain address ∧ world.NamesNoOther address
  | .token =>
      world.redirectsTokenCalls = true ∧ ∃ token, world.token address = .ok (some token)

/-- The occupant stands at the address in a world with an open frame, and is not a new one. -/
structure IsOldAt (address : Address) (occupant : Occupant) (world : World) : Prop where
  isOpen : world.IsOpen
  stands : world.HasOccupant address occupant
  isOld : world.isCreated address = false

/--
Where calls are not redirected they are not after a token has been put, if it was known before
under some address, or gets another one.
-/
theorem isPlain_putToken
    (isPlain : world.IsPlain address)
    (names : world.NamesNoOther address)
    {token : Token}
    (given :
      (∃ place before,
        world.token place = .ok (some before) ∧ token.address = before.address) ∨
        token.address ≠ address) :
    (world.putToken token).IsPlain address := by
  intro redirected
  have redirects : world.redirectsTokenCalls = true :=
    (redirectsTokenCalls_putToken token).symm.trans redirected
  have elsewhere : address ≠ token.address := by
    intro same
    rcases given with ⟨place, before, found, sameName⟩ | elsewhere
    · obtain rfl := names found (sameName.symm.trans same.symm)
      cases (isPlain redirects).symm.trans found
    · exact elsewhere same.symm
  exact (token_putToken_of_ne elsewhere).trans (isPlain redirects)

/-- A token is put under its own name. -/
theorem namesNoOther_putToken
    (isOpen : world.IsOpen)
    (names : world.NamesNoOther address)
    (token : Token) :
    (world.putToken token).NamesNoOther address := by
  intro place other found named
  by_cases same : place = token.address
  · subst same
    cases (token_putToken_self isOpen token).symm.trans found
    exact named
  · exact names ((token_putToken_of_ne same).symm.trans found) named

namespace HasOccupant

/-- Where something stands is not free. -/
theorem ne_of_isFree
    (stands : world.HasOccupant address occupant)
    {other : Address}
    (free : world.isFree other = .ok true) :
    other ≠ address := by
  rintro rfl
  obtain ⟨noEntry, noToken⟩ := isFree_iff.mp free
  cases occupant with
  | entry code =>
      obtain ⟨account, found, _⟩ := stands
      cases noEntry.symm.trans found
  | account code =>
      obtain ⟨⟨account, found, _⟩, _⟩ := stands
      cases noEntry.symm.trans found
  | token =>
      obtain ⟨_, token, found⟩ := stands
      cases noToken.symm.trans found

/-- Where something stands something is reached, unless nothing can be said. -/
theorem ne_of_not_reaches
    (stands : world.HasOccupant address occupant)
    {other : Address}
    (absent : world.reaches other = .ok false) :
    other ≠ address := by
  rintro rfl
  have isPlain := isPlain_of_not_reaches absent
  have reached (code : Bytes) : ¬ world.HasCode other code := by
    rintro ⟨account, found, alive, _⟩
    have given : world.get other = .ok (some account) := by
      simp [get_of_isPlain isPlain, found, Except.map, Option.filter, alive]
    simp [reaches, given, bind, Except.bind, pure, Except.pure] at absent
  cases occupant with
  | entry code => exact reached code stands
  | account code => exact reached code stands.1
  | token =>
      obtain ⟨redirects, token, found⟩ := stands
      cases (isPlain redirects).symm.trans found

/-- An occupant stays where its own entry and all tokens are left. -/
theorem congr
    (stands : world.HasOccupant address occupant)
    (redirects : after.redirectsTokenCalls = world.redirectsTokenCalls)
    (entry :
      ∀ code, world.HasCode address code → after.HasCode address code)
    (tokens : ∀ place, after.token place = world.token place) :
    after.HasOccupant address occupant := by
  cases occupant with
  | entry code => exact entry code stands
  | account code =>
      obtain ⟨hasCode, isPlain, names⟩ := stands
      refine ⟨entry code hasCode, fun redirected => ?_, fun {place token} found named => ?_⟩
      · exact (tokens address).trans (isPlain (redirects.symm.trans redirected))
      · exact names ((tokens place).symm.trans found) named
  | token =>
      obtain ⟨redirected, token, found⟩ := stands
      exact ⟨redirects.trans redirected, token, (tokens address).trans found⟩

/--
An occupant stays where a token is put that was known before under some address, or under an
address that was free.
-/
theorem putToken
    (isOpen : world.IsOpen)
    (stands : world.HasOccupant address occupant)
    {token : Token}
    (given :
      (∃ place before,
        world.token place = .ok (some before) ∧ token.address = before.address) ∨
        token.address ≠ address) :
    (world.putToken token).HasOccupant address occupant := by
  have hasCode {code : Bytes} (hasCode : world.HasCode address code) :
      (world.putToken token).HasCode address code := by
    obtain ⟨account, found, rest⟩ := hasCode
    exact ⟨account, (accountEntry_putToken token address).trans found, rest⟩
  cases occupant with
  | entry code => exact hasCode stands
  | account code =>
      obtain ⟨here, isPlain, names⟩ := stands
      exact ⟨hasCode here, isPlain_putToken isPlain names given,
        namesNoOther_putToken isOpen names token⟩
  | token =>
      obtain ⟨redirects, before, found⟩ := stands
      refine ⟨(redirectsTokenCalls_putToken token).trans redirects, ?_⟩
      by_cases same : address = token.address
      · subst same
        exact ⟨token, token_putToken_self isOpen token⟩
      · exact ⟨before, (token_putToken_of_ne same).trans found⟩

end HasOccupant

/-- Changing an account leaves a code unless it is the code of that account that is changed. -/
theorem HasCode.setAccount
    {code : Bytes}
    (hasCode : world.HasCode address code)
    (isOpen : world.IsOpen)
    {other : Address}
    {account : Account}
    (alike :
      other = address →
      ∀ before,
        world.accountEntry address = .ok (some before) →
        account.deleted = before.deleted ∧ account.code = before.code) :
    (world.setAccount other account).HasCode address code := by
  obtain ⟨before, found, alive, same⟩ := hasCode
  by_cases here : other = address
  · obtain ⟨sameDeleted, sameCode⟩ := alike here before found
    subst here
    exact ⟨account, accountEntry_setAccount_self isOpen other account,
      sameDeleted.trans alive, sameCode.trans same⟩
  · exact ⟨before, (accountEntry_setAccount_of_ne (Ne.symm here) account).trans found,
      alive, same⟩

namespace IsOldAt

variable (old : world.IsOldAt address occupant)
include old

/-- What is old depends on the answers of a world. -/
theorem congr
    (isOpen : after.IsOpen)
    (redirects : after.redirectsTokenCalls = world.redirectsTokenCalls)
    (same : after.view = world.view) :
    after.IsOldAt address occupant where
  isOpen := isOpen
  stands := by
    have entries := congrFun (congrArg LedgerView.accountEntry same) address
    refine old.stands.congr redirects (fun code hasCode => ?_)
      (congrFun (congrArg LedgerView.token same))
    obtain ⟨account, found, rest⟩ := hasCode
    exact ⟨account, entries.trans found, rest⟩
  isOld := (congrFun (congrArg LedgerView.isCreated same) address).trans old.isOld

/-- A write that concerns neither accounts nor tokens. -/
theorem record
    {change : Journal → Journal}
    (sameAccounts : ∀ journal, (change journal).accounts = journal.accounts)
    (sameTokens : ∀ journal, (change journal).tokens = journal.tokens)
    (sameCreated : ∀ journal, (change journal).created = journal.created) :
    (world.record change).IsOldAt address occupant where
  isOpen := (SameBelow.record world change).isOpen old.isOpen
  stands := by
    refine old.stands.congr (redirectsTokenCalls_record world change)
      (fun code hasCode => ?_) fun place => token_record world place sameTokens
    obtain ⟨account, found, rest⟩ := hasCode
    exact ⟨account, (accountEntry_record world address sameAccounts).trans found, rest⟩
  isOld := (isCreated_record world address sameCreated).trans old.isOld

/-- A change of an account leaves what is old unless it deletes it or gives it a code. -/
theorem updateAccount
    {other : Address}
    {change : Account → Account}
    {reached : Bool}
    (updated : world.updateAccount other change = .ok (reached, after))
    (alike :
      other = address →
      ∀ account,
        (change account).deleted = account.deleted ∧ (change account).code = account.code) :
    after.IsOldAt address occupant := by
  rcases updateAccount_cases updated with ⟨_, _, rfl⟩ | ⟨account, claimed, _, rfl⟩
  · exact old
  · have created :
        (world.setAccount other (change account)).isCreated address =
          world.isCreated address :=
      isCreated_record world address fun _ => rfl
    refine ⟨(SameBelow.record world _).isOpen old.isOpen, ?_, created.trans old.isOld⟩
    refine old.stands.congr (redirectsTokenCalls_setAccount _ _) (fun code hasCode => ?_)
      fun place => token_setAccount other place (change account)
    refine hasCode.setAccount old.isOpen fun here before found => ?_
    subst here
    cases (accountEntry_of_claim? claimed).1.symm.trans found
    exact alike rfl account

/-- An account that is created elsewhere leaves what is old. -/
theorem createAccount
    {account : Account}
    (elsewhere : account.address ≠ address) :
    (world.createAccount account).IsOldAt address occupant where
  isOpen := (SameBelow.record world _).isOpen old.isOpen
  stands := by
    refine old.stands.congr (redirectsTokenCalls_record world _) (fun code hasCode => ?_)
      fun place => token_record world place fun _ => rfl
    obtain ⟨before, found, rest⟩ := hasCode
    exact ⟨before, (accountEntry_createAccount_of_ne elsewhere.symm).trans found, rest⟩
  isOld := (isCreated_createAccount_of_ne elsewhere.symm).trans old.isOld

/-- A payment changes balances, and brings into being only who is not there. -/
theorem transfer
    {source target : Address}
    {value : Word}
    (moved : world.transfer source target value = .ok after) :
    after.IsOldAt address occupant := by
  rcases transfer_cases moved with
    ⟨_, rfl⟩ | ⟨_, _, _, _, debited, _, credited, _, _, debit, credit, ends⟩
  · exact old
  · have paid : debited.IsOldAt address occupant :=
      old.updateAccount debit fun _ _ => ⟨rfl, rfl⟩
    have received : credited.IsOldAt address occupant :=
      paid.updateAccount credit fun _ _ => ⟨rfl, rfl⟩
    rcases ends with ⟨_, rfl⟩ | ⟨_, absent, rfl⟩
    · exact received
    · exact received.createAccount (received.stands.ne_of_not_reaches absent)

/-- Where only contracts of the simulation are destroyed, what is old stays. -/
theorem destroy
    {emptied : World}
    {contract beneficiary : Address}
    {balance : Word}
    (swept : world.transfer contract beneficiary balance = .ok emptied)
    (isCreated : emptied.isCreated contract = true)
    (deleted : emptied.deleteAccount contract = .ok after) :
    after.IsOldAt address occupant := by
  have remains := old.transfer swept
  refine remains.updateAccount (updateAccount_of_deleteAccount deleted) fun here => ?_
  rw [here, remains.isOld] at isCreated
  cases isCreated

/-- A token that is put where one was known, or where nothing was, leaves what is old. -/
theorem putToken
    {token : Token}
    (given :
      (∃ place before,
        world.token place = .ok (some before) ∧ token.address = before.address) ∨
        token.address ≠ address) :
    (world.putToken token).IsOldAt address occupant where
  isOpen := (SameBelow.record world _).isOpen old.isOpen
  stands := old.stands.putToken old.isOpen given
  isOld := by
    have created : (world.putToken token).isCreated address = world.isCreated address :=
      isCreated_record world address fun _ => rfl
    exact created.trans old.isOld

end IsOldAt

/-! ## What is shown -/

/-- What is reached at an address is its own account, or stands for a token. -/
theorem cases_of_get
    {account : Account}
    (shown : world.get address = .ok (some account)) :
    (world.IsPlain address ∧ world.accountEntry address = .ok (some account) ∧
        account.deleted = false) ∨
      world.HasOccupant address .token ∧ account = Account.ofToken address := by
  by_cases isPlain : world.IsPlain address
  · rw [get_of_isPlain isPlain] at shown
    cases entry : world.accountEntry address with
    | error error =>
        rw [entry] at shown
        cases shown
    | ok found =>
        rw [entry] at shown
        obtain ⟨rfl, alive⟩ := Option.filter_eq_some_iff.mp (Except.ok.inj shown)
        exact .inl ⟨isPlain, rfl, by simpa using alive⟩
  · rcases get_of_not_isPlain isPlain with standsForToken | ⟨error, failed⟩
    · cases standsForToken.symm.trans shown
      simp only [IsPlain, Classical.not_imp] at isPlain
      obtain ⟨redirects, notNone⟩ := isPlain
      refine .inr ⟨⟨redirects, ?_⟩, rfl⟩
      cases read : world.token address with
      | error error => simp [get, redirects, read, bind, Except.bind] at standsForToken
      | ok token? =>
          cases token? with
          | none => exact (notNone read).elim
          | some token => exact ⟨token, rfl⟩
    · cases failed.symm.trans shown

/-- A token that calls are redirected to is reached. -/
theorem HasOccupant.get_of_token
    (stands : world.HasOccupant address .token) :
    world.get address = .ok (some (Account.ofToken address)) := by
  obtain ⟨redirects, token, found⟩ := stands
  simp [get, redirects, found, bind, Except.bind, pure, Except.pure]

/-- An account with a code is reached where no token hides it. -/
theorem HasOccupant.get_of_account
    {code : Bytes}
    (stands : world.HasOccupant address (.account code)) :
    ∃ account,
      world.get address = .ok (some account) ∧ account.deleted = false ∧
        account.code = code := by
  obtain ⟨⟨account, found, alive, same⟩, isPlain, _⟩ := stands
  refine ⟨account, ?_, alive, same⟩
  simp [get_of_isPlain isPlain, found, Except.map, Option.filter, alive]

/--
What one world shows of accounts is as it was in another: entries are not deleted and keep
their code, tokens are still tokens, and where tokens are found under their own names
whatever was reached is reached with its code.  Nothing that was reached counts as created.
-/
structure SparesOld (before after : World) : Prop where
  entries :
    ∀ {address : Address} {account : Account},
      before.accountEntry address = .ok (some account) →
      account.deleted = false →
      ∃ current,
        after.accountEntry address = .ok (some current) ∧ current.deleted = false ∧
          current.code = account.code
  tokens :
    before.redirectsTokenCalls = true →
    ∀ {address : Address} {token : Token},
      before.token address = .ok (some token) →
      after.get address = .ok (some (Account.ofToken address))
  accounts :
    (∀ {place : Address} {token : Token},
      before.token place = .ok (some token) → token.address = place) →
    ∀ {address : Address} {account : Account},
      before.get address = .ok (some account) →
      ∃ current,
        after.get address = .ok (some current) ∧ current.deleted = false ∧
          current.code = account.code
  created :
    ∀ {address : Address} {account : Account},
      before.get address = .ok (some account) → after.isCreated address = false

/-- What stands at an address and stays there is spared. -/
theorem SparesOld.of_isOldAt
    {before after : World}
    (stays :
      ∀ (address : Address) (occupant : Occupant),
        before.HasOccupant address occupant → after.IsOldAt address occupant) :
    before.SparesOld after where
  entries {address account} found alive :=
    (stays address (.entry account.code) ⟨account, found, alive, rfl⟩).stands
  tokens redirects {address token} found :=
    (stays address .token ⟨redirects, token, found⟩).stands.get_of_token
  accounts filed {address account} shown := by
    rcases cases_of_get shown with ⟨isPlain, found, alive⟩ | ⟨standsForToken, rfl⟩
    · have stands : before.HasOccupant address (.account account.code) :=
        ⟨⟨account, found, alive, rfl⟩, isPlain, fun known named => (filed known).symm.trans named⟩
      exact (stays address _ stands).stands.get_of_account
    · exact ⟨_, (stays address .token standsForToken).stands.get_of_token, rfl, rfl⟩
  created {address account} shown := by
    rcases cases_of_get shown with ⟨_, found, alive⟩ | ⟨standsForToken, _⟩
    · exact (stays address (.entry account.code) ⟨account, found, alive, rfl⟩).isOld
    · exact (stays address .token standsForToken).isOld

end World

/-!
## Old accounts are spared

Under rules that spare old contracts a contract is destroyed only if it was created in the
same transaction.  No account that the snapshot shows is ever created, so none of them is
deleted, or given other code, at any moment of a run.
-/

namespace World

variable
  {address : Address}
  {occupant : Occupant}

namespace IsOldAt

theorem isAboutAnswers
    (address : Address)
    (occupant : Occupant) :
    IsAboutAnswers (IsOldAt address occupant) where
  isOpen old := old.isOpen
  congr isOpen redirects same old := old.congr isOpen redirects same

/-- Operations on tokens create tokens at free addresses only, and count what is held. -/
theorem keptByTokens
    (address : Address)
    (occupant : Occupant) :
    TokenAction.KeptByTokens (IsOldAt address occupant) where
  count isCounting counted old := by
    refine old.updateAccount counted fun _ account => ?_
    obtain ⟨_, _, _, _, same⟩ := isCounting account
    rw [same]
    exact ⟨rfl, rfl⟩
  putRelationship _ _ _ old := old.record (fun _ => rfl) (fun _ => rfl) fun _ => rfl
  putNft _ _ _ old := old.record (fun _ => rfl) (fun _ => rfl) fun _ => rfl
  setAllowance _ _ _ _ old := old.record (fun _ => rfl) (fun _ => rfl) fun _ => rfl
  draw old := (isAboutAnswers address occupant).draw _ old
  changeSupply _ _ known old := old.putToken (.inl ⟨_, _, known, rfl⟩)
  newToken free old := old.putToken (.inr (old.stands.ne_of_isFree free))

/-- All of a run keeps what is old, where the rule spares it. -/
theorem keptByRuns
    {rule : SelfDestructRule}
    (spares : rule.sparesOldContracts = true)
    (address : Address)
    (occupant : Occupant) :
    KeptByRuns rule (· ≠ address) (IsOldAt address occupant) where
  toIsAboutAnswers := isAboutAnswers address occupant
  transfer old moved := old.transfer moved
  destroy old _ _ swept doomed deleted := old.destroy swept (doomed spares) deleted
  touch move old := by
    cases move with
    | warmAccount => exact old.record (fun _ => rfl) (fun _ => rfl) fun _ => rfl
    | warmSlot => exact old.record (fun _ => rfl) (fun _ => rfl) fun _ => rfl
  setStorage _ _ _ old := old.record (fun _ => rfl) (fun _ => rfl) fun _ => rfl
  setTransient _ _ _ old := old.record (fun _ => rfl) (fun _ => rfl) fun _ => rfl
  countNonce counted old := old.updateAccount counted fun _ _ => ⟨rfl, rfl⟩
  mayFound_of_isFree free old := old.stands.ne_of_isFree free
  newContract free old := old.createAccount (old.stands.ne_of_isFree free)
  deploy elsewhere deployed old :=
    old.updateAccount deployed fun here => (elsewhere here).elim
  answer := DispatchedCall.keeps_answer (keptByTokens address occupant)
    (isAboutAnswers address occupant)

/-- What stands in a snapshot is old where a transaction over it enters. -/
theorem warmed
    {snapshot : Snapshot}
    {redirectsTokenCalls : Bool}
    {timestamp : Timestamp}
    {firstNum : UInt64}
    (stands :
      (World.ofSnapshot snapshot redirectsTokenCalls timestamp firstNum).HasOccupant address
        occupant)
    (context : FrameContext)
    (isCreation : Bool) :
    (Environment.warmed context isCreation
        (World.ofSnapshot snapshot redirectsTokenCalls timestamp firstNum)).IsOldAt address
      occupant := by
  have entered :
      (World.ofSnapshot snapshot redirectsTokenCalls timestamp firstNum).push.IsOldAt address
        occupant := by
    refine ⟨isOpen_push _, stands.congr rfl (fun code hasCode => ?_) (token_push _), rfl⟩
    obtain ⟨account, found, rest⟩ := hasCode
    exact ⟨account, (accountEntry_push _ _).trans found, rest⟩
  have kept (warm : Address) {world : World} (old : world.IsOldAt address occupant) :
      (world.warmAccount warm).IsOldAt address occupant :=
    old.record (fun _ => rfl) (fun _ => rfl) fun _ => rfl
  unfold Environment.warmed
  cases isCreation with
  | true => exact kept _ entered
  | false => exact kept _ (kept _ entered)

end IsOldAt

end World

namespace Environment

/--
The worlds that a transaction comes through: those at each moment of the run of its first
frame, and the one that its first frame leaves, whether or not it has run any code.
-/
inductive ComesThrough
    (environment : Environment)
    (context : FrameContext)
    (world : World)
    (trace : Trace) :
    World → Prop where
  | during
      {start stack : CallStack} {count : Nat}
      (begins : start.Begins environment context world trace)
      (leads : CallStack.Leads (CallStack.Moves environment) count start stack) :
      ComesThrough environment context world trace stack.active.simulation.world
  | afterwards
      (isCreation : Bool) :
      ComesThrough environment context world trace
        (leaves (environment.firstFrame context isCreation)
          { world := warmed context isCreation world, trace }).world

/--
Under a rule that spares old contracts no account that the snapshot shows is deleted, given
other code, or taken for a new one, at any moment of any transaction.
-/
theorem spares_old_accounts
    {environment : Environment}
    (spares : environment.rules.selfDestruct.sparesOldContracts = true)
    {snapshot : Snapshot}
    {redirectsTokenCalls : Bool}
    {timestamp : Timestamp}
    {firstNum : UInt64}
    {context : FrameContext}
    {trace : Trace}
    {reached : World}
    (comes :
      environment.ComesThrough context
        (World.ofSnapshot snapshot redirectsTokenCalls timestamp firstNum) trace reached) :
    (World.ofSnapshot snapshot redirectsTokenCalls timestamp firstNum).SparesOld reached := by
  refine .of_isOldAt fun address occupant stands => ?_
  have kept := World.IsOldAt.keptByRuns spares address occupant
  have entered := World.IsOldAt.warmed stands context
  cases comes with
  | during begins leads =>
      exact (kept.leads leads (kept.begins begins entered)).levels.holds
  | afterwards isCreation =>
      exact (kept.firstFrame context isCreation).holds_leaves (entered isCreation)

/--
A contract of the snapshot destructs itself for an heir.  What it holds is swept, but its
entry stays.
-/
theorem sweeping_spares_old_contract :
    let environment : Environment :=
      { rules := ⟨⟨0, 50, 0⟩, .cancun, ⟨true, true⟩, ⟨true, true⟩⟩
        prices := { schedule := FeeSchedule.empty, rates := RateTable.empty } }
    let contract := Address.ofNum 1001
    let heir := Address.ofNum 1002
    -- destruct for the heir
    let code : Bytes := [0x61, 0x03, 0xea, 0xff]
    let contents : Snapshot.Contents :=
      { accounts :=
          Table.ofList
            [(contract, { Account.newContract contract code with balance := 7 }),
              (heir, { address := heir })] }
    let world := World.ofSnapshot (.ofContents contents) true ⟨0⟩ 5000
    let context := FrameContext.ofTransaction heir contract 0 [] 100000 1 { }
    environment.rules.selfDestruct.sparesOldContracts = true ∧
      ∃ reached,
        environment.ComesThrough context world Trace.off reached ∧
          reached.accountEntry contract = .ok (some (Account.newContract contract code)) ∧
          reached.accountEntry heir = .ok (some { address := heir, balance := 7 }) ∧
          world.SparesOld reached := by
  intro environment contract heir code contents world context
  obtain ⟨start, instructions, stack, begins, leads, swept⟩ :=
    @CallStack.exists_run_of_advance environment context world (fun _ => true)
      (fun stack =>
        decide
          (stack.active.simulation.world.accountEntry contract =
              .ok (some (Account.newContract contract code)) ∧
            stack.active.simulation.world.accountEntry heir =
              .ok (some { address := heir, balance := 7 })))
      3 (by decide +kernel)
  obtain ⟨emptied, paid⟩ := of_decide_eq_true swept
  have comes :
      environment.ComesThrough context world Trace.off stack.active.simulation.world :=
    .during begins (leads.imp fun move => move.1)
  exact ⟨rfl, _, comes, emptied, paid, spares_old_accounts rfl comes⟩

end Environment

end LedgerEvm
