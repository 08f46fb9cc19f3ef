import LedgerEvm.Proofs.Machine.OldAccounts
import LedgerEvm.Proofs.Ledger.Slots
import LedgerEvm.Proofs.Machine.FrameInvariants
import LedgerEvm.Proofs.Machine.GasBounds
import LedgerEvm.Proofs.Machine.StaticEntries

namespace LedgerEvm

/-!
# Contracts that are created

A new account is put in the journal of its frame and counts as created there.  Whatever that
frame does then, and whatever frames it opens and keeps or drops, its journal has an entry for
the address, so that the address gives its account out for writing unless it has been deleted.

A creation that completes has found an address where nothing was, has run the init code there,
and has made its output the code of the new account.  Between the founding and the deployment
the init code may do anything, also to the new account.
-/

namespace World

variable
  {world after : World}
  {address : Address}

/-! ## The journal of the frame -/

/-- The innermost journal has an entry for the address and counts it as created. -/
structure HasCreated (address : Address) (world : World) : Prop where
  entry : world.journal.accounts.contains address = true
  created : world.journal.created.contains address = true

namespace HasCreated

theorem isOpen
    (put : world.HasCreated address) :
    world.IsOpen := by
  intro bare
  have entry := put.entry
  rw [journal, bare] at entry
  cases (Table.contains_empty address).symm.trans entry

/-- A write to the journal that loses neither leaves both. -/
theorem record
    (put : world.HasCreated address)
    {change : Journal → Journal}
    (entries :
      ∀ journal,
        journal.accounts.contains address = true →
        (change journal).accounts.contains address = true)
    (marks :
      ∀ journal,
        journal.created.contains address = true →
        (change journal).created.contains address = true) :
    (world.record change).HasCreated address := by
  obtain ⟨inner, outer, shape⟩ := List.exists_cons_of_ne_nil put.isOpen
  have sameJournal : world.journal = inner := by rw [journal, shape, List.headD_cons]
  have changed : (world.record change).journal = change inner := by
    rw [journal, World.record, shape, List.headD_cons]
  constructor
  · rw [changed]
    exact entries inner (sameJournal ▸ put.entry)
  · rw [changed]
    exact marks inner (sameJournal ▸ put.created)

theorem createAccount
    (put : world.HasCreated address)
    (account : Account) :
    (world.createAccount account).HasCreated address :=
  put.record (fun _ entry => Table.contains_insert entry _ _)
    fun _ created => Table.contains_insert created _ _

theorem updateAccount
    (put : world.HasCreated address)
    {other : Address}
    {change : Account → Account}
    {reached : Bool}
    (result : world.updateAccount other change = .ok (reached, after)) :
    after.HasCreated address := by
  rcases updateAccount_cases result with ⟨_, _, rfl⟩ | ⟨account, _, _, rfl⟩
  · exact put
  · exact put.record (fun _ entry => Table.contains_insert entry _ _) fun _ => id

theorem transfer
    (put : world.HasCreated address)
    {source target : Address}
    {value : Word}
    (moved : world.transfer source target value = .ok after) :
    after.HasCreated address := by
  rcases transfer_cases moved with
    ⟨_, rfl⟩ | ⟨_, _, _, _, _, _, _, _, _, debit, credit, ends⟩
  · exact put
  · have received := (put.updateAccount debit).updateAccount credit
    rcases ends with ⟨_, rfl⟩ | ⟨_, _, rfl⟩
    · exact received
    · exact received.createAccount _

theorem of_move
    {isStatic : Bool}
    (move : Move isStatic world after)
    (put : world.HasCreated address) :
    after.HasCreated address := by
  cases move with
  | draw => exact ⟨put.entry, put.created⟩
  | transfer moved => exact put.transfer moved
  | countNonce counted => exact put.updateAccount counted
  | newContract => exact put.createAccount _
  | deploy deployed => exact put.updateAccount deployed
  | destroy _ _ swept _ deleted =>
      exact (put.transfer swept).updateAccount (updateAccount_of_deleteAccount deleted)
  | count _ counted => exact put.updateAccount counted
  | _ => exact put.record (fun _ => id) fun _ => id

/-- What a frame inside has written is laid over the journal. -/
theorem commit
    (put : world.HasCreated address)
    (inside : SameBelow world.push after) :
    after.commit.HasCreated address := by
  obtain ⟨parent, rest, below⟩ := List.exists_cons_of_ne_nil put.isOpen
  have outer : after.layers.tail = world.layers := inside.outer
  cases shape : after.layers with
  | nil =>
      rw [shape, below] at outer
      cases outer
  | cons child others =>
      rw [shape, List.tail_cons, below] at outer
      subst outer
      have sameJournal : world.journal = parent := by rw [journal, below, List.headD_cons]
      have absorbed : after.commit.journal = parent.absorb child := by
        simp only [World.commit, shape, journal, List.headD_cons]
      constructor
      · rw [absorbed, Journal.absorb, Table.contains_overlay, ← sameJournal, put.entry,
          Bool.or_true]
      · rw [absorbed, Journal.absorb, Table.contains_overlay, ← sameJournal, put.created,
          Bool.or_true]

/-- Dropping a frame inside restores the journal. -/
theorem revert
    (put : world.HasCreated address)
    (inside : SameBelow world.push after) :
    after.revert.HasCreated address := by
  rw [inside.revert_eq]
  exact ⟨put.entry, put.created⟩

/-- Whatever a frame does, what has been put in it stays. -/
theorem of_evolves
    {isStatic : Bool}
    (evolves : Evolves isStatic world after)
    (put : world.HasCreated address) :
    after.HasCreated address := by
  induction evolves with
  | refl => exact put
  | move _ move reached => exact of_move move (reached put)
  | kept _ inside reached _ => exact (reached put).commit (.of_evolves inside)
  | dropped _ inside reached _ => exact (reached put).revert (.of_evolves inside)

/-- An account that has been put counts as created. -/
theorem isCreated
    (put : world.HasCreated address) :
    world.isCreated address = true := by
  obtain ⟨inner, outer, shape⟩ := List.exists_cons_of_ne_nil put.isOpen
  have created := put.created
  simp only [journal, shape, List.headD_cons] at created
  simp only [World.isCreated, shape, List.any_cons, created, Bool.true_or]

/-- The account that has been put is given out for writing unless it has been deleted. -/
theorem exists_claim?
    (put : world.HasCreated address) :
    ∃ account,
      world.accountEntry address = .ok (some account) ∧
        world.claim? address = .ok (if account.deleted then none else some account) := by
  obtain ⟨account, found⟩ := Option.isSome_iff_exists.mp put.entry
  refine ⟨account, accountEntry_of_journal found, ?_⟩
  simp only [claim?, found]

/-- A code that is deployed reaches the account, unless that has been deleted before. -/
theorem exists_of_deploy
    (put : world.HasCreated address)
    {code : Bytes}
    {reached : Bool}
    (deployed :
      world.updateAccount address (fun account => { account with code }) = .ok (reached, after)) :
    ∃ account,
      after.accountEntry address = .ok (some account) ∧
        (account.deleted = true ∧ world.accountEntry address = .ok (some account) ∨
          account.deleted = false ∧ account.code = code) := by
  obtain ⟨account, found, claimed⟩ := put.exists_claim?
  rcases updateAccount_cases deployed with ⟨refused, _, rfl⟩ | ⟨given, gives, _, rfl⟩
  · cases deleted : account.deleted with
    | true => exact ⟨account, found, .inl ⟨deleted, found⟩⟩
    | false =>
        rw [claimed, deleted] at refused
        cases refused
  · obtain ⟨_, alive⟩ := accountEntry_of_claim? gives
    exact ⟨_, accountEntry_setAccount_self put.isOpen _ _, .inr ⟨alive, rfl⟩⟩

end HasCreated

/-! ## Tokens -/

/--
In a world with an open frame an account has an entry at the address, calls to the address are
not redirected, and no token that is found elsewhere carries the address as its name.
-/
structure HidesNoAccount (address : Address) (world : World) : Prop where
  isOpen : world.IsOpen
  entry : ∃ account, world.accountEntry address = .ok (some account)
  isPlain : world.IsPlain address
  names : world.NamesNoOther address

namespace HidesNoAccount

theorem isAboutAnswers
    (address : Address) :
    IsAboutAnswers (HidesNoAccount address) where
  isOpen holds := holds.isOpen
  congr {world after} isOpen redirects same holds := by
    have entries : after.accountEntry = world.accountEntry :=
      congrArg LedgerView.accountEntry same
    have tokens : after.token = world.token := congrArg LedgerView.token same
    obtain ⟨-, entry, isPlain, names⟩ := holds
    refine ⟨isOpen, entries ▸ entry, ?_, ?_⟩
    · simpa only [IsPlain, redirects, tokens] using isPlain
    · intro place token found named
      rw [tokens] at found
      exact names found named

variable (holds : world.HidesNoAccount address)
include holds

/-- A write of no token leaves that no token hides the account, if the entry is left. -/
theorem record
    {change : Journal → Journal}
    (entry : ∃ account, (world.record change).accountEntry address = .ok (some account))
    (sameTokens : ∀ journal, (change journal).tokens = journal.tokens) :
    (world.record change).HidesNoAccount address where
  isOpen := (SameBelow.record world change).isOpen holds.isOpen
  entry := entry
  isPlain redirects :=
    (token_record world _ sameTokens).trans
      (holds.isPlain ((redirectsTokenCalls_record world change).symm.trans redirects))
  names {place _} found :=
    holds.names ((token_record world place sameTokens).symm.trans found)

theorem recordAside
    {change : Journal → Journal}
    (sameAccounts : ∀ journal, (change journal).accounts = journal.accounts)
    (sameTokens : ∀ journal, (change journal).tokens = journal.tokens) :
    (world.record change).HidesNoAccount address := by
  refine holds.record ?_ sameTokens
  rw [accountEntry_record world _ sameAccounts]
  exact holds.entry

theorem setAccount
    (other : Address)
    (account : Account) :
    (world.setAccount other account).HidesNoAccount address := by
  refine holds.record ?_ fun _ => rfl
  by_cases same : address = other
  · subst same
    exact ⟨account, accountEntry_setAccount_self holds.isOpen _ _⟩
  · obtain ⟨before, found⟩ := holds.entry
    exact ⟨before, (accountEntry_setAccount_of_ne same account).trans found⟩

theorem updateAccount
    {other : Address}
    {change : Account → Account}
    {reached : Bool}
    (result : world.updateAccount other change = .ok (reached, after)) :
    after.HidesNoAccount address := by
  rcases updateAccount_cases result with ⟨_, _, rfl⟩ | ⟨account, _, _, rfl⟩
  · exact holds
  · exact holds.setAccount _ _

theorem createAccount
    (account : Account) :
    (world.createAccount account).HidesNoAccount address := by
  refine holds.record ?_ fun _ => rfl
  by_cases same : address = account.address
  · subst same
    exact ⟨account, accountEntry_createAccount_self holds.isOpen account⟩
  · obtain ⟨before, found⟩ := holds.entry
    exact ⟨before, (accountEntry_createAccount_of_ne same).trans found⟩

theorem transfer
    {source target : Address}
    {value : Word}
    (moved : world.transfer source target value = .ok after) :
    after.HidesNoAccount address := by
  rcases transfer_cases moved with
    ⟨_, rfl⟩ | ⟨_, _, _, _, _, _, _, _, _, debit, credit, ends⟩
  · exact holds
  · have received := (holds.updateAccount debit).updateAccount credit
    rcases ends with ⟨_, rfl⟩ | ⟨_, _, rfl⟩
    · exact received
    · exact received.createAccount _

/-- A token is put where one was known before, or where nothing has been. -/
theorem putToken
    {token : Token}
    (given :
      (∃ place before,
        world.token place = .ok (some before) ∧ token.address = before.address) ∨
        token.address ≠ address) :
    (world.putToken token).HidesNoAccount address where
  isOpen := (SameBelow.record world _).isOpen holds.isOpen
  entry := (accountEntry_putToken token address).symm ▸ holds.entry
  isPlain := isPlain_putToken holds.isPlain holds.names given
  names := namesNoOther_putToken holds.isOpen holds.names token

theorem of_move
    {isStatic : Bool}
    (move : Move isStatic world after) :
    after.HidesNoAccount address := by
  have ne_of_isFree {other : Address} (free : world.isFree other = .ok true) :
      other ≠ address := by
    rintro rfl
    obtain ⟨account, found⟩ := holds.entry
    cases (isFree_iff.mp free).1.symm.trans found
  cases move with
  | draw => exact (isAboutAnswers address).draw _ holds
  | transfer moved => exact holds.transfer moved
  | countNonce counted => exact holds.updateAccount counted
  | newContract => exact holds.createAccount _
  | deploy deployed => exact holds.updateAccount deployed
  | destroy _ _ swept _ deleted =>
      exact (holds.transfer swept).updateAccount (updateAccount_of_deleteAccount deleted)
  | count _ counted => exact holds.updateAccount counted
  | changeSupply known => exact holds.putToken (.inl ⟨_, _, known, rfl⟩)
  | newToken free => exact holds.putToken (.inr (ne_of_isFree free))
  | _ => exact holds.recordAside (fun _ => rfl) fun _ => rfl

theorem of_evolves
    {isStatic : Bool}
    (evolves : Evolves isStatic world after) :
    after.HidesNoAccount address :=
  (isAboutAnswers address).of_evolves (fun move holds => of_move holds move) evolves holds

/-- An account that no token hides is reached unless it has been deleted. -/
theorem get_eq
    {account : Account}
    (found : world.accountEntry address = .ok (some account))
    (alive : account.deleted = false) :
    world.get address = .ok (some account) := by
  simp [get_of_isPlain holds.isPlain, found, Except.map, Option.filter, alive]

end HidesNoAccount

end World

open World (Evolves HasCreated HidesNoAccount SameBelow)

/-! ## Outputs -/

/-- What a frame leaves as its output has been read from memory, which is of limited size. -/
theorem Environment.keptByFrames_output
    (environment : Environment) :
    KeptByFrames environment fun frame => frame.output.length < UInt32.size where
  move move short := by
    cases move with
    | setOutput _ _ short => exact short
    | _ => exact short
  gas _ short := short
  start _ _ := (by decide : 0 < UInt32.size)

theorem Frame.length_output_outcome
    {frame : Frame}
    (short : frame.output.length < UInt32.size) :
    frame.outcome.output.length < UInt32.size := by
  unfold Frame.outcome
  split
  · exact short
  · exact short

theorem Frame.output_of_failWith
    {error : VmError}
    {gas : UInt64}
    {simulation after : Simulation}
    {outcome : Outcome}
    (failed : Frame.failWith error gas simulation = .ok outcome after) :
    outcome.output = [] := by
  unfold Frame.failWith at failed
  split at failed
  · cases failed
  · cases failed
    rfl

/-- The output of code that has been run is no longer than a memory can be. -/
theorem Environment.length_output_lt
    {environment : Environment}
    {bound : FrameContext → Nat}
    {context : FrameContext}
    {code : Bytes}
    {simulation after : Simulation}
    {outcome : Outcome}
    (ran : environment.runnerWithin bound context code simulation = .ok outcome after) :
    outcome.output.length < UInt32.size := by
  obtain ⟨machine, reaches, ends⟩ := Frame.exists_reaches_of_run ran
  rcases ends with ⟨_, rfl, _⟩ | ⟨_, _, _, _, _, failed⟩
  · have kept := environment.keptByFrames_output
    have short : machine.Has fun frame => frame.output.length < UInt32.size :=
      reaches.keeps (fun runner _ steps => (kept.keptByInstructions runner).step.of_ok steps)
        (by decide : 0 < UInt32.size)
    exact Frame.length_output_outcome short
  · rw [Frame.output_of_failWith failed]
    decide

/-- Every byte of a code that is no longer than an output can be is paid for exactly. -/
theorem Gas.toNat_codeDeposit
    {bytes : Nat}
    (short : bytes < UInt32.size) :
    (codeDeposit bytes).toNat = 200 * bytes := by
  have price : (200 : UInt64).toNat = 200 := rfl
  have range : UInt64.size = 18446744073709551616 := rfl
  have limit : UInt32.size = 4294967296 := rfl
  rw [codeDeposit, UInt64.toNat_mulClamp, UInt64.toNat_ofNatClamp, price]
  omega

/-! ## Creations -/

namespace World

variable
  {before drawn counted : World}
  {creator address : Address}
  {reached : Bool}

/-- A contract that is founded is put in the journal of its frame. -/
theorem hasCreated_createAccount
    (world : World)
    (account : Account) :
    (world.push.createAccount account).HasCreated account.address where
  entry := Table.contains_insert_self _ _ _
  created := Table.contains_insert_self _ _ _

/-- Where a contract is founded no token hides it, if none carries the address as its name. -/
theorem hidesNoAccount_founded
    (draws : before.newContractAddress creator = (.ok address, drawn))
    (counts :
      drawn.updateAccount creator
          (fun account => { account with nonce := account.nonce.addClamp 1 }) =
        .ok (reached, counted))
    (names : before.NamesNoOther address)
    (account : Account)
    (here : account.address = address) :
    (counted.push.createAccount account).HidesNoAccount address := by
  obtain ⟨same, free⟩ := of_newContractAddress draws
  have tokens (place : Address) : counted.token place = before.token place := by
    have drew : drawn.token place = before.token place := by
      rw [same]
      rfl
    rcases updateAccount_cases counts with ⟨_, _, rfl⟩ | ⟨_, _, _, rfl⟩
    · exact drew
    · exact (token_setAccount _ _ _).trans drew
  have founded (place : Address) :
      (counted.push.createAccount account).token place = before.token place :=
    (token_record _ place fun _ => rfl).trans ((token_push counted place).trans (tokens place))
  have noToken : before.token address = .ok none := by
    rw [← tokens]
    exact (isFree_iff.mp (isFree_updateAccount free counts)).2
  subst here
  exact
    { isOpen := (SameBelow.record counted.push _).isOpen counted.isOpen_push
      entry := ⟨account, accountEntry_createAccount_self counted.isOpen_push account⟩
      isPlain := fun _ => (founded account.address).trans noToken
      names := fun {place _} found => names ((founded place).symm.trans found) }

end World

namespace SimAction

/--
The account of a contract that has been created: it has been deleted by the time its init code
has ended, or it is there with the output of the init code as its code, and is reached unless a
token hides it.
-/
inductive IsDeployed
    (address : Address)
    (code : Bytes)
    (before ran after : World) : Prop where
  | deleted
      {account : Account}
      (ended : ran.accountEntry address = .ok (some account))
      (stays : after.accountEntry address = .ok (some account))
      (deleted : account.deleted = true)
  | visible
      {account : Account}
      (found : after.accountEntry address = .ok (some account))
      (alive : account.deleted = false)
      (code : account.code = code)
      (reached : before.NamesNoOther address → after.get address = .ok (some account))

/--
Whatever the init code does once the contract has been founded, keeping the frame after the
deployment leaves the contract created, and deployed with the code.
-/
theorem isDeployed_of_evolves
    {creator fresh : Address}
    {value : Word}
    {code : Bytes}
    {reached updates : Bool}
    {before drawn counted sent ran deployed : World}
    (isOpen : before.IsOpen)
    (draws : before.newContractAddress creator = (.ok fresh, drawn))
    (counts :
      drawn.updateAccount creator
          (fun account => { account with nonce := account.nonce.addClamp 1 }) =
        .ok (reached, counted))
    (sends :
      (counted.push.createAccount { Account.newContract fresh [] with nonce := 1 }).transfer
          creator fresh value =
        .ok sent)
    (evolved : Evolves false sent ran)
    (updated :
      ran.updateAccount fresh (fun account => { account with code }) = .ok (updates, deployed)) :
    deployed.commit.isCreated fresh = true ∧
      IsDeployed fresh code before ran deployed.commit := by
  obtain ⟨same, -⟩ := World.of_newContractAddress draws
  have countedOpen : counted.IsOpen := by
    refine (SameBelow.updateAccount counts).isOpen ?_
    rw [same]
    exact isOpen
  have opened : SameBelow counted.push deployed :=
    (SameBelow.record _ _).trans
      ((SameBelow.transfer sends).trans ((SameBelow.of_evolves evolved).trans
        (.updateAccount updated)))
  have shown : deployed.commit.view = deployed.view := World.view_commit countedOpen opened
  -- what is put and named lasts while the init code runs
  have ranPut : ran.HasCreated fresh :=
    HasCreated.of_evolves evolved ((World.hasCreated_createAccount counted _).transfer sends)
  have created := congrArg (LedgerView.isCreated · fresh) shown
  have entries := congrArg (LedgerView.accountEntry · fresh) shown
  refine ⟨created.trans (ranPut.updateAccount updated).isCreated, ?_⟩
  obtain ⟨account, found, ⟨deleted, ended⟩ | ⟨alive, code⟩⟩ := ranPut.exists_of_deploy updated
  · exact .deleted ended (entries.trans found) deleted
  · refine .visible (entries.trans found) alive code fun names => ?_
    have hidden :=
      World.hidesNoAccount_founded draws counts names
        { Account.newContract fresh [] with nonce := 1 } rfl
    have visible := ((hidden.transfer sends).of_evolves evolved).updateAccount updated
    exact (congrArg (LedgerView.get · fresh) shown).trans (visible.get_eq found alive)

/--
A creation that completes with an address has found neither an entry of an account nor a token
there, and the address counts as created afterwards.  The account has been deleted by its init
code, or is visible with the output of the init code as its code.  That output is within the
limit of code and does not start with the reserved byte, and the gas that is left is what the
init code has left but 200 for each byte.
-/
theorem created_contract_is_deployed
    {environment : Environment}
    {bound : FrameContext → Nat}
    {creator address : Address}
    {context : FrameContext}
    {initCode : Bytes}
    {simulation after : Simulation}
    {outcome : Outcome}
    (isOpen : simulation.world.IsOpen)
    (created :
      createContract environment (environment.runnerWithin bound) creator context initCode
          simulation =
        .ok outcome after)
    (completed : outcome.status = .completed)
    (isAddress : outcome.created = some address) :
    simulation.world.accountEntry address = .ok none ∧
      simulation.world.token address = .ok none ∧
      after.world.isCreated address = true ∧
      ∃ founded ran inner,
        environment.runnerWithin bound
            { context with caller := creator, address, codeAddress := address } initCode
            founded =
          .ok ran inner ∧
        IsDeployed address ran.output simulation.world inner.world after.world ∧
        outcome.output = ran.output ∧
        ran.output.length ≤ environment.limits.maxCodeSize ∧
        ran.output.head? ≠ some reservedByte ∧
        outcome.gas.toNat + 200 * ran.output.length = ran.gas.toNat := by
  have success : outcome.isSuccess = true := by
    rw [Outcome.isSuccess, completed]
    rfl
  obtain ⟨context', founded, founds⟩ := exists_of_createContract created success
  rw [createContract_of_found founds] at created
  obtain ⟨fresh, drawn, reached, counted, sent, draws, counts, sends, rfl, rfl⟩ :=
    exists_of_found founds
  obtain ⟨settled, settles, rfl⟩ := exists_of_closeFrame created
  obtain ⟨ran, inner, cost, deployed, runs, _, deploys, rfl, rfl⟩ :=
    exists_of_settle settles success
  cases isAddress
  obtain ⟨same, free⟩ := World.of_newContractAddress draws
  rw [same] at free
  obtain ⟨noEntry, noToken⟩ := World.isFree_iff.mp free
  obtain ⟨short, allowed, rfl, paid, _, updated⟩ := deploy_cases deploys
  have evolves :
      Keeps (Simulation.Evolved false sent)
        (environment.runnerWithin bound
          { context with caller := creator, address := fresh, codeAddress := fresh } initCode) :=
    environment.evolving_runnerWithin bound initCode sent nofun
  have evolved : Evolves false sent inner.world := evolves.of_ok runs (.refl sent)
  obtain ⟨isCreated, isDeployed⟩ :=
    isDeployed_of_evolves isOpen draws counts sends evolved updated
  rw [if_pos success]
  refine ⟨noEntry, noToken, isCreated, _, ran, inner, runs, isDeployed, rfl, short, allowed, ?_⟩
  have cost := Gas.toNat_codeDeposit (Environment.length_output_lt runs)
  rw [← cost]
  exact UInt64.toNat_sub_add_cancel paid

/-- Init code returns one byte, which is deployed for 200. -/
theorem returned_byte_is_deployed :
    let environment : Environment :=
      { rules := ⟨⟨0, 50, 0⟩, .cancun, ⟨true, true⟩, ⟨true, true⟩⟩
        prices := ⟨.empty, .empty, fun _ _ => 1⟩ }
    let creator := Address.ofNum 1001
    let fresh := Address.ofNum 5000
    let context := FrameContext.ofTransaction creator creator 0 [] 100000 1 { }
    let world := (World.ofSnapshot (Snapshot.ofContents { }) true ⟨0⟩ 5000).push
    -- return the first byte of memory
    let initCode : Bytes := [0x60, 0x01, 0x60, 0x00, 0xf3]
    ∃ outcome after,
      createContract environment (environment.runnerWithin fun _ => 10) creator context initCode
          { world } =
        .ok outcome after ∧
        outcome.created = some fresh ∧
        world.accountEntry fresh = .ok none ∧
        after.world.isCreated fresh = true ∧
        ∃ ran : Outcome,
          ran.output = [0x00] ∧ ran.gas = 99991 ∧ outcome.gas.toNat + 200 = ran.gas.toNat := by
  intro environment creator fresh context world initCode
  let outcome : Outcome :=
    { status := .completed, output := [0x00], gas := 99791, created := some fresh }
  have created := eq_ok_of_answerOf
    (show answerOf
        (createContract environment (environment.runnerWithin fun _ => 10) creator context
          initCode { world }) = .ok outcome by
      decide +kernel)
  obtain ⟨noEntry, -, isCreated, _, ran, _, -, -, sameOutput, -, -, paid⟩ :=
    created_contract_is_deployed (World.isOpen_push _) created rfl rfl
  rw [← sameOutput] at paid
  refine ⟨outcome, _, created, rfl, noEntry, isCreated, ran, sameOutput.symm, ?_, paid⟩
  exact UInt64.toNat_inj.mp paid.symm

end SimAction

end LedgerEvm
