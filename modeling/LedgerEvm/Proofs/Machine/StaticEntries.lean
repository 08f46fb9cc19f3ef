import LedgerEvm.Proofs.Ledger.Payments
import LedgerEvm.Proofs.Machine.FailedFrames
import LedgerEvm.Proofs.Machine.StaticFrames

namespace LedgerEvm

/-!
# Static transactions

The first frame of a transaction may be static.  Its instructions then change nothing, but it
is entered as any first frame is: a call has its value moved before, and a creation is counted
and founded before and deployed afterwards.  Nothing else is changed.
-/

open World (Evolves OnlyWarmed SameBelow)

/-! ## Creations -/

namespace World

/--
From one world to the other a creation has been completed by init code that changed nothing:
the new address has been drawn, the creation counted, the contract put and paid, and its code
deployed.
-/
inductive Founds
    (limits : Limits)
    (creator address : Address)
    (value : Word)
    (code : Bytes)
    (before after : World) : Prop where
  | intro
      {drawn counted sent ran deployed : World} {reached : Bool} {gas cost : UInt64}
      (draws : before.newContractAddress creator = (.ok address, drawn))
      (counts :
        drawn.updateAccount creator
            (fun account => { account with nonce := account.nonce.addClamp 1 }) =
          .ok (reached, counted))
      (sends :
        (counted.push.createAccount { Account.newContract address [] with nonce := 1 }).transfer
          creator address value = .ok sent)
      (runs : sent.OnlyWarmed ran)
      (within : SameBelow sent ran)
      (deploys : SimAction.deploy limits address code gas ran = .ok (cost, deployed))
      (keeps : deployed.OnlyWarmed after)

/-- What a creation leaves was not there: an account with the code that has been deployed. -/
theorem Founds.isNew
    {limits : Limits}
    {creator address : Address}
    {value : Word}
    {code : Bytes}
    {before after : World}
    (founds : Founds limits creator address value code before after) :
    before.isFree address = .ok true ∧
      ∃ account, after.get address = .ok (some account) ∧ account.code = code := by
  obtain @⟨drawn, counted, sent, ran, deployed, _, _, _, draws, counts, sends, runs, within,
    deploys, keeps⟩ := founds
  obtain ⟨same, free⟩ := of_newContractAddress draws
  constructor
  · rw [same] at free
    exact free
  · have isOpen : counted.push.IsOpen := counted.isOpen_push
    have isPlain : counted.push.IsPlain address := by
      have known := isFree_updateAccount free counts
      rw [← isFree_push, isFree_iff] at known
      exact fun _ => known.2
    have put :
        (counted.push.createAccount { Account.newContract address [] with nonce := 1 }).get
            address =
          .ok (some { Account.newContract address [] with nonce := 1 }) :=
      get_createAccount_self isOpen isPlain rfl
    obtain ⟨balance, paid⟩ := exists_get_of_transfer (isOpen.record _) sends put rfl
    rw [← runs.get_eq] at paid
    have ranOpen : ran.IsOpen := within.isOpen ((SameBelow.transfer sends).isOpen (isOpen.record _))
    obtain ⟨_, _, _, _, _, updated⟩ := SimAction.deploy_cases deploys
    rw [keeps.get_eq]
    exact ⟨_, get_updateAccount_self ranOpen paid rfl rfl updated, rfl⟩

end World

namespace SimAction

variable
  {environment : Environment}
  {runner : Runner}
  {context : FrameContext}
  (evolving : runner.Evolving)
  (inStatic : context.isStatic = true)
include evolving inStatic

/-! ## Calls -/

/--
A static call that completes has moved its value, and beyond that has only marked what it
accessed; one that does not complete has changed nothing.
-/
theorem ensures_static_messageCall
    {start : Simulation}
    (isOpen : start.world.IsOpen) :
    Ensures (· = start) (messageCall environment runner .call context)
      (fun outcome after =>
        (outcome.isSuccess = true →
          ∃ sent,
            start.world.push.transfer context.caller context.address context.value =
              .ok sent ∧
              sent.OnlyWarmed after.world) ∧
          (outcome.isSuccess = false → start.world.OnlyWarmed after.world))
      (fun _ after => start.world.OnlyWarmed after.world) := by
  rintro simulation rfl
  have called :
      messageCall environment runner .call context simulation =
        closeFrame Outcome.isSuccess
          (withTransfer context context.address (runTarget environment runner context)
            { simulation with world := simulation.world.push }) := by
    rw [messageCall, if_pos rfl, framed_eq]
  have dropped : simulation.world.OnlyWarmed simulation.world.push.revert :=
    .of_revert (.refl _) rfl
  rw [called]
  unfold withTransfer
  dsimp only
  cases moved : simulation.world.push.transfer context.caller context.address context.value with
  | error error =>
      dsimp only
      cases error.isAbort with
      | true => exact dropped
      | false => exact ⟨fun completed => (by cases completed), fun _ => dropped⟩
  | ok sent =>
      have evolves :
          Keeps (Simulation.Evolved true sent) (runTarget environment runner context) :=
        keeps_runTarget evolving (fun _ => inStatic) sent
      have opened {ran : World} (evolves : Evolves true sent ran) :
          SameBelow simulation.world.push ran :=
        (SameBelow.transfer moved).trans (.of_evolves evolves)
      have reverted {ran : World} (evolves : Evolves true sent ran) :
          simulation.world.OnlyWarmed ran.revert := by
        have drawn : sent.nextNum = simulation.world.push.nextNum :=
          World.nextNum_transfer moved
        exact .of_revert (opened evolves) ((OnlyWarmed.of_evolves evolves).nextNum.trans drawn)
      dsimp only
      cases ran : runTarget environment runner context { simulation with world := sent } with
      | error error inner => exact reverted (evolves.of_error ran (.refl sent))
      | ok outcome inner =>
          have evolved : Evolves true sent inner.world := evolves.of_ok ran (.refl sent)
          dsimp only [closeFrame]
          cases outcome.isSuccess with
          | false => exact ⟨fun completed => (by cases completed), fun _ => reverted evolved⟩
          | true =>
              refine ⟨fun _ => ⟨sent, rfl, ?_⟩, fun failed => by cases failed⟩
              exact (OnlyWarmed.of_evolves evolved).trans (.of_commit isOpen (opened evolved))

/-! ## Deployments -/

omit evolving inStatic in
/-- A creation that has completed has been deployed. -/
theorem exists_of_settle
    {limits : Limits}
    {address : Address}
    {ended : EStateM.Result VmError Simulation Outcome}
    {outcome : Outcome}
    {settled : Simulation}
    (settles : (Awaited.creation address).settle limits ended = .ok outcome settled)
    (completed : outcome.isSuccess = true) :
    ∃ ran inner cost deployed,
      ended = .ok ran inner ∧ ran.isSuccess = true ∧
        deploy limits address ran.output ran.gas inner.world = .ok (cost, deployed) ∧
        outcome = { ran with gas := ran.gas - cost, created := some address } ∧
        settled = { inner with world := deployed } := by
  cases ended with
  | error error inner => cases settles
  | ok ran inner =>
      simp only [Awaited.settle] at settles
      split at settles
      · rename_i success
        simp only [deployOutput] at settles
        split at settles
        · rename_i cost deployed deploys
          cases settles
          exact ⟨ran, inner, cost, deployed, rfl, success, deploys, rfl, rfl⟩
        · split at settles
          · cases settles
          · cases settles
            cases completed
      · rename_i incomplete
        cases settles
        exact absurd completed incomplete

omit evolving inStatic in
/-- A creation completes only if its contract has been founded. -/
theorem exists_of_createContract
    {creator : Address}
    {initCode : Bytes}
    {simulation after : Simulation}
    {outcome : Outcome}
    (created :
      createContract environment runner creator context initCode simulation =
        .ok outcome after)
    (completed : outcome.isSuccess = true) :
    ∃ context' founded, found creator context simulation = .ok context' founded := by
  cases founds : found creator context simulation with
  | ok context' founded => exact ⟨context', founded, rfl⟩
  | error error failed =>
      -- the init code is not reached, so it may as well be run by the runner that runs nothing
      have incomplete :
          Answers (fun outcome => outcome.isSuccess = false)
            (createContract environment Runner.idle creator context initCode) := by
        refine .bind fun address => .bind fun _ => .framed _ (.bind fun _ => ?_)
        exact .withTransfer (fun _ => rfl) _ fun _ _ => trivial
      rw [createContract_of_not_found founds runner Runner.idle initCode] at created
      rw [incomplete.of_ok created trivial] at completed
      cases completed

/-- A static creation that completes has founded a contract, and changed nothing else. -/
theorem founds_of_createContract
    {creator : Address}
    {initCode : Bytes}
    {simulation after : Simulation}
    {outcome : Outcome}
    (isOpen : simulation.world.IsOpen)
    (created :
      createContract environment runner creator context initCode simulation =
        .ok outcome after)
    (completed : outcome.isSuccess = true) :
    ∃ address,
      outcome.created = some address ∧
        simulation.world.Founds environment.limits creator address context.value
          outcome.output after.world := by
  obtain ⟨context', founded, founds⟩ := exists_of_createContract created completed
  rw [createContract_of_found founds] at created
  obtain ⟨address, drawn, reached, counted, sent, draws, counts, sends, rfl, rfl⟩ :=
    exists_of_found founds
  obtain ⟨settled, settles, rfl⟩ := exists_of_closeFrame created
  obtain ⟨ran, inner, cost, deployed, runs, _, deploys, rfl, rfl⟩ :=
    exists_of_settle settles completed
  have evolves :
      Keeps (Simulation.Evolved true sent)
        (runner { context with caller := creator, address, codeAddress := address } initCode) :=
    evolving initCode sent fun _ => inStatic
  have evolved : Evolves true sent inner.world := evolves.of_ok runs (.refl sent)
  refine ⟨address, rfl,
    .intro draws counts sends (.of_evolves evolved) (.of_evolves evolved) deploys ?_⟩
  have countedOpen : counted.IsOpen := by
    refine (SameBelow.updateAccount counts).isOpen ?_
    rw [(World.of_newContractAddress draws).1]
    exact isOpen
  have opened : SameBelow counted.push deployed := by
    obtain ⟨_, _, _, _, _, updated⟩ := deploy_cases deploys
    have sentBelow : SameBelow counted.push sent :=
      (SameBelow.record _ _).trans (.transfer sends)
    exact sentBelow.trans ((SameBelow.of_evolves evolved).trans (.updateAccount updated))
  simp only [completed, if_true]
  exact .of_commit countedOpen opened

end SimAction

/-! ## First frames -/

namespace Environment

variable
  (context : FrameContext)
  (isCreation : Bool)
  (world : World)

theorem isOpen_warmed :
    (warmed context isCreation world).IsOpen := by
  have isOpen : (world.push.warmAccount context.origin).IsOpen := world.isOpen_push.record _
  unfold warmed
  cases isCreation with
  | true => exact isOpen
  | false => exact isOpen.record _

theorem onlyWarmed_warmed :
    world.OnlyWarmed (warmed context isCreation world) := by
  have origin : world.OnlyWarmed (world.push.warmAccount context.origin) :=
    (OnlyWarmed.push world).trans (.warmAccount _ _)
  unfold warmed
  cases isCreation with
  | true => exact origin
  | false => exact origin.trans (.warmAccount _ _)

/--
What a static call that completes as a first frame changes: its value has been moved, and
nothing else.  So nothing changes if there is no value, or if the caller calls itself; else the
value has been taken from the caller.
-/
structure OnlyPaid (context : FrameContext) (before after : World) : Prop where
  exactly :
    ∃ sent,
      (warmed context false before).push.transfer context.caller context.address
          context.value = .ok sent ∧
        sent.OnlyWarmed after
  harmless :
    context.value = 0 ∨ context.caller = context.address →
    before.OnlyWarmed after
  charged :
    ∀ {caller : Account},
      context.value ≠ 0 →
      context.caller ≠ context.address →
      before.get context.caller = .ok (some caller) →
      caller.isToken = false →
      after.get context.caller =
        .ok (some { caller with balance := caller.balance - context.value })

theorem OnlyPaid.of_transfer
    {context : FrameContext}
    {before sent after : World}
    (moved :
      (warmed context false before).push.transfer context.caller context.address
        context.value = .ok sent)
    (ran : sent.OnlyWarmed after) :
    OnlyPaid context before after := by
  have opened : before.OnlyWarmed (warmed context false before).push :=
    (onlyWarmed_warmed context false before).trans (.push _)
  refine ⟨⟨sent, moved, ran⟩, fun nothing => ?_, fun something different found noToken => ?_⟩
  · rcases World.transfer_cases moved with ⟨_, rfl⟩ | ⟨something, different, _⟩
    · exact opened.trans ran
    · exact (nothing.elim something different).elim
  · rw [← opened.get_eq] at found
    rw [ran.get_eq]
    exact World.get_source_of_transfer (World.isOpen_push _) moved found noToken something
      different

/--
What static transactions change.  A call that completes has only been paid for, and one that
does not complete has changed nothing.  A creation that completes has founded a new contract,
and one that does not has changed at most the nonce of its creator.
-/
structure StaticEntries (environment : Environment) : Prop where
  call :
    ∀ {context : FrameContext} {world : World} {trace : Trace} {outcome : Outcome}
      {after : Simulation},
      context.isStatic = true →
      environment.firstFrame context false { world := warmed context false world, trace } =
        .ok outcome after →
      outcome.isSuccess = true →
      OnlyPaid context world after.world
  failedCall :
    ∀ {context : FrameContext} {world : World} {trace : Trace} {after : Simulation},
      context.isStatic = true →
      SimAction.Fails Outcome.isSuccess (environment.firstFrame context false)
        { world := warmed context false world, trace } after →
      world.OnlyWarmed after.world
  creation :
    ∀ {context : FrameContext} {world : World} {trace : Trace} {outcome : Outcome}
      {after : Simulation},
      context.isStatic = true →
      environment.firstFrame context true { world := warmed context true world, trace } =
        .ok outcome after →
      outcome.isSuccess = true →
      ∃ address account,
        outcome.created = some address ∧
          (warmed context true world).Founds environment.limits context.origin address
            context.value outcome.output after.world ∧
          world.isFree address = .ok true ∧
          after.world.get address = .ok (some account) ∧ account.code = outcome.output
  failedCreation :
    ∀ {context : FrameContext} {world : World} {trace : Trace} {after : Simulation},
      context.isStatic = true →
      SimAction.Fails Outcome.isSuccess (environment.firstFrame context true)
        { world := warmed context true world, trace } after →
      (warmed context true world).view.SameOrCounted context.origin after.world.view

theorem evolving_runner
    (environment : Environment) :
    environment.runner.Evolving :=
  environment.evolving_runnerWithin _

/-- The first frame of a static call. -/
theorem ensures_staticCall
    (environment : Environment)
    {context : FrameContext}
    (inStatic : context.isStatic = true)
    (world : World)
    (trace : Trace) :
    Ensures (· = { world := warmed context false world, trace })
      (environment.firstFrame context false)
      (fun outcome after =>
        (outcome.isSuccess = true → OnlyPaid context world after.world) ∧
          (outcome.isSuccess = false → world.OnlyWarmed after.world))
      (fun _ after => world.OnlyWarmed after.world) := by
  have entered := onlyWarmed_warmed context false world
  have called :
      Ensures (· = { world := warmed context false world, trace })
        (SimAction.messageCall environment environment.runner .call context) _ _ :=
    SimAction.ensures_static_messageCall environment.evolving_runner inStatic
      (isOpen_warmed context false world)
  refine called.imp (fun _ => id) (fun outcome after reached => ⟨fun completed => ?_, ?_⟩)
    fun _ _ unchanged => entered.trans unchanged
  · obtain ⟨sent, moved, ran⟩ := reached.1 completed
    exact .of_transfer moved ran
  · exact fun failed => entered.trans (reached.2 failed)

/-- In every environment static transactions change what their entry does, and nothing else. -/
theorem staticEntries
    (environment : Environment) :
    environment.StaticEntries where
  call {_ world trace _ _} inStatic ran completed :=
    ((environment.ensures_staticCall inStatic world trace).of_ok ran rfl).1 completed
  failedCall {_ world trace _} inStatic failed :=
    SimAction.of_fails
      ((environment.ensures_staticCall inStatic world trace).imp (fun _ => id)
        (fun _ _ reached => reached.2) fun _ _ => id)
      rfl failed
  creation {context world trace outcome after} inStatic ran completed := by
    have created :
        SimAction.createContract environment environment.runner context.origin
            { context with data := [] } context.data
            { world := warmed context true world, trace } =
          .ok outcome after :=
      ran
    have isOpen := isOpen_warmed context true world
    have static : { context with data := [] : FrameContext }.isStatic = true := inStatic
    obtain ⟨address, isAddress, founds⟩ :=
      SimAction.founds_of_createContract environment.evolving_runner static isOpen created
        completed
    obtain ⟨free, account, found, deployed⟩ := founds.isNew
    rw [(onlyWarmed_warmed context true world).isFree_eq] at free
    exact ⟨address, account, isAddress, founds, free, found, deployed⟩
  failedCreation {context _ _ _} _ failed :=
    SimAction.of_fails
      (SimAction.ensures_createContract environment.evolving_runner context.origin
        { context with data := [] } context.data _)
      rfl failed

/--
An account with ten calls a contract as static and sends seven along; the contract tells its
balance.
-/
theorem static_call_takes_its_value :
    let environment : Environment :=
      { rules := ⟨⟨0, 50, 0⟩, .cancun, ⟨true, true⟩, ⟨true, true⟩⟩
        prices := ⟨.empty, .empty, fun _ _ => 1⟩ }
    let caller : Account := { address := Address.ofNum 1001, balance := 10 }
    let contract :=
      Account.newContract (Address.ofNum 1002)
        [0x47, 0x60, 0x00, 0x52, 0x60, 0x20, 0x60, 0x00, 0xf3]
    let contents : Snapshot.Contents :=
      { accounts := Table.ofList [(caller.address, caller), (contract.address, contract)] }
    let world := World.ofSnapshot (.ofContents contents) true ⟨0⟩ 5000
    let context :=
      { FrameContext.ofTransaction caller.address contract.address 7 [] 100000 1 { } with
        isStatic := true }
    let entered : Simulation := { world := warmed context false world }
    let left := leaves (environment.firstFrame context false) entered
    (environment.transact context false world Trace.off).map CallResult.output =
        .ok (Bytes.ofNat 32 7) ∧
      world.balance caller.address = .ok 10 ∧
      left.world.balance caller.address = .ok 3 ∧
      left.world.balance contract.address = .ok 7 := by
  decide +kernel

end Environment

end LedgerEvm
