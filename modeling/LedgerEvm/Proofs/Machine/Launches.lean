import LedgerEvm.Proofs.Machine.Instructions

namespace LedgerEvm

/-!
# Frames that are started

A frame that starts another one waits until that one has ended.  What it has done until
then does not depend on how the other one runs, and what it does afterwards depends only
on how that one has ended.
-/

/-! ## Frames that wait -/

/-- What a frame waits for: the outcome of a call, or of the creation of a contract. -/
inductive Awaited where
  | call (output : Nat × Nat)
  | creation (address : Address)
  deriving DecidableEq

/-- A frame that has started another one, with what it does when that one has ended. -/
structure WaitingFrame where
  frame : Frame
  place : Option Nat
  gasBefore : UInt64
  awaited : Awaited

/-- A frame that is started: who waits for it, what it runs, and where it begins. -/
structure FrameLaunch where
  waiting : WaitingFrame
  context : FrameContext
  code : Bytes
  simulation : Simulation

/-- The frame that is started, before its first instruction. -/
def FrameLaunch.start (launch : FrameLaunch) (limits : Limits) : Machine :=
  ⟨Frame.start limits launch.context launch.code, launch.simulation⟩

/-- The runner that runs nothing, for steps that start no frame. -/
def Runner.idle : Runner :=
  fun _ _ => throw (.internal "no frame is started")

namespace SimAction

/-- Close the world's frame: its writes are kept when the answer says so. -/
def closeFrame
    {α : Type}
    (keeps : α → Bool) :
    EStateM.Result VmError Simulation α → EStateM.Result VmError Simulation α
  | .ok answer inner =>
      .ok answer
        { inner with
          world := if keeps answer then inner.world.commit else inner.world.revert }
  | .error error inner => .error error { inner with world := inner.world.revert }

/-- The code that answers a call, when it is code that does. -/
def codeToRun? (context : FrameContext) (world : World) : Option Bytes :=
  let target := context.codeAddress
  if (FixedContract.at? target).isSome ∨ target = Address.tokenService ∨
      target = Address.exchangeRate ∨ target = Address.randomSeed then
    none
  else
    match isTokenCall world target with
    | .ok false =>
        match world.code target with
        | .ok code => if code.isEmpty then none else some code
        | .error _ => none
    | _ => none

/-- The simulation in which the target of a call answers, when the value can be moved. -/
def opened?
    (kind : CallKind)
    (context : FrameContext)
    (simulation : Simulation) :
    Option Simulation :=
  let world := simulation.world.push
  if kind = .call then
    match world.transfer context.caller context.address context.value with
    | .ok world => some { simulation with world }
    | .error _ => none
  else
    some { simulation with world }

/-- The code that a call runs and where that begins, when it runs code at all. -/
def callLaunch?
    (kind : CallKind)
    (context : FrameContext)
    (simulation : Simulation) :
    Option (Bytes × Simulation) := do
  let opened ← opened? kind context simulation
  let code ← codeToRun? context opened.world
  return (code, opened)

/-- Open the world's frame for a new contract and put it there with the value it is sent. -/
def found (creator : Address) (context : FrameContext) : SimAction FrameContext := do
  let address ← freshAddress creator
  countNonce creator
  change fun world => .ok ((), world.push)
  putNewContract address
  change fun world => do
    return ((), ← world.transfer creator address context.value)
  return { context with caller := creator, address, codeAddress := address }

end SimAction

namespace Awaited

/-- What becomes of an ended frame before the world's frame is closed. -/
def settle
    (limits : Limits) :
    Awaited →
    EStateM.Result VmError Simulation Outcome →
    EStateM.Result VmError Simulation Outcome
  | .creation address, .ok outcome after =>
      if outcome.isSuccess then
        SimAction.deployOutput limits address outcome after
      else
        .ok outcome after
  | _, ended => ended

/-- Take the outcome that was waited for. -/
def take (outcome : Outcome) : Awaited → Exec Unit
  | .call output => Exec.takeOutcome outcome output.1 output.2
  | .creation _ => Exec.takeCreation outcome

end Awaited

namespace WaitingFrame

/-- Go on after the frame that was waited for has ended. -/
def resume
    (limits : Limits)
    (waiting : WaitingFrame)
    (ended : EStateM.Result VmError Simulation Outcome) :
    EStateM.Result VmError Machine Unit :=
  match SimAction.closeFrame Outcome.isSuccess (waiting.awaited.settle limits ended) with
  | .ok outcome after =>
      Exec.amending waiting.place waiting.gasBefore (waiting.awaited.take outcome)
        ⟨waiting.frame, after⟩
  | .error error after =>
      Exec.amending waiting.place waiting.gasBefore (throw error) ⟨waiting.frame, after⟩

end WaitingFrame

namespace SimAction

variable
  {environment : Environment}
  {context : FrameContext}
  {simulation : Simulation}

/-! ## Calls and creations with any runner -/

theorem framed_eq
    {α : Type}
    (keeps : α → Bool)
    (action : SimAction α)
    (simulation : Simulation) :
    framed keeps action simulation =
      closeFrame keeps (action { simulation with world := simulation.world.push }) :=
  rfl

/-- A frame that is closed hands on the answer. -/
theorem exists_of_closeFrame
    {α : Type}
    {keeps : α → Bool}
    {ended : EStateM.Result VmError Simulation α}
    {answer : α}
    {after : Simulation}
    (closes : closeFrame keeps ended = .ok answer after) :
    ∃ inner,
      ended = .ok answer inner ∧
        after =
          { inner with
            world := if keeps answer then inner.world.commit else inner.world.revert } := by
  cases ended with
  | error error inner => cases closes
  | ok answer' inner =>
      cases closes
      exact ⟨inner, rfl, rfl⟩

/-- A frame that is closed with a failure has failed. -/
theorem exists_of_closeFrame_error
    {α : Type}
    {keeps : α → Bool}
    {ended : EStateM.Result VmError Simulation α}
    {error : VmError}
    {after : Simulation}
    (closes : closeFrame keeps ended = .error error after) :
    ∃ inner, ended = .error error inner := by
  cases ended with
  | error error' inner =>
      cases closes
      exact ⟨inner, rfl⟩
  | ok answer inner => cases closes

/-- Code that cannot be deployed fails its frame, or the run as a whole. -/
theorem isAbort_of_deployOutput
    {limits : Limits}
    {address : Address}
    {outcome : Outcome}
    {error : VmError}
    {after : Simulation}
    (failed : deployOutput limits address outcome simulation = .error error after) :
    error.isAbort = true := by
  unfold deployOutput at failed
  split at failed
  · cases failed
  · split at failed
    · rename_i aborts
      cases failed
      exact aborts
    · cases failed

/-- Where code answers, the answer is that of its run. -/
theorem runTarget_of_codeToRun?
    {code : Bytes}
    (found : codeToRun? context simulation.world = some code)
    (runner : Runner) :
    runTarget environment runner context simulation = runner context code simulation := by
  unfold codeToRun? at found
  dsimp only at found
  split at found
  · cases found
  · rename_i regular
    simp only [not_or, Bool.not_eq_true, Option.isSome_eq_false_iff,
      Option.isNone_iff_eq_none] at regular
    obtain ⟨noContract, noService, noRate, noSeed⟩ := regular
    split at found
    · rename_i noToken
      split at found
      · rename_i present
        split at found
        · cases found
        · rename_i nonempty
          cases found
          have asked :
              ask (fun world => isTokenCall world context.codeAddress) simulation =
                .ok false simulation := by
            simp only [ask, noToken]
          have read :
              ask (fun world => world.code context.codeAddress) simulation =
                .ok code simulation := by
            simp only [ask, present]
          simp only [runTarget, noContract, noService, noRate, noSeed, if_false]
          rw [bind_eq_of_ok asked]
          simp only [Bool.false_eq_true, if_false, runCode]
          rw [bind_eq_of_ok read, if_neg nonempty]
      · cases found
    · cases found

/-- Where there is no code to read, none is run. -/
theorem runCode_of_empty
    (none :
      (match simulation.world.code context.codeAddress with
        | .ok code => if code.isEmpty then Option.none else some code
        | .error _ => Option.none) = Option.none)
    (runner other : Runner) :
    runCode runner context simulation = runCode other context simulation := by
  refine bind_congr_at fun code after read => ?_
  cases present : simulation.world.code context.codeAddress with
  | error error =>
      simp only [ask, present] at read
      cases read
  | ok found =>
      simp only [ask, present] at read
      cases read
      simp only [present, ite_eq_left_iff, reduceCtorEq, imp_false, Decidable.not_not] at none
      simp only [none, if_true]

/-- Where no code answers, it does not matter how code is run. -/
theorem runTarget_of_no_code
    (none : codeToRun? context simulation.world = none)
    (runner other : Runner) :
    runTarget environment runner context simulation =
      runTarget environment other context simulation := by
  cases contract : FixedContract.at? context.codeAddress with
  | some contract' =>
      simp only [runTarget, contract]
  | none =>
      by_cases service : context.codeAddress = Address.tokenService
      · simp only [runTarget, contract, if_pos service]
      · by_cases rate : context.codeAddress = Address.exchangeRate
        · simp only [runTarget, contract, if_neg service, if_pos rate]
        · by_cases seed : context.codeAddress = Address.randomSeed
          · simp only [runTarget, contract, if_neg service, if_neg rate, if_pos seed]
          · simp only [codeToRun?, contract, service, rate, seed, Option.isSome_none,
              Bool.false_eq_true, or_self, if_false] at none
            simp only [runTarget, contract, if_neg service, if_neg rate, if_neg seed]
            refine bind_congr_at fun isToken after asked => ?_
            cases answered : isTokenCall simulation.world context.codeAddress with
            | error error =>
                simp only [ask, answered] at asked
                cases asked
            | ok answer =>
                simp only [ask, answered] at asked
                cases asked
                cases isToken with
                | true => rfl
                | false =>
                    simp only [answered] at none
                    exact runCode_of_empty none runner other

/-- A call answers in a world that has been opened for it, with its value moved there. -/
theorem opened?_cases
    {kind : CallKind}
    {opened : Simulation}
    (opens : opened? kind context simulation = some opened) :
    ∃ world,
      opened = { simulation with world } ∧
        (kind ≠ .call ∧ world = simulation.world.push ∨
          kind = .call ∧
            simulation.world.push.transfer context.caller context.address context.value =
              .ok world) := by
  unfold opened? at opens
  dsimp only at opens
  split at opens
  · rename_i isCall
    split at opens
    · rename_i world moved
      cases opens
      exact ⟨world, rfl, .inr ⟨isCall, moved⟩⟩
    · cases opens
  · rename_i notCall
    cases opens
    exact ⟨_, rfl, .inl ⟨notCall, rfl⟩⟩

/-- A call whose value can be moved answers between opening and closing the world's frame. -/
theorem messageCall_of_opened?
    {kind : CallKind}
    {opened : Simulation}
    (opens : opened? kind context simulation = some opened)
    (runner : Runner) :
    messageCall environment runner kind context simulation =
      closeFrame Outcome.isSuccess (runTarget environment runner context opened) := by
  obtain ⟨world, rfl, ⟨notCall, rfl⟩ | ⟨isCall, moved⟩⟩ := opened?_cases opens
  · simp only [messageCall, framed_eq, if_neg notCall]
  · simp only [messageCall, framed_eq, if_pos isCall, withTransfer, moved]

/-- A call that runs code does so between opening and closing the world's frame. -/
theorem messageCall_of_callLaunch?
    {kind : CallKind}
    {code : Bytes}
    {opened : Simulation}
    (launch : callLaunch? kind context simulation = some (code, opened))
    (runner : Runner) :
    messageCall environment runner kind context simulation =
      closeFrame Outcome.isSuccess (runner context code opened) := by
  obtain ⟨opened', opens, launch⟩ := Option.bind_eq_some_iff.mp launch
  obtain ⟨code', found, launch⟩ := Option.bind_eq_some_iff.mp launch
  cases launch
  rw [messageCall_of_opened? opens, runTarget_of_codeToRun? found runner]

theorem messageCall_of_no_launch
    {kind : CallKind}
    (none : callLaunch? kind context simulation = none)
    (runner other : Runner) :
    messageCall environment runner kind context simulation =
      messageCall environment other kind context simulation := by
  have same {opened : Simulation} (opens : opened? kind context simulation = some opened) :
      runTarget environment runner context opened =
        runTarget environment other context opened := by
    apply runTarget_of_no_code
    cases found : codeToRun? context opened.world with
    | none => rfl
    | some code =>
        simp [callLaunch?, opens, found] at none
  unfold opened? at same
  by_cases isCall : kind = .call
  · simp only [messageCall, framed_eq, if_pos isCall, withTransfer]
    simp only [if_pos isCall] at same
    cases moved :
        simulation.world.push.transfer context.caller context.address context.value with
    | error error => rfl
    | ok world =>
        simp only [moved] at same ⊢
        rw [same rfl]
  · simp only [messageCall, framed_eq, if_neg isCall]
    simp only [if_neg isCall] at same
    rw [same rfl]

/-- A change of the world that succeeds. -/
theorem of_change_eq_ok
    {α : Type}
    {update : World → Except VmError (α × World)}
    {simulation after : Simulation}
    {answer : α}
    (changed : change update simulation = .ok answer after) :
    ∃ world, update simulation.world = .ok (answer, world) ∧
      after = { simulation with world } := by
  unfold change at changed
  split at changed
  · rename_i answer' world updated
    cases changed
    exact ⟨world, updated, rfl⟩
  · cases changed

/--
The frame of a creation runs for its creator at a new address, after the creation has been
counted, and in a frame of the world where the contract has been put and paid.
-/
theorem exists_of_found
    {creator : Address}
    {context' : FrameContext}
    {founded : Simulation}
    (found : SimAction.found creator context simulation = .ok context' founded) :
    ∃ address drawn reached counted paid,
      simulation.world.newContractAddress creator = (.ok address, drawn) ∧
        drawn.updateAccount creator
            (fun account => { account with nonce := account.nonce.addClamp 1 }) =
          .ok (reached, counted) ∧
        (counted.push.createAccount { Account.newContract address [] with nonce := 1 }).transfer
            creator address context.value = .ok paid ∧
        context' = { context with caller := creator, address, codeAddress := address } ∧
        founded = { simulation with world := paid } := by
  obtain ⟨address, fresh, draws, found⟩ := exists_of_run_eq_ok found
  obtain ⟨_, nonce, counts, found⟩ := exists_of_run_eq_ok found
  obtain ⟨_, opened, opens, found⟩ := exists_of_run_eq_ok found
  obtain ⟨_, put, puts, found⟩ := exists_of_run_eq_ok found
  obtain ⟨_, sent, pays, found⟩ := exists_of_run_eq_ok found
  cases found
  obtain ⟨paid, moves, rfl⟩ := of_change_eq_ok pays
  obtain ⟨_, moved, moves⟩ := exists_of_bind_eq_ok moves
  cases moves
  cases puts
  cases opens
  obtain ⟨counted, updates, rfl⟩ := of_change_eq_ok counts
  obtain ⟨⟨reached, _⟩, updated, updates⟩ := exists_of_bind_eq_ok updates
  cases updates
  unfold freshAddress at draws
  cases drawn : simulation.world.newContractAddress creator with
  | mk answer world =>
      rw [drawn] at draws
      cases answer with
      | error error => cases draws
      | ok free =>
          cases draws
          exact ⟨_, world, reached, counted, paid, rfl, World.eq_ok_of_lookUp updated, moved,
            rfl, rfl⟩

/-- The frame of a creation runs for its creator at the new address. -/
theorem context_of_found
    {creator : Address}
    {context' : FrameContext}
    {founded : Simulation}
    (found : SimAction.found creator context simulation = .ok context' founded) :
    ∃ address,
      context' = { context with caller := creator, address, codeAddress := address } := by
  obtain ⟨address, _, _, _, _, _, _, _, same, _⟩ := exists_of_found found
  exact ⟨address, same⟩

/-- A creation that gets to its init code runs it between opening and closing the frame. -/
theorem createContract_of_found
    {creator : Address}
    {context' : FrameContext}
    {founded : Simulation}
    (found : SimAction.found creator context simulation = .ok context' founded)
    (runner : Runner)
    (initCode : Bytes) :
    createContract environment runner creator context initCode simulation =
      closeFrame Outcome.isSuccess
        ((Awaited.creation context'.address).settle environment.limits
          (runner context' initCode founded)) := by
  obtain ⟨address, drawn, fresh, found⟩ := exists_of_run_eq_ok found
  obtain ⟨_, counted, counts, found⟩ := exists_of_run_eq_ok found
  obtain ⟨_, opened, opens, found⟩ := exists_of_run_eq_ok found
  obtain ⟨_, put, puts, found⟩ := exists_of_run_eq_ok found
  obtain ⟨_, paid, pays, found⟩ := exists_of_run_eq_ok found
  cases found
  obtain ⟨world, transferred, rfl⟩ := of_change_eq_ok pays
  cases opens
  obtain ⟨world', moved, transferred⟩ := exists_of_bind_eq_ok transferred
  cases transferred
  simp only [createContract]
  rw [bind_eq_of_ok fresh, bind_eq_of_ok counts, framed_eq, bind_eq_of_ok puts]
  simp only [withTransfer, moved]
  congr 1
  generalize ran : runner _ initCode _ = ended
  cases ended with
  | error error after =>
      rw [bind_eq_of_error ran]
      rfl
  | ok outcome after =>
      rw [bind_eq_of_ok ran]
      simp only [Awaited.settle]
      split <;> rfl

/-- A creation that does not get to its init code does not depend on how it would be run. -/
theorem createContract_of_not_found
    {creator : Address}
    {error : VmError}
    {after : Simulation}
    (failed : SimAction.found creator context simulation = .error error after)
    (runner other : Runner)
    (initCode : Bytes) :
    createContract environment runner creator context initCode simulation =
      createContract environment other creator context initCode simulation := by
  refine bind_congr_at fun address drawn fresh => bind_congr_at fun _ counted counts => ?_
  rw [framed_eq, framed_eq]
  congr 1
  refine bind_congr_at fun _ put puts => ?_
  simp only [SimAction.found] at failed
  rw [bind_eq_of_ok fresh, bind_eq_of_ok counts] at failed
  cases transferred :
      put.world.transfer creator address context.value with
  | error error => simp only [withTransfer, transferred]
  | ok world =>
      have opens :
          change (fun world => .ok ((), world.push)) counted =
            .ok () { counted with world := counted.world.push } :=
        rfl
      have pays :
          change (fun world => do return ((), ← world.transfer creator address context.value))
            put = .ok () { put with world } := by
        simp only [change, transferred]
        rfl
      rw [bind_eq_of_ok opens, bind_eq_of_ok puts, bind_eq_of_ok pays] at failed
      cases failed

end SimAction

namespace Exec

variable
  {environment : Environment}
  {machine : Machine}

/-! ## Instructions with any runner -/

/-- What happens in a step before the instruction acts. -/
def begin (environment : Environment) : Exec (Instruction × Option Nat × UInt64) := do
  countStep environment
  let instruction ← fetch environment
  let gasBefore := (← frame).gas
  let place ← recordStep instruction
  charge instruction.staticCost
  advance
  return (instruction, place, gasBefore)

theorem onSimulation_eq_ok
    {α : Type}
    {action : SimAction α}
    {after : Simulation}
    {answer : α}
    (answered : action machine.simulation = .ok answer after) :
    onSimulation action machine = .ok answer ⟨machine.frame, after⟩ := by
  simp only [onSimulation, answered]

theorem onSimulation_eq_error
    {α : Type}
    {action : SimAction α}
    {after : Simulation}
    {error : VmError}
    (failed : action machine.simulation = .error error after) :
    onSimulation action machine = .error error ⟨machine.frame, after⟩ := by
  simp only [onSimulation, failed]

theorem context_eq_ok
    (machine : Machine) :
    context machine = .ok machine.frame.context machine :=
  rfl

theorem step_eq
    (environment : Environment)
    (runner : Runner) :
    step environment runner =
      begin environment >>= fun begun =>
        amending begun.2.1 begun.2.2 (execute environment runner begun.1) := by
  simp only [step, begin, bind_assoc, pure_bind]

/-- Before the instruction acts the frame does what every frame does, and is checked for it. -/
theorem ensures_begin_of_quiet
    {isStatic : Bool}
    {invariant : Machine → Prop}
    (quiet : Quiet isStatic invariant)
    (static :
      ∀ {machine : Machine},
        invariant machine → isStatic = true → machine.frame.context.isStatic = true)
    (count :
      ∀ {frame : Frame} {world : World} {trace : Trace} {steps : Nat},
        invariant ⟨frame, ⟨world, trace, steps⟩⟩ →
        invariant ⟨frame, ⟨world, trace, steps + 1⟩⟩) :
    Ensures invariant (begin environment)
      (fun begun machine =>
        invariant machine ∧ (isStatic = true → begun.1.modifiesState = false))
      (fun _ => invariant) := by
  refine Ensures.bind (keeps_countStep count environment) fun _ => ?_
  refine Ensures.bind (ensures_fetch static) fun instruction => ?_
  refine Ensures.of_fact fun allowed => ?_
  refine Ensures.bind keeps_frame fun frame => ?_
  have recorded : Keeps invariant (recordStep instruction) :=
    fun machine holds => quiet.trace _ holds
  refine Ensures.bind recorded fun place => ?_
  refine Ensures.bind (quiet.charge _) fun _ => ?_
  refine Ensures.bind (quiet.updateFrame fun frame => .advance frame 1) fun _ => ?_
  exact Ensures.pure fun machine holds => ⟨holds, allowed⟩

/-- What every instruction keeps is kept before the instruction acts. -/
theorem ensures_begin
    {runner : Runner}
    {isStatic : Bool}
    {invariant : Machine → Prop}
    (kept : KeptByInstructions environment runner isStatic invariant) :
    Ensures invariant (begin environment)
      (fun begun machine =>
        invariant machine ∧ (isStatic = true → begun.1.modifiesState = false))
      (fun _ => invariant) :=
  ensures_begin_of_quiet kept.toQuiet kept.static kept.count

/-- The frame that a call starts, when it starts one. -/
def callLaunch?
    (environment : Environment)
    (kind : CallKind)
    (place : Option Nat)
    (gasBefore : UInt64)
    (machine : Machine) :
    Option FrameLaunch :=
  match prepareCall environment kind machine with
  | .ok (some launch) paid => do
      let (code, opened) ← SimAction.callLaunch? kind launch.context paid.simulation
      return ⟨⟨paid.frame, place, gasBefore, .call launch.output⟩, launch.context, code, opened⟩
  | _ => none

/-- The frame that a creation starts, when it starts one. -/
def creationLaunch?
    (environment : Environment)
    (salted : Bool)
    (place : Option Nat)
    (gasBefore : UInt64)
    (machine : Machine) :
    Option FrameLaunch :=
  match prepareCreation environment salted machine with
  | .ok (some launch) paid =>
      match SimAction.found paid.frame.context.address launch.context paid.simulation with
      | .ok context founded =>
          some ⟨⟨paid.frame, place, gasBefore, .creation context.address⟩, context,
            launch.initCode, founded⟩
      | .error _ _ => none
  | _ => none

/-- The frame that an instruction starts, when it starts one. -/
def instructionLaunch?
    (environment : Environment)
    (place : Option Nat)
    (gasBefore : UInt64)
    (machine : Machine) :
    Instruction → Option FrameLaunch
  | .call => callLaunch? environment .call place gasBefore machine
  | .callCode => callLaunch? environment .callCode place gasBefore machine
  | .delegateCall => callLaunch? environment .delegateCall place gasBefore machine
  | .staticCall => callLaunch? environment .staticCall place gasBefore machine
  | .create => creationLaunch? environment false place gasBefore machine
  | .create2 => creationLaunch? environment true place gasBefore machine
  | _ => none

/-- The frame that a step starts, when it starts one. -/
def launch? (environment : Environment) (machine : Machine) : Option FrameLaunch :=
  match begin environment machine with
  | .ok (instruction, place, gasBefore) ready =>
      instructionLaunch? environment place gasBefore ready instruction
  | .error _ _ => none

/-- A call that starts a frame has been prepared, and code answers it. -/
theorem exists_of_callLaunch?
    {kind : CallKind}
    {place : Option Nat}
    {gasBefore : UInt64}
    {launch : FrameLaunch}
    (found : callLaunch? environment kind place gasBefore machine = some launch) :
    ∃ prepared paid code opened,
      prepareCall environment kind machine = .ok (some prepared) paid ∧
        SimAction.callLaunch? kind prepared.context paid.simulation = some (code, opened) ∧
        launch =
          ⟨⟨paid.frame, place, gasBefore, .call prepared.output⟩, prepared.context, code,
            opened⟩ := by
  unfold callLaunch? at found
  split at found
  · rename_i prepared paid prepares
    obtain ⟨⟨code, opened⟩, runs, launched⟩ := Option.bind_eq_some_iff.mp found
    cases launched
    exact ⟨prepared, paid, code, opened, prepares, runs, rfl⟩
  · cases found

/-- A creation that starts a frame has been prepared, and its contract has been founded. -/
theorem exists_of_creationLaunch?
    {salted : Bool}
    {place : Option Nat}
    {gasBefore : UInt64}
    {launch : FrameLaunch}
    (found : creationLaunch? environment salted place gasBefore machine = some launch) :
    ∃ prepared paid context founded,
      prepareCreation environment salted machine = .ok (some prepared) paid ∧
        SimAction.found paid.frame.context.address prepared.context paid.simulation =
          .ok context founded ∧
        launch =
          ⟨⟨paid.frame, place, gasBefore, .creation context.address⟩, context,
            prepared.initCode, founded⟩ := by
  unfold creationLaunch? at found
  split at found
  · rename_i prepared paid prepares
    split at found
    · rename_i context founded founds
      cases found
      exact ⟨prepared, paid, context, founded, prepares, founds, rfl⟩
    · cases found
  · cases found

/-- Only calls and creations start frames, and creations are no instructions of static ones. -/
theorem exists_of_instructionLaunch?
    {place : Option Nat}
    {gasBefore : UInt64}
    {instruction : Instruction}
    {launch : FrameLaunch}
    (found : instructionLaunch? environment place gasBefore machine instruction = some launch) :
    (∃ kind, callLaunch? environment kind place gasBefore machine = some launch) ∨
      instruction.modifiesState = true ∧
        ∃ salted, creationLaunch? environment salted place gasBefore machine = some launch := by
  cases instruction with
  | call | callCode | delegateCall | staticCall => exact .inl ⟨_, found⟩
  | create | create2 => exact .inr ⟨rfl, _, found⟩
  | _ => cases found

/-- A step that starts a frame has begun, and its instruction starts the frame. -/
theorem exists_of_launch?
    {launch : FrameLaunch}
    (found : launch? environment machine = some launch) :
    ∃ instruction place gasBefore ready,
      begin environment machine = .ok (instruction, place, gasBefore) ready ∧
        instructionLaunch? environment place gasBefore ready instruction = some launch := by
  unfold launch? at found
  split at found
  · rename_i instruction place gasBefore ready begun
    exact ⟨instruction, place, gasBefore, ready, begun, found⟩
  · cases found

/-- What an amended action comes to depends on what the action comes to. -/
theorem amending_congr
    {place : Option Nat}
    {gasBefore : UInt64}
    {action action' : Exec Unit}
    {machine machine' : Machine}
    (same : action machine = action' machine') :
    amending place gasBefore action machine = amending place gasBefore action' machine' := by
  simp only [amending, same]

/-- A call that starts a frame goes on from how that frame ends, however it is run. -/
theorem call_of_callLaunch?
    {kind : CallKind}
    {place : Option Nat}
    {gasBefore : UInt64}
    {launch : FrameLaunch}
    (found : callLaunch? environment kind place gasBefore machine = some launch)
    (runner : Runner) :
    amending place gasBefore (call environment runner kind) machine =
      launch.waiting.resume environment.limits
        (runner launch.context launch.code launch.simulation) := by
  obtain ⟨prepared, paid, code, opened, prepares, runs, rfl⟩ := exists_of_callLaunch? found
  have called :
      SimAction.messageCall environment runner kind prepared.context paid.simulation =
        SimAction.closeFrame Outcome.isSuccess (runner prepared.context code opened) :=
    SimAction.messageCall_of_callLaunch? runs runner
  simp only [WaitingFrame.resume, Awaited.settle, ← called]
  cases answered :
      SimAction.messageCall environment runner kind prepared.context paid.simulation with
  | ok outcome after =>
      apply amending_congr
      unfold call
      rw [bind_eq_of_ok prepares]
      dsimp only
      rw [bind_eq_of_ok (onSimulation_eq_ok answered)]
      rfl
  | error error after =>
      apply amending_congr
      unfold call
      rw [bind_eq_of_ok prepares]
      dsimp only
      rw [bind_eq_of_error (onSimulation_eq_error answered)]
      rfl

theorem call_of_no_launch
    {kind : CallKind}
    {place : Option Nat}
    {gasBefore : UInt64}
    (none : callLaunch? environment kind place gasBefore machine = none)
    (runner other : Runner) :
    call environment runner kind machine = call environment other kind machine := by
  refine bind_congr_at fun launch? paid prepares => ?_
  cases launch? with
  | none => rfl
  | some launch =>
      have unlaunched : SimAction.callLaunch? kind launch.context paid.simulation = .none := by
        cases runs : SimAction.callLaunch? kind launch.context paid.simulation with
        | none => rfl
        | some opened => simp [callLaunch?, prepares, runs] at none
      have same :
          onSimulation (SimAction.messageCall environment runner kind launch.context) paid =
            onSimulation (SimAction.messageCall environment other kind launch.context) paid := by
        simp only [onSimulation, SimAction.messageCall_of_no_launch unlaunched runner other]
      exact bind_congr_first same _

/-- A creation that starts a frame goes on from how that frame ends, however it is run. -/
theorem create_of_creationLaunch?
    {salted : Bool}
    {place : Option Nat}
    {gasBefore : UInt64}
    {launch : FrameLaunch}
    (found : creationLaunch? environment salted place gasBefore machine = some launch)
    (runner : Runner) :
    amending place gasBefore (create environment runner salted) machine =
      launch.waiting.resume environment.limits
        (runner launch.context launch.code launch.simulation) := by
  obtain ⟨prepared, paid, context, founded, prepares, founds, rfl⟩ :=
    exists_of_creationLaunch? found
  have created :
      SimAction.createContract environment runner paid.frame.context.address
          prepared.context prepared.initCode paid.simulation =
        SimAction.closeFrame Outcome.isSuccess
          ((Awaited.creation context.address).settle environment.limits
            (runner context prepared.initCode founded)) :=
    SimAction.createContract_of_found founds runner prepared.initCode
  simp only [WaitingFrame.resume, ← created]
  cases answered :
      SimAction.createContract environment runner paid.frame.context.address
        prepared.context prepared.initCode paid.simulation with
  | ok outcome after =>
      apply amending_congr
      unfold create
      rw [bind_eq_of_ok prepares]
      dsimp only
      rw [bind_eq_of_ok (Exec.context_eq_ok paid),
        bind_eq_of_ok (onSimulation_eq_ok answered)]
      rfl
  | error error after =>
      apply amending_congr
      unfold create
      rw [bind_eq_of_ok prepares]
      dsimp only
      rw [bind_eq_of_ok (Exec.context_eq_ok paid),
        bind_eq_of_error (onSimulation_eq_error answered)]
      rfl

theorem create_of_no_launch
    {salted : Bool}
    {place : Option Nat}
    {gasBefore : UInt64}
    (none : creationLaunch? environment salted place gasBefore machine = none)
    (runner other : Runner) :
    create environment runner salted machine = create environment other salted machine := by
  refine bind_congr_at fun launch? paid prepares => ?_
  cases launch? with
  | none => rfl
  | some launch =>
      dsimp only
      rw [bind_eq_of_ok (context_eq_ok paid), bind_eq_of_ok (context_eq_ok paid)]
      refine bind_congr_first ?_ _
      cases founds :
          SimAction.found paid.frame.context.address launch.context paid.simulation with
      | ok context founded => simp [creationLaunch?, prepares, founds] at none
      | error error after =>
          simp only [onSimulation,
            SimAction.createContract_of_not_found founds runner other launch.initCode]

/-- A step that starts a frame goes on from how that frame ends, however it is run. -/
theorem step_of_launch?
    {launch : FrameLaunch}
    (found : launch? environment machine = some launch)
    (runner : Runner) :
    step environment runner machine =
      launch.waiting.resume environment.limits
        (runner launch.context launch.code launch.simulation) := by
  obtain ⟨instruction, place, gasBefore, ready, begun, found⟩ := exists_of_launch? found
  rw [step_eq, bind_eq_of_ok begun]
  cases instruction with
  | call | callCode | delegateCall | staticCall => exact call_of_callLaunch? found runner
  | create | create2 => exact create_of_creationLaunch? found runner
  | _ => cases found

/-- An instruction that starts no frame does not depend on how frames are run. -/
theorem execute_of_no_launch
    {place : Option Nat}
    {gasBefore : UInt64}
    {instruction : Instruction}
    (none : instructionLaunch? environment place gasBefore machine instruction = none)
    (runner other : Runner) :
    execute environment runner instruction machine =
      execute environment other instruction machine := by
  cases instruction with
  | call | callCode | delegateCall | staticCall => exact call_of_no_launch none runner other
  | create | create2 => exact create_of_no_launch none runner other
  | _ => rfl

/-- A step that starts no frame does not depend on how frames are run. -/
theorem step_of_no_launch
    (none : launch? environment machine = none)
    (runner other : Runner) :
    step environment runner machine = step environment other machine := by
  rw [step_eq, step_eq]
  refine bind_congr_at fun begun ready begins => amending_congr ?_
  simp only [launch?, begins] at none
  exact execute_of_no_launch none runner other

end Exec

end LedgerEvm
