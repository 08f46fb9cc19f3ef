import LedgerEvm.Proofs.Machine.StaticFrames

namespace LedgerEvm

/-!
# Invariants of the world along a run

Code writes to the world with its instructions, and with the frames that are opened, paid and
closed, the contracts that are founded, given code and destroyed on the way.  What all of
these keep holds at each moment of a run, in the innermost frame and in each frame around it,
provided that the answers of the token service keep it as well.
-/

open World (AtEachLevel Evolves IsAboutAnswers SameBelow)

/--
An invariant of worlds that all of a run keeps but the writes to storage and the answers of the
token service.  Contracts are founded at free addresses; they are given code only where the
invariant has allowed it.
-/
structure World.KeptBesideStorage
    (rule : SelfDestructRule)
    (mayFound : Address → Prop)
    (invariant : World → Prop) : Prop
    extends IsAboutAnswers invariant, Exec.KeptByDestruction rule invariant where
  touch :
    ∀ {world after : World}, Move true world after → invariant world → invariant after
  setTransient :
    ∀ {world : World} (address : Address) (key value : Word),
      invariant world → invariant (world.setTransient address key value)
  countNonce :
    ∀ {world after : World} {address : Address} {reached : Bool},
      world.updateAccount address
          (fun account => { account with nonce := account.nonce.addClamp 1 }) =
        .ok (reached, after) →
      invariant world →
      invariant after
  mayFound_of_isFree :
    ∀ {world : World} {address : Address},
      world.isFree address = .ok true → invariant world → mayFound address
  newContract :
    ∀ {world : World} {address : Address},
      world.isFree address = .ok true →
      invariant world →
      invariant (world.createAccount { Account.newContract address [] with nonce := 1 })
  deploy :
    ∀ {world after : World} {address : Address} {code : Bytes} {reached : Bool},
      mayFound address →
      world.updateAccount address (fun account => { account with code }) =
        .ok (reached, after) →
      invariant world →
      invariant after

/-- An invariant of worlds that all of a run keeps but the answers of the token service. -/
structure World.KeptByCode
    (rule : SelfDestructRule)
    (mayFound : Address → Prop)
    (invariant : World → Prop) : Prop
    extends KeptBesideStorage rule mayFound invariant where
  setStorage :
    ∀ {world : World} (address : Address) (key value : Word),
      invariant world → invariant (world.setStorage address key value)

/-- A creation that is waited for is one of a contract that may be founded. -/
def Awaited.MayFound (mayFound : Address → Prop) : Awaited → Prop
  | .call _ => True
  | .creation address => mayFound address

theorem Awaited.mayFound_trivial
    (awaited : Awaited) :
    awaited.MayFound fun _ => True := by
  cases awaited with
  | call => trivial
  | creation => trivial

namespace SimAction

/-- A frame keeps an invariant of answers if what is kept of the frame does. -/
theorem ensures_framed_of_answers
    {invariant : World → Prop}
    (about : IsAboutAnswers invariant)
    {action : SimAction Outcome}
    {keeps : Outcome → Bool}
    {simulation : Simulation}
    (holds : invariant simulation.world)
    (evolves :
      Ensures (· = { simulation with world := simulation.world.push }) action
        (fun _ => Simulation.Evolved false simulation.world.push)
        fun _ => Simulation.Evolved false simulation.world.push)
    (yields :
      Yields (· = { simulation with world := simulation.world.push }) action
        fun outcome inner => keeps outcome = true → invariant inner.world) :
    Ensures (· = simulation) (framed keeps action)
      (fun _ simulation => invariant simulation.world)
      fun _ simulation => invariant simulation.world := by
  intro start same
  subst start
  have dropped {inner : Simulation} (evolved : inner.Evolved false simulation.world.push) :
      invariant inner.world.revert :=
    about.congr
      ((SameBelow.of_evolves evolved).revert.isOpen (about.isOpen holds))
      (SameBelow.of_evolves evolved).revert.redirects
      (World.view_revert (.of_evolves evolved)) holds
  rw [framed_eq]
  cases ran : action { simulation with world := simulation.world.push } with
  | error error inner =>
      exact dropped (evolves.of_error ran rfl)
  | ok outcome inner =>
      have evolved := evolves.of_ok ran rfl
      cases kept : keeps outcome with
      | false =>
          simp only [closeFrame, kept]
          exact dropped evolved
      | true =>
          simp only [closeFrame, kept, if_true]
          have reached : invariant inner.world := yields.of_ok ran rfl kept
          exact about.keptByEnds.commit holds (.of_evolves evolved) reached

end SimAction

namespace CallStack

/-- A frame that fails leaves the world as it is. -/
theorem world_failWith
    (error : VmError)
    (gas : UInt64)
    (simulation : Simulation) :
    (ActiveFrame.ended (Frame.failWith error gas simulation)).simulation.world =
      simulation.world := by
  unfold Frame.failWith
  cases error.isAbort <;> rfl

/-- What an action keeps holds where its run has ended. -/
theorem holds_ended
    {invariant : World → Prop}
    {action : SimAction Outcome}
    (keeps : Keeps (fun simulation => invariant simulation.world) action)
    {simulation : Simulation}
    (holds : invariant simulation.world) :
    invariant (ActiveFrame.ended (action simulation)).simulation.world := by
  cases result : action simulation with
  | ok answer after => exact keeps.of_ok result holds
  | error error after => exact keeps.of_error result holds

/-- What an action of the active frame ensures holds whether it has failed or not. -/
theorem holds_ofResult
    {invariant : World → Prop}
    {before : Machine → Prop}
    {action : Exec Unit}
    (ensures :
      Ensures before action (fun _ machine => invariant machine.simulation.world)
        fun _ machine => invariant machine.simulation.world)
    {machine : Machine}
    (begins : before machine) :
    invariant (ActiveFrame.ofResult (action machine)).simulation.world := by
  cases result : action machine with
  | ok answer after => exact ensures.of_ok result begins
  | error error after =>
      simp only [ActiveFrame.ofResult, world_failWith]
      exact ensures.of_error result begins

/-- An instruction that starts no frame writes to the innermost journal only. -/
theorem sameBelow_step
    (environment : Environment)
    (machine : Machine) :
    SameBelow machine.simulation.world
      (ActiveFrame.ofResult (Exec.step environment Runner.idle machine)).simulation.world := by
  have evolves :
      Keeps (Machine.Evolved false machine.simulation.world)
        (Exec.step environment Runner.idle) :=
    (Exec.keptByInstructions_evolved Runner.idle_leavesStatic.evolving false _).step
  have reached :
      Evolves false machine.simulation.world
        (ActiveFrame.ofResult
          (Exec.step environment Runner.idle machine)).simulation.world :=
    holds_ofResult
      (evolves.imp (fun _ => id) (fun _ _ holds => holds.1) fun _ _ holds => holds.1)
      ⟨.refl _, fun inStatic => by cases inStatic⟩
  exact .of_evolves reached

/-- Deploying code writes to the innermost journal only. -/
theorem sameBelow_settle
    (limits : Limits)
    (awaited : Awaited)
    (ended : EStateM.Result VmError Simulation Outcome) :
    SameBelow (ActiveFrame.ended ended).simulation.world
      (ActiveFrame.ended (awaited.settle limits ended)).simulation.world := by
  cases ended with
  | error error inner => cases awaited <;> exact .refl _
  | ok outcome inner =>
      cases awaited with
      | call output => exact .refl _
      | creation fresh =>
          simp only [Awaited.settle]
          split
          · have deploys :
                Keeps (fun simulation => SameBelow inner.world simulation.world)
                  (SimAction.deployOutput limits fresh outcome) :=
              SimAction.keeps_deployOutput
                (fun updated below => below.trans (.updateAccount updated)) limits outcome
            exact holds_ended deploys (.refl _)
          · exact .refl _

end CallStack

/-- A runner that keeps an invariant of worlds, and writes to the innermost journal only. -/
structure Runner.KeepsWorld (runner : Runner) (invariant : World → Prop) : Prop where
  evolving : runner.Evolving
  keeps :
    ∀ (context : FrameContext) (code : Bytes),
      Keeps (fun simulation => invariant simulation.world) (runner context code)

theorem Runner.idle_keepsWorld
    (invariant : World → Prop) :
    Runner.idle.KeepsWorld invariant where
  evolving := Runner.idle_leavesStatic.evolving
  keeps _ _ := Keeps.throw _

namespace World.KeptBesideStorage

open Exec SimAction

variable
  {rule : SelfDestructRule}
  {mayFound : Address → Prop}
  {invariant : World → Prop}
  {environment : Environment}
  {depth : Nat}

section

variable (kept : KeptBesideStorage rule mayFound invariant)
include kept

theorem quiet :
    Quiet false fun machine => invariant machine.simulation.world where
  move _ holds := holds
  trace _ holds := holds
  touch move holds := kept.touch move holds

theorem quietAtEachLevel
    (depth : Nat) :
    Quiet false fun machine => AtEachLevel invariant depth machine.simulation.world where
  move _ levels := levels
  trace _ levels := levels
  touch {frame simulation world} move levels := by
    refine AtEachLevel.change levels ?_ (kept.touch move levels.holds)
    cases move with
    | warmAccount => exact .record _ _
    | warmSlot => exact .record _ _

/-! ## Frames that begin -/

/-- A call that runs code begins with the invariant, in a frame of its own. -/
theorem callLaunch?
    {kind : CallKind}
    {context : FrameContext}
    {simulation opened : Simulation}
    {code : Bytes}
    (levels : AtEachLevel invariant depth simulation.world)
    (launches : SimAction.callLaunch? kind context simulation = some (code, opened)) :
    AtEachLevel invariant (depth + 1) opened.world := by
  obtain ⟨_, opens, launches⟩ := Option.bind_eq_some_iff.mp launches
  obtain ⟨_, _, launches⟩ := Option.bind_eq_some_iff.mp launches
  cases launches
  have pushed : invariant simulation.world.push := kept.push levels.holds
  obtain ⟨world, rfl, ⟨_, rfl⟩ | ⟨_, moved⟩⟩ := opened?_cases opens
  · exact .inside levels (.refl _) pushed
  · exact .inside levels (.transfer moved) (kept.transfer pushed moved)

/-- A contract that is founded begins with the invariant, where it may be founded. -/
theorem found
    {creator : Address}
    {context context' : FrameContext}
    {simulation founded : Simulation}
    (levels : AtEachLevel invariant depth simulation.world)
    (found : SimAction.found creator context simulation = .ok context' founded) :
    AtEachLevel invariant (depth + 1) founded.world ∧ mayFound context'.address := by
  obtain ⟨fresh, drawn, reached, counted, paid, draws, counts, moved, rfl, rfl⟩ :=
    exists_of_found found
  obtain ⟨same, free⟩ := of_newContractAddress draws
  have drew : AtEachLevel invariant depth drawn := by
    rw [same]
    refine levels.change ?_ (kept.draw _ levels.holds)
    exact ⟨rfl, rfl, rfl, rfl, rfl⟩
  have outside : AtEachLevel invariant depth counted :=
    drew.change (.updateAccount counts) (kept.countNonce counts drew.holds)
  have freeInside : counted.push.isFree fresh = .ok true :=
    (isFree_push fresh).trans (isFree_updateAccount free counts)
  have pushed : invariant counted.push := kept.push outside.holds
  have put := kept.newContract freeInside pushed
  constructor
  · exact .inside outside ((SameBelow.record _ _).trans (.transfer moved))
      (kept.transfer put moved)
  · exact kept.mayFound_of_isFree free drew.holds

/-- A frame that is started begins with the invariant, in a frame of its own. -/
theorem launch?
    {machine : Machine}
    {launch : FrameLaunch}
    (levels : AtEachLevel invariant depth machine.simulation.world)
    (found : Exec.launch? environment machine = some launch) :
    AtEachLevel invariant (depth + 1) launch.simulation.world ∧
      launch.waiting.awaited.MayFound mayFound := by
  have quiet := kept.quietAtEachLevel depth
  have begins :
      Keeps (fun machine => AtEachLevel invariant depth machine.simulation.world)
        (begin environment) :=
    (ensures_begin_of_quiet quiet (fun _ inStatic => by cases inStatic) fun levels =>
      levels).imp (fun _ => id) (fun _ _ holds => holds.1) fun _ _ => id
  obtain ⟨instruction, place, gasBefore, ready, begun, found⟩ := exists_of_launch? found
  have ready := begins.of_ok begun levels
  rcases exists_of_instructionLaunch? found with ⟨kind, called⟩ | ⟨_, salted, created⟩
  · obtain ⟨prepared, paid, code, opened, prepares, runs, rfl⟩ := exists_of_callLaunch? called
    have outside : AtEachLevel invariant depth paid.simulation.world :=
      (quiet.prepareCall (fun _ _ levels => levels) environment kind).of_ok prepares ready
    exact ⟨kept.callLaunch? outside runs, trivial⟩
  · obtain ⟨prepared, paid, context, founded, prepares, founds, rfl⟩ :=
      exists_of_creationLaunch? created
    have outside : AtEachLevel invariant depth paid.simulation.world :=
      (quiet.prepareCreation environment salted).of_ok prepares ready
    exact kept.found outside founds

/-! ## Frames that end -/

/-- The code of a contract is deployed where it may be founded. -/
theorem settle
    (limits : Limits)
    {awaited : Awaited}
    (allowed : awaited.MayFound mayFound)
    {ended : EStateM.Result VmError Simulation Outcome}
    (levels : AtEachLevel invariant depth (ActiveFrame.ended ended).simulation.world) :
    AtEachLevel invariant depth
      (ActiveFrame.ended (awaited.settle limits ended)).simulation.world := by
  cases ended with
  | error error inner => cases awaited <;> exact levels
  | ok outcome inner =>
      cases awaited with
      | call output => exact levels
      | creation fresh =>
          simp only [Awaited.settle]
          split
          · have deploys :=
              keeps_deployOutput (fun updated (levels : AtEachLevel invariant depth _) =>
                levels.change (.updateAccount updated) (kept.deploy allowed updated levels.holds))
                limits outcome
            exact CallStack.holds_ended deploys levels
          · exact levels

/-- What is waited for is taken with the invariant. -/
theorem taken
    (waiting : WaitingFrame)
    (outcome : Outcome)
    {closed : Simulation}
    (levels : AtEachLevel invariant depth closed.world) :
    AtEachLevel invariant depth
      (ActiveFrame.ofResult
        (amending waiting.place waiting.gasBefore (waiting.awaited.take outcome)
          ⟨waiting.frame, closed⟩)).simulation.world := by
  have takes :
      Keeps (fun machine => AtEachLevel invariant depth machine.simulation.world)
        (waiting.awaited.take outcome) :=
    Awaited.ensures_take (kept.quietAtEachLevel depth).toCalm (fun _ levels => levels) _
  exact CallStack.holds_ofResult
    (ensures_amending _ _ takes (fun _ levels => levels) fun _ levels => levels) levels

/-- A frame that goes on does so with the invariant. -/
theorem resume
    (limits : Limits)
    {waiting : WaitingFrame}
    (allowed : waiting.awaited.MayFound mayFound)
    {ended : EStateM.Result VmError Simulation Outcome}
    (levels :
      AtEachLevel invariant (depth + 1) (ActiveFrame.ended ended).simulation.world) :
    AtEachLevel invariant depth
      (ActiveFrame.ofResult (waiting.resume limits ended)).simulation.world := by
  have settled := kept.settle limits allowed levels
  unfold WaitingFrame.resume
  cases closes : waiting.awaited.settle limits ended with
  | error error inner =>
      rw [closes] at settled
      have fails :
          Keeps (fun machine => AtEachLevel invariant depth machine.simulation.world)
            (amending waiting.place waiting.gasBefore (throw error)) :=
        ensures_amending _ _ (Keeps.throw error) (fun _ levels => levels) fun _ levels => levels
      exact CallStack.holds_ofResult fails (settled.revert kept.keptByEnds)
  | ok outcome inner =>
      rw [closes] at settled
      refine kept.taken waiting outcome ?_
      split
      · exact settled.commit kept.keptByEnds
      · exact settled.revert kept.keptByEnds

/--
A frame that goes on after a success shows what the frame showed that it waited for, also where
the invariant did not hold when that one was opened.
-/
theorem resume_of_success
    (limits : Limits)
    {waiting : WaitingFrame}
    (allowed : waiting.awaited.MayFound mayFound)
    {ended : EStateM.Result VmError Simulation Outcome}
    {below : World}
    (isOpen : below.IsOpen)
    (opened : SameBelow below.push (ActiveFrame.ended ended).simulation.world)
    (holds : invariant (ActiveFrame.ended ended).simulation.world)
    {outcome : Outcome}
    {settled : Simulation}
    (settles : waiting.awaited.settle limits ended = .ok outcome settled)
    (success : outcome.isSuccess = true) :
    invariant (ActiveFrame.ofResult (waiting.resume limits ended)).simulation.world := by
  have reached := (kept.settle limits allowed (.outermost holds)).holds
  have inside := CallStack.sameBelow_settle limits waiting.awaited ended
  rw [settles] at reached inside
  have inside : SameBelow below.push settled.world := opened.trans inside
  have closed : invariant settled.world.commit :=
    kept.congr (inside.commit.isOpen isOpen) (inside.commit.redirects.trans inside.redirects.symm)
      (World.view_commit isOpen inside) reached
  unfold WaitingFrame.resume
  rw [settles]
  simp only [closeFrame, success, if_true]
  exact (kept.taken waiting outcome (.outermost closed)).holds

/-! ## Calls and creations -/

/-- A message call keeps the invariant if what its target does on success keeps it. -/
theorem ensures_messageCall
    {runner : Runner}
    (evolving : runner.Evolving)
    {kind : CallKind}
    {context : FrameContext}
    {simulation : Simulation}
    (holds : invariant simulation.world)
    (yields :
      ∀ opened ∈ opened? kind context simulation,
        invariant opened.world →
        Yields (· = opened) (runTarget environment runner context)
          fun outcome after => outcome.isSuccess = true → invariant after.world) :
    Ensures (· = simulation) (messageCall environment runner kind context)
      (fun _ simulation => invariant simulation.world)
      fun _ simulation => invariant simulation.world := by
  have evolves :
      Keeps (Simulation.Evolved false simulation.world.push)
        (if kind = .call then
          withTransfer context context.address
            (runTarget environment runner context)
        else
          runTarget environment runner context) :=
    keeps_sent evolving (fun inStatic => by cases inStatic)
      (fun inStatic => by cases inStatic) _
  refine ensures_framed_of_answers kept.toIsAboutAnswers holds
    (evolves.imp (fun _ same => same ▸ .refl _) (fun _ _ => id) fun _ _ => id) ?_
  have pushed : invariant simulation.world.push := kept.push holds
  unfold opened? at yields
  dsimp only at yields
  split
  · rename_i isCall
    rw [if_pos isCall] at yields
    intro start same
    subst start
    unfold withTransfer
    dsimp only
    cases moved :
        simulation.world.push.transfer context.caller context.address context.value with
    | error error =>
        dsimp only
        cases error.isAbort with
        | true => trivial
        | false => exact fun succeeded => by cases succeeded
    | ok world =>
        rw [moved] at yields
        exact yields _ rfl (kept.transfer pushed moved) _ rfl
  · rename_i notCall
    rw [if_neg notCall] at yields
    exact yields _ rfl pushed

/-- A creation keeps the invariant if its init code does. -/
theorem createContract
    {runner : Runner}
    (keepsWorld : runner.KeepsWorld invariant)
    (creator : Address)
    (context : FrameContext)
    (initCode : Bytes) :
    Keeps (fun simulation => invariant simulation.world)
      (SimAction.createContract environment runner creator context initCode) := by
  refine Ensures.bind (ensures_freshAddress invariant (kept.draw _) creator) fun fresh => ?_
  refine Ensures.bind
    ((keeps_countNonce kept.countNonce fresh).imp_failed fun _ _ holds => holds.1) fun _ => ?_
  intro simulation ⟨holds, free⟩
  have allowed : mayFound fresh := kept.mayFound_of_isFree free holds
  have freeInside : simulation.world.push.isFree fresh = .ok true :=
    (isFree_push fresh).trans free
  let inside := { context with caller := creator, address := fresh, codeAddress := fresh }
  refine ensures_framed_of_answers kept.toIsAboutAnswers holds ?_ ?_ simulation rfl
  · have evolves :=
      @keepsGiven_founded environment runner keepsWorld.evolving fresh inside initCode
        simulation.world.push
    refine evolves.imp (fun _ same => ?_) (fun _ _ => id) fun _ _ => id
    subst same
    exact ⟨.refl _, freeInside⟩
  · have founded :
        KeepsGiven (fun simulation => simulation.world.isFree fresh = .ok true)
          (fun simulation => invariant simulation.world)
          (do
            putNewContract fresh
            withTransfer inside fresh do
              let outcome ← runner inside initCode
              if outcome.isSuccess then
                deployOutput environment.limits fresh outcome
              else
                return outcome) := by
      refine KeepsGiven.bind_used (fun _ holds => kept.newContract holds.2 holds.1) fun _ => ?_
      refine keeps_withTransfer kept.transfer ?_
      refine (keepsWorld.keeps inside initCode).bind fun outcome => ?_
      split
      · exact keeps_deployOutput (kept.deploy allowed) _ outcome
      · exact Keeps.pure _
    refine (Yields.of_ensures founded).imp (fun _ same => ?_) fun _ _ holds _ => holds
    subst same
    exact ⟨kept.push holds, freeInside⟩

/-- A message call keeps the invariant, if the token service and the code that it runs do. -/
theorem messageCall
    (answer : ∀ dispatched : DispatchedCall, Keeps invariant dispatched.answer)
    {runner : Runner}
    (keepsWorld : runner.KeepsWorld invariant)
    (kind : CallKind)
    (context : FrameContext) :
    Keeps (fun simulation => invariant simulation.world)
      (SimAction.messageCall environment runner kind context) := by
  intro simulation holds
  refine kept.ensures_messageCall keepsWorld.evolving holds (fun opened _ reached => ?_)
    simulation rfl
  have answers :
      Keeps (fun simulation => invariant simulation.world)
        (runTarget environment runner context) :=
    keeps_runTarget_of_answers (fun dispatched _ => keeps_attempt (answer dispatched))
      (keepsWorld.keeps context)
  exact (Yields.of_keeps answers).imp (fun _ same => same ▸ reached) fun _ _ holds _ => holds

/-! ## Instructions -/

/-- An instruction that calls keeps the invariant, if the token service and the code do. -/
theorem call
    (answer : ∀ dispatched : DispatchedCall, Keeps invariant dispatched.answer)
    {runner : Runner}
    (keepsWorld : runner.KeepsWorld invariant)
    (kind : CallKind) :
    Keeps (fun machine => invariant machine.simulation.world)
      (Exec.call environment runner kind) := by
  have quiet := kept.quiet
  have gives (gas : UInt64) :
      Keeps (fun machine => invariant machine.simulation.world) (giveBack gas) :=
    fun _ holds => holds
  refine (quiet.prepareCall gives environment kind).bind fun launch? => ?_
  cases launch? with
  | none => exact quiet.push 0
  | some launch =>
      refine Keeps.bind (keeps_onSimulation fun _ => ?_) fun outcome => ?_
      · exact kept.messageCall answer keepsWorld kind launch.context
      · exact quiet.ensures_takeOutcome (fun inStatic => by cases inStatic) (gives _) _ _

end

/-- Every instruction that makes no call and stores no word keeps the invariant. -/
theorem keptBesideStoring
    (kept : KeptBesideStorage environment.rules.selfDestruct mayFound invariant)
    {runner : Runner}
    (keepsWorld : runner.KeepsWorld invariant) :
    KeptBesideStoring environment runner false
      fun machine => invariant machine.simulation.world where
  toQuiet := kept.quiet
  setTransient _ _ _ address key value holds := kept.setTransient address key value holds
  selfDestruct _ := keeps_selfDestruct kept.toKeptByDestruction kept.quiet
  create _ salted := by
    have quiet := kept.quiet
    refine (quiet.prepareCreation environment salted).bind fun launch? => ?_
    cases launch? with
    | none => exact quiet.push 0
    | some launch =>
        refine keeps_context.bind fun context => ?_
        refine Keeps.bind (keeps_onSimulation fun _ => ?_) fun outcome => ?_
        · exact kept.createContract keepsWorld _ _ _
        · exact quiet.ensures_takeCreation (fun inStatic => by cases inStatic)
            fun _ holds => holds

/-- Every instruction that stores no word keeps the invariant. -/
theorem execute
    (kept : KeptBesideStorage environment.rules.selfDestruct mayFound invariant)
    (answer : ∀ dispatched : DispatchedCall, Keeps invariant dispatched.answer)
    {runner : Runner}
    (keepsWorld : runner.KeepsWorld invariant)
    {instruction : Instruction}
    (noStore : instruction ≠ .storageStore) :
    Keeps (fun machine => invariant machine.simulation.world)
      (Exec.execute environment runner instruction) := by
  cases calls : instruction.callKind? with
  | none => exact (kept.keptBesideStoring keepsWorld).execute_of_no_call calls noStore nofun
  | some kind =>
      rw [Exec.execute_of_callKind? calls]
      exact kept.call answer keepsWorld kind

end World.KeptBesideStorage

/-- Every instruction that makes no call keeps the invariant. -/
theorem World.KeptByCode.keptByWriting
    {environment : Environment}
    {mayFound : Address → Prop}
    {invariant : World → Prop}
    (kept : KeptByCode environment.rules.selfDestruct mayFound invariant)
    {runner : Runner}
    (keepsWorld : runner.KeepsWorld invariant) :
    KeptByWriting environment runner false
      fun machine => invariant machine.simulation.world where
  toKeptBesideStoring := kept.keptBesideStoring keepsWorld
  setStorage _ _ _ address key value holds := kept.setStorage address key value holds

/-! ## Runs -/

/-- An invariant of worlds that is also kept by the answers of the token service. -/
structure World.KeptByRuns
    (rule : SelfDestructRule)
    (mayFound : Address → Prop)
    (invariant : World → Prop) : Prop
    extends KeptByCode rule mayFound invariant where
  answer :
    ∀ dispatched : DispatchedCall, Keeps invariant dispatched.answer

/--
The invariant holds in each frame of a stack, and the contracts that are being created are
founded where they may be.
-/
structure CallStack.Holds
    (mayFound : Address → Prop)
    (invariant : World → Prop)
    (stack : CallStack) : Prop where
  levels : AtEachLevel invariant stack.waiting.length stack.active.simulation.world
  founded : ∀ waiting ∈ stack.waiting, waiting.awaited.MayFound mayFound

namespace World.KeptByRuns

open Exec SimAction

variable
  {rule : SelfDestructRule}
  {mayFound : Address → Prop}
  {invariant : World → Prop}
  {environment : Environment}

variable (kept : KeptByRuns environment.rules.selfDestruct mayFound invariant)
include kept

/-- Every instruction keeps the invariant if the code that it runs does. -/
theorem keptByInstructions
    {runner : Runner}
    (keepsWorld : runner.KeepsWorld invariant) :
    KeptByInstructions environment runner false
      fun machine => invariant machine.simulation.world where
  toKeptByWriting := kept.keptByWriting keepsWorld
  static _ inStatic := by cases inStatic
  count holds := holds
  call kind := kept.call kept.answer keepsWorld kind

/-- However long a frame runs, the invariant is kept. -/
theorem run
    (fuel : Nat)
    (frame : Frame) :
    Keeps (fun simulation => invariant simulation.world) (frame.run environment fuel) := by
  -- the bound of a frame also bounds the frames it starts, so one hypothesis serves both
  induction fuel generalizing frame with
  | zero =>
      exact Keeps.throw _
  | succ fuel inductionHypothesis =>
      have keepsWorld : (environment.runnerWithin fun _ => fuel).KeepsWorld invariant :=
        ⟨environment.evolving_runnerWithin _, fun _ _ => inductionHypothesis _⟩
      exact Frame.ensures_run_succ (fun _ _ holds => holds)
        (kept.keptByInstructions keepsWorld).step inductionHypothesis
        (fun error frame => Frame.keeps_failWith (fun _ holds => holds) error frame.gas) frame

/-- Whatever bound is set, code that is run keeps the invariant. -/
theorem runnerWithin
    (bound : FrameContext → Nat) :
    (environment.runnerWithin bound).KeepsWorld invariant where
  evolving := environment.evolving_runnerWithin bound
  keeps _ _ := kept.run _ _

/-- A move keeps the invariant in each frame. -/
theorem moves
    {before after : CallStack}
    (move : CallStack.Moves environment before after)
    (holds : before.Holds mayFound invariant) :
    after.Holds mayFound invariant := by
  obtain ⟨levels, founded⟩ := holds
  cases move.moved with
  | close finished => exact ⟨levels, founded⟩
  | launch runs found =>
      obtain ⟨levels, allowed⟩ := kept.launch? levels found
      exact ⟨levels, List.forall_mem_cons.mpr ⟨allowed, founded⟩⟩
  | handOn =>
      obtain ⟨allowed, founded⟩ := List.forall_mem_cons.mp founded
      exact ⟨kept.resume environment.limits allowed levels, founded⟩
  | @act machine waiting runs =>
      have acts :=
        CallStack.holds_ofResult
          (kept.keptByInstructions (Runner.idle_keepsWorld invariant)).step levels.holds
      exact ⟨levels.change (CallStack.sameBelow_step environment machine) acts, founded⟩

/-- A run keeps the invariant in each frame. -/
theorem leads
    {count : Nat}
    {start stack : CallStack}
    (leads : CallStack.Leads (CallStack.Moves environment) count start stack)
    (begins : start.Holds mayFound invariant) :
    stack.Holds mayFound invariant :=
  leads.keeps kept.moves begins

end World.KeptByRuns

end LedgerEvm
