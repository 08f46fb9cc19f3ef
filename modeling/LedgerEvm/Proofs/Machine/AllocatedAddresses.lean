import LedgerEvm.Proofs.Machine.Aborts
import LedgerEvm.Proofs.TokenService.AddressSearches

namespace LedgerEvm

/-!
# Addresses that are allocated in a run

A contract that is created and a token that is created get an address from a search.  Nothing
else draws numbers, and no frame gives its numbers back, whether it is kept or dropped.  So
each search of a run starts where the one before has ended, in whatever frames they are made,
and as long as the counter rises no address is allocated twice.

What is drawn between two starts of a frame is told by running it with a runner that fails at
once: whatever it leaves is what the frame that is started, or the one that goes on, begins with.
-/

open AddressSearch (Follow)

namespace SimAction

variable
  {environment : Environment}
  {context : FrameContext}
  {simulation : Simulation}
  {number : UInt64}

/-! ## Frames of the world -/

theorem nextNum_closeFrame
    {α : Type}
    (keeps : α → Bool)
    (ended : EStateM.Result VmError Simulation α) :
    (stateOf (closeFrame keeps ended)).world.nextNum = (stateOf ended).world.nextNum := by
  cases ended with
  | error error inner => rfl
  | ok answer inner =>
      simp only [closeFrame, stateOf]
      split
      · exact inner.world.nextNum_commit
      · rfl

/-- A frame draws what is drawn in it, whether it is kept or dropped. -/
theorem keeps_framed_nextNum
    {α : Type}
    {keeps : α → Bool}
    {action : SimAction α}
    (kept : Keeps (fun simulation => simulation.world.nextNum = number) action) :
    Keeps (fun simulation => simulation.world.nextNum = number) (framed keeps action) := by
  intro simulation drawn
  refine Ensures.of_leaves ?_ simulation rfl
  have closed :=
    nextNum_closeFrame keeps (action { simulation with world := simulation.world.push })
  exact closed.trans (kept.holds_leaves drawn)

/-! ## Calls -/

/-- Where no call is dispatched, the target of a call answers without writing. -/
theorem world_runTarget_of_not_dispatched
    (none : dispatched? environment context simulation.world = none) :
    (leaves (runTarget environment Runner.idle context) simulation).world =
      simulation.world := by
  have unwritten {action : SimAction Outcome} (keeps : Keeps (· = simulation) action) :
      (leaves action simulation).world = simulation.world :=
    congrArg Simulation.world (keeps.holds_leaves rfl)
  unfold dispatched? at none
  unfold runTarget
  dsimp only at none ⊢
  split
  · exact unwritten (keeps_answered _ _)
  rename_i noContract
  simp only [noContract, Option.isSome_none, Bool.false_eq_true, if_false] at none
  split
  · rename_i service
    rw [if_pos service] at none
    cases none
  rename_i noService
  rw [if_neg noService] at none
  split
  · exact unwritten (keeps_answered _ _)
  rename_i noRate
  split
  · exact unwritten (keeps_answered _ _)
  rename_i noSeed
  rw [if_neg (by simp [noRate, noSeed])] at none
  cases asks : isTokenCall simulation.world context.codeAddress with
  | error error =>
      have asked :
          ask (fun world => isTokenCall world context.codeAddress) simulation =
            .error (.state error) simulation := by
        simp only [ask, asks]
      rw [leaves_bind_of_error asked]
  | ok isToken =>
      have asked :
          ask (fun world => isTokenCall world context.codeAddress) simulation =
            .ok isToken simulation := by
        simp only [ask, asks]
      rw [leaves_bind_of_ok asked]
      cases isToken with
      | true =>
          rw [asks] at none
          cases none
      | false =>
          refine unwritten ((keeps_ask _).bind fun code => ?_)
          split
          · exact Keeps.pure _
          · exact Keeps.throw _

/-- A call whose value cannot be moved leaves the world as it is. -/
theorem world_messageCall_of_not_opened
    {kind : CallKind}
    (none : opened? kind context simulation = none)
    (runner : Runner) :
    (leaves (messageCall environment runner kind context) simulation).world =
      simulation.world := by
  unfold opened? at none
  dsimp only at none
  split at none
  · rename_i isCall
    split at none
    · cases none
    · rename_i error refused
      simp only [messageCall, if_pos isCall, leaves, framed, withTransfer, refused]
      cases error.isAbort with
      | true => exact World.revert_push simulation.world
      | false => exact World.revert_push simulation.world
  · cases none

/-- A call that starts no frame draws the numbers of its search, and no others. -/
theorem follow_messageCall
    (environment : Environment)
    (kind : CallKind)
    (context : FrameContext)
    (simulation : Simulation) :
    Follow simulation.world.nextNum (callDrawing? environment kind context simulation).toList
      (leaves (messageCall environment Runner.idle kind context) simulation).world.nextNum := by
  unfold callDrawing?
  cases opens : opened? kind context simulation with
  | none =>
      rw [world_messageCall_of_not_opened opens]
      exact .none _
  | some opened =>
      have started : opened.world.nextNum = simulation.world.nextNum := by
        obtain ⟨world, rfl, ⟨_, rfl⟩ | ⟨_, moved⟩⟩ := opened?_cases opens
        · rfl
        · have sent := World.nextNum_transfer moved
          exact sent
      have closes :
          (leaves (messageCall environment Runner.idle kind context) simulation).world.nextNum =
            (leaves (runTarget environment Runner.idle context) opened).world.nextNum := by
        have closed :=
          nextNum_closeFrame Outcome.isSuccess
            (runTarget environment Runner.idle context opened)
        rw [← messageCall_of_opened? opens] at closed
        exact closed
      rw [closes, ← started]
      simp only [Option.bind_eq_bind, Option.bind_some, targetDrawing?]
      cases dispatches : dispatched? environment context opened.world with
      | none =>
          rw [world_runTarget_of_not_dispatched dispatches]
          exact .none _
      | some dispatched =>
          rw [world_runTarget_of_dispatched? dispatches]
          exact dispatched.follow_answer opened.world

/-! ## Creations -/

/-- A contract is put at the address that has been found without drawing further numbers. -/
theorem exists_createContract_eq
    (environment : Environment)
    (creator : Address)
    (context : FrameContext)
    (initCode : Bytes) :
    ∃ place : Address → SimAction Outcome,
      createContract environment Runner.idle creator context initCode =
          (freshAddress creator >>= place) ∧
        ∀ number address,
          Keeps (fun simulation => simulation.world.nextNum = number) (place address) := by
  refine ⟨_, rfl, fun number address => ?_⟩
  refine Keeps.bind (keeps_change fun drawn counts => ?_) fun _ => ?_
  · obtain ⟨⟨reached, counted⟩, found, done⟩ := exists_of_bind_eq_ok counts
    cases done
    exact (World.nextNum_updateAccount (World.eq_ok_of_lookUp found)).trans drawn
  refine keeps_framed_nextNum (Keeps.bind (keeps_change fun drawn puts => ?_) fun _ => ?_)
  · cases puts
    exact (World.nextNum_record _ _).trans drawn
  refine @keeps_withTransfer (fun world => world.nextNum = number) _ _ _
    (fun drawn moved => (World.nextNum_transfer moved).trans drawn) ?_
  refine Keeps.bind (Keeps.throw _) fun outcome => ?_
  split
  · exact @keeps_deployOutput (fun world => world.nextNum = number) _
      (fun deployed drawn => (World.nextNum_updateAccount deployed).trans drawn) _ _
  · exact Keeps.pure _

/-- A creation draws the numbers of the search for its address, and no others. -/
theorem follow_createContract
    (environment : Environment)
    (creator : Address)
    (context : FrameContext)
    (initCode : Bytes)
    (simulation : Simulation) :
    Follow simulation.world.nextNum [(simulation.world, creator)]
      (leaves (createContract environment Runner.idle creator context initCode)
        simulation).world.nextNum := by
  obtain ⟨place, split, keeps⟩ := exists_createContract_eq environment creator context initCode
  rw [split]
  have drew :
      (leaves (freshAddress creator) simulation).world =
        AddressSearch.drawn (simulation.world, creator) := by
    unfold leaves freshAddress AddressSearch.drawn
    cases simulation.world.newContractAddress creator with
    | mk answer drawn => cases answer <;> rfl
  rw [Keeps.read_leaves_bind keeps, drew]
  exact .next (simulation.world, creator) (.none _)

end SimAction

/-! ## Instructions -/

/-- The next number to be drawn in the world of a machine. -/
def Machine.nextNum (machine : Machine) : UInt64 :=
  machine.simulation.world.nextNum

namespace Exec

open Machine (nextNum)

variable {environment : Environment}

/-- What a frame does quietly draws no numbers. -/
theorem quiet_nextNum
    (number : UInt64) :
    Quiet false fun machine => nextNum machine = number where
  move _ drawn := drawn
  trace _ drawn := drawn
  touch touched drawn := by
    cases touched with
    | warmAccount | warmSlot => exact (World.nextNum_record _ _).trans drawn

theorem leaves_onSimulation
    {α : Type}
    (action : SimAction α)
    (machine : Machine) :
    leaves (onSimulation action) machine = ⟨machine.frame, leaves action machine.simulation⟩ := by
  obtain ⟨frame, simulation⟩ := machine
  unfold leaves onSimulation
  dsimp only
  cases action simulation <;> rfl

/-- Nothing is drawn before what has been prepared is started, or when nothing is started. -/
theorem follow_prepared
    {α : Type}
    {prepare : Exec (Option α)}
    {next : Option α → Exec Unit}
    {machine : Machine}
    {search? : Option AddressSearch}
    (prepares : ∀ number, Keeps (fun machine => nextNum machine = number) prepare)
    (skips : ∀ number, Keeps (fun machine => nextNum machine = number) (next none))
    (unstarted :
      (∀ launch paid, prepare machine ≠ .ok (some launch) paid) → search? = none)
    (starts :
      ∀ launch paid,
        prepare machine = .ok (some launch) paid →
        Follow (nextNum paid) search?.toList (nextNum (leaves (next (some launch)) paid))) :
    Follow (nextNum machine) search?.toList (nextNum (leaves (prepare >>= next) machine)) := by
  have prepared := prepares (nextNum machine) machine rfl
  cases result : prepare machine with
  | error error paid =>
      rw [result] at prepared
      rw [unstarted fun launch paid => by simp [result], leaves_bind_of_error result]
      exact .of_eq prepared
  | ok launch? paid =>
      rw [result] at prepared
      rw [leaves_bind_of_ok result]
      cases launch? with
      | none =>
          rw [unstarted fun launch paid => by simp [result], (skips _).holds_leaves prepared]
          exact .none _
      | some launch =>
          rw [← prepared]
          exact starts launch paid result

theorem follow_create
    (environment : Environment)
    (salted : Bool)
    (machine : Machine) :
    Follow (nextNum machine) (creationDrawing? environment salted machine).toList
      (nextNum (leaves (create environment Runner.idle salted) machine)) := by
  unfold create creationDrawing?
  refine follow_prepared (fun number => (quiet_nextNum number).prepareCreation _ _)
    (fun number => (quiet_nextNum number).push 0) (fun unstarted => ?_)
    fun launch paid prepares => ?_
  · split
    · rename_i prepares
      exact (unstarted _ _ prepares).elim
    · rfl
  · have takes (number : UInt64) (outcome : Outcome) :
        Keeps (fun machine => nextNum machine = number) (takeCreation outcome) :=
      (quiet_nextNum number).ensures_takeCreation nofun fun _ drawn => drawn
    simp only [prepares]
    rw [leaves_bind_of_ok (context_eq_ok paid), Keeps.read_leaves_bind takes,
      leaves_onSimulation]
    exact SimAction.follow_createContract environment paid.frame.context.address launch.context
      launch.initCode paid.simulation

theorem follow_call
    (environment : Environment)
    (kind : CallKind)
    (machine : Machine) :
    Follow (nextNum machine) (callDrawing? environment kind machine).toList
      (nextNum (leaves (call environment Runner.idle kind) machine)) := by
  unfold call callDrawing?
  refine follow_prepared
    (fun number => (quiet_nextNum number).prepareCall (fun _ _ drawn => drawn) _ _)
    (fun number => (quiet_nextNum number).push 0) (fun unstarted => ?_)
    fun launch paid prepares => ?_
  · split
    · rename_i prepares
      exact (unstarted _ _ prepares).elim
    · rfl
  · have takes (number : UInt64) (outcome : Outcome) :
        Keeps (fun machine => nextNum machine = number)
          (takeOutcome outcome launch.output.1 launch.output.2) :=
      (quiet_nextNum number).ensures_takeOutcome nofun (fun _ drawn => drawn) _ _
    simp only [prepares]
    rw [Keeps.read_leaves_bind takes, leaves_onSimulation]
    exact SimAction.follow_messageCall environment kind launch.context paid.simulation

/-- An instruction that neither calls nor creates draws no numbers. -/
theorem nextNum_execute
    {instruction : Instruction}
    (noCall : instruction.callKind? = none)
    (noCreate : instruction ≠ .create)
    (noCreate2 : instruction ≠ .create2)
    (machine : Machine) :
    nextNum (leaves (execute environment Runner.idle instruction) machine) = nextNum machine := by
  generalize drew : nextNum machine = number
  have quiet := quiet_nextNum number
  suffices kept :
      Keeps (fun machine => nextNum machine = number)
        (execute environment Runner.idle instruction) from
    kept.holds_leaves drew
  cases modifies : instruction.modifiesState with
  | false =>
      exact quiet.toCalm.execute environment Runner.idle noCall modifies (fun _ => rfl)
        fun _ => rfl
  | true =>
      cases instruction with
      | create => exact (noCreate rfl).elim
      | create2 => exact (noCreate2 rfl).elim
      | storageStore =>
          exact quiet.storageStore rfl fun _ _ _ _ drawn => (World.nextNum_record _ _).trans drawn
      | transientStore =>
          exact quiet.transientStore fun _ _ _ _ drawn => (World.nextNum_record _ _).trans drawn
      | log topics => exact quiet.log rfl _ _
      | selfDestruct =>
          refine @keeps_selfDestruct _ (fun world => world.nextNum = number) ⟨?_, ?_⟩ quiet
          · exact fun drawn moved => (World.nextNum_transfer moved).trans drawn
          · intro _ _ _ _ _ _ drawn _ _ swept _ deleted
            have marked :=
              World.nextNum_updateAccount (World.updateAccount_of_deleteAccount deleted)
            exact marked.trans ((World.nextNum_transfer swept).trans drawn)
      | _ => cases modifies

/-- An instruction draws the numbers of its search, and no others. -/
theorem follow_execute
    (environment : Environment)
    (instruction : Instruction)
    (machine : Machine) :
    Follow (nextNum machine) (instructionDrawing? environment machine instruction).toList
      (nextNum (leaves (execute environment Runner.idle instruction) machine)) := by
  cases instruction with
  | call | callCode | delegateCall | staticCall => exact follow_call environment _ machine
  | create => exact follow_create environment false machine
  | create2 => exact follow_create environment true machine
  | _ =>
      refine .of_eq (nextNum_execute ?_ ?_ ?_ machine)
      · rfl
      · nofun
      · nofun

/-- A step that starts no frame draws the numbers of its search, and no others. -/
theorem follow_step
    (environment : Environment)
    (machine : Machine) :
    Follow (nextNum machine) (drawing? environment machine).toList
      (nextNum (leaves (step environment Runner.idle) machine)) := by
  have begins :=
    @ensures_begin_of_quiet environment false _ (quiet_nextNum (nextNum machine)) nofun
      (fun drawn => drawn) machine rfl
  rw [step_eq]
  unfold drawing?
  cases begun : begin environment machine with
  | error error ready =>
      rw [begun] at begins
      rw [leaves_bind_of_error begun, begins]
      exact .none _
  | ok answer ready =>
      obtain ⟨instruction, place, gasBefore⟩ := answer
      rw [begun] at begins
      rw [leaves_bind_of_ok begun, ← begins.1]
      let reached := leaves (execute environment Runner.idle instruction) ready
      have acts :
          Ensures (· = ready) (execute environment Runner.idle instruction)
            (fun _ machine => nextNum machine = nextNum reached)
            fun _ machine => nextNum machine = nextNum reached :=
        .of_leaves rfl
      have amended :
          nextNum (leaves (amending place gasBefore
              (execute environment Runner.idle instruction)) ready) =
            nextNum reached :=
        (ensures_amending place gasBefore acts (fun _ drawn => drawn)
          fun _ drawn => drawn).holds_leaves rfl
      dsimp only
      rw [amended]
      exact follow_execute environment instruction ready

end Exec

/-! ## Frames that end -/

/-- What becomes of an ended frame draws no numbers. -/
theorem Awaited.nextNum_settle
    (limits : Limits)
    (awaited : Awaited)
    (ended : EStateM.Result VmError Simulation Outcome) :
    (stateOf (awaited.settle limits ended)).world.nextNum = (stateOf ended).world.nextNum := by
  cases ended with
  | error error inner => cases awaited <;> rfl
  | ok outcome inner =>
      cases awaited with
      | call output => rfl
      | creation address =>
          simp only [Awaited.settle]
          split
          · have deploys :
                Keeps (fun simulation => simulation.world.nextNum = inner.world.nextNum)
                  (SimAction.deployOutput limits address outcome) :=
              @SimAction.keeps_deployOutput (fun world => world.nextNum = inner.world.nextNum) _
                (fun deployed drawn => (World.nextNum_updateAccount deployed).trans drawn) _ _
            exact deploys.holds_leaves rfl
          · rfl

/-- A frame that goes on after another one has ended draws no numbers for that. -/
theorem WaitingFrame.nextNum_resume
    (limits : Limits)
    (waiting : WaitingFrame)
    (ended : EStateM.Result VmError Simulation Outcome) :
    Machine.nextNum (stateOf (waiting.resume limits ended)) = (stateOf ended).world.nextNum := by
  rw [← waiting.awaited.nextNum_settle limits ended,
    ← SimAction.nextNum_closeFrame Outcome.isSuccess]
  unfold WaitingFrame.resume
  have amended (action : Exec Unit) (after : Simulation)
      (keeps : Keeps (fun machine => Machine.nextNum machine = after.world.nextNum) action) :
      Machine.nextNum
          (leaves (Exec.amending waiting.place waiting.gasBefore action)
            ⟨waiting.frame, after⟩) =
        after.world.nextNum :=
    (Exec.ensures_amending waiting.place waiting.gasBefore keeps (fun _ drawn => drawn)
      fun _ drawn => drawn).holds_leaves rfl
  cases SimAction.closeFrame Outcome.isSuccess (waiting.awaited.settle limits ended) with
  | ok outcome after =>
      refine amended (waiting.awaited.take outcome) after ?_
      exact Awaited.ensures_take (Exec.quiet_nextNum _).toCalm (fun _ drawn => drawn) _
  | error error after => exact amended (throw error) after (Keeps.throw _)

/-! ## Moves -/

namespace CallStack

variable
  {environment : Environment}
  {before after : CallStack}

/-- The next number to be drawn. -/
def nextNum (stack : CallStack) : UInt64 :=
  stack.active.simulation.world.nextNum

/-- The search that the next move makes, if it gets to one. -/
def search? (environment : Environment) : CallStack → Option AddressSearch
  | ⟨.running machine, _⟩ =>
      if machine.frame.isOver then none else Exec.drawing? environment machine
  | ⟨.ended _, _⟩ => none

theorem nextNum_ended
    (ended : EStateM.Result VmError Simulation Outcome)
    (waiting : List WaitingFrame) :
    nextNum ⟨.ended ended, waiting⟩ = (stateOf ended).world.nextNum := by
  cases ended <;> rfl

/-- A frame that fails draws nothing as it does. -/
theorem nextNum_ofResult
    (result : EStateM.Result VmError Machine Unit)
    (waiting : List WaitingFrame) :
    nextNum ⟨.ofResult result, waiting⟩ = Machine.nextNum (stateOf result) := by
  cases result with
  | ok answer after => rfl
  | error error after =>
      exact congrArg World.nextNum (world_failWith error after.frame.gas after.simulation)

/-- A move draws the numbers of its search, and no others. -/
theorem follow_moves
    (move : Moves environment before after) :
    Follow before.nextNum (before.search? environment).toList after.nextNum := by
  have searches {machine : Machine} (waiting : List WaitingFrame)
      (runs : machine.frame.isOver = false) :
      search? environment ⟨.running machine, waiting⟩ = Exec.drawing? environment machine := by
    simp only [search?, runs, Bool.false_eq_true, if_false]
  cases move.moved with
  | close finished =>
      simp only [search?, finished, if_true]
      exact .none _
  | @launch machine waiting launch runs found =>
      -- the idle runner fails at once, so the step leaves what the frame starts with
      have stepped := Exec.follow_step environment machine
      have started :
          Machine.nextNum (leaves (Exec.step environment Runner.idle) machine) =
            launch.simulation.world.nextNum := by
        rw [leaves_eq_stateOf, Exec.step_of_launch? found Runner.idle]
        exact launch.waiting.nextNum_resume environment.limits _
      rw [started] at stepped
      rw [searches waiting runs]
      exact stepped
  | @act machine waiting runs =>
      rw [searches waiting runs, nextNum_ofResult]
      exact Exec.follow_step environment machine
  | @handOn ended frame waiting =>
      rw [nextNum_ofResult, frame.nextNum_resume environment.limits, nextNum_ended]
      exact .none _

/-- Moves from one stack to another, with the searches that they make. -/
inductive Searches (environment : Environment) :
    List AddressSearch → CallStack → CallStack → Prop where
  | stay (stack : CallStack) : Searches environment [] stack stack
  | go
      {searches : List AddressSearch} {before middle after : CallStack}
      (move : Moves environment before middle)
      (goesOn : Searches environment searches middle after) :
      Searches environment ((before.search? environment).toList ++ searches) before after

/-- Each search of a run starts where the one before has ended. -/
theorem Searches.follow
    {searches : List AddressSearch}
    (made : Searches environment searches before after) :
    Follow before.nextNum searches after.nextNum := by
  induction made with
  | stay stack => exact .none _
  | go move goesOn inductionHypothesis => exact (follow_moves move).append inductionHypothesis

/-- Whatever moves lead on, they make some searches. -/
theorem exists_searches
    {count : Nat}
    (leads : Leads (Moves environment) count before after) :
    ∃ searches, Searches environment searches before after := by
  induction leads with
  | stay stack => exact ⟨[], .stay stack⟩
  | go move leads inductionHypothesis =>
      obtain ⟨searches, goesOn⟩ := inductionHypothesis
      exact ⟨_, .go move goesOn⟩

/-- A number of moves, with the searches that they make. -/
def advanceSearching (environment : Environment) :
    Nat → CallStack → Option (List AddressSearch × CallStack)
  | 0, stack => some ([], stack)
  | count + 1, stack => do
      let middle ← stack.next environment
      let (searches, after) ← advanceSearching environment count middle
      return ((stack.search? environment).toList ++ searches, after)

theorem searches_of_advanceSearching
    {count : Nat}
    {searches : List AddressSearch}
    (reached : advanceSearching environment count before = some (searches, after)) :
    Searches environment searches before after := by
  induction count generalizing before searches with
  | zero =>
      cases reached
      exact .stay _
  | succ count inductionHypothesis =>
      obtain ⟨middle, move, reached⟩ := Option.bind_eq_some_iff.mp reached
      obtain ⟨⟨later, last⟩, goesOn, reached⟩ := Option.bind_eq_some_iff.mp reached
      cases reached
      exact .go move (inductionHypothesis goesOn)

end CallStack

/-! ## Transactions -/

namespace Environment

variable
  {environment : Environment}
  {context : FrameContext}
  {isCreation : Bool}
  {entered : Simulation}
  {reached : World}
  {searches : List AddressSearch}

/--
The searches that a transaction has made when it has reached a world: when it has been answered
without a frame, or at any moment of the run of its frames.  It enters in a world in which what
it names has been marked.
-/
inductive HasSearched
    (environment : Environment)
    (context : FrameContext)
    (isCreation : Bool)
    (entered : Simulation) :
    List AddressSearch → World → Prop where
  | answered
      (noFrame : environment.firstStack? context isCreation entered = none) :
      HasSearched environment context isCreation entered
        (environment.firstDrawing? context isCreation entered).toList
        (leaves (environment.firstFrame context isCreation) entered).world
  | runs
      {start stack : CallStack} {searches : List AddressSearch}
      (begins : environment.firstStack? context isCreation entered = some start)
      (made : start.Searches environment searches stack) :
      HasSearched environment context isCreation entered
        ((environment.firstDrawing? context isCreation entered).toList ++ searches)
        stack.active.simulation.world

/-- The searches that a transaction makes in a number of moves of its frames. -/
def searchesWithin
    (environment : Environment)
    (context : FrameContext)
    (isCreation : Bool)
    (entered : Simulation)
    (count : Nat) :
    Option (List AddressSearch × World) := do
  let start ← environment.firstStack? context isCreation entered
  let (searches, stack) ← start.advanceSearching environment count
  return ((environment.firstDrawing? context isCreation entered).toList ++ searches,
    stack.active.simulation.world)

theorem hasSearched_of_searchesWithin
    {count : Nat}
    (within : environment.searchesWithin context isCreation entered count =
      some (searches, reached)) :
    environment.HasSearched context isCreation entered searches reached := by
  obtain ⟨start, begins, within⟩ := Option.bind_eq_some_iff.mp within
  obtain ⟨⟨made, stack⟩, advanced, within⟩ := Option.bind_eq_some_iff.mp within
  cases within
  exact .runs begins (CallStack.searches_of_advanceSearching advanced)

/-- Before its code is run, or in place of that, a first frame draws the numbers of its search. -/
theorem follow_firstFrameBy
    (environment : Environment)
    (context : FrameContext)
    (isCreation : Bool)
    (entered : Simulation) :
    Follow entered.world.nextNum
      (environment.firstDrawing? context isCreation entered).toList
      (leaves (environment.firstFrameBy Runner.idle context isCreation)
        entered).world.nextNum := by
  cases isCreation with
  | false => exact SimAction.follow_messageCall environment .call context entered
  | true =>
      exact SimAction.follow_createContract environment context.origin
        { context with data := [] } context.data entered

/-- Each search of a transaction starts where the one before has ended. -/
theorem HasSearched.follow
    (searched : environment.HasSearched context isCreation entered searches reached) :
    Follow entered.world.nextNum searches reached.nextNum := by
  have entry := environment.follow_firstFrameBy context isCreation entered
  rw [leaves_eq_stateOf] at entry
  cases searched with
  | answered noFrame =>
      rw [firstFrameBy_of_no_frame noFrame Runner.idle environment.runner] at entry
      exact entry
  | runs begins made =>
      obtain ⟨context', code, opened, awaited, rfl, settles⟩ := exists_firstFrameBy_eq begins
      rw [settles, SimAction.nextNum_closeFrame, awaited.nextNum_settle] at entry
      exact entry.append made.follow

/-- Every transaction has made some searches when its first frame is over. -/
theorem exists_hasSearched_firstFrame
    (environment : Environment)
    (context : FrameContext)
    (isCreation : Bool)
    (entered : Simulation) :
    ∃ searches reached,
      environment.HasSearched context isCreation entered searches reached ∧
        reached.nextNum =
          (leaves (environment.firstFrame context isCreation) entered).world.nextNum := by
  cases begins : environment.firstStack? context isCreation entered with
  | none => exact ⟨_, _, .answered begins, rfl⟩
  | some start =>
      obtain ⟨context', code, opened, awaited, rfl, settles⟩ := exists_firstFrameBy_eq begins
      obtain ⟨count, _, leads⟩ := environment.leads_runner context' code opened
      obtain ⟨searches, made⟩ := CallStack.exists_searches leads
      refine ⟨_, _, .runs begins made, ?_⟩
      change CallStack.nextNum _ =
        (leaves (environment.firstFrameBy environment.runner context isCreation)
          entered).world.nextNum
      rw [leaves_eq_stateOf, settles, SimAction.nextNum_closeFrame, awaited.nextNum_settle,
        CallStack.nextNum_ended]

/--
Allocated addresses are fresh and distinct.  The searches that a transaction makes, for contracts
and for tokens, at any depth and in frames that are kept or dropped, account for all the numbers
that are drawn, at every moment and when the transaction is over.  What a search finds has
neither an account entry nor a token in the world that is searched; and as long as the counter
rises, no two searches find the same address, so that the address of a creation that has been
dropped is not given out again.
-/
theorem allocated_addresses_are_fresh
    (environment : Environment)
    (context : FrameContext)
    (isCreation : Bool)
    (entered : Simulation) :
    (∃ searches reached,
      environment.HasSearched context isCreation entered searches reached ∧
        reached.nextNum =
          (leaves (environment.firstFrame context isCreation) entered).world.nextNum) ∧
      ∀ searches reached,
        environment.HasSearched context isCreation entered searches reached →
        Follow entered.world.nextNum searches reached.nextNum ∧
          (∀ search ∈ searches, ∀ address, search.answer? = some address →
            search.world.accountEntry address = .ok none ∧
              search.world.token address = .ok none) ∧
          ((∀ search ∈ searches, search.Rises) →
            (searches.filterMap AddressSearch.answer?).Nodup) :=
  ⟨exists_hasSearched_firstFrame environment context isCreation entered,
    fun _ _ searched =>
      ⟨searched.follow, fun _ _ _ answered => AddressSearch.vacant_of_answer? answered,
        searched.follow.nodup_answers⟩⟩

/--
A contract creates another one whose init code reverts, and then one that stays.  Number 5000 is
taken; the first search finds 5001, and the second does not find it again although nothing is
there any more.
-/
theorem dropped_creation_keeps_its_number :
    let environment : Environment :=
      { rules := ⟨⟨0, 50, 0⟩, .cancun, ⟨true, true⟩, ⟨true, true⟩⟩
        prices := ⟨.empty, .empty, fun _ _ => 1⟩ }
    let contract := Address.ofNum 1001
    -- put the init code into memory, create with it, then with none
    let code : Bytes :=
      [0x62, 0x5f, 0x5f, 0xfd, 0x5f, 0x52, 0x60, 0x03, 0x60, 0x1d, 0x5f, 0xf0,
        0x5f, 0x5f, 0x5f, 0xf0]
    let taken := Address.ofNum 5000
    let contents : Snapshot.Contents :=
      { accounts := Table.ofList
          [(contract, Account.newContract contract code), (taken, Account.newContract taken [])] }
    let world := World.ofSnapshot (.ofContents contents) true ⟨0⟩ 5000
    let context := FrameContext.ofTransaction (Address.ofNum 1002) contract 0 [] 1000000 1 { }
    let entered : Simulation := { world := warmed context false world }
    ∃ searches reached,
      environment.HasSearched context false entered searches reached ∧
        (∀ search ∈ searches, search.Rises) ∧
        searches.filterMap AddressSearch.answer? = [Address.ofNum 5001, Address.ofNum 5002] ∧
        reached.accountEntry (Address.ofNum 5001) = .ok none ∧
        reached.isCreated (Address.ofNum 5002) = true ∧
        Follow entered.world.nextNum searches reached.nextNum ∧
        (∀ search ∈ searches, ∀ address, search.answer? = some address →
          search.world.accountEntry address = .ok none ∧
            search.world.token address = .ok none) ∧
        (searches.filterMap AddressSearch.answer?).Nodup := by
  intro environment contract code taken contents world context entered
  have runs :
      (environment.searchesWithin context false entered 16).any (fun found =>
        decide ((∀ search ∈ found.1, search.world.nextNum < search.drawn.nextNum) ∧
          found.1.filterMap AddressSearch.answer? = [Address.ofNum 5001, Address.ofNum 5002] ∧
          found.2.accountEntry (Address.ofNum 5001) = .ok none ∧
          found.2.isCreated (Address.ofNum 5002) = true)) = true := by
    decide +kernel
  obtain ⟨⟨searches, reached⟩, within, seen⟩ := (Option.any_eq_true _ _).mp runs
  obtain ⟨rise, answers, dropped, kept⟩ := of_decide_eq_true seen
  have searched := hasSearched_of_searchesWithin within
  obtain ⟨-, fresh⟩ := allocated_addresses_are_fresh environment context false entered
  obtain ⟨follow, vacant, distinct⟩ := fresh searches reached searched
  exact ⟨searches, reached, searched, rise, answers, dropped, kept, follow, vacant,
    distinct rise⟩

end Environment

end LedgerEvm
