import LedgerEvm.Proofs.Machine.BesideWorld

namespace LedgerEvm

/-!
# What frames leave in a trace

A step adds one entry to the trace, which shows the gas before it and what is charged at once.
What it costs in the end is put in when it is done: at once if it starts no frame, and else when
that frame has ended, after others have added their entries.  A frame that halts has a reason
marked in the last entry, whoever has added that.  Accesses to storage are added to the last entry
too, which is left aside here.  The frames of a run are recorded with the places that their entries
have in the trace.
-/

/-- What is added to a list can be changed at the place that its length tells. -/
theorem modify_concat
    {α : Type}
    (items : List α)
    (last : α)
    (change : α → α) :
    (items ++ [last]).modify items.length change = items ++ [change last] := by
  induction items with
  | nil => rfl
  | cons item items inductionHypothesis =>
      simp only [List.cons_append, List.length_cons, List.modify_succ_cons, inductionHypothesis]

/--
What somebody is to see of the entries of a trace: of one that is added with its gas and cost, and
of one whose cost is amended or in which a reason is marked, if that is seen of what it was.
-/
structure TraceView (α : Type) where
  of : TraceStep → α
  fresh : UInt64 → UInt64 → α
  amended : UInt64 → α → α
  marked : String → α → α
  of_fresh :
    ∀ step : TraceStep,
      step.reason = none →
      of step = fresh step.gas step.gasCost
  of_amended :
    ∀ (step : TraceStep) (gasCost : UInt64),
      of { step with gasCost } = amended gasCost (of step)
  of_marked :
    ∀ (step : TraceStep) (reason : String),
      of { step with reason := some reason } = marked reason (of step)
  of_storage :
    ∀ (step : TraceStep) (storage : List (Word × Word)), of { step with storage } = of step

namespace TraceView

/-- The gas and the cost of each step. -/
def charges : TraceView (UInt64 × UInt64) where
  of step := (step.gas, step.gasCost)
  fresh := Prod.mk
  amended gasCost charge := (charge.1, gasCost)
  marked _ charge := charge
  of_fresh _ _ := rfl
  of_amended _ _ := rfl
  of_marked _ _ := rfl
  of_storage _ _ := rfl

/-- The reason that is marked in each step, if there is one. -/
def reasons : TraceView (Option String) where
  of := TraceStep.reason
  fresh _ _ := none
  amended _ reason := reason
  marked reason _ := some reason
  of_fresh _ unmarked := unmarked
  of_amended _ _ := rfl
  of_marked _ _ := rfl
  of_storage _ _ := rfl

variable
  {α : Type}
  (view : TraceView α)

/-- The trace is on, and this is seen of it. -/
structure Shows (values : List α) (trace : Trace) : Prop where
  enabled : trace.enabled = true
  values_eq : trace.steps.toList.map view.of = values

/-- This is seen of the trace that the frames share. -/
def ShowsIn (values : List α) (simulation : Simulation) : Prop :=
  view.Shows values simulation.trace

/-- An amended cost is seen as if it had been added. -/
theorem amended_fresh
    (gas gasCost gasCost' : UInt64) :
    view.amended gasCost' (view.fresh gas gasCost) = view.fresh gas gasCost' := by
  let step : TraceStep :=
    { position := 0, name := "", gas, gasCost, depth := 0, stack := [], memory := [],
      storage := [], reason := none }
  rw [← view.of_fresh step rfl, ← view.of_amended]
  exact view.of_fresh { step with gasCost := gasCost' } rfl

namespace Shows

variable
  {view : TraceView α}
  {values : List α}
  {trace : Trace}
  (shows : view.Shows values trace)
include shows

theorem size_eq :
    trace.steps.size = values.length := by
  rw [← shows.values_eq, List.length_map, Array.length_toList]

/-- A recorded step is seen in the next place. -/
theorem record
    (position : Nat)
    (name : String)
    (gas gasCost : UInt64)
    (depth : UInt16)
    (stack : OperandStack)
    (memory : Memory) :
    let recorded := trace.record position name gas gasCost depth stack memory
    recorded.1 = some values.length ∧
      view.Shows (values ++ [view.fresh gas gasCost]) recorded.2 := by
  simp only [Trace.record, shows.enabled, if_true]
  refine ⟨congrArg some shows.size_eq, rfl, ?_⟩
  rw [← shows.values_eq, Array.toList_push, List.map_append, List.map_singleton]
  exact congrArg (_ ++ [·]) (view.of_fresh _ rfl)

/-- What becomes known of a step is seen in its place. -/
theorem modify
    {change : TraceStep → TraceStep}
    {change' : α → α}
    (seen : ∀ step, view.of (change step) = change' (view.of step))
    (index : Nat) :
    view.Shows (values.modify index change')
      { trace with steps := trace.steps.modify index change } := by
  refine ⟨shows.enabled, ?_⟩
  rw [← shows.values_eq]
  apply List.ext_getElem?
  intro place
  simp only [Array.toList_modify, List.getElem?_map, List.getElem?_modify, Option.map_eq_map,
    Option.map_map]
  congr 1
  funext step
  simp only [Function.comp_apply]
  split
  · exact seen step
  · rfl

theorem amendCost
    (index : Nat)
    (gasCost : UInt64) :
    view.Shows (values.modify index (view.amended gasCost))
      (trace.amendCost (some index) gasCost) :=
  shows.modify (fun step => view.of_amended step gasCost) index

theorem recordStorage
    (key value : Word) :
    view.Shows values (trace.recordStorage key value) := by
  unfold Trace.recordStorage
  split
  · have seen :
        view.Shows (values.modify (trace.steps.size - 1) id)
          (trace.changeLast fun step =>
            { step with storage := step.storage ++ [(key, value)] }) :=
      shows.modify (fun step => view.of_storage step _) _
    rwa [List.modify_id] at seen
  · exact shows

/-- A reason is seen in the last place. -/
theorem recordReason
    (reason : String) :
    view.Shows (values.modify (values.length - 1) (view.marked reason))
      (trace.recordReason reason) := by
  rw [Trace.recordReason, if_pos shows.enabled, ← shows.size_eq]
  exact shows.modify (fun step => view.of_marked step reason) _

end Shows

/-- Neither the world nor the accesses to storage are seen. -/
theorem besideAccess
    (values : List α) :
    BesideAccess (view.ShowsIn values) where
  world _ shows := shows
  recordStorage key value shows := Shows.recordStorage shows key value

end TraceView

/-- The failure comes before anything is recorded, if it does not end the run. -/
def VmError.IsEarly (error : VmError) : Prop :=
  error.isAbort = true ∨ error = .writeInStaticContext ∨ ∃ byte, error = .invalidOpcode byte

namespace Exec

variable
  {α : Type}
  {view : TraceView α}
  {values : List α}
  {environment : Environment}
  {gas : UInt64}

/-! ## Steps -/

/-- A step that fails has left at most one more entry, and none if it fails early. -/
def FailsAfter
    (view : TraceView α)
    (values : List α)
    (gas : UInt64)
    (error : VmError)
    (machine : Machine) :
    Prop :=
  error.IsEarly ∧ view.ShowsIn values machine.simulation ∨
    ∃ cost, view.ShowsIn (values ++ [view.fresh gas cost]) machine.simulation

/-- Only aborts keep a step from being counted. -/
theorem aborts_countStep
    {invariant : Machine → Prop}
    (indifferent :
      ∀ {frame : Frame} {world : World} {trace : Trace} {steps : Nat},
        invariant ⟨frame, ⟨world, trace, steps⟩⟩ →
        invariant ⟨frame, ⟨world, trace, steps + 1⟩⟩) :
    Ensures invariant (countStep environment) (fun _ => invariant)
      (fun error machine => error.isAbort = true ∧ invariant machine) := by
  intro ⟨frame, ⟨world, trace, steps⟩⟩ holds
  simp only [countStep]
  by_cases cancelled : environment.cancelled.isSeenAt steps = true
  · simp only [if_pos cancelled]
    exact ⟨rfl, holds⟩
  · by_cases late : environment.deadline.maxSteps ≤ steps
    · simp only [if_neg cancelled, if_pos late]
      exact ⟨rfl, indifferent holds⟩
    · simp only [if_neg cancelled, if_neg late]
      exact indifferent holds

/-- What cannot be fetched fails early. -/
theorem isEarly_of_fetch
    {invariant : Machine → Prop} :
    Ensures invariant (fetch environment) (fun _ => invariant)
      (fun error machine => error.IsEarly ∧ invariant machine) := by
  have looked :
      Ensures invariant frame (fun _ => invariant)
        (fun error machine => error.IsEarly ∧ invariant machine) :=
    fun _ holds => holds
  refine Ensures.bind looked fun frame => ?_
  dsimp only
  split
  · refine Ensures.guarded (Ensures.throw fun _ holds => ?_) (Ensures.pure fun _ => id)
    exact ⟨.inr (.inl rfl), holds⟩
  · exact Ensures.throw fun _ holds => ⟨.inr (.inr ⟨_, rfl⟩), holds⟩

/-- What is done before an instruction acts leaves an entry with what is charged at once. -/
theorem shows_begin :
    Ensures
      (fun machine => view.ShowsIn values machine.simulation ∧ machine.frame.gas = gas)
      (begin environment)
      (fun begun machine =>
        view.ShowsIn (values ++ [view.fresh gas begun.1.staticCost]) machine.simulation ∧
          begun.2 = (some values.length, gas))
      (FailsAfter view values gas) := by
  refine Ensures.bind ((aborts_countStep id).imp_failed fun _ _ fails =>
    .inl ⟨.inl fails.1, fails.2.1⟩) fun _ => ?_
  refine Ensures.bind (isEarly_of_fetch.imp_failed fun _ _ fails => .inl ⟨fails.1, fails.2.1⟩)
    fun instruction => ?_
  have looked :
      Ensures
        (fun machine => view.ShowsIn values machine.simulation ∧ machine.frame.gas = gas)
        frame
        (fun frame machine =>
          (view.ShowsIn values machine.simulation ∧ machine.frame.gas = gas) ∧
            frame = machine.frame)
        (FailsAfter view values gas) :=
    fun _ holds => ⟨holds, rfl⟩
  refine Ensures.bind looked fun frame => ?_
  have recorded :
      Ensures
        (fun machine =>
          (view.ShowsIn values machine.simulation ∧ machine.frame.gas = gas) ∧
            frame = machine.frame)
        (recordStep instruction)
        (fun place machine =>
          view.ShowsIn (values ++ [view.fresh gas instruction.staticCost]) machine.simulation ∧
            (place, frame.gas) = (some values.length, gas))
        (FailsAfter view values gas) := by
    rintro ⟨frame, ⟨world, trace, steps⟩⟩ ⟨⟨shows, rfl⟩, rfl⟩
    obtain ⟨placed, recorded⟩ :=
      TraceView.Shows.record shows frame.position instruction.name frame.gas
        instruction.staticCost frame.context.depth frame.stack frame.memory
    exact ⟨recorded, congrArg (·, frame.gas) placed⟩
  refine Ensures.bind recorded fun place => ?_
  refine Ensures.bind ((keeps_charge (fun _ => id) _).imp_failed fun _ _ holds =>
    .inr ⟨_, holds.1⟩) fun _ => ?_
  have advanced :
      Keeps
        (fun machine =>
          view.ShowsIn (values ++ [view.fresh gas instruction.staticCost]) machine.simulation ∧
            (place, frame.gas) = (some values.length, gas))
        advance :=
    fun _ holds => holds
  refine Ensures.bind (advanced.imp_failed fun _ _ holds => .inr ⟨_, holds.1⟩) fun _ => ?_
  exact Ensures.pure fun _ holds => holds

/-- Amending puts in what is gone of the gas that was shown. -/
theorem shows_amend
    {machine : Machine}
    (shows : view.ShowsIn values machine.simulation)
    (index : Nat)
    (gasBefore : UInt64) :
    view.ShowsIn
      (values.modify index (view.amended (gasBefore.subClamp machine.frame.gas)))
      (amending.amend (some index) gasBefore machine).simulation :=
  TraceView.Shows.amendCost shows index _

/-- An action that leaves the trace alone has the last entry amended by what it spends. -/
theorem ensures_amending_shows
    {action : Exec Unit}
    {cost : UInt64}
    (keeps : Keeps (Machine.Shares (view.ShowsIn (values ++ [view.fresh gas cost]))) action) :
    Ensures (fun machine => view.ShowsIn (values ++ [view.fresh gas cost]) machine.simulation)
      (amending (some values.length) gas action)
      (fun _ machine =>
        view.ShowsIn (values ++ [view.fresh gas (gas.subClamp machine.frame.gas)])
          machine.simulation)
      (FailsAfter view values gas) := by
  intro machine shows
  have kept := keeps machine shows
  have amended
      {after : Machine}
      (kept : view.ShowsIn (values ++ [view.fresh gas cost]) after.simulation) :
      view.ShowsIn (values ++ [view.fresh gas (gas.subClamp after.frame.gas)])
        (amending.amend (some values.length) gas after).simulation := by
    have amended := shows_amend kept values.length gas
    rwa [modify_concat, view.amended_fresh] at amended
  unfold amending
  cases result : action machine with
  | ok answer after =>
      rw [result] at kept
      exact amended kept
  | error error after =>
      rw [result] at kept
      exact .inr ⟨_, amended kept⟩

/-- A step that starts no frame leaves an entry with what it spends. -/
theorem shows_step :
    Ensures
      (fun machine => view.ShowsIn values machine.simulation ∧ machine.frame.gas = gas)
      (step environment Runner.idle)
      (fun _ machine =>
        view.ShowsIn (values ++ [view.fresh gas (gas.subClamp machine.frame.gas)])
          machine.simulation)
      (FailsAfter view values gas) := by
  rw [step_eq]
  refine Ensures.bind shows_begin fun begun => ?_
  obtain ⟨instruction, place, gasBefore⟩ := begun
  rintro machine ⟨shows, begun⟩
  cases begun
  have acts :
      Keeps
        (Machine.Shares (view.ShowsIn (values ++ [view.fresh gas instruction.staticCost])))
        (execute environment Runner.idle instruction) :=
    ((view.besideAccess _).keptBesideLedger fun _ _ => Keeps.throw _).execute
      (fun _ => rfl) fun _ => rfl
  exact ensures_amending_shows acts machine shows

/-- A frame that waits has left an entry, and the frame it waits for begins after that. -/
theorem shows_launch?
    {machine : Machine}
    {launch : FrameLaunch}
    (found : launch? environment machine = some launch)
    (shows : view.ShowsIn values machine.simulation) :
    (∃ cost,
        view.ShowsIn (values ++ [view.fresh machine.frame.gas cost]) launch.simulation) ∧
      launch.waiting.place = some values.length ∧
      launch.waiting.gasBefore = machine.frame.gas := by
  obtain ⟨instruction, place, gasBefore, ready, begun, found⟩ := exists_of_launch? found
  obtain ⟨recorded, placed⟩ := shows_begin.of_ok begun ⟨shows, rfl⟩
  cases placed
  refine ⟨⟨_, (view.besideAccess _).of_instructionLaunch? found recorded⟩, ?_⟩
  rcases exists_of_instructionLaunch? found with ⟨kind, called⟩ | ⟨_, salted, created⟩
  · obtain ⟨_, _, _, _, _, _, rfl⟩ := exists_of_callLaunch? called
    exact ⟨rfl, rfl⟩
  · obtain ⟨_, _, _, _, _, _, rfl⟩ := exists_of_creationLaunch? created
    exact ⟨rfl, rfl⟩

end Exec

namespace TraceView

variable
  {α : Type}
  {view : TraceView α}
  {values : List α}

/-! ## Frames that have ended -/

/-- What is seen once a frame has done something, and has a reason marked if it has halted. -/
def settled
    (view : TraceView α)
    (values : List α) :
    EStateM.Result VmError Machine Unit → List α
  | .ok _ _ => values
  | .error error _ =>
      if error.isAbort then
        values
      else
        values.modify (values.length - 1) (view.marked (Frame.reasonText error))

theorem shows_ofResult
    {result : EStateM.Result VmError Machine Unit}
    (shows : view.ShowsIn values (stateOf result).simulation) :
    view.ShowsIn (view.settled values result) (ActiveFrame.ofResult result).simulation := by
  cases result with
  | ok answer after => exact shows
  | error error after =>
      simp only [ActiveFrame.ofResult, Frame.failWith, settled]
      cases error.isAbort with
      | true => exact shows
      | false => exact Shows.recordReason shows _

/-- A frame that goes on has its entry amended by what is gone of its gas. -/
theorem shows_resume
    (limits : Limits)
    {waiting : WaitingFrame}
    {index : Nat}
    {ended : EStateM.Result VmError Simulation Outcome}
    (placed : waiting.place = some index)
    (shows : view.ShowsIn values (stateOf ended)) :
    let resumed := waiting.resume limits ended
    view.ShowsIn
      (values.modify index
        (view.amended (waiting.gasBefore.subClamp (stateOf resumed).frame.gas)))
      (stateOf resumed).simulation := by
  obtain ⟨machine, kept, resumed⟩ :=
    (view.besideAccess values).exists_of_resume limits waiting shows
  dsimp only
  rw [resumed, placed]
  exact Exec.shows_amend kept index waiting.gasBefore

end TraceView

/-! ## The charges that a trace shows -/

/-- The trace is on and shows these charges. -/
def Simulation.Shows (charges : List (UInt64 × UInt64)) (simulation : Simulation) : Prop :=
  TraceView.charges.ShowsIn charges simulation

theorem Simulation.besideAccess_shows
    (charges : List (UInt64 × UInt64)) :
    BesideAccess (Simulation.Shows charges) :=
  TraceView.charges.besideAccess charges

/-- How the frame on top has ended, unless it runs or has ended the whole run. -/
def ActiveFrame.outcome? : ActiveFrame → Option Outcome
  | .ended (.ok outcome _) => some outcome
  | _ => none

namespace CallStack

variable
  {environment : Environment}
  {charges : List (UInt64 × UInt64)}

/-- The trace as the frame on top knows it. -/
def trace (stack : CallStack) : Trace :=
  stack.active.simulation.trace

/-- A frame that fails has a reason recorded, and no charge changed. -/
theorem shows_ofResult
    {result : EStateM.Result VmError Machine Unit}
    (shows : (stateOf result).simulation.Shows charges) :
    (ActiveFrame.ofResult result).simulation.Shows charges := by
  have settled : TraceView.charges.settled charges result = charges := by
    unfold TraceView.settled
    split
    · rfl
    · split
      · rfl
      · exact List.modify_id _ _
  have shown := TraceView.shows_ofResult shows
  rwa [settled] at shown

end CallStack

/-! ## The records of frames -/

/--
What a run has recorded of a frame: its context, the places of its steps in the trace, and the
outcome that it has come to.
-/
structure FrameRecord where
  context : FrameContext
  places : List Nat := []
  outcome : Option Outcome := none

namespace FrameRecord

/-- The record with the places that the trace has gained. -/
def gained (record : FrameRecord) (before after : Trace) : FrameRecord :=
  { record with
    places :=
      record.places ++ List.range' before.steps.size (after.steps.size - before.steps.size) }

/-- The record of the active frame after it has got to where it is. -/
def followed (record : FrameRecord) (before : Trace) (active : ActiveFrame) : FrameRecord :=
  { record.gained before active.simulation.trace with outcome := active.outcome? }

end FrameRecord

namespace CallStack

/--
The records of the frames of a run as it moves: of those that have not handed on how they ended,
the active one first, and of the others.  What a move adds to the trace is the active frame's.
-/
inductive Recorded (environment : Environment) (start : CallStack) :
    CallStack → List FrameRecord → List FrameRecord → Prop where
  /-- The first frame has recorded nothing. -/
  | begin
      {machine : Machine}
      (begins : start = ⟨.running machine, []⟩) :
      Recorded environment start start [{ context := machine.frame.context }] []
  /-- A frame acts, or is closed. -/
  | stay
      {machine : Machine} {active : ActiveFrame} {waiting : List WaitingFrame}
      {record : FrameRecord} {records handedOn : List FrameRecord}
      (recorded :
        Recorded environment start ⟨.running machine, waiting⟩ (record :: records) handedOn)
      (move : Moves environment ⟨.running machine, waiting⟩ ⟨active, waiting⟩) :
      Recorded environment start ⟨active, waiting⟩
        (record.followed machine.simulation.trace active :: records) handedOn
  /-- A frame starts another one. -/
  | launch
      {machine : Machine} {waiting : List WaitingFrame} {launch : FrameLaunch}
      {record : FrameRecord} {records handedOn : List FrameRecord}
      (recorded :
        Recorded environment start ⟨.running machine, waiting⟩ (record :: records) handedOn)
      (runs : machine.frame.isOver = false)
      (found : Exec.launch? environment machine = some launch) :
      Recorded environment start
        ⟨.running (launch.start environment.limits), launch.waiting :: waiting⟩
        ({ context := launch.context } ::
          record.gained machine.simulation.trace launch.simulation.trace :: records)
        handedOn
  /-- A frame hands on how it has ended to the one that has started it. -/
  | handOn
      {result : EStateM.Result VmError Simulation Outcome}
      {frame : WaitingFrame} {waiting : List WaitingFrame}
      {record starter : FrameRecord} {records handedOn : List FrameRecord}
      (recorded :
        Recorded environment start ⟨.ended result, frame :: waiting⟩
          (record :: starter :: records) handedOn) :
      Recorded environment start
        ⟨.ofResult (frame.resume environment.limits result), waiting⟩
        (starter.followed (stateOf result).trace
          (.ofResult (frame.resume environment.limits result)) :: records)
        (record :: handedOn)

namespace Recorded

variable
  {environment : Environment}
  {start stack : CallStack}
  {records handedOn : List FrameRecord}

/-- There is a record for each frame that waits, and one for the active frame. -/
theorem length_eq
    (recorded : Recorded environment start stack records handedOn) :
    records.length = stack.waiting.length + 1 := by
  induction recorded with
  | begin begins =>
      subst begins
      rfl
  | stay _ _ inductionHypothesis => exact inductionHypothesis
  | launch _ _ _ inductionHypothesis => exact congrArg (· + 1) inductionHypothesis
  | handOn _ inductionHypothesis => exact Nat.succ.inj inductionHypothesis

/-- All along a run there are records of its frames. -/
theorem exists_of_leads
    {first : Machine}
    {count : Nat}
    (begins : start = ⟨.running first, []⟩)
    (leads : Leads (Moves environment) count start stack) :
    ∃ records handedOn, Recorded environment start stack records handedOn := by
  let isRecorded (stack : CallStack) : Prop :=
    ∃ records handedOn, Recorded environment start stack records handedOn
  have kept
      {before after : CallStack}
      (move : Moves environment before after) :
      isRecorded before → isRecorded after := by
    rintro ⟨records, handedOn, recorded⟩
    have counted := recorded.length_eq
    cases records with
    | nil => cases counted
    | cons record records =>
        cases move.moved with
        | close finished => exact ⟨_, _, .stay recorded move⟩
        | launch runs found => exact ⟨_, _, .launch recorded runs found⟩
        | act runs => exact ⟨_, _, .stay recorded move⟩
        | handOn =>
            cases records with
            | nil => cases counted
            | cons starter records => exact ⟨_, _, .handOn recorded⟩
  exact @Leads.keeps _ _ _ _ isRecorded leads kept ⟨_, _, .begin begins⟩

end Recorded

end CallStack

end LedgerEvm
