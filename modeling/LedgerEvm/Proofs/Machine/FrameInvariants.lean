import LedgerEvm.Proofs.Machine.CallStack

namespace LedgerEvm

/-!
# Invariants of frames

What is said of a frame alone does not depend on what the frames share.  If every move of a
frame keeps it, whatever gas is given back, and a frame that is started has it when the one
that starts it does, then all frames of a run have it at every moment.
-/

/--
A property that a frame keeps, whatever gas is given back, as long as it goes on at the next
byte, unless `flow` is true, and leaves its memory as it is, unless `memory` is true.
-/
structure Frame.KeptWithin (flow memory : Bool) (property : Frame → Prop) : Prop where
  move :
    ∀ {frame frame' : Frame},
      Frame.Move false frame frame' →
      (flow = false → frame'.position = frame.position) →
      (memory = false → frame'.memory = frame.memory) →
      property frame →
      property frame'
  gas :
    ∀ {frame : Frame} (gas : UInt64),
      property frame →
      property { frame with gas }

/-- A property that frames keep and hand on to the frames that they start. -/
structure KeptByFrames (environment : Environment) (property : Frame → Prop) : Prop where
  move :
    ∀ {frame frame' : Frame},
      Frame.Move false frame frame' →
      property frame →
      property frame'
  gas :
    ∀ {frame : Frame} (gas : UInt64),
      property frame →
      property { frame with gas }
  start :
    ∀ {machine : Machine} {launch : FrameLaunch},
      Exec.launch? environment machine = some launch →
      property machine.frame →
      property (launch.start environment.limits).frame

/-- The frame of a machine has a property. -/
def Machine.Has (property : Frame → Prop) (machine : Machine) : Prop :=
  property machine.frame

namespace CallStack

/-- The frames that have not ended, the active one first. -/
def frames : CallStack → List Frame
  | ⟨.running machine, waiting⟩ => machine.frame :: waiting.map WaitingFrame.frame
  | ⟨.ended _, waiting⟩ => waiting.map WaitingFrame.frame

end CallStack

namespace Frame.KeptWithin

open Exec

variable
  {flow memory : Bool}
  {property : Frame → Prop}

theorem onSimulation
    {α : Type}
    (action : SimAction α) :
    Keeps (Machine.Has property) (onSimulation action) :=
  keeps_onSimulation fun frame => Keeps.fact (property frame) action

section Parts

variable (kept : KeptWithin flow memory property)
include kept

theorem calm :
    Calm flow memory false (Machine.Has property) where
  moveWithin := kept.move
  recordStorage _ _ holds := holds
  touch _ holds := holds

theorem giveBack
    (gas : UInt64) :
    Keeps (Machine.Has property) (giveBack gas) :=
  fun _ holds => kept.gas _ holds

end Parts

/-- What is said of a frame alone is kept beside the ledger. -/
theorem keptBesideLedger
    (kept : KeptWithin flow memory property)
    (environment : Environment)
    (runner : Runner) :
    KeptBesideLedger environment runner flow memory (Machine.Has property) where
  toCalm := kept.calm
  giveBack := kept.giveBack
  change _ := onSimulation _
  messageCall _ _ := onSimulation _
  createContract _ _ _ := onSimulation _

/-- An instruction that is within what is allowed keeps the property. -/
theorem execute
    (kept : KeptWithin flow memory property)
    (environment : Environment)
    (runner : Runner)
    {instruction : Instruction}
    (flows : instruction.isFlow = true → flow = true)
    (touches : instruction.touchesMemory = true → memory = true) :
    Keeps (Machine.Has property) (execute environment runner instruction) :=
  (kept.keptBesideLedger environment runner).execute flows touches

/-! ## Frames that wait -/

section Frames

variable
  {environment : Environment}
  (kept : KeptWithin true true property)
include kept

theorem quiet :
    Quiet false (Machine.Has property) where
  move moved := kept.move moved nofun nofun
  trace _ holds := holds
  touch _ holds := holds

/-- Every instruction keeps the property of its frame, whoever runs the frames it starts. -/
theorem keptByInstructions
    (runner : Runner) :
    KeptByInstructions environment runner false (Machine.Has property) where
  toQuiet := kept.quiet
  setStorage _ _ _ _ _ _ holds := holds
  setTransient _ _ _ _ _ _ holds := holds
  selfDestruct _ := kept.quiet.selfDestruct (fun _ => onSimulation _) _
  create _ := (kept.keptBesideLedger environment runner).create
  call := (kept.keptBesideLedger environment runner).call
  static _ impossible := by cases impossible
  count holds := holds

theorem begin :
    Keeps (Machine.Has property) (begin environment) :=
  (ensures_begin (kept.keptByInstructions Runner.idle)).imp (fun _ => id)
    (fun _ _ holds => holds.1) fun _ _ => id

/-- A frame that waits has the property that it had. -/
theorem waiting
    {machine : Machine}
    {launch : FrameLaunch}
    (found : launch? environment machine = some launch)
    (holds : property machine.frame) :
    property launch.waiting.frame := by
  obtain ⟨instruction, place, gasBefore, ready, begun, found⟩ := exists_of_launch? found
  have readied : property ready.frame := kept.begin.of_ok begun holds
  rcases exists_of_instructionLaunch? found with ⟨kind, called⟩ | ⟨_, salted, created⟩
  · obtain ⟨prepared, paid, code, opened, prepares, _, rfl⟩ := exists_of_callLaunch? called
    exact (kept.quiet.prepareCall kept.giveBack environment kind).of_ok prepares readied
  · obtain ⟨prepared, paid, context, founded, prepares, _, rfl⟩ :=
      exists_of_creationLaunch? created
    exact (kept.quiet.prepareCreation environment salted).of_ok prepares readied

/-- A frame that goes on has the property that it had when it began to wait. -/
theorem resume
    {waiting : WaitingFrame}
    (limits : Limits)
    (ended : EStateM.Result VmError Simulation Outcome)
    {after : Machine}
    (holds : property waiting.frame)
    (resumed : waiting.resume limits ended = .ok () after) :
    property after.frame := by
  unfold WaitingFrame.resume at resumed
  split at resumed
  · rename_i outcome reached _
    have taken : Keeps (Machine.Has property) (waiting.awaited.take outcome) :=
      Awaited.ensures_take kept.calm (kept.giveBack _) _
    have amended :=
      ensures_amending waiting.place waiting.gasBefore taken (fun _ => id) fun _ => id
    exact amended.of_ok resumed holds
  · cases resumed

end Frames

end Frame.KeptWithin

namespace KeptByFrames

variable
  {environment : Environment}
  {property : Frame → Prop}
variable (kept : KeptByFrames environment property)
include kept

theorem keptWithin :
    Frame.KeptWithin true true property where
  move moved _ _ := kept.move moved
  gas := kept.gas

/-- Every instruction keeps the property of its frame, whoever runs the frames it starts. -/
theorem keptByInstructions
    (runner : Runner) :
    KeptByInstructions environment runner false (Machine.Has property) :=
  kept.keptWithin.keptByInstructions runner

/-! ## Moves -/

omit kept in
/-- The frames after an action of the active one are that one, unless it failed, and the rest. -/
theorem frames_ofResult
    {result : EStateM.Result VmError Machine Unit}
    {waiting : List WaitingFrame}
    (goesOn : ∀ {after : Machine}, result = .ok () after → property after.frame)
    (others : ∀ frame ∈ waiting.map WaitingFrame.frame, property frame) :
    ∀ frame ∈ (CallStack.mk (.ofResult result) waiting).frames, property frame := by
  cases result with
  | ok answer after => exact List.forall_mem_cons.mpr ⟨goesOn rfl, others⟩
  | error error after => exact others

/-- A move keeps the property of all frames. -/
theorem moves
    {before after : CallStack}
    (move : CallStack.Moves environment before after)
    (holds : ∀ frame ∈ before.frames, property frame) :
    ∀ frame ∈ after.frames, property frame := by
  cases move.moved with
  | close finished => exact fun frame member => holds frame (List.mem_cons_of_mem _ member)
  | launch runs found =>
      obtain ⟨active, others⟩ := List.forall_mem_cons.mp holds
      refine List.forall_mem_cons.mpr ⟨kept.start found active, ?_⟩
      exact List.forall_mem_cons.mpr ⟨kept.keptWithin.waiting found active, others⟩
  | act runs =>
      obtain ⟨active, others⟩ := List.forall_mem_cons.mp holds
      have steps := (kept.keptByInstructions Runner.idle).step
      exact frames_ofResult (fun result => steps.of_ok result active) others
  | handOn =>
      obtain ⟨active, others⟩ := List.forall_mem_cons.mp holds
      exact frames_ofResult (fun result => kept.keptWithin.resume _ _ active result) others

/-- If the first frame has the property at its start, all frames of its run always have it. -/
theorem leads
    {context : FrameContext}
    {code : Bytes}
    {simulation : Simulation}
    {count : Nat}
    {stack : CallStack}
    (begins : property (Frame.start environment.limits context code))
    (leads :
      CallStack.Leads (CallStack.Moves environment) count
        (CallStack.first environment.limits context code simulation) stack) :
    ∀ frame ∈ stack.frames, property frame := by
  apply leads.keeps kept.moves
  exact List.forall_mem_singleton.mpr begins

end KeptByFrames

/-!
## Executions of one frame

What one frame does, step after step, is followed here without the frames that it starts:
these are run by whatever runner there is at each step.  So the executions of a frame are
those it may have under any answers to its calls, and a run of the frame is one of them.
-/

/-! ### What an instruction begins with -/

/-- The instruction that a frame is at, if the rules have one there. -/
def Frame.instruction? (rules : Ruleset) (frame : Frame) : Option Instruction :=
  rules.instruction? (frame.program.code.getD frame.position 0)

namespace Exec

/-- What is fetched is the instruction that the frame is at. -/
theorem reads_fetch
    (environment : Environment)
    (machine : Machine) :
    Reads machine (fetch environment) fun instruction =>
      machine.frame.instruction? environment.rules = some instruction := by
  refine (Yields.of_ensures ensures_frame).bind fun frame => Yields.of_each ?_
  rintro machine ⟨rfl, rfl⟩
  dsimp only
  split
  · rename_i instruction found
    split
    · exact fun _ _ => trivial
    · rintro after rfl
      exact ⟨rfl, found⟩
  · exact fun _ _ => trivial

/-- The machine differs from another one in the trace and in the count at most. -/
def HasOnlyCounted (start machine : Machine) : Prop :=
  machine.frame = start.frame ∧ machine.simulation.world = start.simulation.world

/-- Before an instruction acts the frame has paid its static cost and gone on to the next byte. -/
theorem yields_begin
    (environment : Environment)
    (start : Machine) :
    Yields (· = start) (begin environment) fun begun machine =>
      start.frame.instruction? environment.rules = some begun.1 ∧
        machine.frame =
          { start.frame with
            gas := start.frame.gas - begun.1.staticCost
            position := start.frame.position + 1 } ∧
        machine.simulation.world = start.simulation.world := by
  have counts : Yields (· = start) (countStep environment) fun _ => HasOnlyCounted start :=
    (Yields.of_keeps (keeps_countStep (fun counted => counted) environment)).at_state ⟨rfl, rfl⟩
  have fetches :
      Yields (HasOnlyCounted start) (fetch environment) fun instruction machine =>
        HasOnlyCounted start machine ∧
          start.frame.instruction? environment.rules = some instruction := by
    refine Yields.of_each fun machine counted => ?_
    refine (reads_fetch environment machine).imp (fun _ => id) ?_
    rintro instruction after ⟨rfl, found⟩
    rw [counted.1] at found
    exact ⟨counted, found⟩
  have pays (cost : UInt64) :
      Yields (HasOnlyCounted start) (charge cost) fun _ machine =>
        machine.frame = { start.frame with gas := start.frame.gas - cost } ∧
          machine.simulation.world = start.simulation.world := by
    rintro ⟨frame, simulation⟩ ⟨rfl, same⟩
    by_cases short : start.frame.gas < cost
    · simp only [charge, if_pos short]
    · simp only [charge, if_neg short]
      exact ⟨trivial, same⟩
  have advances (gas : UInt64) :
      Yields
        (fun machine =>
          machine.frame = { start.frame with gas } ∧
            machine.simulation.world = start.simulation.world)
        advance fun _ machine =>
          machine.frame = { start.frame with gas, position := start.frame.position + 1 } ∧
            machine.simulation.world = start.simulation.world := by
    rintro ⟨frame, simulation⟩ ⟨rfl, same⟩
    exact ⟨rfl, same⟩
  refine counts.bind fun _ => fetches.bind fun instruction => Ensures.of_fact fun found => ?_
  refine Yields.bind_kept (Yields.of_keeps keeps_frame) fun frame => ?_
  refine Yields.bind_kept (Yields.of_keeps fun _ counted => counted) fun place => ?_
  refine (pays instruction.staticCost).bind fun _ => (advances _).bind fun _ => ?_
  exact Ensures.pure fun _ advanced => ⟨found, advanced⟩

/-- What has been done when the trace was corrected was done by the action. -/
theorem of_amending_eq_ok
    {machine after : Machine}
    {place : Option Nat}
    {gasBefore : UInt64}
    {action : Exec Unit}
    (done : amending place gasBefore action machine = .ok () after) :
    ∃ acted,
      action machine = .ok () acted ∧
        after.frame = acted.frame ∧ after.simulation.world = acted.simulation.world := by
  cases result : action machine with
  | ok answer acted =>
      simp only [amending, result] at done
      cases done
      exact ⟨acted, rfl, rfl, rfl⟩
  | error error acted => simp only [amending, result, reduceCtorEq] at done

end Exec

/-! ### Executions -/

/-- The machine comes from another one by steps of its frame, whoever runs what it starts. -/
inductive Machine.Reaches (environment : Environment) (start : Machine) : Machine → Prop where
  | start :
      Reaches environment start start
  | step
      {machine after : Machine}
      (reached : Reaches environment start machine)
      (runs : machine.frame.isOver = false)
      (runner : Runner)
      (steps : Exec.step environment runner machine = .ok () after) :
      Reaches environment start after

namespace Machine.Reaches

variable
  {environment : Environment}
  {start machine after : Machine}

theorem trans
    (first : Reaches environment start machine)
    (second : Reaches environment machine after) :
    Reaches environment start after := by
  induction second with
  | start => exact first
  | step _ runs runner steps inductionHypothesis =>
      exact .step inductionHypothesis runs runner steps

/-- What the steps of a frame keep holds all along if it holds at the start. -/
theorem keeps
    {property : Machine → Prop}
    (reaches : Reaches environment start machine)
    (steps :
      ∀ {before after : Machine} (runner : Runner),
        before.frame.isOver = false →
        Exec.step environment runner before = .ok () after →
        property before →
        property after)
    (begins : property start) :
    property machine := by
  induction reaches with
  | start => exact begins
  | step _ runs runner stepped inductionHypothesis =>
      exact steps runner runs stepped inductionHypothesis

end Machine.Reaches

namespace Frame

variable {environment : Environment}

/--
A run of a frame is one of its executions: it comes to the end of the frame, or to a step
that fails.
-/
theorem exists_reaches_of_run
    {fuel : Nat}
    {frame : Frame}
    {simulation after : Simulation}
    {outcome : Outcome}
    (ran : run environment fuel frame simulation = .ok outcome after) :
    ∃ machine,
      Machine.Reaches environment ⟨frame, simulation⟩ machine ∧
        (machine.frame.isOver = true ∧
            outcome = machine.frame.outcome ∧ after = machine.simulation ∨
          machine.frame.isOver = false ∧
            ∃ runner error failed,
              Exec.step environment runner machine = .error error failed ∧
                failWith error failed.frame.gas failed.simulation = .ok outcome after) := by
  induction fuel generalizing frame simulation with
  | zero => cases ran
  | succ fuel inductionHypothesis =>
      rw [run_succ] at ran
      cases finished : frame.isOver with
      | true =>
          rw [if_pos finished] at ran
          cases ran
          exact ⟨_, .start, .inl ⟨finished, rfl, rfl⟩⟩
      | false =>
          rw [if_neg (by rw [finished]; exact Bool.false_ne_true)] at ran
          split at ran
          · rename_i middle steps
            obtain ⟨machine, reaches, ends⟩ := inductionHypothesis ran
            exact ⟨machine, (Machine.Reaches.start.step finished _ steps).trans reaches, ends⟩
          · rename_i error failed steps
            exact ⟨_, .start, .inr ⟨finished, _, error, failed, steps, ran⟩⟩

end Frame

end LedgerEvm
