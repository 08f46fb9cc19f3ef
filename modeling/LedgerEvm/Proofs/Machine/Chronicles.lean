import LedgerEvm.Proofs.Machine.FrameInvariants
import LedgerEvm.Proofs.Machine.StartedFrames

namespace LedgerEvm

/-!
# Chronicles of runs

A chronicle tells of a run what its outcome alone does not show: the frames are numbered as they
are started, and it is told which of them are open and which have completed, what their
instructions leave for the outside, who has executed each step that the trace shows, and where
frames have halted.  It is written move by move, from what the machine is about to do and from
whether that succeeds.
-/

/-- What an instruction leaves for the outside, if its frame and all those below complete. -/
inductive Effect where
  | logged (log : Log)
  | refunded (amount : Int64)
  deriving Repr, DecidableEq

/--
What an instruction leaves that finds these operands on the stack: a log of a window of memory, or
the refund for the change of a slot.
-/
def Machine.effectOf? (machine : Machine) : Instruction → List Word → Option Effect
  | .log topics, offset :: size :: words =>
      some (.logged
        ⟨machine.frame.context.address, (words.take topics.val).map Hash.mk,
          machine.frame.memory.read offset.toNat size.toNat⟩)
  | .storageStore, key :: value :: _ =>
      let world := machine.simulation.world
      let address := machine.frame.context.address
      match world.initialStorage address key, world.storage address key with
      | .ok initial, .ok current =>
          some (.refunded
            (Gas.storageStore initial current value (world.isWarmSlot address key)).2)
      | _, _ => none
  | _, _ => none

/-- What the next instruction of a frame leaves when it succeeds. -/
def Machine.effect? (rules : Ruleset) (machine : Machine) : Option Effect :=
  (machine.frame.instruction? rules).bind fun instruction =>
    machine.effectOf? instruction machine.frame.stack.words

/-- Whether the frame that is waited for has completed, and with it what it was started for. -/
def Awaited.completes
    (limits : Limits)
    (awaited : Awaited)
    (ended : EStateM.Result VmError Simulation Outcome) :
    Bool :=
  match awaited.settle limits ended with
  | .ok outcome _ => outcome.isSuccess
  | .error _ _ => false

/--
A frame has halted, for an error that ends that frame only: how many steps the trace showed then,
and which of them was the one that failed, if that had been recorded.
-/
structure Halt where
  frame : Nat
  shown : Nat
  place : Option Nat
  error : VmError
  deriving Repr, DecidableEq

/--
What has happened in a run so far.  The frames are numbered from the first one on, which is zero.
An effect is told with the frames that were open when it was left, the innermost first.
-/
structure Chronicle where
  started : Nat := 1
  active : Nat := 0
  waiting : List Nat := []
  completed : List Nat := []
  effects : List (List Nat × Effect) := []
  executors : List Nat := []
  halts : List Halt := []
  deriving Repr, DecidableEq

namespace Chronicle

/-- The frames that are open, the active one first. -/
def path (chronicle : Chronicle) : List Nat :=
  chronicle.active :: chronicle.waiting

/-- The active frame has executed the steps that the trace has gained. -/
def executed (chronicle : Chronicle) (before after : Trace) : Chronicle :=
  { chronicle with
    executors :=
      chronicle.executors ++
        List.replicate (after.steps.size - before.steps.size) chronicle.active }

/-- An instruction of the active frame has left something, or nothing. -/
def affected (chronicle : Chronicle) (effect? : Option Effect) : Chronicle :=
  { chronicle with
    effects := chronicle.effects ++ effect?.toList.map fun effect => (chronicle.path, effect) }

/-- The active frame has started another one. -/
def launched (chronicle : Chronicle) : Chronicle :=
  { chronicle with
    started := chronicle.started + 1
    active := chronicle.started
    waiting := chronicle.path }

/-- The active frame has ended. -/
def closed (chronicle : Chronicle) (completes : Bool) : Chronicle :=
  if completes then
    { chronicle with completed := chronicle.active :: chronicle.completed }
  else
    chronicle

/-- The active frame has ended, and the one that waits for it goes on. -/
def handedOn (chronicle : Chronicle) (completes : Bool) : Chronicle :=
  match chronicle.waiting with
  | [] => chronicle.closed completes
  | starter :: others =>
      { chronicle.closed completes with active := starter, waiting := others }

/-- The active frame has failed at a step, unless the error ends all frames. -/
def halted
    (chronicle : Chronicle)
    (place : Option Nat)
    (error : VmError)
    (trace : Trace) :
    Chronicle :=
  if error.isAbort then
    chronicle
  else
    { chronicle with
      halts := chronicle.halts ++ [⟨chronicle.active, trace.steps.size, place, error⟩] }

/-- The active frame has done something, which may have halted it. -/
def did
    (chronicle : Chronicle)
    (place : Option Nat) :
    EStateM.Result VmError Machine Unit → Chronicle
  | .ok _ _ => chronicle
  | .error error after => chronicle.halted place error after.simulation.trace

/-- The active frame has taken a step that starts no frame. -/
def stepped
    (chronicle : Chronicle)
    (effect? : Option Effect)
    (before : Trace) :
    EStateM.Result VmError Machine Unit → Chronicle
  | .ok _ after => (chronicle.executed before after.simulation.trace).affected effect?
  | .error error after =>
      let shown := after.simulation.trace
      (chronicle.executed before shown).halted
        (if before.steps.size < shown.steps.size then some before.steps.size else none)
        error shown

/-- The chronicle after the move that comes next. -/
def after (environment : Environment) (chronicle : Chronicle) : CallStack → Chronicle
  | ⟨.running machine, _⟩ =>
      let before := machine.simulation.trace
      if machine.frame.isOver then
        chronicle
      else
        match Exec.launch? environment machine with
        | some launch => (chronicle.executed before launch.simulation.trace).launched
        | none =>
            chronicle.stepped (machine.effect? environment.rules) before
              (Exec.step environment Runner.idle machine)
  | ⟨.ended result, frame :: _⟩ =>
      (chronicle.handedOn (frame.awaited.completes environment.limits result)).did frame.place
        (frame.resume environment.limits result)
  | ⟨.ended _, []⟩ => chronicle

/-- Whoever goes on, what has been told of effects, steps and halts stays as it is. -/
theorem exists_handedOn_eq
    (chronicle : Chronicle)
    (completes : Bool) :
    ∃ active waiting completed,
      chronicle.handedOn completes = { chronicle with active, waiting, completed } := by
  unfold handedOn closed
  split <;> split <;> exact ⟨_, _, _, rfl⟩

/-- What happens to a frame leaves nothing for the outside. -/
theorem effects_did
    (chronicle : Chronicle)
    (place : Option Nat)
    (result : EStateM.Result VmError Machine Unit) :
    (chronicle.did place result).effects = chronicle.effects := by
  cases result with
  | ok answer after => rfl
  | error error after =>
      simp only [did, halted]
      split <;> rfl

end Chronicle

namespace CallStack

/-- What a move can do, and what is told after it. -/
inductive Tells (environment : Environment) (chronicle : Chronicle) :
    CallStack → CallStack → Chronicle → Prop where
  /-- A frame that is over is closed. -/
  | close
      {machine : Machine} {waiting : List WaitingFrame}
      (finished : machine.frame.isOver = true) :
      Tells environment chronicle ⟨.running machine, waiting⟩
        ⟨.ended (.ok machine.frame.outcome machine.simulation), waiting⟩ chronicle
  /-- An instruction starts a frame. -/
  | launch
      {machine : Machine} {waiting : List WaitingFrame} {launch : FrameLaunch}
      (found : Exec.launch? environment machine = some launch) :
      Tells environment chronicle ⟨.running machine, waiting⟩
        ⟨.running (launch.start environment.limits), launch.waiting :: waiting⟩
        (chronicle.executed machine.simulation.trace launch.simulation.trace).launched
  /-- An instruction acts and starts no frame. -/
  | act
      {machine : Machine} {waiting : List WaitingFrame} :
      Tells environment chronicle ⟨.running machine, waiting⟩
        ⟨.ofResult (Exec.step environment Runner.idle machine), waiting⟩
        (chronicle.stepped (machine.effect? environment.rules) machine.simulation.trace
          (Exec.step environment Runner.idle machine))
  /-- A frame that has ended hands on how. -/
  | handOn
      {result : EStateM.Result VmError Simulation Outcome}
      {frame : WaitingFrame} {waiting : List WaitingFrame} :
      Tells environment chronicle ⟨.ended result, frame :: waiting⟩
        ⟨.ofResult (frame.resume environment.limits result), waiting⟩
        ((chronicle.handedOn (frame.awaited.completes environment.limits result)).did frame.place
          (frame.resume environment.limits result))

theorem Moves.tells
    {environment : Environment}
    {before after : CallStack}
    (move : Moves environment before after)
    (chronicle : Chronicle) :
    Tells environment chronicle before after (chronicle.after environment before) := by
  obtain ⟨active, waiting⟩ := before
  unfold Moves at move
  unfold Chronicle.after
  cases active with
  | ended result =>
      cases waiting with
      | nil => cases move
      | cons frame waiting =>
          cases move
          exact .handOn
  | running machine =>
      cases runs : machine.frame.isOver with
      | true =>
          simp only [next, runs, if_true] at move ⊢
          cases move
          exact .close runs
      | false =>
          cases found : Exec.launch? environment machine with
          | none =>
              simp only [next, runs, found, Bool.false_eq_true, if_false] at move ⊢
              cases move
              exact .act
          | some launch =>
              simp only [next, runs, found, Bool.false_eq_true, if_false] at move ⊢
              cases move
              exact .launch found

/-- What a run is told to have done until it has come to a stack. -/
inductive Told (environment : Environment) (start : CallStack) :
    CallStack → Chronicle → Prop where
  | start : Told environment start start { }
  | move
      {before after : CallStack} {chronicle : Chronicle}
      (told : Told environment start before chronicle)
      (move : Moves environment before after) :
      Told environment start after (chronicle.after environment before)

/-- A run with its chronicle after a number of moves, unless it is over before. -/
def tell (environment : Environment) :
    Nat → CallStack × Chronicle → Option (CallStack × Chronicle)
  | 0, told => some told
  | count + 1, (stack, chronicle) =>
      (stack.next environment).bind fun after =>
        tell environment count (after, chronicle.after environment stack)

variable
  {environment : Environment}
  {start stack : CallStack}

/-- Of every run there is a chronicle. -/
theorem exists_told_of_leads
    {count : Nat}
    (leads : Leads (Moves environment) count start stack) :
    ∃ chronicle, Told environment start stack chronicle := by
  have kept
      {before after : CallStack}
      (move : Moves environment before after) :
      (∃ chronicle, Told environment start before chronicle) →
      ∃ chronicle, Told environment start after chronicle := by
    rintro ⟨chronicle, told⟩
    exact ⟨_, .move told move⟩
  exact
    @Leads.keeps _ _ _ _ (fun stack => ∃ chronicle, Told environment start stack chronicle) leads
      kept ⟨_, .start⟩

/-- What can be computed of a run is what is told of it. -/
theorem told_of_tell
    {count : Nat}
    {reached : CallStack}
    {chronicle chronicle' : Chronicle}
    (told : Told environment start stack chronicle)
    (computed : tell environment count (stack, chronicle) = some (reached, chronicle')) :
    Told environment start reached chronicle' := by
  induction count generalizing stack chronicle with
  | zero =>
      cases computed
      exact told
  | succ count inductionHypothesis =>
      obtain ⟨after, move, goesOn⟩ := Option.bind_eq_some_iff.mp computed
      exact inductionHypothesis (.move told move) goesOn

/-- A first frame whose run can be told of begins, and comes to what is computed of it. -/
theorem exists_told_of_tell
    {context : FrameContext}
    {isCreation : Bool}
    {entered : Simulation}
    {check : CallStack × Chronicle → Bool}
    (count : Nat)
    (computed :
      ((environment.firstStack? context isCreation entered).bind fun start =>
        tell environment count (start, { })).any check = true) :
    ∃ start stack chronicle,
      environment.firstStack? context isCreation entered = some start ∧
        Told environment start stack chronicle ∧
        check (stack, chronicle) = true := by
  obtain ⟨⟨stack, chronicle⟩, told, checked⟩ := (Option.any_eq_true _ _).mp computed
  obtain ⟨start, begins, told⟩ := Option.bind_eq_some_iff.mp told
  exact ⟨start, stack, chronicle, begins, told_of_tell .start told, checked⟩

end CallStack

end LedgerEvm
