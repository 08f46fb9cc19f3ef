import LedgerEvm.Proofs.Machine.SteadyInstructions

namespace LedgerEvm

/-!
# Steady steps

A step of a frame ends alike over both snapshots, if the frames that it starts are run
alike, the transaction is not cut off before it, and an address is found where it draws one.
-/

namespace Exec

variable
  {comparison : Comparison}
  {environment : Environment}
  {runner : Runner}
  {α : Type}
  {first second : Machine}

/-! ## Where addresses are drawn -/

/-- Where and for whom a call draws an address, if it gets to draw one for a token. -/
def callDrawing?
    (environment : Environment)
    (kind : CallKind)
    (machine : Machine) :
    Option (World × Address) :=
  match prepareCall environment kind machine with
  | .ok (some launch) paid =>
      SimAction.callDrawing? environment kind launch.context paid.simulation
  | _ => none

/-- Where and for whom a creation draws an address, if it gets to draw one. -/
def creationDrawing?
    (environment : Environment)
    (salted : Bool)
    (machine : Machine) :
    Option (World × Address) :=
  match prepareCreation environment salted machine with
  | .ok (some _) paid => some (paid.simulation.world, paid.frame.context.address)
  | _ => none

/-- Where and for whom an instruction draws an address, if it gets to draw one. -/
def instructionDrawing?
    (environment : Environment)
    (machine : Machine) :
    Instruction → Option (World × Address)
  | .call => callDrawing? environment .call machine
  | .callCode => callDrawing? environment .callCode machine
  | .delegateCall => callDrawing? environment .delegateCall machine
  | .staticCall => callDrawing? environment .staticCall machine
  | .create => creationDrawing? environment false machine
  | .create2 => creationDrawing? environment true machine
  | _ => none

/-- Where and for whom a step draws an address, if it gets to draw one. -/
def drawing? (environment : Environment) (machine : Machine) : Option (World × Address) :=
  match begin environment machine with
  | .ok (instruction, _) ready => instructionDrawing? environment ready instruction
  | .error _ _ => none

/-! ## Calls and creations -/

theorem follows_call
    {kind : CallKind}
    (runs : runner.Steady comparison)
    (besides : Machine.Beside comparison environment first second)
    (finds : ∀ drawing ∈ callDrawing? environment kind second,
      drawing.1.Finds comparison drawing.2) :
    comparison.Follows (Machine.Beside comparison environment)
      (call environment runner kind first) (call environment runner kind second) := by
  refine (steady_prepareCall kind first second besides).bind
    fun launch? first' second' prepares besides => ?_
  cases launch? with
  | none => exact steady_push 0 _ _ besides
  | some launch =>
      simp only [callDrawing?, prepares] at finds
      refine Tolerance.Follows.bind ?_ fun outcome first' second' _ besides => ?_
      · exact follows_onSimulation besides
          (SimAction.follows_messageCall runs besides.simulation finds)
      · exact steady_takeOutcome _ _ _ _ _ besides

theorem follows_create
    {salted : Bool}
    (runs : runner.Steady comparison)
    (besides : Machine.Beside comparison environment first second)
    (finds : ∀ drawing ∈ creationDrawing? environment salted second,
      drawing.1.Finds comparison drawing.2) :
    comparison.Follows (Machine.Beside comparison environment)
      (create environment runner salted first) (create environment runner salted second) := by
  refine (steady_prepareCreation salted first second besides).bind
    fun launch? first' second' prepares besides => ?_
  cases launch? with
  | none => exact steady_push 0 _ _ besides
  | some launch =>
      have draws :
          creationDrawing? environment salted second =
            some (second'.simulation.world, second'.frame.context.address) := by
        simp only [creationDrawing?, prepares]
      have finds := finds _ draws
      dsimp only
      rw [bind_eq_of_ok (context_eq_ok first'), bind_eq_of_ok (context_eq_ok second'),
        besides.frame]
      refine Tolerance.Follows.bind ?_ fun outcome first' second' _ besides => ?_
      · exact follows_onSimulation besides
          (SimAction.follows_createContract runs besides.simulation finds)
      · exact steady_takeCreation _ _ _ besides

/-! ## Steps -/

/-- An instruction that starts no frame acts alike. -/
theorem steady_execute_of_no_frame
    {instruction : Instruction}
    (noCall : instruction.callKind? = none)
    (noCreation : instruction ≠ .create ∧ instruction ≠ .create2) :
    Steady comparison environment (execute environment runner instruction) := by
  cases instruction with
  | call | callCode | delegateCall | staticCall => cases noCall
  | create => exact absurd rfl noCreation.1
  | create2 => exact absurd rfl noCreation.2
  | stop => exact steady_finish _
  | pow => exact steady_power
  | addMod | mulMod => exact steady_ternary _
  | isZero | bitNot | blobHash => exact steady_unary _
  | less => exact steady_relation fun left right => decide (left < right)
  | greater => exact steady_relation fun left right => decide (right < left)
  | signedLess => exact steady_relation Word.signedLess
  | signedGreater => exact steady_relation fun left right => Word.signedLess right left
  | equal => exact steady_relation fun left right => left == right
  | keccak => exact steady_hashMemory
  | balance => exact steady_balance _
  | callDataLoad => exact steady_pop.bind fun _ => steady_pushContext _
  | callDataCopy =>
      exact steady_pop3.bind fun _ => steady_context.bind fun _ => steady_copyToMemory _ _ _ _
  | codeCopy =>
      exact steady_pop3.bind fun _ => steady_frame.bind fun _ => steady_copyToMemory _ _ _ _
  | codeSize | returnDataSize | position | memorySize | gas =>
      exact steady_frame.bind fun _ => steady_push _
  | extCodeSize => exact steady_extCodeSize _
  | extCodeCopy => exact steady_extCodeCopy _
  | extCodeHash => exact steady_extCodeHash _
  | returnDataCopy => exact steady_returnDataCopy
  | blockHash => exact steady_blockHash _
  | prevRandao => exact steady_randomValue _
  | selfBalance =>
      refine steady_context.bind fun context => ?_
      exact (steady_ask fun besides => besides.balance _).bind fun _ => steady_push _
  | blobBaseFee => exact steady_push _
  | pop => exact steady_pop.bind fun _ => .pure _
  | memoryLoad => exact steady_memoryLoad
  | memoryStore => exact steady_memoryStore
  | memoryStoreByte => exact steady_memoryStoreByte
  | memoryCopy => exact steady_memoryCopy
  | storageLoad => exact steady_storageLoad
  | storageStore => exact steady_storageStore
  | transientLoad => exact steady_transientLoad
  | transientStore => exact steady_transientStore
  | jump => exact steady_pop.bind fun _ => steady_jump _
  | jumpIf => exact steady_jumpIf
  | jumpDest => exact .pure _
  | push size => exact steady_pushImmediate _
  | dup depth => exact steady_updateStack fun stack => matches_dup stack _
  | swap depth => exact steady_updateStack fun stack => matches_swap stack _
  | log topics => exact steady_log _
  | output | revert => exact steady_finishWith _
  | invalid => exact .throw (comparison.shares rfl)
  | selfDestruct => exact steady_selfDestruct _
  | address | origin | caller | callValue | callDataSize | gasPrice | coinbase | timestamp
  | number | gasLimit | chainId | baseFee =>
      exact steady_pushContext _
  | _ => exact steady_binary _

theorem follows_execute
    {instruction : Instruction}
    (runs : runner.Steady comparison)
    (besides : Machine.Beside comparison environment first second)
    (finds : ∀ drawing ∈ instructionDrawing? environment second instruction,
      drawing.1.Finds comparison drawing.2) :
    comparison.Follows (Machine.Beside comparison environment)
      (execute environment runner instruction first)
      (execute environment runner instruction second) := by
  cases instruction with
  | call | callCode | delegateCall | staticCall => exact follows_call runs besides finds
  | create | create2 => exact follows_create runs besides finds
  | _ =>
      refine steady_execute_of_no_frame ?_ ?_ _ _ besides
      · rfl
      · exact ⟨nofun, nofun⟩

/-- A recorded cost is corrected alike. -/
theorem follows_amending
    {place place' : Option Nat}
    {gasBefore : UInt64}
    {action : Exec Unit}
    (places : comparison.traces.places place place')
    (acts :
      comparison.Follows (Machine.Beside comparison environment) (action first)
        (action second)) :
    comparison.Follows (Machine.Beside comparison environment)
      (amending place gasBefore action first) (amending place' gasBefore action second) := by
  have amended {first second : Machine}
      (besides : Machine.Beside comparison environment first second) :
      Machine.Beside comparison environment (amending.amend place gasBefore first)
        (amending.amend place' gasBefore second) := by
    obtain ⟨frame, ⟨world, trace, steps⟩⟩ := first
    obtain ⟨_, ⟨world', trace', _⟩⟩ := second
    obtain ⟨rfl, context, ⟨worlds, traces, rfl⟩⟩ := besides
    exact ⟨rfl, context, worlds, comparison.traces.amendCost traces places _, rfl⟩
  unfold amending
  generalize action first = result at acts ⊢
  generalize action second = result' at acts ⊢
  cases acts with
  | ok besides => exact .ok (amended besides)
  | error shares besides => exact .error shares (amended besides)
  | excused excuse => exact .excused excuse

theorem follows_countStep
    (besides : Machine.Beside comparison environment first second)
    (goesOn : environment.GoesOn comparison second.simulation.steps) :
    comparison.Follows (Machine.Beside comparison environment) (countStep environment first)
      (countStep environment second) := by
  obtain ⟨frame, ⟨world, trace, steps⟩⟩ := first
  obtain ⟨_, ⟨world', trace', _⟩⟩ := second
  obtain ⟨rfl, context, ⟨worlds, traces, rfl⟩⟩ := besides
  unfold countStep
  dsimp only
  split
  · rename_i cancelled
    exact .error (goesOn.cancelled cancelled) ⟨rfl, context, worlds, traces, rfl⟩
  · split
    · rename_i late
      exact .error (goesOn.late late) ⟨rfl, context, worlds, traces, rfl⟩
    · exact .ok ⟨rfl, context, worlds, traces, rfl⟩

theorem steady_fetch :
    Steady comparison environment (fetch environment) := by
  refine steady_frame.bind fun frame => ?_
  dsimp only
  split
  · exact .guarded (.throw (comparison.shares rfl)) (.pure _)
  · exact .throw (comparison.shares rfl)

/-- Both sides go on alike from where they have recorded an instruction, each in its place. -/
theorem follows_recordStep
    {instruction : Instruction}
    {next next' : Option Nat → Exec α}
    (besides : Machine.Beside comparison environment first second)
    (continues : ∀ place place' first' second',
      recordStep instruction second = .ok place' second' →
      comparison.traces.places place place' →
      Machine.Beside comparison environment first' second' →
      comparison.Follows (Machine.Beside comparison environment) (next place first')
        (next' place' second')) :
    comparison.Follows (Machine.Beside comparison environment)
      ((recordStep instruction >>= next) first) ((recordStep instruction >>= next') second) := by
  obtain ⟨frame, ⟨world, trace, steps⟩⟩ := first
  obtain ⟨_, ⟨world', trace', _⟩⟩ := second
  obtain ⟨rfl, context, ⟨worlds, traces, rfl⟩⟩ := besides
  obtain ⟨places, traces⟩ :=
    comparison.traces.record traces frame.position instruction.name frame.gas
      instruction.staticCost frame.context.depth frame.stack frame.memory
  exact continues _ _ _ _ rfl places ⟨rfl, context, worlds, traces, rfl⟩

/-- Both sides go on alike from where the instruction is to act. -/
theorem follows_begin
    {next : Instruction × Option Nat × UInt64 → Exec α}
    (besides : Machine.Beside comparison environment first second)
    (goesOn : environment.GoesOn comparison second.simulation.steps)
    (continues : ∀ instruction place place' gasBefore first' second',
      begin environment second = .ok (instruction, place', gasBefore) second' →
      comparison.traces.places place place' →
      Machine.Beside comparison environment first' second' →
      comparison.Follows (Machine.Beside comparison environment)
        (next (instruction, place, gasBefore) first')
        (next (instruction, place', gasBefore) second')) :
    comparison.Follows (Machine.Beside comparison environment)
      ((begin environment >>= next) first) ((begin environment >>= next) second) := by
  simp only [begin, bind_assoc, pure_bind]
  refine (follows_countStep besides goesOn).bind fun _ _ _ counts besides => ?_
  refine (steady_fetch _ _ besides).bind fun instruction _ _ fetches besides => ?_
  refine (steady_frame _ _ besides).bind fun frame _ _ reads besides => ?_
  refine follows_recordStep besides fun place place' _ _ records places besides => ?_
  refine (steady_charge _ _ _ besides).bind fun _ _ _ charges besides => ?_
  refine (steady_advanceBy 1 _ _ besides).bind fun _ _ _ advances besides => ?_
  refine continues _ _ _ _ _ _ ?_ places besides
  rw [begin, bind_eq_of_ok counts, bind_eq_of_ok fetches, bind_eq_of_ok reads,
    bind_eq_of_ok records, bind_eq_of_ok charges]
  exact bind_eq_of_ok advances

/-- A frame that lies beside itself does so when its instruction is to act. -/
theorem beside_of_begin
    {machine ready : Machine}
    {begun : Instruction × Option Nat × UInt64}
    (besides : Machine.Beside comparison environment machine machine)
    (goesOn : environment.GoesOn comparison machine.simulation.steps)
    (begins : begin environment machine = .ok begun ready) :
    Machine.Beside comparison environment ready ready := by
  have follows :=
    @follows_begin _ _ _ _ _ (fun _ => (pure () : Exec Unit)) besides goesOn
      fun _ _ _ _ _ _ _ _ besides => .ok besides
  rw [bind_eq_of_ok begins] at follows
  cases follows with
  | ok besides => exact besides

theorem follows_step
    (runs : runner.Steady comparison)
    (besides : Machine.Beside comparison environment first second)
    (goesOn : environment.GoesOn comparison second.simulation.steps)
    (finds : ∀ drawing ∈ drawing? environment second, drawing.1.Finds comparison drawing.2) :
    comparison.Follows (Machine.Beside comparison environment) (step environment runner first)
      (step environment runner second) := by
  rw [step_eq]
  refine follows_begin besides goesOn
    fun instruction place place' gasBefore first' second' begins places besides => ?_
  simp only [drawing?, begins] at finds
  exact follows_amending places (follows_execute runs besides finds)

end Exec

/-! ## Frames that wait -/

section Waiting

variable {comparison : Comparison}
variable {ended ended' : EStateM.Result VmError Simulation Outcome}

theorem Awaited.follows_settle
    (limits : Limits)
    (awaited : Awaited)
    (ends : comparison.Follows (Simulation.Beside comparison) ended ended') :
    comparison.Follows (Simulation.Beside comparison) (awaited.settle limits ended)
      (awaited.settle limits ended') := by
  cases awaited with
  | call output => cases ends <;> constructor <;> assumption
  | creation address =>
      cases ends with
      | excused excuse => exact .excused excuse
      | error shares besides => exact .error shares besides
      | ok besides =>
          simp only [settle]
          split
          · exact SimAction.steady_deployOutput _ _ _ _ _ besides
          · exact .ok besides

/-- A frame goes on alike after one that has ended alike. -/
theorem WaitingFrame.follows_resume
    {environment : Environment}
    (waiting : WaitingFrame)
    (context : environment.ChargesLogs comparison waiting.frame.context)
    (ends : comparison.Follows (Simulation.Beside comparison) ended ended') :
    comparison.Follows (Machine.Beside comparison environment)
      (waiting.resume environment.limits ended) (waiting.resume environment.limits ended') := by
  have closes :=
    @SimAction.follows_closeFrame _ _ Outcome.isSuccess _ _
      (waiting.awaited.follows_settle environment.limits ends)
  unfold resume
  generalize SimAction.closeFrame _ (waiting.awaited.settle environment.limits ended) = result
    at closes ⊢
  generalize SimAction.closeFrame _ (waiting.awaited.settle environment.limits ended') = result'
    at closes ⊢
  cases closes with
  | @ok outcome after after' besides =>
      refine Exec.follows_amending (comparison.traces.samePlace _) ?_
      cases waiting.awaited with
      | call output => exact Exec.steady_takeOutcome _ _ _ _ _ ⟨rfl, context, besides⟩
      | creation address => exact Exec.steady_takeCreation _ _ _ ⟨rfl, context, besides⟩
  | error shares besides =>
      exact
        Exec.follows_amending (comparison.traces.samePlace _)
          (.error shares ⟨rfl, context, besides⟩)
  | excused excuse => exact .excused excuse

end Waiting

end LedgerEvm
