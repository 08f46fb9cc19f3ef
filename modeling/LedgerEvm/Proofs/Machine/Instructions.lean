import LedgerEvm.Machine.Run
import LedgerEvm.Proofs.Actions
import LedgerEvm.Proofs.Ledger.Evolution

namespace LedgerEvm

/-!
# What instructions do

An instruction changes its frame by a few kinds of moves, marks what it accesses in the
world, and adds to the trace.  An invariant that all of these keep is kept by every
instruction, except by those that write to the ledger or start another frame: for them
it has to be shown what they do beyond.
-/

/--
One move of a frame, as the instructions of a frame make them that is static or not.  A
static frame leaves no logs and earns no refund.
-/
inductive Frame.Move : Bool → Frame → Frame → Prop where
  | setStack
      {isStatic : Bool} (frame : Frame) (stack : OperandStack) :
      Move isStatic frame { frame with stack }
  | jump
      {isStatic : Bool} (frame : Frame) (position : Nat)
      (marked : frame.program.isJumpDest position = true) :
      Move isStatic frame { frame with position }
  | advance
      {isStatic : Bool} (frame : Frame) (count : Nat) :
      Move isStatic frame { frame with position := frame.position + count }
  | spend
      {isStatic : Bool} (frame : Frame) (gas : UInt64)
      (enough : gas ≤ frame.gas) :
      Move isStatic frame { frame with gas := frame.gas - gas }
  | exhaust
      {isStatic : Bool} (frame : Frame) :
      Move isStatic frame { frame with gas := 0 }
  | grow
      {isStatic : Bool} (frame : Frame) (offset size words : Nat)
      (fits : frame.memory.requiredWords offset size = .ok words) :
      Move isStatic frame (frame.updateMemory fun memory => memory.growTo words)
  | write
      {isStatic : Bool} (frame : Frame) (offset : Nat) (bytes : Bytes) :
      Move isStatic frame (frame.updateMemory fun memory => memory.write offset bytes)
  | addRefund
      (frame : Frame) (amount : Int64) :
      Move false frame { frame with refund := frame.refund + amount }
  | addLogs
      (frame : Frame) (logs : Array Log) :
      Move false frame { frame with logs := frame.logs ++ logs }
  | setReturnData
      {isStatic : Bool} (frame : Frame) (returnData : Bytes) :
      Move isStatic frame { frame with returnData }
  | setOutput
      {isStatic : Bool} (frame : Frame) (output : Bytes)
      (short : output.length < UInt32.size) :
      Move isStatic frame { frame with output }
  | finish
      {isStatic : Bool} (frame : Frame) (ending : FrameEnding) :
      Move isStatic frame { frame with ending := some ending }

namespace Frame.Move

variable {isStatic : Bool} {frame frame' : Frame}

/-- A frame keeps its context. -/
theorem context_eq
    (move : Move isStatic frame frame') :
    frame'.context = frame.context := by
  cases move <;> rfl

/-- A frame keeps its program. -/
theorem program_eq
    (move : Move isStatic frame frame') :
    frame'.program = frame.program := by
  cases move <;> rfl

/-- A frame spends gas and earns none. -/
theorem gas_le
    (move : Move isStatic frame frame') :
    frame'.gas ≤ frame.gas := by
  cases move with
  | spend _ _ enough => exact UInt64.sub_le enough
  | exhaust => exact UInt64.zero_le
  | _ => exact UInt64.le_refl _

theorem logs_eq
    (move : Move true frame frame') :
    frame'.logs = frame.logs := by
  cases move <;> rfl

theorem refund_eq
    (move : Move true frame frame') :
    frame'.refund = frame.refund := by
  cases move <;> rfl

/-- Whatever a frame may do it may do when it is not static. -/
theorem relax
    (move : Move isStatic frame frame') :
    Move false frame frame' := by
  cases move with
  | setStack => exact .setStack _ _
  | jump _ _ marked => exact .jump _ _ marked
  | advance => exact .advance _ _
  | spend _ _ enough => exact .spend _ _ enough
  | exhaust => exact .exhaust _
  | grow _ _ _ _ fits => exact .grow _ _ _ _ fits
  | write => exact .write _ _ _
  | addRefund => exact .addRefund _ _
  | addLogs => exact .addLogs _ _
  | setReturnData => exact .setReturnData _ _
  | setOutput _ _ short => exact .setOutput _ _ short
  | finish => exact .finish _ _

end Frame.Move

/--
An invariant that instructions of a frame, static or not, keep as long as they write nothing
to the ledger, go on at the next byte unless `flow` is true, and leave the memory as it is
unless `memory` is true.
-/
structure Calm (flow memory isStatic : Bool) (invariant : Machine → Prop) : Prop where
  moveWithin :
    ∀ {frame frame' : Frame} {simulation : Simulation},
      Frame.Move isStatic frame frame' →
      (flow = false → frame'.position = frame.position) →
      (memory = false → frame'.memory = frame.memory) →
      invariant ⟨frame, simulation⟩ →
      invariant ⟨frame', simulation⟩
  recordStorage :
    ∀ {frame : Frame} {world : World} {trace : Trace} {steps : Nat} (key value : Word),
      invariant ⟨frame, ⟨world, trace, steps⟩⟩ →
      invariant ⟨frame, ⟨world, trace.recordStorage key value, steps⟩⟩
  touch :
    ∀ {frame : Frame} {simulation : Simulation} {world : World},
      World.Move true simulation.world world →
      invariant ⟨frame, simulation⟩ →
      invariant ⟨frame, { simulation with world }⟩

/--
An invariant that the instructions of a frame, static or not, keep as long as they write
nothing to the ledger, and that does not depend on the trace.
-/
structure Quiet (isStatic : Bool) (invariant : Machine → Prop) : Prop
    extends Calm true true isStatic invariant where
  move :
    ∀ {frame frame' : Frame} {simulation : Simulation},
      Frame.Move isStatic frame frame' →
      invariant ⟨frame, simulation⟩ →
      invariant ⟨frame', simulation⟩
  trace :
    ∀ {frame : Frame} {world : World} {trace : Trace} {steps : Nat} (trace' : Trace),
      invariant ⟨frame, ⟨world, trace, steps⟩⟩ →
      invariant ⟨frame, ⟨world, trace', steps⟩⟩
  moveWithin := fun moved _ _ => move moved
  recordStorage := fun _ _ => trace _

/-- What is kept in every frame is kept in static ones. -/
theorem Quiet.restrict
    {invariant : Machine → Prop}
    (quiet : Quiet false invariant)
    (isStatic : Bool) :
    Quiet isStatic invariant where
  move move := quiet.move move.relax
  trace := quiet.trace
  touch := quiet.touch

/-- Nothing at all is kept by every instruction. -/
theorem Quiet.trivially :
    Quiet false fun _ => True where
  move _ _ := trivial
  trace _ _ := trivial
  touch _ _ := trivial

namespace Exec

variable {α : Type} {invariant : Machine → Prop}

/-! ## Looking -/

theorem keeps_frame :
    Keeps invariant frame :=
  fun _ holds => holds

theorem keeps_context :
    Keeps invariant context :=
  fun _ holds => holds

theorem ensures_frame :
    Ensures invariant frame
      (fun answer machine => invariant machine ∧ answer = machine.frame)
      (fun _ => invariant) :=
  fun _ holds => ⟨holds, rfl⟩

theorem ensures_context :
    Ensures invariant context
      (fun answer machine => invariant machine ∧ answer = machine.frame.context)
      (fun _ => invariant) :=
  fun _ holds => ⟨holds, rfl⟩

/-- The answer is the world's. -/
theorem ensures_ask
    (question : World → Except StateError α) :
    Ensures invariant (ask question)
      (fun answer machine =>
        invariant machine ∧ question machine.simulation.world = .ok answer)
      (fun _ => invariant) := by
  intro machine holds
  unfold ask
  cases answered : question machine.simulation.world with
  | ok answer => exact ⟨holds, answered⟩
  | error error => exact holds

theorem keeps_ask
    (question : World → Except StateError α) :
    Keeps invariant (ask question) := by
  intro machine holds
  unfold ask
  cases question machine.simulation.world <;> exact holds

theorem keeps_memoryOperand
    (word : Word) :
    Keeps invariant (memoryOperand word) := by
  unfold memoryOperand
  split
  · exact Keeps.pure _
  · exact Keeps.throw _

/-- An operand that is granted has 32 bits. -/
theorem ensures_memoryOperand
    (word : Word) :
    Ensures invariant (memoryOperand word)
      (fun operand machine => invariant machine ∧ operand < UInt32.size)
      (fun _ => invariant) := by
  unfold memoryOperand
  split
  · rename_i short
    exact Ensures.pure fun _ holds => ⟨holds, short⟩
  · exact Ensures.throw fun _ => id

theorem keeps_readMemory
    (offset size : Nat) :
    Keeps invariant (readMemory offset size) :=
  fun _ holds => holds

theorem keeps_fetch
    (environment : Environment) :
    Keeps invariant (fetch environment) := by
  refine keeps_frame.bind fun frame => ?_
  dsimp only
  split
  · exact Keeps.guarded (Keeps.throw _) (Keeps.pure _)
  · exact Keeps.throw _

/-- As many bytes are read as are asked for. -/
theorem ensures_readMemory
    (offset size : Nat) :
    Ensures invariant (readMemory offset size)
      (fun bytes machine => invariant machine ∧ bytes.length = size)
      (fun _ => invariant) :=
  fun machine holds => ⟨holds, machine.frame.memory.length_read offset size⟩

/-- The words that are needed are those of the memory as it is. -/
theorem ensures_neededWords
    (offset size : Nat) :
    Ensures invariant (neededWords offset size)
      (fun words machine =>
        invariant machine ∧ machine.frame.memory.requiredWords offset size = .ok words.2)
      (fun _ => invariant) := by
  intro machine holds
  unfold neededWords
  cases needed : machine.frame.memory.requiredWords offset size with
  | ok words => exact ⟨holds, needed⟩
  | error error => exact holds

/-- Paying keeps what does not depend on gas. -/
theorem keeps_charge
    (indifferent :
      ∀ {frame : Frame} {simulation : Simulation} (gas : UInt64),
        invariant ⟨frame, simulation⟩ → invariant ⟨{ frame with gas }, simulation⟩)
    (gas : UInt64) :
    Keeps invariant (charge gas) := by
  intro ⟨frame, simulation⟩ holds
  by_cases short : frame.gas < gas
  · simp only [charge, if_pos short]
    exact indifferent _ holds
  · simp only [charge, if_neg short]
    exact indifferent _ holds

/-- What an action ensures of the simulation, beside every frame, it ensures in a frame. -/
theorem ensures_onSimulation
    {before : Machine → Prop}
    {action : SimAction α}
    {after : α → Machine → Prop}
    {failed : VmError → Machine → Prop}
    (ensures : ∀ frame : Frame,
      Ensures (fun simulation => before ⟨frame, simulation⟩) action
        (fun answer simulation => after answer ⟨frame, simulation⟩)
        (fun error simulation => failed error ⟨frame, simulation⟩)) :
    Ensures before (onSimulation action) after failed := by
  intro ⟨frame, simulation⟩ holds
  have reached := ensures frame simulation holds
  unfold onSimulation
  dsimp only
  cases result : action simulation with
  | ok answer after =>
      rw [result] at reached
      exact reached
  | error error after =>
      rw [result] at reached
      exact reached

/-- What an action keeps of the simulation, beside every frame, it keeps in a frame. -/
theorem keeps_onSimulation
    {action : SimAction α}
    (keeps : ∀ frame : Frame, Keeps (fun simulation => invariant ⟨frame, simulation⟩) action) :
    Keeps invariant (onSimulation action) :=
  ensures_onSimulation keeps

/-- Counting a step keeps what does not depend on the number of steps. -/
theorem keeps_countStep
    (indifferent :
      ∀ {frame : Frame} {world : World} {trace : Trace} {steps : Nat},
        invariant ⟨frame, ⟨world, trace, steps⟩⟩ →
        invariant ⟨frame, ⟨world, trace, steps + 1⟩⟩)
    (environment : Environment) :
    Keeps invariant (countStep environment) := by
  intro ⟨frame, ⟨world, trace, steps⟩⟩ holds
  unfold countStep
  dsimp only
  by_cases cancelled : environment.cancelled.isSeenAt steps = true
  · simp only [if_pos cancelled]
    exact holds
  · by_cases late : environment.deadline.maxSteps ≤ steps
    · simp only [if_neg cancelled, if_pos late]
      exact indifferent holds
    · simp only [if_neg cancelled, if_neg late]
      exact indifferent holds

end Exec

namespace Calm

open Exec

variable {α : Type} {flow memory isStatic : Bool} {invariant : Machine → Prop}

section Parts

variable (calm : Calm flow memory isStatic invariant)
include calm

/-! ## Words and gas -/

/-- A change of the frame that leaves its position and its memory. -/
theorem updateInPlace
    {update : Frame → Frame}
    (moves : ∀ frame, Frame.Move isStatic frame (update frame))
    (position : ∀ frame, (update frame).position = frame.position)
    (spared : ∀ frame, (update frame).memory = frame.memory) :
    Keeps invariant (Exec.updateFrame update) :=
  fun machine holds =>
    calm.moveWithin (moves machine.frame) (fun _ => position _) (fun _ => spared _) holds

theorem recordsStorage
    (key value : Word) :
    Keeps invariant (Exec.updateTrace fun trace => trace.recordStorage key value) :=
  fun _ holds => calm.recordStorage key value holds

theorem updateWorld
    {update : World → World}
    (touches : ∀ world, World.Move true world (update world)) :
    Keeps invariant (Exec.updateWorld update) :=
  fun machine holds => calm.touch (touches machine.simulation.world) holds

theorem updateStack
    (update : OperandStack → Except VmError OperandStack) :
    Keeps invariant (Exec.updateStack update) := by
  intro ⟨frame, simulation⟩ holds
  cases result : update frame.stack with
  | ok stack =>
      simp only [Exec.updateStack, result]
      exact calm.moveWithin (.setStack frame stack) (fun _ => rfl) (fun _ => rfl) holds
  | error error =>
      simp only [Exec.updateStack, result]
      exact holds

theorem push
    (word : Word) :
    Keeps invariant (push word) := by
  intro ⟨frame, simulation⟩ holds
  cases result : frame.stack.push word with
  | ok stack =>
      simp only [Exec.push, result]
      exact calm.moveWithin (.setStack frame stack) (fun _ => rfl) (fun _ => rfl) holds
  | error error =>
      simp only [Exec.push, result]
      exact holds

theorem pop :
    Keeps invariant pop := by
  intro ⟨frame, simulation⟩ holds
  cases result : frame.stack.pop with
  | ok taken =>
      simp only [Exec.pop, result]
      exact calm.moveWithin (.setStack frame taken.2) (fun _ => rfl) (fun _ => rfl) holds
  | error error =>
      simp only [Exec.pop, result]
      exact holds

theorem popAddress :
    Keeps invariant popAddress :=
  calm.pop.bind fun _ => Keeps.pure _

theorem pop2 :
    Keeps invariant pop2 :=
  calm.pop.bind fun _ => calm.pop.bind fun _ => Keeps.pure _

theorem pop3 :
    Keeps invariant pop3 :=
  calm.pop.bind fun _ => calm.pop.bind fun _ => calm.pop.bind fun _ => Keeps.pure _

theorem popList
    (count : Nat) :
    Keeps invariant (popList count) := by
  induction count with
  | zero =>
      exact Keeps.pure _
  | succ count inductionHypothesis =>
      refine calm.pop.bind fun word => ?_
      exact inductionHypothesis.bind fun rest => Keeps.pure _

theorem charge
    (gas : UInt64) :
    Keeps invariant (charge gas) := by
  intro ⟨frame, simulation⟩ holds
  by_cases short : frame.gas < gas
  · simp only [Exec.charge, if_pos short]
    exact calm.moveWithin (.exhaust frame) (fun _ => rfl) (fun _ => rfl) holds
  · simp only [Exec.charge, if_neg short]
    exact
      calm.moveWithin (.spend frame gas (UInt64.not_lt.mp short)) (fun _ => rfl) (fun _ => rfl)
        holds

theorem finish
    (ending : FrameEnding) :
    Keeps invariant (finish ending) :=
  calm.updateInPlace (fun frame => .finish frame ending) (fun _ => rfl) fun _ => rfl

/-! ## Instructions that only compute or look -/

theorem unary
    (operation : Word → Word) :
    Keeps invariant (unary operation) :=
  calm.pop.bind fun _ => calm.push _

theorem binary
    (operation : Word → Word → Word) :
    Keeps invariant (binary operation) :=
  calm.pop2.bind fun _ => calm.push _

theorem relation
    (test : Word → Word → Bool) :
    Keeps invariant (relation test) :=
  calm.pop2.bind fun _ => calm.push _

theorem ternary
    (operation : Word → Word → Word → Word) :
    Keeps invariant (ternary operation) :=
  calm.pop3.bind fun _ => calm.push _

theorem power :
    Keeps invariant power :=
  calm.pop2.bind fun _ => (calm.charge _).bind fun _ => calm.push _

theorem pushContext
    (read : FrameContext → Word) :
    Keeps invariant (pushContext read) :=
  keeps_context.bind fun _ => calm.push _

theorem access
    (address : Address) :
    Keeps invariant (inspect.access address) := by
  refine (keeps_ask _).bind fun wasWarm => ?_
  refine (calm.updateWorld fun world => .warmAccount true world address).bind fun _ => ?_
  exact calm.charge _

theorem inspect
    (rule : AddressRule)
    (address : Address) :
    Keeps invariant (inspect rule address) := by
  refine (keeps_ask _).bind fun verdict => ?_
  cases verdict with
  | systemAccount => exact (calm.charge _).bind fun _ => Keeps.pure _
  | invalid => exact Keeps.throw _
  | regular => exact (calm.access address).bind fun _ => Keeps.pure _

theorem lookUp
    (rule : AddressRule)
    (address : Address)
    (default : α)
    (question : World → Except StateError α) :
    Keeps invariant (lookUp rule address default question) := by
  refine (calm.inspect rule address).bind fun regular => ?_
  split
  · exact keeps_ask question
  · exact Keeps.pure _

theorem balance
    (rule : AddressRule) :
    Keeps invariant (balance rule) :=
  calm.popAddress.bind fun _ => (calm.lookUp _ _ _ _).bind fun _ => calm.push _

theorem extCodeSize
    (rule : AddressRule) :
    Keeps invariant (extCodeSize rule) :=
  calm.popAddress.bind fun _ => (calm.lookUp _ _ _ _).bind fun _ => calm.push _

theorem extCodeHash
    (rule : AddressRule) :
    Keeps invariant (extCodeHash rule) :=
  calm.popAddress.bind fun _ => (calm.lookUp _ _ _ _).bind fun _ => calm.push _

theorem blockHash
    (hashes : BlockHashes) :
    Keeps invariant (blockHash hashes) :=
  calm.pop.bind fun _ => keeps_context.bind fun _ => calm.push _

theorem randomValue
    (spec : Spec) :
    Keeps invariant (randomValue spec) :=
  keeps_context.bind fun _ => calm.push _

theorem storageLoad :
    Keeps invariant storageLoad := by
  refine calm.pop.bind fun key => ?_
  refine keeps_context.bind fun context => ?_
  refine (keeps_ask _).bind fun wasWarm => ?_
  refine (calm.updateWorld fun world => .warmSlot true world _ _).bind fun _ => ?_
  refine (calm.charge _).bind fun _ => ?_
  refine (keeps_ask _).bind fun value => ?_
  refine (calm.recordsStorage _ _).bind fun _ => ?_
  exact calm.push _

theorem transientLoad :
    Keeps invariant transientLoad :=
  calm.pop.bind fun _ => keeps_context.bind fun _ =>
    (keeps_ask _).bind fun _ => calm.push _

/-- A storage slot is written calmly but for the change of the ledger, and what follows it. -/
theorem ensures_storageStore
    {stored : Machine → Prop}
    (mayWrite : isStatic = false)
    (writes : ∀ address key value,
      Ensures invariant (Exec.updateWorld fun world => world.setStorage address key value)
        (fun _ => stored) fun _ => invariant)
    (records : ∀ key value,
      Ensures stored (Exec.updateTrace fun trace => trace.recordStorage key value)
        (fun _ => stored) fun _ => invariant) :
    Ensures invariant storageStore (fun _ => stored) fun _ => invariant := by
  subst mayWrite
  refine Ensures.bind keeps_frame fun frame => ?_
  dsimp only
  refine Ensures.guarded (Keeps.throw _) ?_
  refine Ensures.bind calm.pop2 fun ⟨key, value⟩ => ?_
  refine Ensures.bind keeps_context fun context => ?_
  refine Ensures.bind (keeps_ask _) fun initial => ?_
  refine Ensures.bind (keeps_ask _) fun current => ?_
  refine Ensures.bind (keeps_ask _) fun wasWarm => ?_
  refine Ensures.bind (calm.updateWorld fun world => .warmSlot true world _ _) fun _ => ?_
  refine Ensures.bind (calm.charge _) fun _ => ?_
  refine Ensures.bind ?_ fun _ => (writes _ _ _).bind fun _ => records _ _
  exact calm.updateInPlace (fun frame => .addRefund frame _) (fun _ => rfl) fun _ => rfl

theorem storageStore
    (mayWrite : isStatic = false)
    (writes : ∀ address key value,
      Keeps invariant (Exec.updateWorld fun world => world.setStorage address key value)) :
    Keeps invariant storageStore :=
  calm.ensures_storageStore mayWrite writes fun _ _ => calm.recordsStorage _ _

/-- A transient slot is written calmly but for the change of the ledger. -/
theorem transientStore
    (writes : ∀ address key value,
      Keeps invariant (Exec.updateWorld fun world => world.setTransient address key value)) :
    Keeps invariant transientStore := by
  refine calm.pop2.bind fun ⟨key, value⟩ => ?_
  exact keeps_context.bind fun context => writes _ _ _

end Parts

/-! ## Instructions that touch memory -/

section Memory

variable (calm : Calm flow true isStatic invariant)
include calm

/-- A window that is granted is no longer than its operand can say. -/
theorem ensures_expand
    (offset size : Word) :
    Ensures invariant (expand offset size)
      (fun window machine => invariant machine ∧ window.2 < UInt32.size)
      (fun _ => invariant) := by
  unfold Exec.expand
  dsimp only
  split
  · exact Ensures.pure fun _ holds => ⟨holds, by decide⟩
  · refine Ensures.bind (keeps_memoryOperand offset) fun offset => ?_
    refine Ensures.bind (ensures_memoryOperand size) fun size => Ensures.of_fact fun short => ?_
    refine Ensures.bind (ensures_neededWords offset size) fun ⟨present, needed⟩ => ?_
    refine Ensures.bind
      (((calm.charge _).and (keeps_charge (fun _ fits => fits) _)).imp_failed
        fun _ _ holds => holds.1) fun _ => ?_
    have grows :
        Ensures
          (fun machine =>
            invariant machine ∧ machine.frame.memory.requiredWords offset size = .ok needed)
          (Exec.updateMemory fun memory => memory.growTo needed)
          (fun _ => invariant) (fun _ => invariant) :=
      fun machine holds =>
        calm.moveWithin (.grow machine.frame _ _ _ holds.2) (fun _ => rfl) nofun holds.1
    exact Ensures.bind grows fun _ => Ensures.pure fun _ holds => ⟨holds, short⟩

theorem expand
    (offset size : Word) :
    Keeps invariant (expand offset size) :=
  (calm.ensures_expand offset size).imp (fun _ => id) (fun _ _ holds => holds.1) fun _ _ => id

theorem writeMemory
    (offset : Nat)
    (bytes : Bytes) :
    Keeps invariant (Exec.updateMemory fun memory => memory.write offset bytes) :=
  fun machine => calm.moveWithin (.write machine.frame offset bytes) (fun _ => rfl) nofun

theorem copyToMemory
    (destination offset size : Word)
    (source : Bytes) :
    Keeps invariant (copyToMemory destination offset size source) := by
  refine (calm.expand _ _).bind fun ⟨target, length⟩ => ?_
  refine (calm.charge _).bind fun _ => ?_
  exact calm.writeMemory _ _

theorem hashMemory :
    Keeps invariant hashMemory := by
  refine calm.pop2.bind fun ⟨offset, size⟩ => ?_
  refine (calm.expand _ _).bind fun ⟨start, length⟩ => ?_
  refine (calm.charge _).bind fun _ => ?_
  exact (keeps_readMemory _ _).bind fun _ => calm.push _

theorem extCodeCopy
    (rule : AddressRule) :
    Keeps invariant (extCodeCopy rule) := by
  refine calm.popAddress.bind fun address => ?_
  refine calm.pop3.bind fun ⟨destination, offset, size⟩ => ?_
  refine (calm.lookUp _ _ _ _).bind fun code => ?_
  exact calm.copyToMemory _ _ _ _

theorem returnDataCopy :
    Keeps invariant returnDataCopy := by
  refine calm.pop3.bind fun ⟨destination, offset, size⟩ => ?_
  refine keeps_frame.bind fun frame => ?_
  dsimp only
  exact Keeps.guarded (Keeps.throw _) (calm.copyToMemory _ _ _ _)

theorem memoryLoad :
    Keeps invariant memoryLoad := by
  refine calm.pop.bind fun offset => ?_
  refine (calm.expand _ _).bind fun ⟨start, _⟩ => ?_
  exact keeps_frame.bind fun _ => calm.push _

theorem memoryStore :
    Keeps invariant memoryStore := by
  refine calm.pop2.bind fun ⟨offset, word⟩ => ?_
  refine (calm.expand _ _).bind fun ⟨start, _⟩ => ?_
  exact calm.writeMemory _ _

theorem memoryStoreByte :
    Keeps invariant memoryStoreByte := by
  refine calm.pop2.bind fun ⟨offset, word⟩ => ?_
  refine (calm.expand _ _).bind fun ⟨start, _⟩ => ?_
  exact calm.writeMemory _ _

theorem memoryCopy :
    Keeps invariant memoryCopy := by
  refine calm.pop3.bind fun ⟨destination, source, size⟩ => ?_
  refine (calm.expand _ _).bind fun ⟨_, length⟩ => ?_
  refine (calm.charge _).bind fun _ => ?_
  split
  · exact fun machine => calm.moveWithin (.write machine.frame _ _) (fun _ => rfl) nofun
  · exact Keeps.pure _

theorem finishWith
    (ending : FrameEnding) :
    Keeps invariant (finishWith ending) := by
  refine calm.pop2.bind fun ⟨offset, size⟩ => ?_
  refine Ensures.bind (calm.ensures_expand _ _) fun ⟨start, length⟩ => ?_
  refine KeepsGiven.of_fact fun short => ?_
  refine Ensures.bind (ensures_readMemory _ _) fun output => KeepsGiven.of_fact fun read => ?_
  refine Keeps.bind ?_ fun _ => calm.finish ending
  refine calm.updateInPlace (fun frame => .setOutput frame output ?_) (fun _ => rfl) fun _ => rfl
  rwa [read]

theorem log
    (mayLog : isStatic = false)
    (prices : PriceSource)
    (count : Nat) :
    Keeps invariant (log prices count) := by
  subst mayLog
  refine calm.pop2.bind fun ⟨offset, size⟩ => ?_
  refine (calm.popList count).bind fun topics => ?_
  refine (calm.expand _ _).bind fun ⟨start, length⟩ => ?_
  refine keeps_context.bind fun context => ?_
  have recorded :
      Keeps invariant (do
        let data ← readMemory start length
        Exec.updateFrame fun frame =>
          { frame with
            logs := frame.logs.push ⟨context.address, topics.map Hash.mk, data⟩ }) := by
    refine (keeps_readMemory _ _).bind fun data => ?_
    refine calm.updateInPlace (fun frame => ?_) (fun _ => rfl) fun _ => rfl
    rw [Array.push_eq_append]
    exact .addLogs frame _
  dsimp only
  split
  · exact (calm.charge _).bind fun _ => recorded
  · exact (Keeps.throw _).bind fun _ => recorded

end Memory

/-! ## Instructions that go elsewhere in the code -/

section Flow

variable (calm : Calm true memory isStatic invariant)
include calm

theorem jump
    (destination : Word) :
    Keeps invariant (jump destination) := by
  intro ⟨frame, simulation⟩ holds
  by_cases marked :
      destination.toNat < UInt32.size ∧ frame.program.isJumpDest destination.toNat = true
  · simp only [Exec.jump, if_pos marked]
    exact calm.moveWithin (.jump frame _ marked.2) nofun (fun _ => rfl) holds
  · simp only [Exec.jump, if_neg marked]
    exact holds

theorem jumpIf :
    Keeps invariant jumpIf := by
  refine calm.pop2.bind fun ⟨destination, condition⟩ => ?_
  dsimp only
  split
  · exact calm.jump _
  · exact Keeps.pure _

theorem pushImmediate
    (size : Nat) :
    Keeps invariant (pushImmediate size) := by
  refine keeps_frame.bind fun frame => ?_
  refine Keeps.bind ?_ fun _ => calm.push _
  exact fun machine => calm.moveWithin (.advance machine.frame size) nofun fun _ => rfl

end Flow

end Calm

/-- A change of the frame that is one of its moves. -/
theorem Quiet.updateFrame
    {isStatic : Bool}
    {invariant : Machine → Prop}
    (quiet : Quiet isStatic invariant)
    {update : Frame → Frame}
    (moves : ∀ frame, Frame.Move isStatic frame (update frame)) :
    Keeps invariant (Exec.updateFrame update) :=
  fun machine holds => quiet.move (moves machine.frame) holds

theorem Quiet.updateTrace
    {isStatic : Bool}
    {invariant : Machine → Prop}
    (quiet : Quiet isStatic invariant)
    (update : Trace → Trace) :
    Keeps invariant (Exec.updateTrace update) :=
  fun machine holds => quiet.trace (update machine.simulation.trace) holds

/-- The kind of the call that an instruction makes, if it makes one. -/
def Instruction.callKind? : Instruction → Option CallKind
  | .call => some .call
  | .callCode => some .callCode
  | .delegateCall => some .delegateCall
  | .staticCall => some .staticCall
  | _ => none

/-- An instruction with a kind of call makes that call. -/
theorem Exec.execute_of_callKind?
    {environment : Environment}
    {runner : Runner}
    {instruction : Instruction}
    {kind : CallKind}
    (found : instruction.callKind? = some kind) :
    Exec.execute environment runner instruction = Exec.call environment runner kind := by
  cases instruction with
  | call | callCode | delegateCall | staticCall => cases found; rfl
  | _ => cases found

namespace Instruction

/-- Whether the instruction may go on elsewhere than at the next byte. -/
def isFlow : Instruction → Bool
  | .jump => true
  | .jumpIf => true
  | .push _ => true
  | _ => false

/-- Whether the instruction may read, write or grow memory. -/
def touchesMemory : Instruction → Bool
  | .keccak => true
  | .callDataCopy => true
  | .codeCopy => true
  | .extCodeCopy => true
  | .returnDataCopy => true
  | .memoryLoad => true
  | .memoryStore => true
  | .memoryStoreByte => true
  | .memoryCopy => true
  | .log _ => true
  | .create => true
  | .create2 => true
  | .call => true
  | .callCode => true
  | .delegateCall => true
  | .staticCall => true
  | .output => true
  | .revert => true
  | _ => false

end Instruction

/-- An instruction that makes no call and modifies nothing is calm. -/
theorem Calm.execute
    {flow memory isStatic : Bool}
    {invariant : Machine → Prop}
    (calm : Calm flow memory isStatic invariant)
    (environment : Environment)
    (runner : Runner)
    {instruction : Instruction}
    (noCall : instruction.callKind? = none)
    (reads : instruction.modifiesState = false)
    (flows : instruction.isFlow = true → flow = true)
    (touches : instruction.touchesMemory = true → memory = true) :
    Keeps invariant (Exec.execute environment runner instruction) := by
  open Exec in
  cases instruction with
  | stop => exact calm.finish _
  | pow => exact calm.power
  | addMod | mulMod => exact calm.ternary _
  | isZero | bitNot | blobHash => exact calm.unary _
  | less => exact calm.relation fun left right => decide (left < right)
  | greater => exact calm.relation fun left right => decide (right < left)
  | signedLess => exact calm.relation Word.signedLess
  | signedGreater => exact calm.relation fun left right => Word.signedLess right left
  | equal => exact calm.relation fun left right => left == right
  | keccak =>
      obtain rfl := touches rfl
      exact calm.hashMemory
  | balance => exact calm.balance _
  | callDataLoad => exact calm.pop.bind fun _ => calm.pushContext _
  | callDataCopy =>
      obtain rfl := touches rfl
      exact calm.pop3.bind fun _ => keeps_context.bind fun _ => calm.copyToMemory _ _ _ _
  | codeCopy =>
      obtain rfl := touches rfl
      exact calm.pop3.bind fun _ => keeps_frame.bind fun _ => calm.copyToMemory _ _ _ _
  | codeSize | returnDataSize | position | memorySize | gas =>
      exact keeps_frame.bind fun _ => calm.push _
  | extCodeSize => exact calm.extCodeSize _
  | extCodeCopy =>
      obtain rfl := touches rfl
      exact calm.extCodeCopy _
  | extCodeHash => exact calm.extCodeHash _
  | returnDataCopy =>
      obtain rfl := touches rfl
      exact calm.returnDataCopy
  | blockHash => exact calm.blockHash _
  | prevRandao => exact calm.randomValue _
  | selfBalance =>
      exact keeps_context.bind fun _ => (keeps_ask _).bind fun _ => calm.push _
  | blobBaseFee => exact calm.push _
  | pop => exact calm.pop.bind fun _ => Keeps.pure _
  | memoryLoad =>
      obtain rfl := touches rfl
      exact calm.memoryLoad
  | memoryStore =>
      obtain rfl := touches rfl
      exact calm.memoryStore
  | memoryStoreByte =>
      obtain rfl := touches rfl
      exact calm.memoryStoreByte
  | memoryCopy =>
      obtain rfl := touches rfl
      exact calm.memoryCopy
  | storageLoad => exact calm.storageLoad
  | transientLoad => exact calm.transientLoad
  | jump =>
      obtain rfl := flows rfl
      exact calm.pop.bind fun _ => calm.jump _
  | jumpIf =>
      obtain rfl := flows rfl
      exact calm.jumpIf
  | jumpDest => exact Keeps.pure _
  | push size =>
      obtain rfl := flows rfl
      exact calm.pushImmediate _
  | dup depth => exact calm.updateStack fun stack => stack.dup depth.val
  | swap depth => exact calm.updateStack fun stack => stack.swap (depth.val + 1)
  | output | revert =>
      obtain rfl := touches rfl
      exact calm.finishWith _
  | invalid => exact Keeps.throw _
  | call | callCode | delegateCall | staticCall => cases noCall
  | storageStore | transientStore | log | create | create2 | selfDestruct => cases reads
  | address | origin | caller | callValue | callDataSize | gasPrice | coinbase | timestamp
  | number | gasLimit | chainId | baseFee =>
      exact calm.pushContext _
  | _ => exact calm.binary _

/--
An invariant that every instruction that makes no call and stores no word keeps as it acts, in
a frame that is static or not: beyond what instructions do quietly, those that write are asked
for in frames that may write.
-/
structure KeptBesideStoring
    (environment : Environment)
    (runner : Runner)
    (isStatic : Bool)
    (invariant : Machine → Prop) : Prop extends Quiet isStatic invariant where
  setTransient :
    isStatic = false →
    ∀ {frame : Frame} {simulation : Simulation} (address : Address) (key value : Word),
      invariant ⟨frame, simulation⟩ →
      invariant
        ⟨frame,
          { simulation with world := simulation.world.setTransient address key value }⟩
  selfDestruct :
    isStatic = false →
    Keeps invariant (Exec.selfDestruct environment.rules.selfDestruct)
  create :
    isStatic = false →
    ∀ salted : Bool, Keeps invariant (Exec.create environment runner salted)

/-- An invariant that every instruction that makes no call keeps as it acts. -/
structure KeptByWriting
    (environment : Environment)
    (runner : Runner)
    (isStatic : Bool)
    (invariant : Machine → Prop) : Prop
    extends KeptBesideStoring environment runner isStatic invariant where
  setStorage :
    isStatic = false →
    ∀ {frame : Frame} {simulation : Simulation} (address : Address) (key value : Word),
      invariant ⟨frame, simulation⟩ →
      invariant
        ⟨frame,
          { simulation with world := simulation.world.setStorage address key value }⟩

/-- An invariant that every instruction keeps as it acts, those that call in every frame. -/
structure KeptByActing
    (environment : Environment)
    (runner : Runner)
    (isStatic : Bool)
    (invariant : Machine → Prop) : Prop
    extends KeptByWriting environment runner isStatic invariant where
  call :
    ∀ kind : CallKind, Keeps invariant (Exec.call environment runner kind)

/-- An invariant that is also kept by what is done before an instruction acts. -/
structure KeptByInstructions
    (environment : Environment)
    (runner : Runner)
    (isStatic : Bool)
    (invariant : Machine → Prop) : Prop
    extends KeptByActing environment runner isStatic invariant where
  static :
    ∀ {machine : Machine},
      invariant machine → isStatic = true → machine.frame.context.isStatic = true
  count :
    ∀ {frame : Frame} {world : World} {trace : Trace} {steps : Nat},
      invariant ⟨frame, ⟨world, trace, steps⟩⟩ →
      invariant ⟨frame, ⟨world, trace, steps + 1⟩⟩

/-- What is kept beside storing is kept by every instruction that stores no word. -/
theorem KeptBesideStoring.execute_of_no_call
    {environment : Environment}
    {runner : Runner}
    {isStatic : Bool}
    {invariant : Machine → Prop}
    (kept : KeptBesideStoring environment runner isStatic invariant)
    {instruction : Instruction}
    (noCall : instruction.callKind? = none)
    (noStore : instruction ≠ .storageStore)
    (allowed : isStatic = true → instruction.modifiesState = false) :
    Keeps invariant (Exec.execute environment runner instruction) := by
  cases modifies : instruction.modifiesState with
  | false =>
      exact kept.toCalm.execute environment runner noCall modifies (fun _ => rfl) fun _ => rfl
  | true =>
      have mayWrite : isStatic = false := by
        cases isStatic with
        | false => rfl
        | true => rw [allowed rfl] at modifies; cases modifies
      cases instruction with
      | storageStore => exact (noStore rfl).elim
      | transientStore =>
          exact kept.toCalm.transientStore fun _ _ _ _ holds =>
            kept.setTransient mayWrite _ _ _ holds
      | log topics => exact kept.toCalm.log mayWrite _ _
      | create => exact kept.create mayWrite _
      | create2 => exact kept.create mayWrite _
      | selfDestruct => exact kept.selfDestruct mayWrite
      | _ => cases modifies

/-- Every instruction that the frame allows and that makes no call keeps the invariant. -/
theorem KeptByWriting.execute_of_no_call
    {environment : Environment}
    {runner : Runner}
    {isStatic : Bool}
    {invariant : Machine → Prop}
    (kept : KeptByWriting environment runner isStatic invariant)
    {instruction : Instruction}
    (noCall : instruction.callKind? = none)
    (allowed : isStatic = true → instruction.modifiesState = false) :
    Keeps invariant (Exec.execute environment runner instruction) := by
  by_cases stores : instruction = .storageStore
  · subst stores
    have mayWrite : isStatic = false := by
      cases isStatic with
      | false => rfl
      | true => cases allowed rfl
    exact kept.toCalm.storageStore mayWrite fun _ _ _ _ holds =>
      kept.setStorage mayWrite _ _ _ holds
  · exact kept.toKeptBesideStoring.execute_of_no_call noCall stores allowed

/-- Every instruction that the frame allows keeps the invariant. -/
theorem KeptByActing.execute
    {environment : Environment}
    {runner : Runner}
    {isStatic : Bool}
    {invariant : Machine → Prop}
    (kept : KeptByActing environment runner isStatic invariant)
    {instruction : Instruction}
    (allowed : isStatic = true → instruction.modifiesState = false) :
    Keeps invariant (Exec.execute environment runner instruction) := by
  cases calls : instruction.callKind? with
  | none => exact kept.execute_of_no_call calls allowed
  | some kind =>
      rw [Exec.execute_of_callKind? calls]
      exact kept.call kind

namespace Exec

variable
  {environment : Environment}
  {isStatic : Bool}
  {invariant : Machine → Prop}

/-- A static frame is given no instruction that modifies state. -/
theorem ensures_fetch
    (static :
      ∀ {machine : Machine},
        invariant machine → isStatic = true → machine.frame.context.isStatic = true) :
    Ensures invariant (fetch environment)
      (fun instruction machine =>
        invariant machine ∧ (isStatic = true → instruction.modifiesState = false))
      (fun _ => invariant) := by
  refine Ensures.bind ensures_frame fun frame => ?_
  rintro machine ⟨holds, rfl⟩
  dsimp only
  cases environment.rules.instruction?
      (machine.frame.program.code.getD machine.frame.position 0) with
  | none =>
      exact holds
  | some instruction =>
      by_cases refused :
          machine.frame.context.isStatic = true ∧ instruction.modifiesState = true
      · simp only [if_pos refused]
        exact holds
      · simp only [if_neg refused]
        refine ⟨holds, fun inStatic => ?_⟩
        simpa [static holds inStatic] using refused

end Exec

namespace KeptByInstructions

open Exec

variable
  {environment : Environment}
  {runner : Runner}
  {isStatic : Bool}
  {invariant : Machine → Prop}
variable (kept : KeptByInstructions environment runner isStatic invariant)
include kept

/-- One step keeps the invariant. -/
theorem step :
    Keeps invariant (step environment runner) := by
  have quiet := kept.toQuiet
  refine (keeps_countStep kept.count environment).bind fun _ => ?_
  refine Ensures.bind (ensures_fetch kept.static) fun instruction => ?_
  refine KeepsGiven.of_fact fun allowed => ?_
  refine keeps_frame.bind fun frame => ?_
  refine Keeps.bind (fun machine holds => quiet.trace _ holds) fun place => ?_
  refine (quiet.charge _).bind fun _ => ?_
  refine (quiet.updateFrame fun frame => .advance frame 1).bind fun _ => ?_
  intro machine holds
  have executed := kept.execute allowed machine holds
  unfold amending
  cases result : Exec.execute environment runner instruction machine with
  | ok answer after =>
      rw [result] at executed
      exact quiet.trace _ executed
  | error error after =>
      rw [result] at executed
      exact quiet.trace _ executed

end KeptByInstructions

namespace Frame

/-- A run that has not ended takes a step and goes on within a lower bound. -/
theorem run_succ
    (environment : Environment)
    (fuel : Nat)
    (frame : Frame)
    (simulation : Simulation) :
    run environment (fuel + 1) frame simulation =
      if frame.isOver then
        .ok frame.outcome simulation
      else
        match Exec.step environment (environment.runnerWithin fun _ => fuel)
            ⟨frame, simulation⟩ with
        | .ok _ after => run environment fuel after.frame after.simulation
        | .error error after => failWith error after.frame.gas after.simulation :=
  rfl

/-- What a step keeps, a run that is one step longer ensures. -/
theorem ensures_run_succ
    {environment : Environment}
    {fuel : Nat}
    {invariant : Machine → Prop}
    {after : Outcome → Simulation → Prop}
    {failed : VmError → Simulation → Prop}
    (ends : ∀ (frame : Frame) (simulation : Simulation),
      invariant ⟨frame, simulation⟩ → after frame.outcome simulation)
    (steps :
      Keeps invariant (Exec.step environment (environment.runnerWithin fun _ => fuel)))
    (goesOn : ∀ frame : Frame,
      Ensures (fun simulation => invariant ⟨frame, simulation⟩)
        (run environment fuel frame) after failed)
    (fails : ∀ (error : VmError) (frame : Frame),
      Ensures (fun simulation => invariant ⟨frame, simulation⟩) (failWith error frame.gas)
        after failed)
    (frame : Frame) :
    Ensures (fun simulation => invariant ⟨frame, simulation⟩)
      (run environment (fuel + 1) frame) after failed := by
  intro simulation holds
  -- a step that fails ends the frame in the state it has reached, so both ends are needed
  have stepped := steps ⟨frame, simulation⟩ holds
  rw [run_succ]
  by_cases finished : frame.isOver
  · simp only [if_pos finished]
    exact ends frame simulation holds
  · simp only [if_neg finished]
    cases result :
        Exec.step environment (environment.runnerWithin fun _ => fuel)
          ⟨frame, simulation⟩ with
    | ok answer reached =>
        rw [result] at stepped
        exact goesOn reached.frame reached.simulation stepped
    | error error reached =>
        rw [result] at stepped
        exact fails error reached.frame reached.simulation stepped

end Frame

end LedgerEvm
