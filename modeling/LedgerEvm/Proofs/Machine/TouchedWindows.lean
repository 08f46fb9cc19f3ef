import LedgerEvm.Proofs.Machine.MemoryExpansions

namespace LedgerEvm

/-!
# The windows that instructions touch

The operands of an instruction describe the windows of memory that it reads or writes.  An
instruction that succeeds has grown memory to hold them, and nothing beyond.

The cost of so many words is a potential: each expansion is charged the difference that it
makes, so what a frame has been charged in all depends on the words that it has, and not on
the expansions that it has made or on their order.
-/

/-- The windows of memory that an instruction touches, by the words that it finds. -/
def Instruction.windows : Instruction → List Word → List Window
  | .keccak, offset :: size :: _ => [⟨offset, size⟩]
  | .callDataCopy, target :: _ :: size :: _ => [⟨target, size⟩]
  | .codeCopy, target :: _ :: size :: _ => [⟨target, size⟩]
  | .extCodeCopy, _ :: target :: _ :: size :: _ => [⟨target, size⟩]
  | .returnDataCopy, target :: _ :: size :: _ => [⟨target, size⟩]
  | .memoryLoad, offset :: _ => [⟨offset, 32⟩]
  | .memoryStore, offset :: _ => [⟨offset, 32⟩]
  | .memoryStoreByte, offset :: _ => [⟨offset, 1⟩]
  | .memoryCopy, target :: source :: size :: _ => [⟨target, size⟩, ⟨source, size⟩]
  | .log _, offset :: size :: _ => [⟨offset, size⟩]
  | .create, _ :: offset :: size :: _ => [⟨offset, size⟩]
  | .create2, _ :: offset :: size :: _ => [⟨offset, size⟩]
  | .call, _ :: _ :: _ :: input :: length :: target :: size :: _ =>
      [⟨input, length⟩, ⟨target, size⟩]
  | .callCode, _ :: _ :: _ :: input :: length :: target :: size :: _ =>
      [⟨input, length⟩, ⟨target, size⟩]
  | .delegateCall, _ :: _ :: input :: length :: target :: size :: _ =>
      [⟨input, length⟩, ⟨target, size⟩]
  | .staticCall, _ :: _ :: input :: length :: target :: size :: _ =>
      [⟨input, length⟩, ⟨target, size⟩]
  | .output, offset :: size :: _ => [⟨offset, size⟩]
  | .revert, offset :: size :: _ => [⟨offset, size⟩]
  | _, _ => []

/-- An instruction that does not touch memory touches no window of it. -/
theorem Instruction.windows_of_untouched
    (instruction : Instruction)
    (untouched : instruction.touchesMemory = false)
    (words : List Word) :
    instruction.windows words = [] := by
  cases instruction with
  | keccak | callDataCopy | codeCopy | extCodeCopy | returnDataCopy | memoryLoad | memoryStore
  | memoryStoreByte | memoryCopy | log | create | create2 | call | callCode | delegateCall
  | staticCall | output | revert =>
      cases untouched
  | _ => rfl

/-- A call touches the windows of its input and of its output. -/
theorem Instruction.windows_of_callKind?
    {instruction : Instruction}
    {kind : CallKind}
    (calls : instruction.callKind? = some kind)
    (requested target value input length destination size : Word)
    (rest : List Word) :
    instruction.windows
        (Exec.callWords kind requested target value
          (input :: length :: destination :: size :: rest)) =
      [⟨input, length⟩, ⟨destination, size⟩] := by
  cases instruction with
  | call | callCode | delegateCall | staticCall => cases calls; rfl
  | _ => cases calls

namespace Exec

variable {property : List Word → Prop}

/-! ## What leaves memory as large as it is -/

theorem keptWithin_memorySize
    (size : Nat) :
    Frame.KeptWithin true false fun frame => frame.memory.size = size where
  move _ _ same holds := by
    rw [same rfl]
    exact holds
  gas _ holds := holds

theorem calm_memorySize
    (size : Nat) :
    Calm true false false (Machine.Has fun frame => frame.memory.size = size) :=
  (keptWithin_memorySize size).calm

theorem keepsMemorySize_write
    (offset : Nat)
    (bytes : Bytes) :
    KeepsMemorySize (updateMemory fun memory => memory.write offset bytes) :=
  fun _ machine holds => (Memory.size_write machine.frame.memory offset bytes).trans holds

/-- An instruction that does not touch memory leaves it as large as it is. -/
theorem keepsMemorySize_execute
    (environment : Environment)
    (runner : Runner)
    {instruction : Instruction}
    (spares : instruction.touchesMemory = false) :
    KeepsMemorySize (execute environment runner instruction) := by
  intro size
  refine (keptWithin_memorySize size).execute environment runner (fun _ => rfl) fun touches => ?_
  cases spares.symm.trans touches

/-! ## Instructions -/

theorem opens_copyToMemory
    {before : Machine → Prop}
    (destination offset size : Word)
    (source : Bytes) :
    Opens before (copyToMemory destination offset size source) [⟨destination, size⟩] := by
  refine Opens.last_window fun window length => ?_
  refine ((calm_memorySize length).charge _).bind fun _ => ?_
  exact keepsMemorySize_write _ _ _

theorem opens_hashMemory
    (words : List Word) :
    Opens (Machine.StackHas (· = words)) hashMemory (Instruction.keccak.windows words) := by
  refine Opens.behind (fun size => (calm_memorySize size).pop2) (yields_pop2 _)
    fun ⟨offset, size⟩ => Opens.of_stack fun rest shape => ?_
  subst shape
  refine Opens.last_window fun window length => ?_
  refine ((calm_memorySize length).charge _).bind fun _ => ?_
  exact (keeps_readMemory _ _).bind fun _ => (calm_memorySize length).push _

/-- A copy of what the frame itself has, its call data or its code. -/
theorem opens_copyOwn
    {β : Type}
    {words : List Word}
    {windows : List Window}
    (described :
      ∀ destination offset size rest,
        words = destination :: offset :: size :: rest → windows = [⟨destination, size⟩])
    {look : Exec β}
    {source : β → Bytes}
    (keeps : KeepsMemorySize look) :
    Opens (Machine.StackHas (· = words))
      (do
        let (destination, offset, size) ← pop3
        copyToMemory destination offset size (source (← look)))
      windows := by
  refine Opens.behind (fun size => (calm_memorySize size).pop3) (yields_pop3 _)
    fun ⟨destination, offset, size⟩ => Opens.of_stack fun rest shape => ?_
  rw [described destination offset size rest shape.symm]
  exact Opens.behind_any keeps fun _ => opens_copyToMemory _ _ _ _

theorem opens_extCodeCopy
    (rule : AddressRule)
    (words : List Word) :
    Opens (Machine.StackHas (· = words)) (extCodeCopy rule)
      (Instruction.extCodeCopy.windows words) := by
  refine Opens.behind (fun size => (calm_memorySize size).popAddress) (yields_popAddress _)
    fun address => ?_
  refine Opens.behind (fun size => (calm_memorySize size).pop3) (yields_pop3 _)
    fun ⟨destination, offset, size⟩ => Opens.of_stack fun rest ⟨_, _, shape⟩ => ?_
  subst shape
  refine Opens.behind_any (fun size => (calm_memorySize size).lookUp _ _ _ _) fun code => ?_
  exact opens_copyToMemory _ _ _ _

theorem opens_returnDataCopy
    (words : List Word) :
    Opens (Machine.StackHas (· = words)) returnDataCopy
      (Instruction.returnDataCopy.windows words) := by
  refine Opens.behind (fun size => (calm_memorySize size).pop3) (yields_pop3 _)
    fun ⟨destination, offset, size⟩ => Opens.of_stack fun rest shape => ?_
  subst shape
  refine Opens.behind_any (fun _ => keeps_frame) fun frame => ?_
  exact Opens.guarded (fun _ => Keeps.throw _) (opens_copyToMemory _ _ _ _)

theorem opens_memoryLoad
    (words : List Word) :
    Opens (Machine.StackHas (· = words)) memoryLoad (Instruction.memoryLoad.windows words) := by
  refine Opens.behind (fun size => (calm_memorySize size).pop) (yields_pop _)
    fun offset => Opens.of_stack fun rest shape => ?_
  subst shape
  refine Opens.last_window fun window length => ?_
  exact keeps_frame.bind fun _ => (calm_memorySize length).push _

theorem opens_memoryStore
    (words : List Word) :
    Opens (Machine.StackHas (· = words)) memoryStore (Instruction.memoryStore.windows words) := by
  refine Opens.behind (fun size => (calm_memorySize size).pop2) (yields_pop2 _)
    fun ⟨offset, word⟩ => Opens.of_stack fun rest shape => ?_
  subst shape
  exact Opens.last_window fun window => keepsMemorySize_write _ _

theorem opens_memoryStoreByte
    (words : List Word) :
    Opens (Machine.StackHas (· = words)) memoryStoreByte
      (Instruction.memoryStoreByte.windows words) := by
  refine Opens.behind (fun size => (calm_memorySize size).pop2) (yields_pop2 _)
    fun ⟨offset, word⟩ => Opens.of_stack fun rest shape => ?_
  subst shape
  exact Opens.last_window fun window => keepsMemorySize_write _ _

/-- The window that a copy is paid for ends where the later one of its two windows ends. -/
theorem reach_of_copy
    (destination source size : Word) :
    Window.furthest [⟨if destination < source then source else destination, size⟩] =
      Window.furthest [⟨destination, size⟩, ⟨source, size⟩] := by
  simp only [Window.furthest, Window.reach, Memory.reach, BitVec.lt_def]
  split
  · rfl
  · split <;> omega

theorem opens_memoryCopy
    (words : List Word) :
    Opens (Machine.StackHas (· = words)) memoryCopy (Instruction.memoryCopy.windows words) := by
  refine Opens.behind (fun size => (calm_memorySize size).pop3) (yields_pop3 _)
    fun ⟨destination, source, size⟩ => Opens.of_stack fun rest shape => ?_
  subst shape
  refine Opens.of_furthest_eq (Opens.last_window fun window length => ?_)
    (reach_of_copy destination source size)
  refine ((calm_memorySize length).charge _).bind fun _ => ?_
  split
  · exact fun machine holds => (Memory.size_write machine.frame.memory _ _).trans holds
  · exact Keeps.pure _

theorem opens_finishWith
    {words : List Word}
    {windows : List Window}
    (described : ∀ offset size rest, words = offset :: size :: rest → windows = [⟨offset, size⟩])
    (ending : FrameEnding) :
    Opens (Machine.StackHas (· = words)) (finishWith ending) windows := by
  refine Opens.behind (fun size => (calm_memorySize size).pop2) (yields_pop2 _)
    fun ⟨offset, size⟩ => Opens.of_stack fun rest shape => ?_
  rw [described offset size rest shape.symm]
  refine Opens.last_window fun window length => ?_
  refine (keeps_readMemory _ _).bind fun output => ?_
  exact Keeps.bind (fun _ => id) fun _ => (calm_memorySize length).finish _

theorem opens_log
    (prices : PriceSource)
    (topics : Fin 5)
    (words : List Word) :
    Opens (Machine.StackHas (· = words)) (log prices topics.val)
      ((Instruction.log topics).windows words) := by
  refine Opens.behind (fun size => (calm_memorySize size).pop2) (yields_pop2 _)
    fun ⟨offset, size⟩ => Opens.of_stack fun rest shape => ?_
  subst shape
  refine Opens.behind_any (fun size => (calm_memorySize size).popList _) fun topics => ?_
  refine Opens.last_window fun window length => ?_
  refine keeps_context.bind fun context => ?_
  have recorded :
      Keeps (Machine.Has fun frame => frame.memory.size = length) (do
        let data ← readMemory window.1 window.2
        Exec.updateFrame fun frame =>
          { frame with
            logs := frame.logs.push ⟨context.address, topics.map Hash.mk, data⟩ }) :=
    (keeps_readMemory _ _).bind fun data => fun _ => id
  dsimp only
  split
  · exact ((calm_memorySize length).charge _).bind fun _ => recorded
  · exact (Keeps.throw _).bind fun _ => recorded

/-! ## Creations -/

theorem keepsMemorySize_launchCreation
    (limits : Limits)
    (value : Word)
    (start length : Nat) :
    KeepsMemorySize (launchCreation limits value start length) := by
  intro size
  refine (Quiet.canStart _ _ _).bind fun starts => ?_
  split
  · refine keeps_frame.bind fun frame => ((calm_memorySize size).charge _).bind fun _ => ?_
    exact (keeps_readMemory _ _).bind fun _ => keeps_context.bind fun _ => Keeps.pure _
  · exact Keeps.pure _

theorem opens_prepareCreation
    {words : List Word}
    {windows : List Window}
    (described :
      ∀ value offset size rest,
        words = value :: offset :: size :: rest → windows = [⟨offset, size⟩])
    (environment : Environment)
    (salted : Bool) :
    Opens (Machine.StackHas (· = words)) (prepareCreation environment salted) windows := by
  refine Opens.behind (fun size => (calm_memorySize size).pop3) (yields_pop3 _)
    fun ⟨value, offset, size⟩ => Opens.of_stack fun rest shape => ?_
  rw [described value offset size rest shape.symm]
  have launched :
      ∀ (start length memory : Nat),
        Keeps (Machine.Has fun frame => frame.memory.size = memory) (do
          updateFrame fun frame => { frame with returnData := [] }
          launchCreation environment.limits value start length) := fun start length memory =>
    ((calm_memorySize memory).setReturnData []).bind fun _ =>
      keepsMemorySize_launchCreation _ _ _ _ _
  cases salted with
  | true =>
      refine Opens.behind_any (fun memory => (calm_memorySize memory).pop) fun _ => ?_
      refine Opens.last_window fun ⟨start, length⟩ memory => ?_
      refine ((calm_memorySize memory).chargeInitCode _ _).bind fun _ => ?_
      exact ((calm_memorySize memory).charge _).bind fun _ => launched start length memory
  | false =>
      refine Opens.last_window fun ⟨start, length⟩ memory => ?_
      exact ((calm_memorySize memory).chargeInitCode _ _).bind fun _ =>
        launched start length memory

theorem opens_create
    {words : List Word}
    {windows : List Window}
    (described :
      ∀ value offset size rest,
        words = value :: offset :: size :: rest → windows = [⟨offset, size⟩])
    (environment : Environment)
    (runner : Runner)
    (salted : Bool) :
    Opens (Machine.StackHas (· = words)) (create environment runner salted) windows := by
  refine (opens_prepareCreation described environment salted).then_nothing
    fun launch? size => ?_
  cases launch? with
  | none => exact (calm_memorySize size).push 0
  | some launch =>
      refine keeps_context.bind fun context => ?_
      refine (Frame.KeptWithin.onSimulation _).bind fun outcome => ?_
      exact (calm_memorySize size).ensures_takeCreation nofun
        ((keptWithin_memorySize size).giveBack _)

/-! ## Calls -/

theorem keepsMemorySize_launchCall
    (limits : Limits)
    (kind : CallKind)
    (operands : CallOperands)
    (input output : Nat × Nat) :
    KeepsMemorySize (launchCall limits kind operands input output) := by
  intro size
  refine keeps_frame.bind fun frame => ((calm_memorySize size).charge _).bind fun _ => ?_
  refine (Quiet.canStart _ _ _).bind fun starts => ?_
  split
  · refine (keeps_readMemory _ _).bind fun data => ?_
    exact keeps_context.bind fun context => Keeps.pure _
  · exact ((keptWithin_memorySize size).giveBack _).bind fun _ => Keeps.pure _

theorem keepsMemorySize_popCall
    (kind : CallKind) :
    KeepsMemorySize (popCall kind) := fun size =>
  ((calm_memorySize size).ensures_popCall kind).imp (fun _ => id) (fun _ _ => And.left)
    fun _ _ => id

/-- A call opens the window of its input and then that of its output. -/
theorem opens_prepareCall
    (environment : Environment)
    {words : List Word}
    {windows : List Window}
    {kind : CallKind}
    (described :
      ∀ requested target value input length destination size rest,
        words =
          callWords kind requested target value
            (input :: length :: destination :: size :: rest) →
        windows = [⟨input, length⟩, ⟨destination, size⟩]) :
    Opens (Machine.StackHas (· = words)) (prepareCall environment kind) windows := by
  refine Opens.behind (keepsMemorySize_popCall kind) (yields_popCall _ kind)
    fun operands => Opens.of_stack fun rest ⟨requested, target, shape⟩ => ?_
  rw [described _ _ _ _ _ _ _ _ shape.symm]
  refine Opens.window_then fun input => Opens.last_window fun output size => ?_
  refine ((calm_memorySize size).setReturnData []).bind fun _ => ?_
  refine ((calm_memorySize size).inspectCallee _ _ _).bind fun goesOn => ?_
  split
  · refine Keeps.guarded ((calm_memorySize size).chargeValue _ _) ?_
    exact keepsMemorySize_launchCall _ _ _ _ _ _
  · exact Keeps.pure _

/-- Taking an outcome writes within memory and leaves it as large as it is. -/
theorem keepsMemorySize_takeOutcome
    (outcome : Outcome)
    (offset length : Nat) :
    KeepsMemorySize (takeOutcome outcome offset length) := by
  intro size
  refine ((keptWithin_memorySize size).giveBack _).bind fun _ => ?_
  refine Keeps.bind (keepsMemorySize_write _ _ _) fun _ => ?_
  dsimp only
  refine Keeps.guarded ((calm_memorySize size).takeSuccess nofun) ?_
  exact ((calm_memorySize size).setReturnData _).bind fun _ => (calm_memorySize size).push _

theorem opens_call
    (environment : Environment)
    (runner : Runner)
    {instruction : Instruction}
    {kind : CallKind}
    (calls : instruction.callKind? = some kind)
    (words : List Word) :
    Opens (Machine.StackHas (· = words)) (call environment runner kind)
      (instruction.windows words) := by
  have described :
      ∀ requested target value input length destination size rest,
        words =
          callWords kind requested target value
            (input :: length :: destination :: size :: rest) →
        instruction.windows words = [⟨input, length⟩, ⟨destination, size⟩] := by
    rintro requested target value input length destination size rest rfl
    exact Instruction.windows_of_callKind? calls _ _ _ _ _ _ _ _
  refine (opens_prepareCall environment described).then_nothing fun launch? size => ?_
  cases launch? with
  | none => exact (calm_memorySize size).push 0
  | some launch =>
      refine (Frame.KeptWithin.onSimulation _).bind fun outcome => ?_
      exact keepsMemorySize_takeOutcome _ _ _ _

/-! ## All instructions -/

/--
Every instruction makes expansions, and one that succeeds has grown memory as far as the
windows reach that its operands describe.
-/
theorem opens_execute
    (environment : Environment)
    (runner : Runner)
    (instruction : Instruction)
    (words : List Word) :
    Opens (Machine.StackHas (· = words)) (execute environment runner instruction)
      (instruction.windows words) := by
  cases calls : instruction.callKind? with
  | some kind =>
      rw [execute_of_callKind? calls]
      exact opens_call environment runner calls words
  | none =>
      cases touches : instruction.touchesMemory with
      | false =>
          rw [instruction.windows_of_untouched touches words]
          exact Opens.nothing (keepsMemorySize_execute environment runner touches)
      | true =>
          cases instruction with
          | keccak => exact opens_hashMemory words
          | extCodeCopy => exact opens_extCodeCopy _ words
          | returnDataCopy => exact opens_returnDataCopy words
          | memoryLoad => exact opens_memoryLoad words
          | memoryStore => exact opens_memoryStore words
          | memoryStoreByte => exact opens_memoryStoreByte words
          | memoryCopy => exact opens_memoryCopy words
          | log topics => exact opens_log _ topics words
          | callDataCopy =>
              exact opens_copyOwn (fun _ _ _ _ shape => by subst shape; rfl)
                fun _ => keeps_context
          | codeCopy =>
              exact opens_copyOwn (fun _ _ _ _ shape => by subst shape; rfl)
                fun _ => keeps_frame
          | create | create2 =>
              exact opens_create (fun _ _ _ _ shape => by subst shape; rfl) environment runner _
          | output | revert =>
              exact opens_finishWith (fun _ _ _ shape => by subst shape; rfl) _
          | call | callCode | delegateCall | staticCall => cases calls
          | _ => cases touches

/-! ## Steps -/

theorem keepsMemorySize_begin
    (environment : Environment) :
    KeepsMemorySize (begin environment) := by
  intro size
  refine (keeps_countStep (fun holds => holds) environment).bind fun _ => ?_
  refine (keeps_fetch environment).bind fun instruction => keeps_frame.bind fun frame => ?_
  refine Keeps.bind (fun _ holds => holds) fun place => ?_
  refine ((calm_memorySize size).charge _).bind fun _ => ?_
  exact Keeps.bind (fun _ holds => holds) fun _ => Keeps.pure _

end Exec

/-- The windows of memory that a frame touches with the instruction that it is at. -/
def Frame.windows (rules : Ruleset) (frame : Frame) : List Window :=
  match frame.instruction? rules with
  | some instruction => instruction.windows frame.stack.words
  | none => []

namespace Exec

/-- A step touches the windows of the instruction that the frame is at. -/
theorem opens_step
    (environment : Environment)
    (runner : Runner)
    (start : Machine) :
    Opens (· = start) (step environment runner) (start.frame.windows environment.rules) := by
  rw [step_eq]
  refine Opens.behind (keepsMemorySize_begin environment) (yields_begin environment start)
    fun begun => ?_
  rintro machine ⟨found, moved, -⟩
  have windows :
      start.frame.windows environment.rules = begun.1.windows start.frame.stack.words := by
    rw [Frame.windows, found]
  have words : machine.StackHas (· = start.frame.stack.words) := by
    rw [Machine.StackHas, Machine.Has, moved]
  rw [windows]
  exact (opens_execute environment runner begun.1 _).amending _ _ machine words

end Exec

/-- A step that succeeds has grown memory as far as the windows ask for that it touches. -/
theorem Exec.size_of_step
    {environment : Environment}
    {runner : Runner}
    {machine after : Machine}
    (steps : step environment runner machine = .ok () after) :
    after.frame.memory.size =
      max machine.frame.memory.size
        (Memory.wordsFor (Window.furthest (machine.frame.windows environment.rules)) * 32) := by
  obtain ⟨expansions, expands, reached⟩ := opens_step environment runner machine machine rfl
  have grown := expands.size_leaves
  rwa [leaves_of_ok steps, reached () after steps] at grown

/-! ## Executions -/

/--
The machine comes from another one by steps of its frame, which has touched these windows
with the instructions that it has executed.
-/
inductive Machine.Touches
    (environment : Environment)
    (start : Machine) : List Window → Machine → Prop where
  | start :
      Touches environment start [] start
  | step
      {windows : List Window} {machine after : Machine}
      (touched : Touches environment start windows machine)
      (runs : machine.frame.isOver = false)
      (runner : Runner)
      (steps : Exec.step environment runner machine = .ok () after) :
      Touches environment start (windows ++ machine.frame.windows environment.rules) after

/-- The least multiple of the size of a word up to which all windows lie. -/
structure IsLeastCover (windows : List Window) (size : Nat) : Prop where
  whole : size % 32 = 0
  covers : ∀ window ∈ windows, window.reach ≤ size
  least :
    ∀ other, other % 32 = 0 → (∀ window ∈ windows, window.reach ≤ other) → size ≤ other

namespace Window

/-- All windows lie before an end exactly if the last of their ends does. -/
theorem furthest_le_iff
    {windows : List Window}
    {size : Nat} :
    furthest windows ≤ size ↔ ∀ window ∈ windows, window.reach ≤ size := by
  induction windows with
  | nil => exact ⟨fun _ => nofun, fun _ => Nat.zero_le _⟩
  | cons window rest inductionHypothesis =>
      rw [furthest, Nat.max_le, inductionHypothesis, List.forall_mem_cons]

/-- The words up to the last of the ends are the least that hold all windows. -/
theorem isLeastCover
    (windows : List Window) :
    IsLeastCover windows (Memory.wordsFor (furthest windows) * 32) where
  whole := Nat.mul_mod_left _ _
  covers := by
    rw [← furthest_le_iff]
    unfold Memory.wordsFor
    omega
  least other whole covers := by
    rw [← furthest_le_iff] at covers
    unfold Memory.wordsFor
    omega

end Window

namespace Machine.Touches

variable
  {environment : Environment}
  {start machine after : Machine}
  {windows : List Window}

/-- Memory is as large as the windows ask for that the frame has touched since its start. -/
theorem size_eq
    (touches : Touches environment start windows machine) :
    machine.frame.memory.size =
      max start.frame.memory.size (Memory.wordsFor (Window.furthest windows) * 32) := by
  induction touches with
  | start => exact (Nat.max_eq_left (Nat.zero_le _)).symm
  | step _ _ runner steps inductionHypothesis =>
      rw [Exec.size_of_step steps, inductionHypothesis, Window.furthest_append]
      unfold Memory.wordsFor
      omega

/--
After another step, whether it has ended the frame or not, the memory of the frame is the
least one of whole words that holds what it has touched since its start.
-/
theorem isLeastCover_of_step
    {runner : Runner}
    {limits : Limits}
    {context : FrameContext}
    {code : Bytes}
    {simulation : Simulation}
    (touches :
      Touches environment ⟨Frame.start limits context code, simulation⟩ windows machine)
    (steps : Exec.step environment runner machine = .ok () after) :
    IsLeastCover (windows ++ machine.frame.windows environment.rules)
      after.frame.memory.size := by
  have size := touches.size_eq
  have empty : (Frame.start limits context code).memory.size = 0 := rfl
  have grown :
      after.frame.memory.size =
        Memory.wordsFor
            (Window.furthest (windows ++ machine.frame.windows environment.rules)) * 32 := by
    rw [Exec.size_of_step steps, size, empty, Window.furthest_append]
    unfold Memory.wordsFor
    omega
  rw [grown]
  exact Window.isLeastCover _

end Machine.Touches

/-! ## Executions and their expansions -/

/-- The machine comes from another one by steps of its frame that make these expansions. -/
inductive Machine.ReachesWith
    (environment : Environment)
    (start : Machine) : List Expansion → Machine → Prop where
  | start :
      ReachesWith environment start [] start
  | step
      {expansions more : List Expansion} {machine after : Machine}
      (reached : ReachesWith environment start expansions machine)
      (runs : machine.frame.isOver = false)
      (runner : Runner)
      (expands : Exec.Expands (Exec.step environment runner) machine more)
      (steps : Exec.step environment runner machine = .ok () after) :
      ReachesWith environment start (expansions ++ more) after

namespace Machine

variable
  {environment : Environment}
  {start machine : Machine}
  {expansions : List Expansion}

/-- Whatever a frame executes, it makes expansions by it. -/
theorem Reaches.exists_expansions
    (reaches : Reaches environment start machine) :
    ∃ expansions, ReachesWith environment start expansions machine := by
  induction reaches with
  | start => exact ⟨[], .start⟩
  | step _ runs runner steps inductionHypothesis =>
      obtain ⟨expansions, reached⟩ := inductionHypothesis
      obtain ⟨more, expands, -⟩ := Exec.opens_step environment runner _ _ rfl
      exact ⟨expansions ++ more, reached.step runs runner expands steps⟩

/-- What is paid in an execution is what the words of memory cost more than at its start. -/
theorem ReachesWith.totalCost_eq
    (reaches : ReachesWith environment start expansions machine) :
    Expansion.totalCost expansions + (Memory.totalCost start.frame.memory.words).toNat =
      (Memory.totalCost machine.frame.memory.words).toNat := by
  induction reaches with
  | start => exact Nat.zero_add _
  | step _ _ runner expands steps inductionHypothesis =>
      have paid := expands.totalCost_eq
      rw [leaves_of_ok steps] at paid
      rw [Expansion.totalCost_append]
      omega

/-- An execution makes memory no larger than two operands can say, unless it was. -/
theorem ReachesWith.words_le
    (reaches : ReachesWith environment start expansions machine)
    (few : start.frame.memory.words ≤ 2 ^ 28) :
    machine.frame.memory.words ≤ 2 ^ 28 := by
  induction reaches with
  | start => exact few
  | step _ _ runner expands steps inductionHypothesis =>
      have grown := expands.words_le inductionHypothesis
      rwa [leaves_of_ok steps] at grown

end Machine

/-! ## The law -/

/-- A frame that has started has paid for the words that it has, and for no others. -/
theorem Machine.ReachesWith.paid_of_start
    {environment : Environment}
    {limits : Limits}
    {context : FrameContext}
    {code : Bytes}
    {simulation : Simulation}
    {expansions : List Expansion}
    {machine : Machine}
    (reaches :
      ReachesWith environment ⟨Frame.start limits context code, simulation⟩ expansions
        machine) :
    machine.frame.memory.words ≤ 2 ^ 28 ∧
      Expansion.totalCost expansions =
        (Memory.totalCost machine.frame.memory.words).toNat := by
  have nothing : (Frame.start limits context code).memory.words = 0 :=
    Nat.zero_div Memory.wordSize
  have free : (Memory.totalCost 0).toNat = 0 := by decide
  have paid := reaches.totalCost_eq
  rw [nothing, free] at paid
  exact ⟨reaches.words_le (nothing ▸ Nat.zero_le _), paid⟩

/-- What a granted expansion takes from the gas of a frame grows with its end. -/
theorem Exec.expansion_cost_mono
    {machine nearer further : Machine}
    {offset size offset' size' : Word}
    {window window' : Nat × Nat}
    (one : expand offset size machine = .ok window nearer)
    (other : expand offset' size' machine = .ok window' further)
    (ordered : Window.reach ⟨offset, size⟩ ≤ Window.reach ⟨offset', size'⟩) :
    machine.frame.gas - nearer.frame.gas ≤ machine.frame.gas - further.frame.gas := by
  obtain ⟨-, -, rfl⟩ := of_expand_eq_ok one
  obtain ⟨-, -, rfl⟩ := of_expand_eq_ok other
  rw [gas_sub_grownUpTo, gas_sub_grownUpTo]
  exact machine.frame.memory.costUpTo_le ordered

/-- What growing for a window costs grows with the end of the window. -/
theorem Memory.windowCost_mono
    {memory : Memory}
    {offset size offset' size' : Nat}
    {cost cost' : UInt64}
    (one : memory.windowCost offset size = .ok cost)
    (other : memory.windowCost offset' size' = .ok cost')
    (ordered : reach offset size ≤ reach offset' size') :
    cost ≤ cost' := by
  rw [eq_of_windowCost one, eq_of_windowCost other]
  exact memory.costUpTo_le ordered

/-- An expansion fails for the reasons that there are, and for no others. -/
theorem Exec.refusesExpansion_iff
    (machine : Machine)
    (offset size : Word) :
    RefusesExpansion machine offset size ↔
      ∃ error after, expand offset size machine = .error error after := by
  constructor
  · intro refused
    obtain ⟨after, fails, -⟩ := exists_expand_eq_error refused
    exact ⟨_, after, fails⟩
  · rintro ⟨error, after, failed⟩
    exact (of_expand_eq_error failed).1

/--
What a frame has been charged for its memory, from its start on and whatever it executes, is
three for each word of it and a part of the square of their number; this is also so after a
step that fails.  To go further costs at least as much, and an expansion fails if an operand
is too large, the limit is exceeded or the gas does not suffice, and leaves memory as it is.
-/
theorem memory_gas_telescopes
    (environment : Environment)
    (limits : Limits)
    (context : FrameContext)
    (code : Bytes)
    (simulation : Simulation) :
    let start : Machine := ⟨Frame.start limits context code, simulation⟩
    (∀ machine,
        Machine.Reaches environment start machine →
        ∃ expansions, Machine.ReachesWith environment start expansions machine) ∧
      (∀ expansions machine,
        Machine.ReachesWith environment start expansions machine →
        let words := machine.frame.memory.words
        Expansion.totalCost expansions = 3 * words + words * words / 512 ∧
          ∀ runner,
            (∃ more, Exec.Expands (Exec.step environment runner) machine more) ∧
            ∀ more,
              Exec.Expands (Exec.step environment runner) machine more →
              let words :=
                (leaves (Exec.step environment runner) machine).frame.memory.words
              Expansion.totalCost (expansions ++ more) = 3 * words + words * words / 512) ∧
      (∀ (machine nearer further : Machine) (offset size offset' size' : Word)
          (window window' : Nat × Nat),
        Exec.expand offset size machine = .ok window nearer →
        Exec.expand offset' size' machine = .ok window' further →
        Window.reach ⟨offset, size⟩ ≤ Window.reach ⟨offset', size'⟩ →
        machine.frame.gas - nearer.frame.gas ≤ machine.frame.gas - further.frame.gas) ∧
      (∀ (memory : Memory) (offset size offset' size' : Nat) (cost cost' : UInt64),
        memory.windowCost offset size = .ok cost →
        memory.windowCost offset' size' = .ok cost' →
        Memory.reach offset size ≤ Memory.reach offset' size' →
        cost ≤ cost') ∧
      ∀ (machine : Machine) (offset size : Word),
        (Exec.RefusesExpansion machine offset size ↔
          ∃ error after, Exec.expand offset size machine = .error error after) ∧
        ∀ error after,
          Exec.expand offset size machine = .error error after →
          after.frame.memory = machine.frame.memory := by
  intro start
  refine ⟨fun machine => Machine.Reaches.exists_expansions, ?_,
    fun _ _ _ _ _ _ _ _ _ => Exec.expansion_cost_mono,
    fun _ _ _ _ _ _ _ => Memory.windowCost_mono, fun machine offset size => ?_⟩
  · intro expansions machine reaches words
    obtain ⟨few, paid⟩ := reaches.paid_of_start
    refine ⟨paid.trans (Memory.toNat_totalCost few), fun runner => ⟨?_, ?_⟩⟩
    · obtain ⟨more, expands, -⟩ := Exec.opens_step environment runner machine machine rfl
      exact ⟨more, expands⟩
    · intro more expands words
      have charged := expands.totalCost_eq
      have total := Memory.toNat_totalCost (expands.words_le few)
      rw [Expansion.totalCost_append, paid, ← total, ← charged, Nat.add_comm]
  · refine ⟨Exec.refusesExpansion_iff machine offset size, fun error after failed => ?_⟩
    exact (Exec.of_expand_eq_error failed).2.2

/-- A frame that reads the word behind the second one has paid for three words. -/
theorem frame_pays_for_three_words :
    let code : Bytes := [0x60, 0x40, 0x51, 0x00]
    let environment : Environment :=
      { rules := ⟨⟨0, 50, 0⟩, .cancun, ⟨true, true⟩, ⟨true, true⟩⟩
        prices := ⟨.empty, .empty, fun _ _ => 1⟩ }
    let context :=
      FrameContext.ofTransaction (Address.ofNum 1001) (Address.ofNum 1002) 0 [] 100 1 { }
    let simulation : Simulation :=
      { world := World.ofSnapshot (Snapshot.ofContents { }) true ⟨0⟩ 5000
        trace := Trace.off }
    let start : Machine := ⟨Frame.start { } context code, simulation⟩
    let pushed := stateOf (Exec.step environment Runner.idle start)
    let loaded := stateOf (Exec.step environment Runner.idle pushed)
    loaded.frame.memory.words = 3 ∧
      ∃ expansions,
        Machine.ReachesWith environment start expansions loaded ∧
          Expansion.totalCost expansions = 9 := by
  intro code environment context simulation start pushed loaded
  have pushes : Exec.step environment Runner.idle start = .ok () pushed :=
    eq_ok_of_answerOf (by decide +kernel)
  have loads : Exec.step environment Runner.idle pushed = .ok () loaded :=
    eq_ok_of_answerOf (by decide +kernel)
  have reaches : Machine.Reaches environment start loaded :=
    (Machine.Reaches.start.step (by decide) _ pushes).step (by decide) _ loads
  have words : loaded.frame.memory.words = 3 := by decide +kernel
  obtain ⟨executes, law, -⟩ :=
    memory_gas_telescopes environment { } context code simulation
  obtain ⟨expansions, expanding⟩ := executes loaded reaches
  have total := (law expansions loaded expanding).1
  rw [words] at total
  exact ⟨words, expansions, expanding, total⟩

end LedgerEvm
