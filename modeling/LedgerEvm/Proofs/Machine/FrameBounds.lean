import LedgerEvm.Proofs.Clamp
import LedgerEvm.Proofs.Machine.FrameInvariants
import LedgerEvm.Proofs.Machine.IndexSafety
import LedgerEvm.Proofs.Machine.Termination

namespace LedgerEvm

/-!
# No code drives a frame out of bounds

Whatever its code, a frame has at most as many words on its stack as it may have, memory of
whole words up to the limit, and a depth up to the limit, unless it started deeper.  Since no
instruction forms an index out of range either, a frame stops in one of the ways that are
foreseen.
-/

/-! ## Memory -/

/-- A memory of whole words, as many as the limit needs at most. -/
structure Memory.InBounds (limit : Nat) (memory : Memory) : Prop where
  limit_eq : memory.limit = limit
  size_whole : memory.size % Memory.wordSize = 0
  size_le : memory.size ≤ Memory.wordsFor limit * Memory.wordSize

namespace Memory.InBounds

variable {limit : Nat} {memory : Memory}

theorem withLimit
    (limit : Nat) :
    (Memory.withLimit limit).InBounds limit where
  limit_eq := rfl
  size_whole := rfl
  size_le := Nat.zero_le _

theorem write
    (bounds : memory.InBounds limit)
    (offset : Nat)
    (bytes : Bytes) :
    (memory.write offset bytes).InBounds limit := by
  have written := Memory.size_write memory offset bytes
  refine ⟨bounds.limit_eq, ?_, ?_⟩
  · rw [written]
    exact bounds.size_whole
  · rw [written]
    exact bounds.size_le

/-- No window needs more words than the limit does. -/
theorem requiredWords_le
    (bounds : memory.InBounds limit)
    {offset size words : Nat}
    (fits : memory.requiredWords offset size = .ok words) :
    words ≤ wordsFor limit := by
  have present : memory.words ≤ wordsFor limit :=
    Nat.div_le_of_le_mul (Nat.mul_comm _ _ ▸ bounds.size_le)
  unfold requiredWords at fits
  split at fits
  · cases fits
    exact present
  · split at fits
    · rename_i inside
      cases fits
      rw [bounds.limit_eq] at inside
      have fewer : wordsFor (offset + size) ≤ wordsFor limit := by
        unfold wordsFor
        omega
      exact Nat.max_le.mpr ⟨fewer, present⟩
    · cases fits

theorem growTo
    (bounds : memory.InBounds limit)
    {words : Nat}
    (fewer : words ≤ wordsFor limit) :
    (memory.growTo words).InBounds limit := by
  have grown := memory.size_growTo words
  have whole := bounds.size_whole
  have present := bounds.size_le
  unfold wordSize at whole present
  refine ⟨?_, ?_, ?_⟩
  · rw [← bounds.limit_eq]
    unfold Memory.growTo
    split <;> rfl
  · unfold wordSize
    omega
  · unfold wordSize
    omega

end Memory.InBounds

/-! ## Frames -/

/-- A frame within the limits of the machine, at most so deep. -/
structure Frame.InBounds (limits : Limits) (maxDepth : Nat) (frame : Frame) : Prop where
  stack_le : frame.stack.size ≤ OperandStack.capacity
  memory : frame.memory.InBounds limits.maxMemorySize
  depth_le : frame.context.depth.toNat ≤ maxDepth

namespace Frame.InBounds

variable
  {limits : Limits}
  {maxDepth : Nat}
  {frame frame' : Frame}

/-- Each move of a frame stays in bounds. -/
theorem move
    (move : Frame.Move false frame frame')
    (bounds : frame.InBounds limits maxDepth) :
    frame'.InBounds limits maxDepth := by
  cases move with
  | setStack _ stack => exact { bounds with stack_le := stack.length_le }
  | grow _ offset size words fits =>
      have fewer := bounds.memory.requiredWords_le fits
      exact { bounds with memory := bounds.memory.growTo fewer }
  | write _ offset bytes => exact { bounds with memory := bounds.memory.write offset bytes }
  | _ => exact { bounds with }

/-- A frame at its start is in bounds, if it is not too deep. -/
theorem start
    {context : FrameContext}
    (shallow : context.depth.toNat ≤ maxDepth)
    (limits : Limits)
    (code : Bytes) :
    (Frame.start limits context code).InBounds limits maxDepth where
  stack_le := Nat.zero_le _
  memory := Memory.InBounds.withLimit limits.maxMemorySize
  depth_le := shallow

end Frame.InBounds

/-! ## Depth -/

namespace FrameContext

theorem depth_child
    (context : FrameContext)
    (kind : CallKind)
    (target : Address)
    (value : Word)
    (data : Bytes)
    (gas : UInt64) :
    (context.child kind target value data gas).depth = context.depth.succClamp := by
  cases kind <;> rfl

end FrameContext

namespace Exec

variable {environment : Environment}

/-- A frame that the one of the machine starts is within the limit. -/
def MayStart (limits : Limits) (machine : Machine) : Prop :=
  machine.frame.context.depth.succClamp.toNat ≤ limits.maxCallDepth.toNat

theorem quiet_mayStart
    (limits : Limits) :
    Quiet false (MayStart limits) where
  move move shallow := by
    unfold MayStart
    rw [move.context_eq]
    exact shallow
  trace _ shallow := shallow
  touch _ shallow := shallow

/-- A frame that may start another one is not at the limit. -/
theorem yields_canStart
    (limits : Limits)
    (value : Word)
    (checksBalance : Bool) :
    Yields (fun _ => True) (canStart limits value checksBalance) fun starts machine =>
      starts = true → MayStart limits machine := by
  refine Ensures.bind ensures_context fun context => ?_
  split
  · exact Ensures.pure fun _ _ impossible => by cases impossible
  · rename_i deeper
    have less := UInt16.lt_iff_toNat_lt.mp (UInt16.not_le.mp deeper)
    have shallow : context.depth.succClamp.toNat ≤ limits.maxCallDepth.toNat :=
      Nat.le_trans context.depth.toNat_succClamp_le less
    -- the balance is asked for or not, but the frame is the same at the end of both ways
    have ends (answer : Bool) :
        Yields (fun machine => True ∧ context = machine.frame.context)
          (pure answer : Exec Bool)
          fun starts machine => starts = true → MayStart limits machine := by
      refine Ensures.pure fun machine ⟨_, same⟩ _ => ?_
      unfold MayStart
      rw [← same]
      exact shallow
    split
    · exact (Yields.of_keeps (keeps_ask _)).bind fun _ => ends _
    · exact ends _

/-- The frame that a call starts is within the limit. -/
theorem yields_prepareCall_depth
    (environment : Environment)
    (kind : CallKind) :
    Yields (fun _ => True) (prepareCall environment kind) fun launch? _ =>
      ∀ launch, launch? = some launch →
        launch.context.depth.toNat ≤ environment.limits.maxCallDepth.toNat := by
  refine Quiet.trivially.ensures_prepareCall (fun _ _ => trivial)
    (fun _ => Yields.trivially _) (fun _ _ => Yields.trivially _) (fun _ _ => trivial)
    (fun input output (_ : True) => ?_) fun _ _ _ impossible => by cases impossible
  refine (Yields.trivially _).bind fun frame => (Yields.trivially _).bind fun _ => ?_
  refine (yields_canStart _ _ _).bind fun starts => ?_
  split
  · rename_i started
    refine Yields.imp ?_ (fun _ shallow => shallow started) fun _ _ => id
    refine Yields.bind_kept (Yields.of_keeps (keeps_readMemory _ _)) fun data => ?_
    refine (Yields.of_ensures ensures_context).bind fun context => ?_
    refine Ensures.pure fun machine ⟨shallow, same⟩ launch launched => ?_
    cases launched
    rw [same, FrameContext.depth_child]
    exact shallow
  · refine Yields.imp ?_ (fun _ _ => trivial) fun _ _ => id
    refine (Yields.trivially _).bind fun _ => ?_
    exact Ensures.pure fun _ _ _ impossible => by cases impossible

/-- The frame that a creation starts is within the limit. -/
theorem yields_prepareCreation_depth
    (environment : Environment)
    (salted : Bool) :
    Yields (fun _ => True) (prepareCreation environment salted) fun launch? _ =>
      ∀ launch, launch? = some launch →
        launch.context.depth.toNat ≤ environment.limits.maxCallDepth.toNat := by
  refine Quiet.trivially.ensures_prepareCreation fun value start length => ?_
  refine (yields_canStart _ _ _).bind fun starts => ?_
  split
  · rename_i started
    have quiet := quiet_mayStart environment.limits
    refine Yields.imp ?_ (fun _ shallow => shallow started) fun _ _ => id
    refine Yields.bind_kept (Yields.of_keeps keeps_frame) fun frame => ?_
    refine Yields.bind_kept (Yields.of_keeps (quiet.charge _)) fun _ => ?_
    refine Yields.bind_kept (Yields.of_keeps (keeps_readMemory _ _)) fun initCode => ?_
    refine (Yields.of_ensures ensures_context).bind fun context => ?_
    refine Ensures.pure fun machine ⟨shallow, same⟩ launch launched => ?_
    cases launched
    rw [same]
    exact shallow
  · exact Ensures.pure fun _ _ _ impossible => by cases impossible

/-- A frame that is started is within the limit. -/
theorem depth_of_launch?
    {machine : Machine}
    {launch : FrameLaunch}
    (found : launch? environment machine = some launch) :
    launch.context.depth.toNat ≤ environment.limits.maxCallDepth.toNat := by
  obtain ⟨instruction, place, gasBefore, ready, _, found⟩ := exists_of_launch? found
  rcases exists_of_instructionLaunch? found with ⟨kind, called⟩ | ⟨_, salted, created⟩
  · obtain ⟨prepared, paid, code, opened, prepares, _, rfl⟩ := exists_of_callLaunch? called
    exact (yields_prepareCall_depth environment kind).of_ok prepares trivial prepared rfl
  · obtain ⟨prepared, paid, context, founded, prepares, founds, rfl⟩ :=
      exists_of_creationLaunch? created
    obtain ⟨address, rfl⟩ := SimAction.context_of_found founds
    exact (yields_prepareCreation_depth environment salted).of_ok prepares trivial prepared rfl

end Exec

/-! ## Runs -/

/--
How a frame may end: with an outcome, which is a failure only if that ends no more than the
frame, or with a failure that ends the whole transaction.
-/
def ActiveFrame.EndsRegularly : ActiveFrame → Prop
  | .running _ => True
  | .ended (.ok outcome _) =>
      ∀ error, outcome.status = .halted error → error.isAbort = false
  | .ended (.error error _) => error.isAbort = true

theorem ActiveFrame.endsRegularly_ofResult
    (result : EStateM.Result VmError Machine Unit) :
    (ActiveFrame.ofResult result).EndsRegularly := by
  cases result with
  | ok answer after => trivial
  | error error after =>
      simp only [ofResult, Frame.failWith]
      cases abort : error.isAbort with
      | true => exact abort
      | false =>
          intro error' same
          cases same
          exact abort

theorem CallStack.endsRegularly_moves
    {environment : Environment}
    {before after : CallStack}
    (move : Moves environment before after) :
    after.active.EndsRegularly := by
  cases move.moved with
  | close finished =>
      intro error failed
      unfold Frame.outcome at failed
      split at failed
      · cases failed
      · cases failed
  | launch => trivial
  | act => exact ActiveFrame.endsRegularly_ofResult _
  | handOn => exact ActiveFrame.endsRegularly_ofResult _

open CallStack (Moves Leads first)

/-- In an environment no code drives a frame out of bounds. -/
structure Environment.StaysInBounds (environment : Environment) : Prop where
  /-- At every moment of a run every frame is in bounds. -/
  frames :
    ∀ context code simulation count stack,
      Leads (Moves environment) count (first environment.limits context code simulation) stack →
      ∀ frame ∈ stack.frames,
        frame.InBounds environment.limits
          (Nat.max context.depth.toNat environment.limits.maxCallDepth.toNat)
  /-- So is the frame that a step leaves behind, also when it fails. -/
  steps :
    ∀ context code simulation count machine waiting runner,
      Leads (Moves environment) count (first environment.limits context code simulation)
        ⟨.running machine, waiting⟩ →
      (leaves (Exec.step environment runner) machine).frame.InBounds environment.limits
        (Nat.max context.depth.toNat environment.limits.maxCallDepth.toNat)
  /-- No instruction forms an index out of range, whoever runs the frames that it starts. -/
  indices :
    ∀ runner machine, machine.frame.isOver = false →
      Checked.step environment runner machine =
        Checked.lift (Exec.step environment runner) machine
  /-- A frame that has ended has an outcome, or has failed in a way that ends everything. -/
  ends :
    ∀ context code simulation count stack,
      Leads (Moves environment) count (first environment.limits context code simulation) stack →
      stack.active.EndsRegularly
  /-- Until the first frame has ended, there is a move. -/
  goesOn :
    ∀ stack, (∀ ended, stack ≠ ⟨.ended ended, []⟩) → ∃ after, Moves environment stack after
  /-- The end that is reached is that of the run. -/
  run :
    ∀ context code simulation,
      ∃ count,
        Leads (Moves environment) count (first environment.limits context code simulation)
          ⟨.ended (environment.runner context code simulation), []⟩

namespace Environment

theorem keptByFrames_inBounds
    (environment : Environment)
    (context : FrameContext) :
    KeptByFrames environment fun frame =>
      frame.InBounds environment.limits
        (Nat.max context.depth.toNat environment.limits.maxCallDepth.toNat) where
  move := Frame.InBounds.move
  gas _ bounds := { bounds with }
  -- how deep the frame is that starts another one does not matter: the limit was looked at
  start found _ :=
    Frame.InBounds.start (Nat.le_trans (Exec.depth_of_launch? found) (Nat.le_max_right _ _)) _ _

/-- Every frame of a run is in bounds, as its first frame is. -/
theorem inBounds_of_leads
    {environment : Environment}
    {context : FrameContext}
    {code : Bytes}
    {simulation : Simulation}
    {count : Nat}
    {stack : CallStack}
    (leads :
      Leads (Moves environment) count (first environment.limits context code simulation) stack) :
    ∀ frame ∈ stack.frames,
      frame.InBounds environment.limits
        (Nat.max context.depth.toNat environment.limits.maxCallDepth.toNat) :=
  (environment.keptByFrames_inBounds context).leads
    (Frame.InBounds.start (Nat.le_max_left _ _) _ _) leads

/-- In every environment no code drives a frame out of bounds. -/
theorem staysInBounds
    (environment : Environment) :
    environment.StaysInBounds where
  frames _ _ _ _ _ leads := inBounds_of_leads leads
  steps context _ _ _ machine _ runner leads := by
    have kept := (environment.keptByFrames_inBounds context).keptByInstructions runner
    have bounds := inBounds_of_leads leads machine.frame (List.mem_cons_self ..)
    exact kept.step.holds_leaves bounds
  indices runner := Checked.agrees_step environment runner
  ends _ _ _ _ _ leads :=
    leads.keeps (fun move _ => CallStack.endsRegularly_moves move) trivial
  goesOn _ := CallStack.exists_moves environment
  run context code simulation := by
    obtain ⟨count, _, leads⟩ := environment.leads_runner context code simulation
    exact ⟨count, leads⟩

end Environment

end LedgerEvm
