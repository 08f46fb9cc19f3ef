import LedgerEvm.Proofs.Machine.Operands
import LedgerEvm.Proofs.Machine.StartedFrames

namespace LedgerEvm

/-!
# Frames that go on

An instruction that starts a frame has taken words from its stack before, so there is room for the
answer that is waited for.  So a frame that goes on does not fail, unless the run as a whole does.
-/

/-- There is room for another word beside these. -/
def LeaveRoom (words : List Word) : Prop :=
  words.length < 1024

/-- On a stack a word has been taken from there is room. -/
theorem leaveRoom_of_cons
    {word : Word}
    {rest : List Word}
    (fits : (word :: rest).length ≤ 1024) :
    LeaveRoom rest := by
  unfold LeaveRoom
  rw [List.length_cons] at fits
  omega

theorem LeaveRoom.of_cons
    {word : Word}
    {rest : List Word}
    (room : LeaveRoom (word :: rest)) :
    LeaveRoom rest :=
  leaveRoom_of_cons (Nat.le_of_lt room)

/-- There is room for another word on the stack of the frame. -/
def Machine.HasStackRoom : Machine → Prop :=
  Machine.StackHas LeaveRoom

namespace Exec

variable
  {property : List Word → Prop}
  {environment : Environment}

/-! ## What leaves the stack as it is -/

theorem keepsStack_charge
    (gas : UInt64) :
    Keeps (Machine.StackHas property) (charge gas) :=
  keeps_charge (fun _ => id) gas

theorem keepsStack_expand
    (offset size : Word) :
    Keeps (Machine.StackHas property) (expand offset size) := by
  unfold expand
  dsimp only
  split
  · exact Keeps.pure _
  · refine (keeps_memoryOperand offset).bind fun offset => ?_
    refine (keeps_memoryOperand size).bind fun size => ?_
    have needed : Keeps (Machine.StackHas property) (neededWords offset size) :=
      (ensures_neededWords offset size).imp (fun _ => id) (fun _ _ => And.left) fun _ _ => id
    refine needed.bind fun ⟨present, needed⟩ => (keepsStack_charge _).bind fun _ => ?_
    exact Keeps.bind (fun _ holds => holds) fun _ => Keeps.pure _

theorem keepsStack_access
    (address : Address) :
    Keeps (Machine.StackHas property) (inspect.access address) := by
  refine (keeps_ask _).bind fun wasWarm => ?_
  exact Keeps.bind (fun _ holds => holds) fun _ => keepsStack_charge _

theorem keepsStack_inspectCallee
    (rule : AddressRule)
    (kind : CallKind)
    (target : Address) :
    Keeps (Machine.StackHas property) (inspectCallee rule kind target) := by
  unfold inspectCallee
  split
  · refine (keeps_ask _).bind fun verdict => ?_
    cases verdict with
    | systemAccount => exact (keepsStack_charge _).bind fun _ => Keeps.pure _
    | invalid => exact Keeps.throw _
    | regular => exact (keepsStack_access target).bind fun _ => Keeps.pure _
  · exact (keepsStack_access target).bind fun _ => Keeps.pure _

theorem keepsStack_chargeValue
    (kind : CallKind)
    (target : Address) :
    Keeps (Machine.StackHas property) (chargeValue kind target) := by
  refine (keepsStack_charge _).bind fun _ => ?_
  split
  · refine (keeps_ask _).bind fun answers => ?_
    split
    · exact keepsStack_charge _
    · exact Keeps.pure _
  · exact Keeps.pure _

theorem keepsStack_launchCall
    (limits : Limits)
    (kind : CallKind)
    (operands : CallOperands)
    (input output : Nat × Nat) :
    Keeps (Machine.StackHas property) (launchCall limits kind operands input output) := by
  refine keeps_frame.bind fun frame => (keepsStack_charge _).bind fun _ => ?_
  refine (Quiet.canStart _ _ _).bind fun starts => ?_
  split
  · refine (keeps_readMemory _ _).bind fun data => ?_
    exact keeps_context.bind fun context => Keeps.pure _
  · exact Keeps.bind (fun _ holds => holds) fun _ => Keeps.pure _

theorem keepsStack_chargeInitCode
    (environment : Environment)
    (length : Nat) :
    Keeps (Machine.StackHas property) (chargeInitCode environment length) := by
  unfold chargeInitCode
  dsimp only
  split
  · exact Keeps.guarded (Keeps.throw _) (keepsStack_charge _)
  · exact Keeps.pure _

theorem keepsStack_launchCreation
    (limits : Limits)
    (value : Word)
    (start length : Nat) :
    Keeps (Machine.StackHas property) (launchCreation limits value start length) := by
  refine (Quiet.canStart _ _ _).bind fun starts => ?_
  split
  · refine keeps_frame.bind fun frame => (keepsStack_charge _).bind fun _ => ?_
    exact (keeps_readMemory _ _).bind fun _ => keeps_context.bind fun _ => Keeps.pure _
  · exact Keeps.pure _

/-! ## What is taken before a frame is started -/

theorem yields_prepareCall
    (environment : Environment)
    (kind : CallKind) :
    Yields (fun _ => True) (prepareCall environment kind) fun _ => Machine.HasStackRoom := by
  have popped : Yields (fun _ => True) (popCall kind) fun _ => Machine.HasStackRoom := by
    refine (yields_popCall (fun words => words.length ≤ 1024) kind).imp
      (fun machine _ => machine.frame.stack.length_le) ?_
    rintro operands machine ⟨requested, target, fits⟩
    unfold callWords at fits
    split at fits
    · exact (leaveRoom_of_cons fits).of_cons.of_cons.of_cons.of_cons.of_cons.of_cons
    · exact (leaveRoom_of_cons fits).of_cons.of_cons.of_cons.of_cons.of_cons
  refine popped.bind fun operands => Yields.of_keeps ?_
  refine (keepsStack_expand _ _).bind fun input => (keepsStack_expand _ _).bind fun output => ?_
  refine Keeps.bind (fun _ holds => holds) fun _ => ?_
  refine (keepsStack_inspectCallee _ _ _).bind fun goesOn => ?_
  split
  · refine Keeps.guarded (keepsStack_chargeValue _ _) ?_
    exact keepsStack_launchCall _ _ _ _ _
  · exact Keeps.pure _

theorem yields_prepareCreation
    (environment : Environment)
    (salted : Bool) :
    Yields (fun _ => True) (prepareCreation environment salted) fun _ => Machine.HasStackRoom := by
  have popped : Yields (fun _ => True) pop3 fun _ => Machine.HasStackRoom :=
    (yields_pop3 fun words => words.length ≤ 1024).imp
      (fun machine _ => machine.frame.stack.length_le) fun _ _ fits =>
        (leaveRoom_of_cons fits).of_cons.of_cons
  have salt : Yields Machine.HasStackRoom pop fun _ => Machine.HasStackRoom :=
    (yields_pop LeaveRoom).imp (fun _ => id) fun _ _ => LeaveRoom.of_cons
  have launched (value : Word) (start length : Nat) :
      Keeps Machine.HasStackRoom (do
        updateFrame fun frame => { frame with returnData := [] }
        launchCreation environment.limits value start length) :=
    Keeps.bind (fun _ holds => holds) fun _ => keepsStack_launchCreation _ _ _ _
  refine popped.bind fun ⟨value, offset, size⟩ => ?_
  dsimp only
  cases salted with
  | true =>
      refine salt.bind fun _ => Yields.of_keeps ?_
      refine (keepsStack_expand _ _).bind fun ⟨start, length⟩ => ?_
      refine (keepsStack_chargeInitCode _ _).bind fun _ => ?_
      exact (keepsStack_charge _).bind fun _ => launched value start length
  | false =>
      refine Yields.of_keeps ?_
      refine (keepsStack_expand _ _).bind fun ⟨start, length⟩ => ?_
      exact (keepsStack_chargeInitCode _ _).bind fun _ => launched value start length

/-- A frame that waits has room for the answer. -/
theorem hasStackRoom_of_launch?
    {machine : Machine}
    {launch : FrameLaunch}
    (found : launch? environment machine = some launch) :
    LeaveRoom launch.waiting.frame.stack.words := by
  obtain ⟨instruction, place, gasBefore, ready, begun, found⟩ := exists_of_launch? found
  rcases exists_of_instructionLaunch? found with ⟨kind, called⟩ | ⟨-, salted, created⟩
  · obtain ⟨_, _, _, _, prepares, -, rfl⟩ := exists_of_callLaunch? called
    exact (yields_prepareCall environment kind).of_ok prepares trivial
  · obtain ⟨_, _, _, _, prepares, -, rfl⟩ := exists_of_creationLaunch? created
    exact (yields_prepareCreation environment salted).of_ok prepares trivial

/-! ## What is taken after it has ended -/

/-- The action succeeds where there is room. -/
def Fits (action : Exec Unit) : Prop :=
  Ensures Machine.HasStackRoom action (fun _ _ => True) fun _ _ => False

theorem Fits.push
    (word : Word) :
    Fits (push word) := by
  intro machine room
  have pushed : machine.frame.stack.push word = .ok _ := dif_pos room
  simp only [Exec.push, pushed]

/-- What changes no stack leaves room for what follows. -/
theorem Fits.behind
    {update : Frame → Frame}
    {next : Exec Unit}
    (fits : Fits next)
    (same : ∀ frame, (update frame).stack = frame.stack) :
    Fits (updateFrame update >>= fun _ => next) := by
  have kept :
      Ensures Machine.HasStackRoom (updateFrame update) (fun _ => Machine.HasStackRoom)
        fun _ _ => False := by
    intro machine room
    change LeaveRoom (update machine.frame).stack.words
    rw [same]
    exact room
  exact Ensures.bind kept fun _ => fits

theorem fits_takeOutcome
    (outcome : Outcome)
    (offset size : Nat) :
    Fits (takeOutcome outcome offset size) := by
  have answers :
      Fits (do
        updateFrame fun frame => { frame with returnData := outcome.output }
        pushBool outcome.isSuccess) :=
    (Fits.push _).behind fun _ => rfl
  refine Fits.behind (Fits.behind ?_ fun _ => rfl) fun _ => rfl
  dsimp only
  split
  · exact answers.behind fun _ => rfl
  · exact answers

theorem fits_takeCreation
    (outcome : Outcome) :
    Fits (takeCreation outcome) := by
  refine Fits.behind ?_ fun _ => rfl
  split
  · exact (Fits.push _).behind fun _ => rfl
  · exact (Fits.push _).behind fun _ => rfl
  · exact Fits.push 0

end Exec

/-- What has been waited for fails only with what ends the run. -/
theorem Awaited.isAbort_of_settle
    {limits : Limits}
    {awaited : Awaited}
    {ended : EStateM.Result VmError Simulation Outcome}
    {error : VmError}
    {after : Simulation}
    (aborts : ∀ error after, ended = .error error after → error.isAbort = true)
    (failed : awaited.settle limits ended = .error error after) :
    error.isAbort = true := by
  cases ended with
  | error error' inner =>
      cases awaited with
      | call output =>
          cases failed
          exact aborts _ _ rfl
      | creation address =>
          cases failed
          exact aborts _ _ rfl
  | ok outcome inner =>
      cases awaited with
      | call output => cases failed
      | creation address =>
          simp only [settle] at failed
          split at failed
          · exact SimAction.isAbort_of_deployOutput failed
          · cases failed

/-- A frame with room that goes on fails only with what ends the run. -/
theorem WaitingFrame.isAbort_of_resume
    {limits : Limits}
    {waiting : WaitingFrame}
    {ended : EStateM.Result VmError Simulation Outcome}
    {error : VmError}
    {after : Machine}
    (room : LeaveRoom waiting.frame.stack.words)
    (aborts : ∀ error after, ended = .error error after → error.isAbort = true)
    (failed : waiting.resume limits ended = .error error after) :
    error.isAbort = true := by
  unfold resume at failed
  cases closes :
      SimAction.closeFrame Outcome.isSuccess (waiting.awaited.settle limits ended) with
  | error error' closed =>
      rw [closes] at failed
      cases failed
      obtain ⟨inner, settles⟩ := SimAction.exists_of_closeFrame_error closes
      exact waiting.awaited.isAbort_of_settle aborts settles
  | ok outcome closed =>
      rw [closes] at failed
      have fits : Exec.Fits (waiting.awaited.take outcome) := by
        cases waiting.awaited with
        | call output => exact Exec.fits_takeOutcome _ _ _
        | creation address => exact Exec.fits_takeCreation _
      have taken := fits ⟨waiting.frame, closed⟩ room
      cases takes : waiting.awaited.take outcome ⟨waiting.frame, closed⟩ with
      | ok answer went =>
          simp only [Exec.amending, takes, reduceCtorEq] at failed
      | error error' went =>
          rw [takes] at taken
          exact taken.elim

/-- The frame on top has not failed, except with what ends the run. -/
def ActiveFrame.IsSound : ActiveFrame → Prop
  | .ended (.error error _) => error.isAbort = true
  | _ => True

/-- A frame that fails with anything else has an outcome. -/
theorem ActiveFrame.isSound_ofResult
    (result : EStateM.Result VmError Machine Unit) :
    (ofResult result).IsSound := by
  cases result with
  | ok answer machine => exact trivial
  | error error machine =>
      simp only [ofResult, Frame.failWith]
      cases aborts : error.isAbort with
      | true => exact aborts
      | false => exact trivial

namespace CallStack

/-- Frames that wait have room for the answer, and only the run as a whole fails. -/
structure IsSound (stack : CallStack) : Prop where
  active : stack.active.IsSound
  room : ∀ waiting ∈ stack.waiting, LeaveRoom waiting.frame.stack.words

variable
  {environment : Environment}
  {before after : CallStack}

theorem IsSound.first
    (limits : Limits)
    (context : FrameContext)
    (code : Bytes)
    (simulation : Simulation) :
    IsSound (first limits context code simulation) where
  active := trivial
  room _ member := nomatch member

theorem IsSound.moves
    (sound : IsSound before)
    (move : Moves environment before after) :
    IsSound after := by
  obtain ⟨-, room⟩ := sound
  cases move.moved with
  | close => exact ⟨trivial, room⟩
  | launch runs found =>
      exact ⟨trivial, List.forall_mem_cons.mpr ⟨Exec.hasStackRoom_of_launch? found, room⟩⟩
  | act => exact ⟨ActiveFrame.isSound_ofResult _, room⟩
  | handOn =>
      exact ⟨ActiveFrame.isSound_ofResult _, (List.forall_mem_cons.mp room).2⟩

/-- When a frame that has ended hands on how, nothing fails but what ends the run. -/
theorem IsSound.isAbort_of_resume
    {limits : Limits}
    {ended : EStateM.Result VmError Simulation Outcome}
    {frame : WaitingFrame}
    {waiting : List WaitingFrame}
    {error : VmError}
    {after : Machine}
    (sound : IsSound ⟨.ended ended, frame :: waiting⟩)
    (failed : frame.resume limits ended = .error error after) :
    error.isAbort = true := by
  refine WaitingFrame.isAbort_of_resume (sound.room frame List.mem_cons_self) ?_ failed
  rintro error after rfl
  exact sound.active

end CallStack

end LedgerEvm
