import LedgerEvm.Proofs.Machine.GasBounds
import LedgerEvm.Proofs.Machine.Launches

namespace LedgerEvm

/-!
# Every instruction pays or ends its frame

Most instructions pay a static cost.  Those that do not, pay for an account, a slot or a
record, or else end their frame.  So a step that leaves its frame running has spent gas,
also when the step has started another frame: what that one is given has been taken from
the first, and the look at the target is spent on top.
-/

theorem Runner.idle_leavesAtMost :
    Runner.idle.LeavesAtMost :=
  fun _ _ => SimAction.LeavesAtMost.throw _

/-- The frame is over, or at least a unit of the budget has been spent. -/
def Machine.Progressed (budget : Nat) (machine : Machine) : Prop :=
  machine.Within 1 budget ∨ machine.frame.isOver = true ∧ machine.Within 0 budget

namespace Machine

variable
  {budget reserved : Nat}
  {machine : Machine}

theorem Within.progressed
    (within : machine.Within reserved budget)
    (paid : 1 ≤ reserved) :
    machine.Progressed budget :=
  .inl (within.mono paid)

theorem Progressed.within
    (progressed : machine.Progressed budget) :
    machine.Within 0 budget := by
  rcases progressed with within | ⟨_, within⟩
  · exact within.mono (Nat.zero_le _)
  · exact within

end Machine

namespace Exec

variable {budget : Nat}

/-! ## Instructions that pay as they act -/

theorem lookUp_within
    {α : Type}
    (budget : Nat)
    (rule : AddressRule)
    (address : Address)
    (default : α)
    (question : World → Except StateError α) :
    Ensures (Machine.Within 0 budget) (lookUp rule address default question)
      (fun _ => Machine.Within Gas.warmRead.toNat budget)
      (fun _ => Machine.Within 0 budget) := by
  refine Ensures.bind (inspect_within budget rule address) fun regular => ?_
  split
  · exact fails_within (keeps_ask question)
  · exact Ensures.pure fun _ => id

theorem balance_within
    (budget : Nat)
    (rule : AddressRule) :
    Ensures (Machine.Within 0 budget) (balance rule)
      (fun _ => Machine.Within Gas.warmRead.toNat budget)
      (fun _ => Machine.Within 0 budget) := by
  refine Ensures.bind (quiet_within 0 budget).popAddress fun address => ?_
  refine Ensures.bind (lookUp_within budget _ _ _ _) fun balance => ?_
  exact fails_within ((quiet_within _ budget).push _)

theorem extCodeSize_within
    (budget : Nat)
    (rule : AddressRule) :
    Ensures (Machine.Within 0 budget) (extCodeSize rule)
      (fun _ => Machine.Within Gas.warmRead.toNat budget)
      (fun _ => Machine.Within 0 budget) := by
  refine Ensures.bind (quiet_within 0 budget).popAddress fun address => ?_
  refine Ensures.bind (lookUp_within budget _ _ _ _) fun code => ?_
  exact fails_within ((quiet_within _ budget).push _)

theorem extCodeCopy_within
    (budget : Nat)
    (rule : AddressRule) :
    Ensures (Machine.Within 0 budget) (extCodeCopy rule)
      (fun _ => Machine.Within Gas.warmRead.toNat budget)
      (fun _ => Machine.Within 0 budget) := by
  refine Ensures.bind (quiet_within 0 budget).popAddress fun address => ?_
  refine Ensures.bind (quiet_within 0 budget).pop3 fun ⟨destination, offset, size⟩ => ?_
  refine Ensures.bind (lookUp_within budget _ _ _ _) fun code => ?_
  exact fails_within ((quiet_within _ budget).copyToMemory _ _ _ _)

theorem extCodeHash_within
    (budget : Nat)
    (rule : AddressRule) :
    Ensures (Machine.Within 0 budget) (extCodeHash rule)
      (fun _ => Machine.Within Gas.warmRead.toNat budget)
      (fun _ => Machine.Within 0 budget) := by
  refine Ensures.bind (quiet_within 0 budget).popAddress fun address => ?_
  refine Ensures.bind (lookUp_within budget _ _ _ _) fun hash => ?_
  exact fails_within ((quiet_within _ budget).push _)

/-- A charge of at least so much sets that much aside. -/
theorem charge_atLeast
    {cost : UInt64}
    {least : Nat}
    (budget : Nat)
    (enough : least ≤ cost.toNat) :
    Ensures (Machine.Within 0 budget) (charge cost)
      (fun _ => Machine.Within least budget)
      (fun _ => Machine.Within 0 budget) :=
  (charge_within 0 budget cost).imp (fun _ => id)
    (fun _ _ within => within.mono (by omega)) fun _ _ => id

theorem storageLoad_within
    (budget : Nat) :
    Ensures (Machine.Within 0 budget) storageLoad
      (fun _ => Machine.Within Gas.warmRead.toNat budget)
      (fun _ => Machine.Within 0 budget) := by
  have quiet := quiet_within 0 budget
  have paid := quiet_within Gas.warmRead.toNat budget
  refine Ensures.bind quiet.pop fun key => ?_
  refine Ensures.bind keeps_context fun context => ?_
  refine Ensures.bind (keeps_ask _) fun wasWarm => ?_
  refine Ensures.bind (quiet.updateWorld fun world => .warmSlot true world _ _) fun _ => ?_
  have enough : Gas.warmRead.toNat ≤ (Gas.storageLoad wasWarm).toNat := by
    cases wasWarm <;> decide
  refine Ensures.bind (charge_atLeast budget enough) fun _ => ?_
  refine Ensures.bind (fails_within (keeps_ask _)) fun value => ?_
  refine Ensures.bind (fails_within (paid.updateTrace _)) fun _ => ?_
  exact fails_within (paid.push _)

/-- Writing a slot costs at least as much as reading it again. -/
theorem warmRead_le_storageStore
    (initial current new : Word)
    (wasWarm : Bool) :
    Gas.warmRead.toNat ≤ (Gas.storageStore initial current new wasWarm).1.toNat := by
  obtain ⟨base, among, cost⟩ := Gas.toNat_storageStore initial current new wasWarm
  have least : Gas.warmRead.toNat ≤ base.toNat := by
    simp only [List.mem_cons, List.not_mem_nil, or_false] at among
    rcases among with rfl | rfl | rfl <;> decide
  omega

theorem storageStore_within
    (budget : Nat) :
    Ensures (Machine.Within 0 budget) storageStore
      (fun _ => Machine.Within Gas.warmRead.toNat budget)
      (fun _ => Machine.Within 0 budget) := by
  have quiet := quiet_within 0 budget
  have paid := quiet_within Gas.warmRead.toNat budget
  refine Ensures.bind keeps_frame fun frame => ?_
  dsimp only
  split
  · exact Ensures.throw_bind fun _ => id
  · refine Ensures.bind quiet.pop2 fun ⟨key, value⟩ => ?_
    refine Ensures.bind keeps_context fun context => ?_
    refine Ensures.bind (keeps_ask _) fun initial => ?_
    refine Ensures.bind (keeps_ask _) fun current => ?_
    refine Ensures.bind (keeps_ask _) fun wasWarm => ?_
    refine Ensures.bind (quiet.updateWorld fun world => .warmSlot true world _ _) fun _ => ?_
    have enough := warmRead_le_storageStore initial current value wasWarm
    refine Ensures.bind (charge_atLeast budget enough) fun _ => ?_
    refine fails_within ?_
    refine (paid.updateFrame fun frame => .addRefund frame _).bind fun _ => ?_
    refine Keeps.bind ?_ fun _ => paid.updateTrace _
    exact fun _ within => within

/-- A log costs at least its base. -/
theorem one_le_log
    {prices : PriceSource}
    {charged : Gas.LogContext}
    {bytes topics : Nat}
    {cost : UInt64}
    (priced : Gas.log prices charged bytes topics = .ok cost) :
    1 ≤ cost.toNat := by
  have standard : 1 ≤ (Gas.standardLog bytes topics).toNat := by
    have base : (375 : UInt64).toNat = 375 := rfl
    have range : UInt64.size = 2 ^ 64 := rfl
    unfold Gas.standardLog
    rw [UInt64.toNat_addClamp, UInt64.toNat_addClamp, base, range]
    omega
  obtain ⟨price, _, chosen⟩ := exists_of_bind_eq_ok priced
  simp only [pure, Except.pure, Except.ok.injEq] at chosen
  subst chosen
  split
  · rename_i more
    rw [UInt64.lt_iff_toNat_lt] at more
    omega
  · exact standard

theorem log_within
    (budget : Nat)
    (prices : PriceSource)
    (count : Nat) :
    Ensures (Machine.Within 0 budget) (log prices count)
      (fun _ => Machine.Within 1 budget)
      (fun _ => Machine.Within 0 budget) := by
  have quiet := quiet_within 0 budget
  have paid := quiet_within 1 budget
  refine Ensures.bind quiet.pop2 fun ⟨offset, size⟩ => ?_
  refine Ensures.bind (quiet.popList count) fun topics => ?_
  refine Ensures.bind (quiet.expand _ _) fun ⟨start, length⟩ => ?_
  refine Ensures.bind keeps_context fun context => ?_
  dsimp only
  split
  · rename_i cost priced
    refine Ensures.bind (charge_atLeast budget (one_le_log priced)) fun _ => ?_
    refine fails_within ?_
    refine (keeps_readMemory _ _).bind fun data => ?_
    refine paid.updateFrame fun frame => ?_
    rw [Array.push_eq_append]
    exact .addLogs frame _
  · exact Ensures.throw_bind fun _ => id

/-! ## Instructions that end their frame -/

theorem finish_ends
    (ending : FrameEnding) :
    Yields (fun _ => True) (finish ending) fun _ machine => machine.frame.isOver = true :=
  fun _ _ => rfl

theorem finishWith_ends
    (ending : FrameEnding) :
    Yields (fun _ => True) (finishWith ending) fun _ machine =>
      machine.frame.isOver = true := by
  refine (Yields.trivially _).bind fun ⟨offset, size⟩ => ?_
  refine (Yields.trivially _).bind fun ⟨start, length⟩ => ?_
  refine (Yields.trivially _).bind fun output => ?_
  exact (Yields.trivially _).bind fun _ => finish_ends ending

theorem selfDestruct_ends
    (rule : SelfDestructRule) :
    Yields (fun _ => True) (selfDestruct rule) fun _ machine =>
      machine.frame.isOver = true := by
  refine (Yields.trivially _).bind fun context => ?_
  refine (Yields.trivially _).bind fun beneficiary => ?_
  refine (Yields.trivially _).bind fun objection? => ?_
  cases objection? with
  | some reason =>
      exact fun _ _ => trivial
  | none =>
      refine (Yields.trivially _).bind fun wasWarm => ?_
      refine (Yields.trivially _).bind fun _ => ?_
      refine (Yields.trivially _).bind fun balance => ?_
      refine (Yields.trivially _).bind fun beneficiaryAccount => ?_
      refine (Yields.trivially _).bind fun _ => ?_
      refine (Yields.trivially _).bind fun _ => ?_
      refine (Yields.trivially _).bind fun isCreated => ?_
      dsimp only
      split
      · exact (Yields.trivially _).bind fun _ => finish_ends _
      · exact finish_ends _

/-- An action that ends its frame and stays within the budget progresses. -/
theorem progresses_of_ends
    {action : Exec Unit}
    (keeps : Keeps (Machine.Within 0 budget) action)
    (ends : Yields (fun _ => True) action fun _ machine => machine.frame.isOver = true) :
    Ensures (Machine.Within 0 budget) action (fun _ => Machine.Progressed budget)
      (fun _ => Machine.Within 0 budget) :=
  (Ensures.and keeps ends).imp (fun _ within => ⟨within, trivial⟩)
    (fun _ _ done => .inr ⟨done.2, done.1⟩) fun _ _ => And.left

/-- An action that pays progresses. -/
theorem progresses_of_pays
    {action : Exec Unit}
    {reserved : Nat}
    {before : Machine → Prop}
    (pays :
      Ensures before action (fun _ => Machine.Within reserved budget)
        (fun _ => Machine.Within 0 budget))
    (paid : 1 ≤ reserved) :
    Ensures before action (fun _ => Machine.Progressed budget)
      (fun _ => Machine.Within 0 budget) :=
  pays.imp (fun _ => id) (fun _ _ within => within.progressed paid) fun _ _ => id

/-! ## Frames that are started -/

variable {environment : Environment}

theorem gas_of_callLaunch?
    {kind : CallKind}
    {place : Option Nat}
    {gasBefore : UInt64}
    {machine : Machine}
    {launch : FrameLaunch}
    (found : callLaunch? environment kind place gasBefore machine = some launch) :
    launch.waiting.frame.gas.toNat + launch.context.gasLimit.toNat + 1 ≤
      machine.frame.gas.toNat := by
  obtain ⟨prepared, paid, code, opened, prepares, _, rfl⟩ := exists_of_callLaunch? found
  have within :
      paid.frame.gas.toNat + (prepared.context.gasLimit.toNat + 100) ≤
        machine.frame.gas.toNat :=
    (prepareCall_pays _ environment kind).of_ok prepares (Nat.le_refl _)
  dsimp only
  omega

theorem gas_of_creationLaunch?
    {salted : Bool}
    {place : Option Nat}
    {gasBefore : UInt64}
    {machine : Machine}
    {launch : FrameLaunch}
    (found : creationLaunch? environment salted place gasBefore machine = some launch) :
    launch.waiting.frame.gas.toNat + launch.context.gasLimit.toNat ≤
      machine.frame.gas.toNat := by
  obtain ⟨prepared, paid, context, founded, prepares, founds, rfl⟩ :=
    exists_of_creationLaunch? found
  obtain ⟨address, rfl⟩ := SimAction.context_of_found founds
  exact (prepareCreation_within _ environment salted).of_ok prepares (Nat.le_refl _)

/-! ## Steps -/

/-- What is said of an action without its trace is said of it with the trace amended. -/
theorem ensures_amending
    {before : Machine → Prop}
    {action : Exec Unit}
    {after failed : Machine → Prop}
    (place : Option Nat)
    (gasBefore : UInt64)
    (ensures : Ensures before action (fun _ => after) fun _ => failed)
    (done : ∀ {frame : Frame} {world : World} {trace : Trace} {steps : Nat} (trace' : Trace),
      after ⟨frame, ⟨world, trace, steps⟩⟩ → after ⟨frame, ⟨world, trace', steps⟩⟩)
    (lost : ∀ {frame : Frame} {world : World} {trace : Trace} {steps : Nat} (trace' : Trace),
      failed ⟨frame, ⟨world, trace, steps⟩⟩ → failed ⟨frame, ⟨world, trace', steps⟩⟩) :
    Ensures before (amending place gasBefore action) (fun _ => after) fun _ => failed := by
  intro machine holds
  have reached := ensures machine holds
  unfold amending
  cases result : action machine with
  | ok answer machine' =>
      rw [result] at reached
      exact done _ reached
  | error error machine' =>
      rw [result] at reached
      exact lost _ reached

section

variable
  {runner : Runner}
  (leaves : runner.LeavesAtMost)
include leaves

/-- After its static cost has been paid, every instruction pays or ends its frame. -/
theorem execute_progresses
    (budget : Nat)
    (instruction : Instruction) :
    Ensures (Machine.Within instruction.staticCost.toNat budget)
      (execute environment runner instruction)
      (fun _ => Machine.Progressed budget)
      (fun _ => Machine.Within 0 budget) := by
  have keeps (budget : Nat) :
      Keeps (Machine.Within 0 budget) (execute environment runner instruction) :=
    (keptByInstructions_within leaves budget).execute fun inStatic => by cases inStatic
  have paysStatic (paid : 1 ≤ instruction.staticCost.toNat) :
      Ensures (Machine.Within instruction.staticCost.toNat budget)
        (execute environment runner instruction)
        (fun _ => Machine.Progressed budget)
        (fun _ => Machine.Within 0 budget) := by
    have reserved := ensures_reserved keeps instruction.staticCost.toNat budget
    rw [Nat.zero_add] at reserved
    exact progresses_of_pays reserved paid
  have read : 1 ≤ Gas.warmRead.toNat := by decide
  cases instruction with
  | stop => exact progresses_of_ends (keeps budget) (finish_ends _)
  | output | revert => exact progresses_of_ends (keeps budget) (finishWith_ends _)
  | selfDestruct => exact progresses_of_ends (keeps budget) (selfDestruct_ends _)
  | invalid => exact Ensures.throw fun _ => id
  | balance => exact progresses_of_pays (balance_within budget _) read
  | extCodeSize => exact progresses_of_pays (extCodeSize_within budget _) read
  | extCodeCopy => exact progresses_of_pays (extCodeCopy_within budget _) read
  | extCodeHash => exact progresses_of_pays (extCodeHash_within budget _) read
  | storageLoad => exact progresses_of_pays (storageLoad_within budget) read
  | storageStore => exact progresses_of_pays (storageStore_within budget) read
  | log topics => exact progresses_of_pays (log_within budget _ _) (Nat.le_refl 1)
  | call | callCode | delegateCall | staticCall =>
      exact progresses_of_pays (call_pays leaves budget _) read
  | push size =>
      apply paysStatic
      simp only [Instruction.staticCost]
      split <;> decide
  | dup depth | swap depth =>
      apply paysStatic
      simp only [Instruction.staticCost]
      decide
  | _ => exact paysStatic (by decide)

/-- What is done before an instruction acts leaves its static cost spent. -/
theorem begin_within
    (budget : Nat) :
    Ensures (Machine.Within 0 budget) (begin environment)
      (fun begun => Machine.Within begun.1.staticCost.toNat budget)
      (fun _ => Machine.Within 0 budget) := by
  have kept :
      KeptByInstructions environment runner false (Machine.Within 0 budget) :=
    keptByInstructions_within leaves budget
  have quiet := kept.toQuiet
  refine Ensures.bind (keeps_countStep kept.count environment) fun _ => ?_
  refine Ensures.bind (ensures_fetch kept.static) fun instruction => ?_
  refine Ensures.of_fact fun _ => ?_
  refine Ensures.bind keeps_frame fun frame => ?_
  have recorded : Keeps (Machine.Within 0 budget) (recordStep instruction) :=
    fun machine within => quiet.trace _ within
  refine Ensures.bind recorded fun place => ?_
  refine Ensures.bind (charge_atLeast budget (Nat.le_refl _)) fun _ => ?_
  refine Ensures.bind (fails_within ?_) fun _ => Ensures.pure fun _ => id
  exact (quiet_within _ budget).updateFrame fun frame => .advance frame 1

/-- A step leaves its frame over or with less gas, and with no more gas if it fails. -/
theorem step_progresses
    (budget : Nat) :
    Ensures (Machine.Within 0 budget) (step environment runner)
      (fun _ => Machine.Progressed budget)
      (fun _ => Machine.Within 0 budget) := by
  rw [step_eq]
  refine Ensures.bind (begin_within leaves budget) fun begun => ?_
  exact ensures_amending begun.2.1 begun.2.2 (execute_progresses leaves budget begun.1)
    (fun _ => id) fun _ => id

omit leaves in
/-- A frame that is started and the one that waits for it have less gas than there was. -/
theorem gas_of_launch?
    {machine : Machine}
    {launch : FrameLaunch}
    (found : launch? environment machine = some launch) :
    launch.waiting.frame.gas.toNat + launch.context.gasLimit.toNat + 1 ≤
      machine.frame.gas.toNat := by
  obtain ⟨instruction, place, gasBefore, ready, begun, found⟩ := exists_of_launch? found
  have paid :=
    (begin_within Runner.idle_leavesAtMost machine.frame.gas.toNat).of_ok begun (Nat.le_refl _)
  cases instruction with
  | call | callCode | delegateCall | staticCall =>
      have within := gas_of_callLaunch? found
      change ready.frame.gas.toNat + 0 ≤ machine.frame.gas.toNat at paid
      omega
  | create | create2 =>
      have within := gas_of_creationLaunch? found
      change ready.frame.gas.toNat + 32000 ≤ machine.frame.gas.toNat at paid
      omega
  | _ => cases found

end

end Exec

/-! ## Frames that go on -/

/-- What is left of the gas of a frame that has ended; an error that ends all leaves none. -/
def endedGas : EStateM.Result VmError Simulation Outcome → Nat
  | .ok outcome _ => outcome.gas.toNat
  | .error _ _ => 0

theorem endedGas_closeFrame
    (ended : EStateM.Result VmError Simulation Outcome) :
    endedGas (SimAction.closeFrame Outcome.isSuccess ended) = endedGas ended := by
  cases ended <;> rfl

/-- Code is deployed at the expense of what its init code has left. -/
theorem endedGas_settle_le
    (limits : Limits)
    (awaited : Awaited)
    (ended : EStateM.Result VmError Simulation Outcome) :
    endedGas (awaited.settle limits ended) ≤ endedGas ended := by
  cases ended with
  | error error after => cases awaited <;> exact Nat.le_refl _
  | ok outcome after =>
      cases awaited with
      | call output => exact Nat.le_refl _
      | creation address =>
          simp only [Awaited.settle]
          split
          · have leaves :
                SimAction.LeavesAtMost outcome.gas
                  (SimAction.deployOutput limits address outcome) :=
              SimAction.LeavesAtMost.deployOutput (UInt64.le_refl _) limits address
            cases deployed : SimAction.deployOutput limits address outcome after with
            | ok outcome' after' =>
                exact UInt64.le_iff_toNat_le.mp (leaves _ _ _ deployed)
            | error error after' => exact Nat.zero_le _
          · exact Nat.le_refl _

theorem endedGas_failWith_le
    (error : VmError)
    (gas : UInt64)
    (simulation : Simulation) :
    endedGas (Frame.failWith error gas simulation) ≤ gas.toNat := by
  cases failed : Frame.failWith error gas simulation with
  | ok outcome after =>
      exact UInt64.le_iff_toNat_le.mp
        (Frame.failWith_leavesAtMost error gas _ _ _ failed)
  | error error' after => exact Nat.zero_le _

/-- After the gas has been given back, what was waited for is taken calmly. -/
theorem Awaited.ensures_take
    {flow : Bool}
    {invariant before : Machine → Prop}
    (calm : Calm flow true false invariant)
    {outcome : Outcome}
    (gives :
      Ensures before (Exec.giveBack outcome.gas) (fun _ => invariant) (fun _ => invariant))
    (awaited : Awaited) :
    Ensures before (awaited.take outcome) (fun _ => invariant) (fun _ => invariant) := by
  cases awaited with
  | call output => exact calm.ensures_takeOutcome nofun gives _ _
  | creation address => exact calm.ensures_takeCreation nofun gives

/-- A frame that goes on has what it kept and what was left of what it had given away. -/
theorem WaitingFrame.resume_within
    (limits : Limits)
    (waiting : WaitingFrame)
    (ended : EStateM.Result VmError Simulation Outcome) :
    match waiting.resume limits ended with
    | .ok _ after => after.Within 0 (waiting.frame.gas.toNat + endedGas ended)
    | .error _ after => after.Within 0 (waiting.frame.gas.toNat + endedGas ended) := by
  have least := endedGas_settle_le limits waiting.awaited ended
  rw [← endedGas_closeFrame] at least
  unfold WaitingFrame.resume
  cases closed :
      SimAction.closeFrame Outcome.isSuccess (waiting.awaited.settle limits ended) with
  | error error after =>
      exact Nat.le_add_right _ _
  | ok outcome after =>
      rw [closed] at least
      have taken :
          Ensures
            (Machine.Within (0 + outcome.gas.toNat)
              (waiting.frame.gas.toNat + endedGas ended))
            (waiting.awaited.take outcome)
            (fun _ => Machine.Within 0 (waiting.frame.gas.toNat + endedGas ended))
            (fun _ => Machine.Within 0 (waiting.frame.gas.toNat + endedGas ended)) :=
        Awaited.ensures_take (Exec.quiet_within 0 _).toCalm
          (Exec.giveBack_within 0 _ outcome.gas) _
      have began :
          Machine.Within (0 + outcome.gas.toNat)
            (waiting.frame.gas.toNat + endedGas ended) ⟨waiting.frame, after⟩ := by
        change outcome.gas.toNat ≤ endedGas ended at least
        simp only [Machine.Within]
        omega
      have resumed :=
        Exec.ensures_amending waiting.place waiting.gasBefore taken (fun _ => id) fun _ => id
      dsimp only
      cases result :
          Exec.amending waiting.place waiting.gasBefore (waiting.awaited.take outcome)
            ⟨waiting.frame, after⟩ with
      | ok answer machine => exact resumed.of_ok result began
      | error error machine => exact resumed.of_error result began

end LedgerEvm
