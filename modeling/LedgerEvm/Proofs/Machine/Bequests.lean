import LedgerEvm.Proofs.Machine.Chronicles
import LedgerEvm.Proofs.Machine.MemoryContents
import LedgerEvm.Proofs.Machine.StaticFrames
import LedgerEvm.Proofs.Machine.StorageWrites

namespace LedgerEvm

/-!
# Bequests

Each frame keeps the logs and the refund of its own instructions, and takes those of a frame that
it has started when that one has completed.
-/

namespace Int64

/-- Few small summands have a sum that is exact. -/
theorem toInt_sum
    {values : List Int64}
    {bound : Nat}
    (small : ∀ value ∈ values, value.toInt.natAbs ≤ bound)
    (few : values.length * bound < 2 ^ 63) :
    values.sum.toInt = (values.map Int64.toInt).sum ∧
      values.sum.toInt.natAbs ≤ values.length * bound := by
  induction values with
  | nil => exact ⟨rfl, Nat.zero_le _⟩
  | cons value values inductionHypothesis =>
      rw [List.length_cons, Nat.succ_mul] at few ⊢
      obtain ⟨same, within⟩ :=
        inductionHypothesis (fun value member => small value (List.mem_cons_of_mem _ member))
          (Nat.lt_of_le_of_lt (Nat.le_add_right _ _) few)
      have first := small value List.mem_cons_self
      have added : (value + values.sum).toInt = value.toInt + values.sum.toInt := by
        rw [Int64.toInt_add]
        exact Int.bmod_eq_of_le (by omega) (by omega)
      rw [List.sum_cons, List.map_cons, List.sum_cons, added, ← same]
      exact ⟨rfl, by omega⟩

end Int64

/-- Logs and a refund, as a frame or an outcome holds them. -/
@[ext]
structure Bequest where
  logs : List Log := []
  refund : Int64 := 0
  deriving Repr, DecidableEq

namespace Effect

/-- The log that the effect is, if it is one. -/
def log? : Effect → Option Log
  | .logged log => some log
  | .refunded _ => none

/-- What the effect adds to the refund. -/
def refund : Effect → Int64
  | .logged _ => 0
  | .refunded amount => amount

end Effect

namespace Bequest

/-- One bequest with what another one holds on top. -/
def plus (bequest later : Bequest) : Bequest where
  logs := bequest.logs ++ later.logs
  refund := bequest.refund + later.refund

/-- All that some effects come to, in their order. -/
def of (effects : List Effect) : Bequest where
  logs := effects.filterMap Effect.log?
  refund := (effects.map Effect.refund).sum

/-- What several frames hold together, the innermost one first. -/
def total : List Bequest → Bequest
  | [] => { }
  | bequest :: below => (total below).plus bequest

@[simp] theorem plus_empty
    (bequest : Bequest) :
    bequest.plus { } = bequest := by
  ext1
  · exact List.append_nil _
  · exact Int64.add_zero _

@[simp] theorem empty_plus
    (bequest : Bequest) :
    plus { } bequest = bequest := by
  ext1
  · exact List.nil_append _
  · exact Int64.zero_add _

theorem plus_assoc
    (first second third : Bequest) :
    (first.plus second).plus third = first.plus (second.plus third) := by
  ext1
  · exact List.append_assoc _ _ _
  · exact Int64.add_assoc _ _ _

/-- What the innermost one holds in addition is held in addition by all. -/
theorem total_plus
    (bequest later : Bequest)
    (below : List Bequest) :
    total (bequest.plus later :: below) = (total (bequest :: below)).plus later :=
  (plus_assoc _ _ _).symm

theorem of_append
    (effects later : List Effect) :
    of (effects ++ later) = (of effects).plus (of later) := by
  ext1
  · exact List.filterMap_append
  · change ((effects ++ later).map Effect.refund).sum = _
    rw [List.map_append, List.sum_append]
    rfl

theorem of_refunded
    (amount : Int64) :
    of [.refunded amount] = ⟨[], amount⟩ := by
  ext1
  · rfl
  · exact Int64.add_zero amount

end Bequest

/-- The logs and the refund of a frame. -/
def Frame.bequest (frame : Frame) : Bequest where
  logs := frame.logs.toList
  refund := frame.refund

/-- The logs and the refund that an outcome hands on. -/
def Outcome.bequest (outcome : Outcome) : Bequest where
  logs := outcome.logs.toList
  refund := outcome.refund

/-- The frame holds these logs and this refund. -/
def Machine.Holds (bequest : Bequest) : Machine → Prop :=
  Machine.Has fun frame => frame.bequest = bequest

theorem Frame.Move.bequest_eq
    {frame frame' : Frame}
    (move : Move true frame frame') :
    frame'.bequest = frame.bequest := by
  rw [bequest, bequest, move.logs_eq, move.refund_eq]

namespace Machine.Holds

variable {bequest : Bequest}

/-- What is done without writing leaves the bequest as it is. -/
theorem calm
    (bequest : Bequest) :
    Calm true true true (Machine.Holds bequest) where
  moveWithin move _ _ holds := move.bequest_eq.trans holds
  recordStorage _ _ holds := holds
  touch _ holds := holds

theorem giveBack
    (gas : UInt64) :
    Keeps (Machine.Holds bequest) (Exec.giveBack gas) :=
  fun _ holds => holds

theorem onSimulation
    {α : Type}
    (action : SimAction α) :
    Keeps (Machine.Holds bequest) (Exec.onSimulation action) :=
  Exec.keeps_onSimulation fun frame => Keeps.fact (frame.bequest = bequest) action

end Machine.Holds

/-! ## What instructions add -/

theorem SimAction.LeavesBare.createContract_idle
    {environment : Environment}
    (creator : Address)
    (context : FrameContext)
    (initCode : Bytes) :
    LeavesBare (createContract environment Runner.idle creator context initCode) := by
  refine .bind fun address => .bind fun _ => .framed _ (.bind fun _ => ?_)
  exact .withTransfer (fun _ => ⟨rfl, rfl⟩) _ fun _ _ => trivial

namespace Exec

variable
  {environment : Environment}
  {bequest : Bequest}

/-- A call or a creation that runs no frame adds nothing. -/
theorem holds_take_bare
    {action : SimAction Outcome}
    {take : Outcome → Exec Unit}
    (bare : action.LeavesBare)
    (takes : ∀ {outcome : Outcome}, outcome.IsBare → Keeps (Machine.Holds bequest) (take outcome)) :
    Keeps (Machine.Holds bequest) (onSimulation action >>= take) := by
  have answered :
      Ensures (Machine.Holds bequest) (onSimulation action)
        (fun outcome machine => machine.Holds bequest ∧ outcome.IsBare)
        (fun _ => Machine.Holds bequest) := by
    refine ensures_onSimulation fun frame => ?_
    refine ((Keeps.fact (frame.bequest = bequest) action).and bare).imp
      (fun _ holds => ⟨holds, trivial⟩) (fun _ _ holds => holds) fun _ _ holds => holds.1
  exact Ensures.bind answered fun outcome => Ensures.of_fact takes

theorem holds_call
    (kind : CallKind) :
    Keeps (Machine.Holds bequest) (call environment Runner.idle kind) := by
  have calm := Machine.Holds.calm bequest
  refine (calm.prepareCall Machine.Holds.giveBack environment kind).bind fun launch? => ?_
  cases launch? with
  | none => exact calm.push 0
  | some launch =>
      refine holds_take_bare (.messageCall (fun _ _ _ => trivial) kind) fun bare => ?_
      exact calm.ensures_takeOutcome (fun _ => bare) (Machine.Holds.giveBack _) _ _

theorem holds_create
    (salted : Bool) :
    Keeps (Machine.Holds bequest) (create environment Runner.idle salted) := by
  have calm := Machine.Holds.calm bequest
  refine (calm.prepareCreation environment salted).bind fun launch? => ?_
  cases launch? with
  | none => exact calm.push 0
  | some launch =>
      refine keeps_context.bind fun context => ?_
      refine holds_take_bare (.createContract_idle _ _ _) fun bare => ?_
      exact calm.ensures_takeCreation (fun _ => bare) (Machine.Holds.giveBack _)

/-- Without running a frame, nothing but logs and writes to storage adds to the bequest. -/
theorem holds_execute
    {instruction : Instruction}
    (noLog : ∀ topics, instruction ≠ .log topics)
    (noStore : instruction ≠ .storageStore) :
    Keeps (Machine.Holds bequest) (execute environment Runner.idle instruction) := by
  have calm := Machine.Holds.calm bequest
  cases calls : instruction.callKind? with
  | some kind =>
      rw [execute_of_callKind? calls]
      exact holds_call kind
  | none =>
      cases modifies : instruction.modifiesState with
      | false =>
          exact calm.execute environment Runner.idle calls modifies (fun _ => rfl) fun _ => rfl
      | true =>
          cases instruction with
          | storageStore => exact (noStore rfl).elim
          | log topics => exact (noLog topics rfl).elim
          | transientStore => exact calm.transientStore fun _ _ _ _ holds => holds
          | create | create2 => exact holds_create _
          | selfDestruct => exact calm.selfDestruct (fun _ => Machine.Holds.onSimulation _) _
          | _ => cases modifies

/-- A log adds what it reads in memory and on the stack. -/
theorem effectOf?_of_log
    {prices : PriceSource}
    {topics : Fin 5}
    {machine acted : Machine}
    (done : log prices topics.val machine = .ok () acted) :
    ∃ left,
      machine.effectOf? (.log topics) machine.frame.stack.words = some (.logged left) ∧
        acted.frame.bequest = machine.frame.bequest.plus ⟨[left], 0⟩ := by
  obtain ⟨⟨offset, size⟩, popped, pops, done⟩ := exists_of_run_eq_ok done
  obtain ⟨rest, words, rfl⟩ := of_pop2_eq_ok pops
  obtain ⟨named, taken, pops, done⟩ := exists_of_run_eq_ok done
  obtain ⟨length, others, shape, rfl⟩ := of_popList_eq_ok pops
  obtain ⟨window, grown, grows, done⟩ := exists_of_run_eq_ok done
  obtain ⟨gas, memory, rfl, same, -, sized, begins⟩ := contents_of_expand grows
  obtain ⟨context, _, contexts, done⟩ := exists_of_run_eq_ok done
  cases contexts
  dsimp only at done shape words same
  cases priced :
      Gas.log prices
        (.contractCall machine.frame.context.block.timestamp machine.frame.context.gasPrice)
        window.2 topics.val with
  | error error =>
      rw [priced] at done
      cases done
  | ok cost =>
      rw [priced] at done
      obtain ⟨_, paid, charges, done⟩ := exists_of_run_eq_ok done
      obtain ⟨-, rfl⟩ := of_charge_eq_ok charges
      cases done
      have data :
          memory.read window.1 window.2 = machine.frame.memory.read offset.toNat size.toNat := by
        rw [Memory.read_eq_first, Memory.read_eq_first, same, first_window sized begins]
      refine
        ⟨⟨machine.frame.context.address, named.map Hash.mk,
          machine.frame.memory.read offset.toNat size.toNat⟩, ?_, ?_⟩
      · rw [words, shape, Machine.effectOf?, List.take_left' length]
      · rw [← data]
        ext1
        · exact Array.toList_push
        · exact (Int64.add_zero _).symm

/-- A write to storage adds the refund for the change that it makes. -/
theorem effectOf?_of_storageStore
    {machine acted : Machine}
    (done : storageStore machine = .ok () acted) :
    ∃ amount,
      machine.effectOf? .storageStore machine.frame.stack.words = some (.refunded amount) ∧
        acted.frame.bequest = machine.frame.bequest.plus ⟨[], amount⟩ := by
  obtain ⟨key, value, initial, current, ⟨rest, words⟩, initially, stands, priced, -, logs⟩ :=
    hasStored_of_storageStore done
  let wasWarm := machine.simulation.world.isWarmSlot machine.frame.context.address key
  refine ⟨(Gas.storageStore initial current value wasWarm).2, ?_, ?_⟩
  · simp only [words, Machine.effectOf?, initially, stands, wasWarm]
  · have refund := Int64.toInt_inj.mp (congrArg Gas.StorageWrite.refund priced)
    ext1
    · exact (congrArg Array.toList logs).trans (List.append_nil _).symm
    · change acted.frame.refund = machine.frame.refund + _
      rw [← refund, Int64.add_comm, Int64.sub_add_cancel]

theorem natAbs_storageStore_refund_le
    (initial current value : Word)
    (wasWarm : Bool) :
    (Gas.storageStore initial current value wasWarm).2.toInt.natAbs ≤ 2 ^ 15 := by
  simp only [Gas.storageStore]
  split_ifs <;> decide

/-- What is refunded for one write is not much. -/
theorem natAbs_refund_effect?_le
    {rules : Ruleset}
    {machine : Machine}
    {effect : Effect}
    (left : machine.effect? rules = some effect) :
    effect.refund.toInt.natAbs ≤ 2 ^ 15 := by
  obtain ⟨instruction, -, left⟩ := Option.bind_eq_some_iff.mp left
  unfold Machine.effectOf? at left
  split at left
  · cases left
    exact Nat.zero_le _
  · dsimp only at left
    split at left
    · cases left
      exact natAbs_storageStore_refund_le _ _ _ _
    · cases left
  · cases left

/-- What an instruction leaves depends on the account, the memory and the world it finds. -/
theorem effectOf?_congr
    {machine machine' : Machine}
    (context : machine'.frame.context = machine.frame.context)
    (memory : machine'.frame.memory = machine.frame.memory)
    (world : machine'.simulation.world = machine.simulation.world) :
    machine'.effectOf? = machine.effectOf? := by
  funext instruction words
  simp only [Machine.effectOf?, context, memory, world]

theorem bequest_of_execute
    {instruction : Instruction}
    {machine acted : Machine}
    (done : execute environment Runner.idle instruction machine = .ok () acted) :
    acted.frame.bequest =
      machine.frame.bequest.plus
        (Bequest.of (machine.effectOf? instruction machine.frame.stack.words).toList) := by
  by_cases logs : ∃ topics, instruction = .log topics
  · obtain ⟨topics, rfl⟩ := logs
    obtain ⟨log, left, adds⟩ := effectOf?_of_log done
    rw [left, adds]
    rfl
  · by_cases stores : instruction = .storageStore
    · subst stores
      obtain ⟨amount, left, adds⟩ := effectOf?_of_storageStore done
      rw [left, adds]
      exact congrArg _ (Bequest.of_refunded amount).symm
    · have none : machine.effectOf? instruction machine.frame.stack.words = none := by
        unfold Machine.effectOf?
        split
        · exact (logs ⟨_, rfl⟩).elim
        · exact (stores rfl).elim
        · rfl
      have same : acted.Holds machine.frame.bequest :=
        (holds_execute (fun topics same => logs ⟨topics, same⟩) stores).of_ok done rfl
      rw [none]
      exact same.trans (Bequest.plus_empty _).symm

/-- A step adds to the bequest of its frame what its instruction leaves. -/
theorem bequest_of_step
    {machine after : Machine}
    (steps : step environment Runner.idle machine = .ok () after) :
    after.frame.bequest =
      machine.frame.bequest.plus (Bequest.of (machine.effect? environment.rules).toList) := by
  rw [step_eq] at steps
  obtain ⟨⟨instruction, place, gasBefore⟩, ready, begins, acts⟩ := exists_of_run_eq_ok steps
  obtain ⟨fetched, moved, world⟩ := (yields_begin environment machine).of_ok begins rfl
  obtain ⟨acted, done, sameFrame, -⟩ := of_amending_eq_ok acts
  have context : ready.frame.context = machine.frame.context := by rw [moved]
  have memory : ready.frame.memory = machine.frame.memory := by rw [moved]
  have adds := bequest_of_execute done
  rw [effectOf?_congr context memory world, moved] at adds
  rw [sameFrame, Machine.effect?, fetched]
  exact adds

/-- A frame that starts another one has left nothing with that step. -/
theorem bequest_of_launch?
    {machine : Machine}
    {launch : FrameLaunch}
    (found : launch? environment machine = some launch) :
    launch.waiting.frame.bequest = machine.frame.bequest := by
  obtain ⟨instruction, place, gasBefore, ready, begun, found⟩ := exists_of_launch? found
  obtain ⟨-, moved, -⟩ := (yields_begin environment machine).of_ok begun rfl
  have readied : ready.frame.bequest = machine.frame.bequest := by
    rw [moved]
    rfl
  have calm := Machine.Holds.calm machine.frame.bequest
  rcases exists_of_instructionLaunch? found with ⟨kind, called⟩ | ⟨-, salted, created⟩
  · obtain ⟨_, _, _, _, prepares, -, rfl⟩ := exists_of_callLaunch? called
    exact (calm.prepareCall Machine.Holds.giveBack environment kind).of_ok prepares readied
  · obtain ⟨_, _, _, _, prepares, -, rfl⟩ := exists_of_creationLaunch? created
    exact (calm.prepareCreation environment salted).of_ok prepares readied

/-! ## What is taken -/

theorem yields_takeSuccess
    (outcome : Outcome) :
    Yields (Machine.Holds bequest) (takeOutcome.takeSuccess outcome) fun _ =>
      Machine.Holds (bequest.plus outcome.bequest) := by
  rintro machine rfl
  ext1
  · exact Array.toList_append
  · rfl

/-- What an outcome has is taken when it is a success. -/
def taken (bequest : Bequest) (outcome : Outcome) : Bequest :=
  if outcome.isSuccess then bequest.plus outcome.bequest else bequest

theorem yields_takeOutcome
    (outcome : Outcome)
    (offset size : Nat) :
    Yields (Machine.Holds bequest) (takeOutcome outcome offset size) fun _ =>
      Machine.Holds (taken bequest outcome) := by
  have rest (bequest : Bequest) :
      Keeps (Machine.Holds bequest) (do
        updateFrame fun frame => { frame with returnData := outcome.output }
        pushBool outcome.isSuccess) :=
    ((Machine.Holds.calm bequest).setReturnData _).bind fun _ => (Machine.Holds.calm bequest).push _
  refine (Yields.of_keeps (Machine.Holds.giveBack _)).bind fun _ => ?_
  refine (Yields.of_keeps ((Machine.Holds.calm bequest).writeMemory _ _)).bind fun _ => ?_
  dsimp only
  unfold taken
  split
  · exact (yields_takeSuccess outcome).bind fun _ => Yields.of_keeps (rest _)
  · exact Yields.of_keeps (rest _)

/-- What has been waited for hands on what it has when it has succeeded and is deployed. -/
theorem yields_take
    {awaited : Awaited}
    {outcome : Outcome}
    (deployed :
      ∀ address, awaited = .creation address → outcome.isSuccess = true →
        outcome.created = some address) :
    Yields (Machine.Holds bequest) (awaited.take outcome) fun _ =>
      Machine.Holds (taken bequest outcome) := by
  cases awaited with
  | call output => exact yields_takeOutcome outcome output.1 output.2
  | creation address =>
      have known := deployed address rfl
      obtain ⟨status, output, gas, refund, logs, created⟩ := outcome
      refine (Yields.of_keeps (Machine.Holds.giveBack _)).bind fun _ => ?_
      cases status with
      | completed =>
          cases known rfl
          refine (yields_takeSuccess _).bind fun _ => ?_
          exact Yields.of_keeps ((Machine.Holds.calm _).push _)
      | reverted =>
          have calm := Machine.Holds.calm bequest
          exact Yields.of_keeps ((calm.setReturnData _).bind fun _ => calm.push _)
      | halted error => exact Yields.of_keeps ((Machine.Holds.calm bequest).push _)

end Exec

/-! ## Frames that have ended -/

namespace Awaited

variable
  {limits : Limits}
  {awaited : Awaited}
  {ended : EStateM.Result VmError Simulation Outcome}

/-- Where what was waited for has succeeded, so has the frame, and it hands on what it has. -/
theorem exists_of_settle
    {settled : Outcome}
    {after : Simulation}
    (settles : awaited.settle limits ended = .ok settled after)
    (succeeds : settled.isSuccess = true) :
    ∃ outcome reached,
      ended = .ok outcome reached ∧
        outcome.isSuccess = true ∧
        settled.bequest = outcome.bequest ∧
        ∀ address, awaited = .creation address → settled.created = some address := by
  cases ended with
  | error error reached => cases awaited <;> cases settles
  | ok outcome reached =>
      cases awaited with
      | call output =>
          cases settles
          exact ⟨_, _, rfl, succeeds, rfl, nofun⟩
      | creation address =>
          simp only [settle] at settles
          split at settles
          · rename_i completed
            unfold SimAction.deployOutput at settles
            split at settles
            · cases settles
              refine ⟨_, _, rfl, completed, rfl, fun _ same => ?_⟩
              cases same
              rfl
            · split at settles
              · cases settles
              · cases settles
                cases succeeds
          · rename_i failed
            cases settles
            exact (failed succeeds).elim

end Awaited

/-- A frame that goes on has taken what the other one hands on, if that has completed. -/
theorem WaitingFrame.bequest_of_resume
    {limits : Limits}
    {waiting : WaitingFrame}
    {ended : EStateM.Result VmError Simulation Outcome}
    {after : Machine}
    (resumed : waiting.resume limits ended = .ok () after) :
    if waiting.awaited.completes limits ended then
      ∃ outcome reached,
        ended = .ok outcome reached ∧
          outcome.isSuccess = true ∧
          after.frame.bequest = waiting.frame.bequest.plus outcome.bequest
    else
      after.frame.bequest = waiting.frame.bequest := by
  unfold resume at resumed
  cases closes :
      SimAction.closeFrame Outcome.isSuccess (waiting.awaited.settle limits ended) with
  | error error closed =>
      rw [closes] at resumed
      obtain ⟨_, throws, -⟩ := Exec.of_amending_eq_ok resumed
      cases throws
  | ok settled closed =>
      rw [closes] at resumed
      obtain ⟨inner, settles, -⟩ := SimAction.exists_of_closeFrame closes
      obtain ⟨taken, takes, same, -⟩ := Exec.of_amending_eq_ok resumed
      have handsOn := Awaited.exists_of_settle settles
      have takes :=
        (Exec.yields_take fun address awaits succeeds => by
          obtain ⟨_, _, _, _, _, created⟩ := handsOn succeeds
          exact created address awaits).of_ok takes rfl
      have completes : waiting.awaited.completes limits ended = settled.isSuccess := by
        rw [Awaited.completes, settles]
      rw [same, completes]
      cases succeeds : settled.isSuccess with
      | true =>
          obtain ⟨outcome, reached, ends, completed, held, -⟩ := handsOn succeeds
          refine ⟨outcome, reached, ends, completed, ?_⟩
          rw [← held]
          refine Eq.trans takes ?_
          rw [Exec.taken, if_pos succeeds]
      | false =>
          refine Eq.trans takes ?_
          rw [Exec.taken, if_neg (by rw [succeeds]; exact Bool.false_ne_true)]

/-- What the frame on top holds or hands on, unless it has failed. -/
def ActiveFrame.bequest? : ActiveFrame → Option Bequest
  | .running machine => some machine.frame.bequest
  | .ended (.ok outcome _) => if outcome.isSuccess then some outcome.bequest else none
  | .ended (.error _ _) => none

/-- A frame that has failed hands nothing on. -/
theorem ActiveFrame.bequest?_ofResult_error
    (error : VmError)
    (after : Machine) :
    (ofResult (.error error after)).bequest? = none := by
  unfold ofResult Frame.failWith
  dsimp only
  split <;> rfl

/-- A frame that completes hands on what it holds. -/
theorem Frame.bequest_outcome
    {frame : Frame}
    (completes : frame.outcome.isSuccess = true) :
    frame.outcome.bequest = frame.bequest := by
  unfold outcome at completes ⊢
  split at completes
  · cases completes
  · rename_i kept
    rw [if_neg kept]
    rfl

end LedgerEvm
