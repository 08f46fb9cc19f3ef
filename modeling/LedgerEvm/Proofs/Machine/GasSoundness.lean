import LedgerEvm.Proofs.Machine.GasBounds

namespace LedgerEvm

/-!
# Gas soundness

What has been shown of frames, of instructions and of single sums and differences is put
together here, and carried on to the result of a transaction.
-/

namespace Exec

/-- The gas that an action leaves its frame with, whether it succeeds or fails. -/
def gasAfter (action : Exec Unit) (machine : Machine) : UInt64 :=
  match action machine with
  | .ok _ after => after.frame.gas
  | .error _ after => after.frame.gas

/-- An action that keeps within every budget leaves no more gas than before. -/
theorem gasAfter_le
    {action : Exec Unit}
    (keeps : ∀ budget, Keeps (Machine.Within 0 budget) action)
    (machine : Machine) :
    gasAfter action machine ≤ machine.frame.gas := by
  have within := keeps machine.frame.gas.toNat machine (Nat.le_refl _)
  rw [UInt64.le_iff_toNat_le]
  unfold gasAfter
  cases result : action machine with
  | ok answer after =>
      rw [result] at within
      exact within
  | error error after =>
      rw [result] at within
      exact within

/-- A charge that is paid is an exact difference. -/
theorem toNat_charge
    {gas : UInt64}
    {machine paid : Machine}
    (result : charge gas machine = .ok () paid) :
    gas ≤ machine.frame.gas ∧
      paid.frame.gas.toNat = machine.frame.gas.toNat - gas.toNat := by
  obtain ⟨frame, simulation⟩ := machine
  by_cases short : frame.gas < gas
  · simp only [charge, if_pos short] at result
    cases result
  · have enough := UInt64.not_lt.mp short
    simp only [charge, if_neg short] at result
    cases result
    exact ⟨enough, UInt64.toNat_sub_of_le frame.gas gas enough⟩

end Exec

/-! ## Settlement -/

namespace Environment

/-- What is used and what is refunded are together what was not left. -/
theorem toNat_settle
    (gasLimit : UInt64)
    (outcome : Outcome) :
    (settle gasLimit outcome).gasUsed.toNat + (settle gasLimit outcome).gasRefund.toNat =
        gasLimit.toNat - outcome.gas.toNat ∧
      (settle gasLimit outcome).gasRefund.toNat ≤
        (gasLimit.toNat - outcome.gas.toNat) / 5 := by
  have used := UInt64.toNat_subClamp gasLimit outcome.gas
  have none : (0 : UInt64).toNat = 0 := rfl
  unfold settle
  dsimp only
  split
  · have capped := Gas.cappedRefund_le (gasLimit.subClamp outcome.gas) outcome.refund
    have fifth :
        (Gas.cappedRefund (gasLimit.subClamp outcome.gas) outcome.refund).toNat ≤
          (gasLimit.toNat - outcome.gas.toNat) / 5 := by
      rw [UInt64.le_iff_toNat_le, UInt64.toNat_div, used] at capped
      exact capped
    have within :
        Gas.cappedRefund (gasLimit.subClamp outcome.gas) outcome.refund ≤
          gasLimit.subClamp outcome.gas := by
      rw [UInt64.le_iff_toNat_le, used]
      omega
    refine ⟨?_, fifth⟩
    have rest := UInt64.toNat_sub_of_le _ _ within
    rw [UInt64.le_iff_toNat_le] at within
    change
      (gasLimit.subClamp outcome.gas -
          Gas.cappedRefund (gasLimit.subClamp outcome.gas) outcome.refund).toNat +
        (Gas.cappedRefund (gasLimit.subClamp outcome.gas) outcome.refund).toNat = _
    omega
  · exact ⟨used, Nat.zero_le _⟩
  · split
    · exact ⟨used, Nat.zero_le _⟩
    · exact ⟨used, Nat.zero_le _⟩

/--
A transaction uses at most its limit, and is refunded at most a fifth of what it used.
-/
theorem transact_bounds
    {environment : Environment}
    {context : FrameContext}
    {isCreation : Bool}
    {world : World}
    {trace : Trace}
    {result : CallResult}
    (transacted : environment.transact context isCreation world trace = .ok result) :
    result.gasUsed.toNat + result.gasRefund.toNat ≤ context.gasLimit.toNat ∧
      result.gasRefund.toNat ≤ (result.gasUsed.toNat + result.gasRefund.toNat) / 5 := by
  unfold transact at transacted
  dsimp only at transacted
  split at transacted
  · cases transacted
    exact ⟨Nat.le_refl _, Nat.zero_le _⟩
  · split at transacted
    · cases transacted
      rename_i outcome _ _
      obtain ⟨together, fifth⟩ := toNat_settle context.gasLimit outcome
      dsimp only
      omega
    · cases transacted

end Environment

/-! ## The whole -/

/--
Gas is sound in an environment.  What is said of frames and instructions is said for
every bound on their steps; what is said of sums and differences is that the 64-bit
result is the exact one.
-/
structure Environment.GasSound (environment : Environment) : Prop where
  /-- Code that is run leaves no more gas than its frame was given. -/
  runner : ∀ bound, (environment.runnerWithin bound).LeavesAtMost
  /-- Nor does whatever answers a call: a fixed contract, a service, a token or code. -/
  runTarget :
    ∀ bound context,
      SimAction.LeavesAtMost context.gasLimit
        (SimAction.runTarget environment (environment.runnerWithin bound) context)
  /-- Nor does a call with its transfer. -/
  messageCall :
    ∀ bound kind context,
      SimAction.LeavesAtMost context.gasLimit
        (SimAction.messageCall environment (environment.runnerWithin bound) kind context)
  /-- Nor does a creation with its deployment. -/
  createContract :
    ∀ bound creator context initCode,
      SimAction.LeavesAtMost context.gasLimit
        (SimAction.createContract environment (environment.runnerWithin bound) creator
          context initCode)
  /-- A calling instruction leaves its frame no more gas than before, stipend included. -/
  call :
    ∀ bound kind machine,
      Exec.gasAfter (Exec.call environment (environment.runnerWithin bound) kind)
          machine ≤
        machine.frame.gas
  /-- So does a creating instruction. -/
  create :
    ∀ bound salted machine,
      Exec.gasAfter (Exec.create environment (environment.runnerWithin bound) salted)
          machine ≤
        machine.frame.gas
  /-- So does every step. -/
  step :
    ∀ bound machine,
      Exec.gasAfter (Exec.step environment (environment.runnerWithin bound)) machine ≤
        machine.frame.gas
  /-- A charge is subtracted exactly. -/
  charge :
    ∀ gas machine paid,
      Exec.charge gas machine = .ok () paid →
      gas ≤ machine.frame.gas ∧
        paid.frame.gas.toNat = machine.frame.gas.toNat - gas.toNat
  /-- What a creation sets aside is subtracted exactly. -/
  callCap :
    ∀ available, (Gas.callCap available).toNat = available.toNat - available.toNat / 64
  /-- What a call sets aside is what is asked for, or all but a sixty-fourth. -/
  forwarded :
    ∀ available requested,
      (Gas.forwarded available requested).toNat =
        min requested.toNat (available.toNat - available.toNat / 64)
  /-- The stipend is added exactly. -/
  stipend :
    ∀ available requested,
      (Gas.forwarded available requested + Gas.callStipend).toNat =
        (Gas.forwarded available requested).toNat + Gas.callStipend.toNat
  /-- What was set aside for a call that is skipped is added exactly. -/
  skipped :
    ∀ available requested,
      (available - Gas.forwarded available requested).toNat +
          (Gas.forwarded available requested).toNat =
        available.toNat
  /-- What a call leaves is added exactly to what its caller has kept. -/
  returned :
    ∀ bound kind machine paid launch outcome answered,
      Exec.prepareCall environment kind machine = .ok (some launch) paid →
      SimAction.messageCall environment (environment.runnerWithin bound) kind launch.context
          paid.simulation = .ok outcome answered →
      (paid.frame.gas + outcome.gas).toNat = paid.frame.gas.toNat + outcome.gas.toNat
  /-- What a creation leaves is added exactly to what its creator has kept. -/
  founded :
    ∀ bound salted creator machine paid launch outcome answered,
      Exec.prepareCreation environment salted machine = .ok (some launch) paid →
      SimAction.createContract environment (environment.runnerWithin bound) creator
          launch.context launch.initCode paid.simulation = .ok outcome answered →
      (paid.frame.gas + outcome.gas).toNat = paid.frame.gas.toNat + outcome.gas.toNat
  /-- The cost of a deployment is subtracted exactly. -/
  deploy :
    ∀ limits address code gas world cost after,
      SimAction.deploy limits address code gas world = .ok (cost, after) →
      (gas - cost).toNat + cost.toNat = gas.toNat
  /--
  The cost of writing a slot is an exact sum, and a restored slot's an exact difference.
  -/
  storageStore :
    (∀ initial current new : Word, ∀ wasWarm : Bool,
      ∃ base ∈ [Gas.warmRead, Gas.storageSet, Gas.storageReset],
        (Gas.storageStore initial current new wasWarm).1.toNat =
          (if wasWarm then 0 else Gas.coldSlot.toNat) + base.toNat) ∧
      Gas.warmRead ≤ Gas.storageSet ∧ Gas.warmRead ≤ Gas.storageReset
  /-- The cost of self-destruction is an exact sum. -/
  selfDestruct :
    ∀ (beneficiaryIsEmpty wasWarm : Bool) (value : Word),
      (Gas.selfDestruct beneficiaryIsEmpty value +
          (if wasWarm then 0 else Gas.coldAccount)).toNat =
        5000 + (if beneficiaryIsEmpty && value != 0 then Gas.newAccount.toNat else 0) +
          (if wasWarm then 0 else Gas.coldAccount.toNat)
  /-- The cost of exponentiation is an exact sum. -/
  pow : ∀ exponent, (Gas.pow exponent).toNat = 10 + 50 * exponent.byteLength
  /-- The cost of growing memory is an exact difference. -/
  expansion :
    ∀ present needed, present ≤ needed →
      (Memory.expansionCost present needed).toNat + (Memory.totalCost present).toNat =
        (Memory.totalCost needed).toNat
  /-- The cost before the first instruction is subtracted exactly. -/
  intrinsic :
    ∀ gasLimit payload isCreation, Gas.intrinsic payload isCreation ≤ gasLimit →
      (gasLimit - Gas.intrinsic payload isCreation).toNat +
          (Gas.intrinsic payload isCreation).toNat =
        gasLimit.toNat
  /-- The refund is subtracted exactly from what was not left. -/
  settle :
    ∀ gasLimit outcome,
      (Environment.settle gasLimit outcome).gasUsed.toNat +
          (Environment.settle gasLimit outcome).gasRefund.toNat =
        gasLimit.toNat - outcome.gas.toNat
  /-- A transaction uses at most its limit and is refunded at most a fifth of that. -/
  transact :
    ∀ context isCreation world trace result,
      environment.transact context isCreation world trace = .ok result →
      result.gasUsed.toNat + result.gasRefund.toNat ≤ context.gasLimit.toNat ∧
        result.gasRefund.toNat ≤ (result.gasUsed.toNat + result.gasRefund.toNat) / 5

namespace Environment

variable
  {environment : Environment}
  {bound : FrameContext → Nat}
  {machine paid : Machine}
  {outcome : Outcome}
  {answered : Simulation}

/-- What is left of gas that was set aside is added exactly to what was kept. -/
theorem toNat_add_of_reserved
    {reserved : UInt64}
    (kept : paid.frame.gas.toNat + reserved.toNat ≤ machine.frame.gas.toNat)
    (leaves : outcome.gas ≤ reserved) :
    (paid.frame.gas + outcome.gas).toNat = paid.frame.gas.toNat + outcome.gas.toNat := by
  rw [UInt64.le_iff_toNat_le] at leaves
  have within :
      paid.frame.gas.toNat + outcome.gas.toNat ≤ machine.frame.gas.toNat :=
    Nat.le_trans (Nat.add_le_add_left leaves _) kept
  exact UInt64.toNat_add_of_within within

theorem toNat_add_of_returned
    {kind : CallKind}
    {launch : Exec.CallLaunch}
    (prepared : Exec.prepareCall environment kind machine = .ok (some launch) paid)
    (returned :
      SimAction.messageCall environment (environment.runnerWithin bound) kind launch.context
        paid.simulation = .ok outcome answered) :
    (paid.frame.gas + outcome.gas).toNat = paid.frame.gas.toNat + outcome.gas.toNat := by
  have kept :
      paid.frame.gas.toNat + launch.context.gasLimit.toNat ≤ machine.frame.gas.toNat :=
    (Exec.prepareCall_within environment kind).of_ok prepared (Nat.le_refl _)
  have leaves : outcome.gas ≤ launch.context.gasLimit :=
    SimAction.LeavesAtMost.messageCall (environment.runnerWithin_leavesAtMost bound) kind
      launch.context _ _ _ returned
  exact toNat_add_of_reserved kept leaves

theorem toNat_add_of_founded
    {salted : Bool}
    {creator : Address}
    {launch : Exec.CreationLaunch}
    (prepared : Exec.prepareCreation environment salted machine = .ok (some launch) paid)
    (founded :
      SimAction.createContract environment (environment.runnerWithin bound) creator
        launch.context launch.initCode paid.simulation = .ok outcome answered) :
    (paid.frame.gas + outcome.gas).toNat = paid.frame.gas.toNat + outcome.gas.toNat := by
  have kept :
      paid.frame.gas.toNat + launch.context.gasLimit.toNat ≤ machine.frame.gas.toNat :=
    (Exec.prepareCreation_within _ environment salted).of_ok prepared (Nat.le_refl _)
  have leaves : outcome.gas ≤ launch.context.gasLimit :=
    SimAction.LeavesAtMost.createContract (environment.runnerWithin_leavesAtMost bound)
      creator launch.context launch.initCode _ _ _ founded
  exact toNat_add_of_reserved kept leaves

/-- Gas is sound in every environment. -/
theorem gasSound
    (environment : Environment) :
    environment.GasSound where
  runner := environment.runnerWithin_leavesAtMost
  runTarget bound := .runTarget (environment.runnerWithin_leavesAtMost bound)
  messageCall bound := .messageCall (environment.runnerWithin_leavesAtMost bound)
  createContract bound := .createContract (environment.runnerWithin_leavesAtMost bound)
  call bound kind :=
    Exec.gasAfter_le fun budget =>
      Exec.keeps_call_within (environment.runnerWithin_leavesAtMost bound) budget kind
  create bound salted :=
    Exec.gasAfter_le fun budget =>
      Exec.keeps_create_within (environment.runnerWithin_leavesAtMost bound) budget salted
  step bound :=
    Exec.gasAfter_le fun budget =>
      (Exec.keptByInstructions_within (environment.runnerWithin_leavesAtMost bound)
        budget).step
  charge _ _ _ := Exec.toNat_charge
  callCap := Gas.toNat_callCap
  forwarded := Gas.toNat_forwarded
  stipend := Gas.toNat_forwarded_add_callStipend
  skipped available requested :=
    UInt64.toNat_sub_add_cancel (Gas.forwarded_le available requested)
  returned _ _ _ _ _ _ _ := toNat_add_of_returned
  founded _ _ _ _ _ _ _ _ := toNat_add_of_founded
  deploy _ _ _ _ _ _ _ deployed := by
    obtain ⟨_, _, _, affordable, _⟩ := SimAction.deploy_cases deployed
    exact UInt64.toNat_sub_add_cancel affordable
  storageStore := ⟨Gas.toNat_storageStore, Gas.warmRead_le⟩
  selfDestruct := Gas.toNat_selfDestruct
  pow := Gas.toNat_pow
  expansion _ _ grows := Memory.toNat_expansionCost grows
  intrinsic _ _ _ := UInt64.toNat_sub_add_cancel
  settle gasLimit outcome := (toNat_settle gasLimit outcome).1
  transact _ _ _ _ _ := transact_bounds

end Environment

end LedgerEvm
