import LedgerEvm.Machine.Gas
import LedgerEvm.Machine.Transact
import LedgerEvm.Proofs.Clamp
import LedgerEvm.Proofs.Machine.Calls

namespace LedgerEvm

/-!
# Gas and its costs

Costs are sums and differences of 64-bit numbers.  None of them leaves the range,
whatever a program asks for, so that each is the exact sum or difference.
-/

namespace Gas

/-- All but a sixty-fourth, exactly. -/
theorem toNat_callCap
    (available : UInt64) :
    (callCap available).toNat = available.toNat - available.toNat / 64 := by
  have part : available / 64 ≤ available := by
    rw [UInt64.le_iff_toNat_le, UInt64.toNat_div]
    exact Nat.div_le_self _ _
  rw [callCap, UInt64.toNat_sub_of_le _ _ part, UInt64.toNat_div]
  rfl

/-- What is forwarded is what is asked for, or all that may be. -/
theorem toNat_forwarded
    (available : UInt64)
    (requested : Word) :
    (forwarded available requested).toNat =
      min requested.toNat (available.toNat - available.toNat / 64) := by
  have cap := toNat_callCap available
  have bound := (callCap available).toNat_lt
  simp only [forwarded]
  split
  · omega
  · have fits : requested.toNat < UInt64.size := by
      simp only [UInt64.size]
      omega
    rw [UInt64.toNat_ofNat_of_lt' fits]
    omega

theorem forwarded_le
    (available : UInt64)
    (requested : Word) :
    forwarded available requested ≤ available := by
  rw [UInt64.le_iff_toNat_le, toNat_forwarded]
  omega

/-- The stipend is added exactly. -/
theorem toNat_forwarded_add_callStipend
    (available : UInt64)
    (requested : Word) :
    (forwarded available requested + callStipend).toNat =
      (forwarded available requested).toNat + callStipend.toNat := by
  have capped := toNat_forwarded available requested
  have bound := available.toNat_lt
  have stipend : callStipend.toNat = 2300 := rfl
  rw [UInt64.toNat_add, Nat.mod_eq_of_lt]
  omega

/-- The first access to a slot is added exactly to what its write costs. -/
theorem toNat_storageStore
    (initial current new : Word)
    (wasWarm : Bool) :
    ∃ base ∈ [warmRead, storageSet, storageReset],
      (storageStore initial current new wasWarm).1.toNat =
        (if wasWarm then 0 else coldSlot.toNat) + base.toNat := by
  unfold storageStore
  dsimp only
  split
  · refine ⟨warmRead, by simp, ?_⟩
    cases wasWarm <;> rfl
  · split
    · split
      · refine ⟨storageSet, by simp, ?_⟩
        cases wasWarm <;> rfl
      · refine ⟨storageReset, by simp, ?_⟩
        cases wasWarm <;> rfl
    · refine ⟨warmRead, by simp, ?_⟩
      cases wasWarm <;> rfl

/-- What is given back for a restored slot is an exact difference. -/
theorem warmRead_le :
    warmRead ≤ storageSet ∧ warmRead ≤ storageReset := by
  decide

/-- The access to the beneficiary is added exactly. -/
theorem toNat_selfDestruct
    (beneficiaryIsEmpty wasWarm : Bool)
    (value : Word) :
    (selfDestruct beneficiaryIsEmpty value + (if wasWarm then 0 else coldAccount)).toNat =
      5000 + (if beneficiaryIsEmpty && value != 0 then newAccount.toNat else 0) +
        (if wasWarm then 0 else coldAccount.toNat) := by
  unfold selfDestruct
  cases beneficiaryIsEmpty && value != 0 <;> cases wasWarm <;> decide

/-- A word has at most 32 bytes, each paid for exactly. -/
theorem toNat_pow
    (exponent : Word) :
    (pow exponent).toNat = 10 + 50 * exponent.byteLength := by
  have short : exponent.byteLength ≤ 32 := by
    unfold Word.byteLength
    split
    · exact Nat.zero_le _
    · rename_i nonzero
      have positive : exponent.toNat ≠ 0 :=
        fun zero => nonzero (BitVec.eq_of_toNat_eq zero)
      have bits : Nat.log2 exponent.toNat < 256 :=
        (Nat.log2_lt positive).mpr exponent.isLt
      omega
  have bytes : (UInt64.ofNat exponent.byteLength).toNat = exponent.byteLength :=
    UInt64.toNat_ofNat_of_lt' (by simp only [UInt64.size]; omega)
  have base : powBase.toNat = 10 := rfl
  have perByte : (50 : UInt64).toNat = 50 := rfl
  rw [pow, UInt64.toNat_add, UInt64.toNat_mul, bytes, base, perByte]
  omega

end Gas

namespace Memory

/-- More words cost at least as much. -/
theorem totalCost_le
    {fewer more : Nat}
    (grows : fewer ≤ more) :
    totalCost fewer ≤ totalCost more := by
  have counts :
      (UInt64.ofNatClamp fewer).toNat ≤ (UInt64.ofNatClamp more).toNat := by
    rw [UInt64.toNat_ofNatClamp, UInt64.toNat_ofNatClamp]
    omega
  have squares := Nat.mul_le_mul counts counts
  simp only [totalCost, UInt64.le_iff_toNat_le, UInt64.toNat_addClamp,
    UInt64.toNat_mulClamp, UInt64.toNat_div]
  have third : (3 : UInt64).toNat = 3 := rfl
  have part : (512 : UInt64).toNat = 512 := rfl
  rw [third, part]
  omega

/-- The cost of growing is an exact difference. -/
theorem toNat_expansionCost
    {present needed : Nat}
    (grows : present ≤ needed) :
    (expansionCost present needed).toNat + (totalCost present).toNat =
      (totalCost needed).toNat := by
  unfold expansionCost
  split
  · rename_i enough
    rw [Nat.le_antisymm enough grows]
    exact Nat.zero_add _
  · exact UInt64.toNat_sub_add_cancel (totalCost_le grows)

end Memory

/-!
## Gas is only spent

No frame hands back more gas than it was given, and no instruction leaves its frame with
more than before, however the frames that it starts end.  What is set aside for another
frame is taken from the caller first, and what comes back is at most that, so the sums
stay in range; the stipend is paid for with the value.
-/

/-! ### Frames -/

namespace SimAction

variable {α : Type}

/-- Whenever the action has an outcome, no more gas is left than so much. -/
def LeavesAtMost (gas : UInt64) (action : SimAction Outcome) : Prop :=
  ∀ (simulation after : Simulation) (outcome : Outcome),
    action simulation = .ok outcome after → outcome.gas ≤ gas

end SimAction

/-- What is left of a failed frame's gas is all of it or nothing. -/
theorem Outcome.gas_halted_le
    (error : VmError)
    (gas : UInt64) :
    (Outcome.halted error gas).gas ≤ gas := by
  unfold Outcome.halted
  split
  · exact UInt64.zero_le
  · exact UInt64.le_refl _

namespace SimAction.LeavesAtMost

variable {α : Type} {gas : UInt64}

theorem pure
    {outcome : Outcome}
    (atMost : outcome.gas ≤ gas) :
    LeavesAtMost gas (Pure.pure outcome) := by
  intro simulation after _ result
  cases result
  exact atMost

theorem throw
    (error : VmError) :
    LeavesAtMost gas (throwThe VmError error) := by
  intro simulation after outcome result
  cases result

theorem bind
    {first : SimAction α}
    {next : α → SimAction Outcome}
    (goesOn : ∀ answer, LeavesAtMost gas (next answer)) :
    LeavesAtMost gas (first >>= next) := by
  intro simulation after outcome result
  change EStateM.bind first next simulation = _ at result
  unfold EStateM.bind at result
  split at result
  · exact goesOn _ _ _ _ result
  · cases result

/-- What is left by the first action may be left by the second. -/
theorem bind_outcome
    {first : SimAction Outcome}
    {next : Outcome → SimAction Outcome}
    (leaves : LeavesAtMost gas first)
    (goesOn : ∀ outcome, outcome.gas ≤ gas → LeavesAtMost gas (next outcome)) :
    LeavesAtMost gas (first >>= next) := by
  intro simulation after outcome result
  change EStateM.bind first next simulation = _ at result
  unfold EStateM.bind at result
  split at result
  · rename_i ran
    exact goesOn _ (leaves _ _ _ ran) _ _ _ result
  · cases result

theorem framed
    {keeps : Outcome → Bool}
    {action : SimAction Outcome}
    (leaves : LeavesAtMost gas action) :
    LeavesAtMost gas (framed keeps action) := by
  intro simulation after outcome result
  unfold SimAction.framed at result
  split at result
  · rename_i ran
    cases result
    exact leaves _ _ _ ran
  · cases result

theorem withTransfer
    {context : FrameContext}
    {target : Address}
    {next : SimAction Outcome}
    (leaves : LeavesAtMost context.gasLimit next) :
    LeavesAtMost context.gasLimit (withTransfer context target next) := by
  intro simulation after outcome result
  unfold SimAction.withTransfer at result
  split at result
  · exact leaves _ _ _ result
  · split at result
    · cases result
    · cases result
      exact Outcome.gas_halted_le _ _

theorem answered
    (result : Except PrecompileError (UInt64 × Bytes))
    (gasLimit : UInt64) :
    LeavesAtMost gasLimit (answered result gasLimit) := by
  unfold SimAction.answered
  split
  · exact pure (UInt64.subClamp_le _ _)
  · split
    · exact pure (UInt64.le_refl _)
    · split
      · exact throw _
      · exact pure (Outcome.gas_halted_le _ _)

theorem deployOutput
    {outcome : Outcome}
    (atMost : outcome.gas ≤ gas)
    (limits : Limits)
    (address : Address) :
    LeavesAtMost gas (deployOutput limits address outcome) := by
  intro simulation after deployed result
  unfold SimAction.deployOutput at result
  split at result
  · rename_i paid
    obtain ⟨_, _, _, affordable, _⟩ := deploy_cases paid
    cases result
    exact UInt64.le_trans (UInt64.sub_le affordable) atMost
  · split at result
    · cases result
    · cases result
      exact UInt64.le_trans (Outcome.gas_halted_le _ _) atMost

/-- Within a budget for the gas the outcome is within it too. -/
theorem ensures
    {action : SimAction Outcome}
    (leaves : LeavesAtMost gas action)
    (budget : Nat) :
    Ensures (fun _ => gas.toNat ≤ budget) action
      (fun outcome _ => outcome.gas.toNat ≤ budget) (fun _ _ => True) := by
  intro simulation within
  cases result : action simulation with
  | ok outcome after =>
      have atMost := UInt64.le_iff_toNat_le.mp (leaves simulation after outcome result)
      exact Nat.le_trans atMost within
  | error error after => trivial

end SimAction.LeavesAtMost

/-- A runner that leaves no more gas than the frame was given. -/
def Runner.LeavesAtMost (runner : Runner) : Prop :=
  ∀ (context : FrameContext) (code : Bytes),
    SimAction.LeavesAtMost context.gasLimit (runner context code)

namespace SimAction.LeavesAtMost

variable
  {environment : Environment}
  {runner : Runner}
  (leaves : runner.LeavesAtMost)
include leaves

theorem runCode
    (context : FrameContext) :
    LeavesAtMost context.gasLimit (runCode runner context) := by
  refine bind fun code => ?_
  split
  · exact pure (UInt64.le_refl _)
  · exact leaves context code

theorem runTarget
    (context : FrameContext) :
    LeavesAtMost context.gasLimit (runTarget environment runner context) := by
  unfold SimAction.runTarget
  dsimp only
  split
  · exact answered _ _
  · split
    · exact bind fun _ => answered _ _
    · split
      · exact answered _ _
      · split
        · exact answered _ _
        · refine bind fun isToken => ?_
          split
          · exact bind fun _ => answered _ _
          · exact runCode leaves context

theorem messageCall
    (kind : CallKind)
    (context : FrameContext) :
    LeavesAtMost context.gasLimit (messageCall environment runner kind context) := by
  refine framed ?_
  split
  · exact withTransfer (runTarget leaves context)
  · exact runTarget leaves context

theorem createContract
    (creator : Address)
    (context : FrameContext)
    (initCode : Bytes) :
    LeavesAtMost context.gasLimit
      (createContract environment runner creator context initCode) := by
  refine bind fun address => bind fun _ => ?_
  refine framed (bind fun _ => ?_)
  refine withTransfer (bind_outcome (leaves _ initCode) fun outcome atMost => ?_)
  split
  · exact deployOutput atMost _ _
  · exact pure atMost

end SimAction.LeavesAtMost

/-! ### Instructions -/

/-- The frame's gas is within a budget of which so much is set aside. -/
def Machine.Within (reserved budget : Nat) (machine : Machine) : Prop :=
  machine.frame.gas.toNat + reserved ≤ budget

/-- Setting less aside is within the same budget. -/
theorem Machine.Within.mono
    {less more budget : Nat}
    {machine : Machine}
    (within : machine.Within more budget)
    (fewer : less ≤ more) :
    machine.Within less budget :=
  Nat.le_trans (Nat.add_le_add_left fewer _) within

namespace Exec

variable {α : Type} {reserved budget : Nat}

theorem quiet_within
    (reserved budget : Nat) :
    Quiet false (Machine.Within reserved budget) where
  move move within :=
    Nat.le_trans (Nat.add_le_add_right (UInt64.le_iff_toNat_le.mp move.gas_le) _) within
  trace _ within := within
  touch _ within := within

/-- An action that fails may leave aside what it kept aside. -/
theorem fails_within
    {action : Exec α}
    (keeps : Keeps (Machine.Within reserved budget) action) :
    Ensures (Machine.Within reserved budget) action
      (fun _ => Machine.Within reserved budget) (fun _ => Machine.Within 0 budget) :=
  keeps.imp_failed fun _ _ within => within.mono (Nat.zero_le _)

/-- What was set aside beforehand stays set aside. -/
theorem ensures_reserved
    {action : Exec α}
    {less : Nat}
    {more : α → Nat}
    (ensures : ∀ budget,
      Ensures (Machine.Within less budget) action
        (fun answer => Machine.Within (more answer) budget) (fun _ => Machine.Within 0 budget))
    (reserved budget : Nat) :
    Ensures (Machine.Within (less + reserved) budget) action
      (fun answer => Machine.Within (more answer + reserved) budget)
      (fun _ => Machine.Within 0 budget) := by
  intro machine within
  unfold Machine.Within at within
  have reached := ensures (budget - reserved) machine (by unfold Machine.Within; omega)
  cases result : action machine with
  | ok answer after =>
      rw [result] at reached
      simp only [Machine.Within] at reached ⊢
      omega
  | error error after =>
      rw [result] at reached
      simp only [Machine.Within] at reached ⊢
      omega

/-- What is paid is set aside. -/
theorem charge_within
    (reserved budget : Nat)
    (gas : UInt64) :
    Ensures (Machine.Within reserved budget) (charge gas)
      (fun _ => Machine.Within (reserved + gas.toNat) budget)
      (fun _ => Machine.Within 0 budget) := by
  intro ⟨frame, simulation⟩ within
  change frame.gas.toNat + reserved ≤ budget at within
  by_cases short : frame.gas < gas
  · simp only [charge, if_pos short]
    exact Nat.zero_le budget
  · simp only [charge, if_neg short]
    have enough := UInt64.not_lt.mp short
    have left := UInt64.toNat_sub_of_le frame.gas gas enough
    rw [UInt64.le_iff_toNat_le] at enough
    change (frame.gas - gas).toNat + (reserved + gas.toNat) ≤ budget
    omega

/-- What was set aside may be given back. -/
theorem giveBack_within
    {failed : VmError → Machine → Prop}
    (reserved budget : Nat)
    (gas : UInt64) :
    Ensures (Machine.Within (reserved + gas.toNat) budget) (giveBack gas)
      (fun _ => Machine.Within reserved budget) failed := by
  intro ⟨frame, simulation⟩ within
  change frame.gas.toNat + (reserved + gas.toNat) ≤ budget at within
  change (frame.gas + gas).toNat + reserved ≤ budget
  have wraps := Nat.mod_le (frame.gas.toNat + gas.toNat) (2 ^ 64)
  rw [UInt64.toNat_add]
  omega

/-- Whatever is done to the simulation, the frame keeps its gas. -/
theorem keeps_onSimulation_within
    (action : SimAction α) :
    Keeps (Machine.Within reserved budget) (onSimulation action) :=
  keeps_onSimulation fun frame =>
    Keeps.fact (frame.gas.toNat + reserved ≤ budget) action

/-- An outcome leaves at most what was set aside for it. -/
theorem onSimulation_within
    {gas : UInt64}
    {action : SimAction Outcome}
    (leaves : SimAction.LeavesAtMost gas action) :
    Ensures (Machine.Within gas.toNat budget) (onSimulation action)
      (fun outcome => Machine.Within outcome.gas.toNat budget)
      (fun _ => Machine.Within 0 budget) := by
  intro ⟨frame, simulation⟩ within
  simp only [onSimulation]
  cases result : action simulation with
  | ok outcome after =>
      have atMost := UInt64.le_iff_toNat_le.mp (leaves simulation after outcome result)
      exact Machine.Within.mono within atMost
  | error error after =>
      exact Machine.Within.mono within (Nat.zero_le _)

/-! #### Accesses -/

theorem access_within
    (budget : Nat)
    (address : Address) :
    Ensures (Machine.Within 0 budget) (inspect.access address)
      (fun _ => Machine.Within Gas.warmRead.toNat budget)
      (fun _ => Machine.Within 0 budget) := by
  have quiet := quiet_within 0 budget
  refine Ensures.bind (keeps_ask _) fun wasWarm => ?_
  refine Ensures.bind
    (quiet.updateWorld fun world => .warmAccount true world address) fun _ => ?_
  refine (charge_within 0 budget _).imp (fun _ => id) (fun _ machine within => ?_)
    fun _ _ => id
  apply within.mono
  cases wasWarm <;> decide

/-- A look at an address costs at least as much as a repeated one. -/
theorem inspect_within
    (budget : Nat)
    (rule : AddressRule)
    (address : Address) :
    Ensures (Machine.Within 0 budget) (inspect rule address)
      (fun _ => Machine.Within Gas.warmRead.toNat budget)
      (fun _ => Machine.Within 0 budget) := by
  refine Ensures.bind (keeps_ask _) fun verdict => ?_
  cases verdict with
  | invalid => exact Ensures.throw fun _ => id
  | regular =>
      refine Ensures.bind (access_within budget address) fun _ => ?_
      exact Ensures.pure fun _ => id
  | systemAccount =>
      have paid := charge_within 0 budget Gas.warmRead
      rw [Nat.zero_add] at paid
      exact Ensures.bind paid fun _ => Ensures.pure fun _ => id

theorem inspectCallee_within
    (budget : Nat)
    (rule : AddressRule)
    (kind : CallKind)
    (target : Address) :
    Ensures (Machine.Within 0 budget) (inspectCallee rule kind target)
      (fun _ => Machine.Within Gas.warmRead.toNat budget)
      (fun _ => Machine.Within 0 budget) := by
  unfold inspectCallee
  split
  · exact inspect_within budget rule target
  · exact Ensures.bind (access_within budget target) fun _ => Ensures.pure fun _ => id

/-! #### Calls -/

/-- What a call sets aside for the value before it is launched. -/
def valueReserve (kind : CallKind) (operands : CallOperands) : Nat :=
  if operands.movesValue kind then Gas.callValue.toNat else 0

/-- What a call that is launched has set aside. -/
def callReserve (launch? : Option CallLaunch) : Nat :=
  (launch?.map fun launch => launch.context.gasLimit.toNat).getD 0

theorem chargeValue_within
    (kind : CallKind)
    (target : Address) :
    Ensures (Machine.Within 0 budget) (chargeValue kind target)
      (fun _ => Machine.Within Gas.callValue.toNat budget)
      (fun _ => Machine.Within 0 budget) := by
  have paid := charge_within 0 budget Gas.callValue
  rw [Nat.zero_add] at paid
  refine Ensures.bind paid fun _ => fails_within ?_
  split
  · refine (keeps_ask _).bind fun answers => ?_
    split
    · exact (quiet_within _ _).charge _
    · exact Keeps.pure _
  · exact Keeps.pure _

theorem gasLimit_child
    (context : FrameContext)
    (kind : CallKind)
    (target : Address)
    (value : Word)
    (data : Bytes)
    (gas : UInt64) :
    (context.child kind target value data gas).gasLimit = gas := by
  cases kind <;> rfl

/-- A frame that is launched is given what was set aside, and the stipend is paid for. -/
theorem launchCall_within
    (budget : Nat)
    (limits : Limits)
    (kind : CallKind)
    (operands : CallOperands)
    (input output : Nat × Nat) :
    Ensures (Machine.Within (valueReserve kind operands) budget)
      (launchCall limits kind operands input output)
      (fun launch? => Machine.Within (callReserve launch?) budget)
      (fun _ => Machine.Within 0 budget) := by
  refine Ensures.bind (fails_within keeps_frame) fun frame => ?_
  refine Ensures.bind (charge_within _ _ _) fun _ => ?_
  refine Ensures.bind (fails_within (Quiet.canStart _ _ _)) fun starts => ?_
  split
  · refine Ensures.bind (fails_within (keeps_readMemory _ _)) fun data => ?_
    refine Ensures.bind (fails_within keeps_context) fun context => ?_
    refine Ensures.pure fun machine within => within.mono ?_
    simp only [callReserve, Option.map_some, Option.getD_some, gasLimit_child, valueReserve]
    split
    · -- the stipend comes out of what was paid for the value
      have stipend : Gas.callStipend.toNat ≤ Gas.callValue.toNat := by decide
      rw [Gas.toNat_forwarded_add_callStipend]
      omega
    · exact Nat.le_add_left _ _
  · refine Ensures.bind (giveBack_within _ _ _) fun _ => ?_
    exact Ensures.pure fun machine within => within.mono (Nat.zero_le _)

/-- Whether a frame is launched or not, the look at its target has been paid for. -/
theorem prepareCall_pays
    (budget : Nat)
    (environment : Environment)
    (kind : CallKind) :
    Ensures (Machine.Within 0 budget) (prepareCall environment kind)
      (fun launch? => Machine.Within (callReserve launch? + Gas.warmRead.toNat) budget)
      (fun _ => Machine.Within 0 budget) := by
  have launches {operands : CallOperands} (input output : Nat × Nat) (_ : True) :=
    ensures_reserved
      (launchCall_within · environment.limits kind operands input output)
      Gas.warmRead.toNat budget
  refine (quiet_within 0 budget).ensures_prepareCall (fun _ _ => trivial)
    (inspectCallee_within budget _ kind) (fun operands moves => ?_) (fun owes within => ?_)
    launches fun machine within => ?_
  · have paid :=
      ensures_reserved (fun budget => chargeValue_within kind operands.target)
        Gas.warmRead.toNat budget
    rw [Nat.zero_add] at paid
    rw [valueReserve, moves]
    exact paid
  · rw [valueReserve, owes]
    exact within.mono (Nat.le_of_eq (Nat.zero_add _))
  · exact within.mono (Nat.le_of_eq (Nat.zero_add _))

theorem prepareCall_within
    (environment : Environment)
    (kind : CallKind) :
    Ensures (Machine.Within 0 budget) (prepareCall environment kind)
      (fun launch? => Machine.Within (callReserve launch?) budget)
      (fun _ => Machine.Within 0 budget) :=
  (prepareCall_pays budget environment kind).imp (fun _ => id)
    (fun _ _ within => within.mono (Nat.le_add_right _ _)) fun _ _ => id

/-- What a creation that is launched has set aside. -/
def creationReserve (launch? : Option CreationLaunch) : Nat :=
  (launch?.map fun launch => launch.context.gasLimit.toNat).getD 0

/-- A creation that is launched is given what was set aside. -/
theorem launchCreation_within
    (budget : Nat)
    (limits : Limits)
    (value : Word)
    (start length : Nat) :
    Ensures (Machine.Within 0 budget) (launchCreation limits value start length)
      (fun launch? => Machine.Within (creationReserve launch?) budget)
      (fun _ => Machine.Within 0 budget) := by
  refine Ensures.bind (Quiet.canStart _ _ _) fun starts => ?_
  split
  · refine Ensures.bind keeps_frame fun frame => ?_
    refine Ensures.bind (charge_within _ _ _) fun _ => ?_
    refine Ensures.bind (fails_within (keeps_readMemory _ _)) fun initCode => ?_
    refine Ensures.bind (fails_within keeps_context) fun context => ?_
    exact Ensures.pure fun machine within => within.mono (Nat.le_add_left _ _)
  · exact Ensures.pure fun machine within => within

theorem prepareCreation_within
    (budget : Nat)
    (environment : Environment)
    (salted : Bool) :
    Ensures (Machine.Within 0 budget) (prepareCreation environment salted)
      (fun launch? => Machine.Within (creationReserve launch?) budget)
      (fun _ => Machine.Within 0 budget) :=
  (quiet_within 0 budget).ensures_prepareCreation (launchCreation_within budget _)

section

variable
  {environment : Environment}
  {runner : Runner}
  (leaves : runner.LeavesAtMost)
include leaves

/-- Whatever is called, the look at it is spent. -/
theorem call_pays
    (budget : Nat)
    (kind : CallKind) :
    Ensures (Machine.Within 0 budget) (call environment runner kind)
      (fun _ => Machine.Within Gas.warmRead.toNat budget)
      (fun _ => Machine.Within 0 budget) := by
  have quiet := quiet_within Gas.warmRead.toNat budget
  refine Ensures.bind (prepareCall_pays budget environment kind) fun launch? => ?_
  cases launch? with
  | none =>
      have unlaunched : callReserve none + Gas.warmRead.toNat = Gas.warmRead.toNat :=
        Nat.zero_add _
      rw [unlaunched]
      exact fails_within (quiet.push 0)
  | some launch =>
      have leaves :
          SimAction.LeavesAtMost launch.context.gasLimit
            (SimAction.messageCall environment runner kind launch.context) :=
        SimAction.LeavesAtMost.messageCall leaves kind launch.context
      refine Ensures.bind
        (ensures_reserved (fun _ => onSimulation_within leaves) Gas.warmRead.toNat budget)
        fun outcome => ?_
      rw [Nat.add_comm]
      have taken :=
        quiet.ensures_takeOutcome nofun
          (giveBack_within Gas.warmRead.toNat budget outcome.gas) launch.output.1
          launch.output.2
      exact taken.imp_failed fun _ _ within => within.mono (Nat.zero_le _)

/-- A call leaves its frame with no more gas than before. -/
theorem keeps_call_within
    (budget : Nat)
    (kind : CallKind) :
    Keeps (Machine.Within 0 budget) (call environment runner kind) :=
  (call_pays leaves budget kind).imp (fun _ => id)
    (fun _ _ within => within.mono (Nat.zero_le _)) fun _ _ => id

/-- A creation leaves its frame with no more gas than before. -/
theorem keeps_create_within
    (budget : Nat)
    (salted : Bool) :
    Keeps (Machine.Within 0 budget) (create environment runner salted) := by
  have quiet := quiet_within 0 budget
  refine Ensures.bind (prepareCreation_within budget environment salted) fun launch? => ?_
  cases launch? with
  | none =>
      exact quiet.push 0
  | some launch =>
      refine Ensures.bind (fails_within keeps_context) fun context => ?_
      refine Ensures.bind
        (onSimulation_within
          (SimAction.LeavesAtMost.createContract leaves context.address launch.context
            launch.initCode))
        fun outcome => ?_
      rw [← Nat.zero_add outcome.gas.toNat]
      exact quiet.ensures_takeCreation nofun (giveBack_within 0 budget outcome.gas)

end

/-- No instruction leaves its frame with more gas than before. -/
theorem keptByInstructions_within
    {environment : Environment}
    {runner : Runner}
    (leaves : runner.LeavesAtMost)
    (budget : Nat) :
    KeptByInstructions environment runner false (Machine.Within 0 budget) where
  toQuiet := quiet_within 0 budget
  static _ inStatic := by cases inStatic
  count within := within
  setStorage _ _ _ _ _ _ within := within
  setTransient _ _ _ _ _ _ within := within
  selfDestruct _ :=
    (quiet_within 0 budget).selfDestruct (fun _ => keeps_onSimulation_within _) _
  create _ salted := keeps_create_within leaves budget salted
  call kind := keeps_call_within leaves budget kind

end Exec

/-! ### Runs -/

namespace Frame

theorem gas_outcome
    (frame : Frame) :
    frame.outcome.gas = frame.gas := by
  unfold outcome
  split <;> rfl

theorem failWith_leavesAtMost
    (error : VmError)
    (gas : UInt64) :
    SimAction.LeavesAtMost gas (failWith error gas) := by
  intro simulation after outcome result
  unfold failWith at result
  split at result
  · cases result
  · cases result
    exact Outcome.gas_halted_le _ _

/-- However long a frame runs, it leaves no more gas than it has. -/
theorem run_leavesAtMost
    (environment : Environment)
    (fuel : Nat)
    (frame : Frame) :
    SimAction.LeavesAtMost frame.gas (run environment fuel frame) := by
  -- as in `keeps_run`, the hypothesis is used for the rest of the frame and for its children
  induction fuel generalizing frame with
  | zero =>
      exact .throw _
  | succ fuel inductionHypothesis =>
      have leaves : (environment.runnerWithin fun _ => fuel).LeavesAtMost :=
        fun context code =>
          inductionHypothesis (Frame.start environment.limits context code)
      intro simulation after outcome result
      have ran :=
        ensures_run_succ
          (fun frame simulation within => by rw [gas_outcome]; exact within)
          (Exec.keptByInstructions_within leaves frame.gas.toNat).step
          (fun frame => (inductionHypothesis frame).ensures _)
          (fun error frame => (failWith_leavesAtMost error frame.gas).ensures _)
          frame
      exact UInt64.le_iff_toNat_le.mpr (ran.of_ok result (Nat.le_refl _))

end Frame

namespace Environment

/-- Code that is run leaves no more gas than the frame was given. -/
theorem runnerWithin_leavesAtMost
    (environment : Environment)
    (bound : FrameContext → Nat) :
    (environment.runnerWithin bound).LeavesAtMost :=
  fun context code =>
    Frame.run_leavesAtMost environment (bound context)
      (Frame.start environment.limits context code)

end Environment

end LedgerEvm
