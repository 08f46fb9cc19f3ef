import LedgerEvm.Proofs.Machine.Instructions

namespace LedgerEvm

/-!
# Instructions that start other frames

Up to the moment gas is set aside, and again once the gas of an outcome has been given
back, a call or a creation does what every instruction does.  What happens in between
is left open here: an invariant about the world and one about gas need different things
of it.
-/

namespace SimAction

/-- What the deployment of code asks for, and what it does. -/
theorem deploy_cases
    {limits : Limits}
    {address : Address}
    {code : Bytes}
    {gas cost : UInt64}
    {world after : World}
    (deployed : deploy limits address code gas world = .ok (cost, after)) :
    code.length ≤ limits.maxCodeSize ∧ code.head? ≠ some reservedByte ∧
      cost = Gas.codeDeposit code.length ∧ cost ≤ gas ∧
      ∃ reached,
        world.updateAccount address (fun account => { account with code }) =
          .ok (reached, after) := by
  unfold deploy at deployed
  dsimp only at deployed
  split at deployed
  · cases deployed
  · rename_i small
    split at deployed
    · cases deployed
    · rename_i allowed
      split at deployed
      · cases deployed
      · rename_i paid
        obtain ⟨⟨reached, changed⟩, found, done⟩ := exists_of_bind_eq_ok deployed
        cases done
        exact ⟨Nat.not_lt.mp small, allowed, rfl, UInt64.not_lt.mp paid, reached,
          World.eq_ok_of_lookUp found⟩

end SimAction

/-- Nothing is handed on that outlives the frame but its output. -/
structure Outcome.IsBare (outcome : Outcome) : Prop where
  logs : outcome.logs = #[]
  refund : outcome.refund = 0

theorem Quiet.canStart
    {invariant : Machine → Prop}
    (limits : Limits)
    (value : Word)
    (checksBalance : Bool) :
    Keeps invariant (Exec.canStart limits value checksBalance) := by
  refine Exec.keeps_context.bind fun context => ?_
  split
  · exact Keeps.pure _
  · split
    · exact (Exec.keeps_ask _).bind fun _ => Keeps.pure _
    · exact Keeps.pure _

namespace Calm

open Exec

variable {flow memory isStatic : Bool} {invariant : Machine → Prop}

section Parts

variable (calm : Calm flow memory isStatic invariant)
include calm

theorem setReturnData
    (returnData : Bytes) :
    Keeps invariant (Exec.updateFrame fun frame => { frame with returnData }) :=
  calm.updateInPlace (fun frame => .setReturnData frame returnData) (fun _ => rfl) fun _ => rfl

theorem inspectCallee
    (rule : AddressRule)
    (kind : CallKind)
    (target : Address) :
    Keeps invariant (inspectCallee rule kind target) := by
  unfold Exec.inspectCallee
  split
  · exact calm.inspect rule target
  · exact (calm.access target).bind fun _ => Keeps.pure _

theorem chargeValue
    (kind : CallKind)
    (target : Address) :
    Keeps invariant (chargeValue kind target) := by
  refine (calm.charge _).bind fun _ => ?_
  split
  · refine (keeps_ask _).bind fun answers => ?_
    split
    · exact calm.charge _
    · exact Keeps.pure _
  · exact Keeps.pure _

/-- A static frame may not send currency along with a call. -/
theorem ensures_popCall
    (kind : CallKind) :
    Ensures invariant (popCall kind)
      (fun operands machine =>
        invariant machine ∧
          (machine.frame.context.isStatic = true → kind = .call → operands.value = 0))
      (fun _ => invariant) := by
  refine Ensures.bind calm.pop fun requested => ?_
  refine Ensures.bind calm.popAddress fun target => ?_
  dsimp only
  refine Ensures.branch calm.pop (Keeps.pure _) fun value => ?_
  refine Ensures.bind calm.pop2 fun input => ?_
  refine Ensures.bind calm.pop2 fun output => ?_
  refine Ensures.bind ensures_context fun context => ?_
  rintro machine ⟨holds, rfl⟩
  by_cases refused :
      machine.frame.context.isStatic = true ∧ kind = .call ∧ value ≠ 0
  · simp only [if_pos refused]
    exact holds
  · simp only [if_neg refused]
    refine ⟨holds, fun inStatic isCall => ?_⟩
    simpa [inStatic, isCall] using refused

theorem chargeInitCode
    (environment : Environment)
    (length : Nat) :
    Keeps invariant (chargeInitCode environment length) := by
  unfold Exec.chargeInitCode
  dsimp only
  split
  · exact Keeps.guarded (Keeps.throw _) (calm.charge _)
  · exact Keeps.pure _

/-- A static frame has no refund and no logs to take from the frames that it starts. -/
theorem takeSuccess
    {outcome : Outcome}
    (bare : isStatic = true → outcome.IsBare) :
    Keeps invariant (takeOutcome.takeSuccess outcome) := by
  intro machine holds
  cases isStatic with
  | false =>
      have refunded :=
        calm.moveWithin (.addRefund _ outcome.refund) (fun _ => rfl) (fun _ => rfl) holds
      have logged :=
        calm.moveWithin (.addLogs _ outcome.logs) (fun _ => rfl) (fun _ => rfl) refunded
      exact logged
  | true =>
      simpa only [takeOutcome.takeSuccess, Exec.updateFrame, (bare rfl).logs, (bare rfl).refund,
        Array.append_empty, Int64.add_zero] using holds

/-- After the gas has been given back, the outcome of a creation is taken calmly. -/
theorem ensures_takeCreation
    {before : Machine → Prop}
    {outcome : Outcome}
    (bare : isStatic = true → outcome.IsBare)
    (gives :
      Ensures before (giveBack outcome.gas) (fun _ => invariant) (fun _ => invariant)) :
    Ensures before (takeCreation outcome) (fun _ => invariant) (fun _ => invariant) := by
  refine Ensures.bind gives fun _ => ?_
  split
  · exact (calm.takeSuccess bare).bind fun _ => calm.push _
  · refine (calm.setReturnData _).bind fun _ => ?_
    exact calm.push _
  · exact calm.push _

/-- Self-destruction is calm but for its two changes of the world. -/
theorem selfDestruct
    (changes : ∀ update : World → Except VmError (Unit × World),
      Keeps invariant (onSimulation (SimAction.change update)))
    (rule : SelfDestructRule) :
    Keeps invariant (selfDestruct rule) := by
  refine keeps_context.bind fun context => ?_
  refine calm.popAddress.bind fun beneficiary => ?_
  refine (keeps_ask _).bind fun objection? => ?_
  cases objection? with
  | some reason =>
      exact fun machine holds => holds
  | none =>
      refine (keeps_ask _).bind fun wasWarm => ?_
      refine (calm.updateWorld fun world => .warmAccount true world _).bind fun _ => ?_
      refine (keeps_ask _).bind fun balance => ?_
      refine (keeps_ask _).bind fun beneficiaryAccount => ?_
      refine (calm.charge _).bind fun _ => ?_
      refine (changes _).bind fun _ => ?_
      refine (keeps_ask _).bind fun isCreated => ?_
      dsimp only
      exact Keeps.guarded (changes _) (calm.finish _)

end Parts

/-! ## Parts that touch memory -/

section Memory

variable (calm : Calm flow true isStatic invariant)
include calm

/--
What is done before a call is launched is done calmly, but that the look at its target
and a value are paid for.
-/
theorem ensures_prepareCall
    {environment : Environment}
    {kind : CallKind}
    {fact : CallOperands → Prop}
    {looked : Machine → Prop}
    {paid : CallOperands → Machine → Prop}
    {after : Option CallLaunch → Machine → Prop}
    (known : ∀ {machine : Machine} {operands : CallOperands},
      invariant machine →
      (machine.frame.context.isStatic = true → kind = .call → operands.value = 0) →
      fact operands)
    (looks : ∀ target : Address,
      Ensures invariant (Exec.inspectCallee environment.rules.addresses kind target)
        (fun _ => looked) (fun _ => invariant))
    (pays : ∀ operands : CallOperands,
      operands.movesValue kind = true →
      Ensures looked (Exec.chargeValue kind operands.target) (fun _ => paid operands)
        (fun _ => invariant))
    (owes : ∀ {operands : CallOperands} {machine : Machine},
      operands.movesValue kind = false → looked machine → paid operands machine)
    (launches : ∀ {operands : CallOperands} (input output : Nat × Nat),
      fact operands →
      Ensures (paid operands)
        (launchCall environment.limits kind operands input output) after
        (fun _ => invariant))
    (skips : ∀ machine, looked machine → after none machine) :
    Ensures invariant (prepareCall environment kind) after (fun _ => invariant) := by
  have popped :=
    (calm.ensures_popCall kind).imp (fun _ => id)
      (fun _ _ holds => And.intro holds.1 (known holds.1 holds.2)) (fun _ _ => id)
  refine Ensures.bind popped fun operands => ?_
  refine Ensures.of_fact fun holds => ?_
  refine Ensures.bind (calm.expand _ _) fun input => ?_
  refine Ensures.bind (calm.expand _ _) fun output => ?_
  refine Ensures.bind (calm.setReturnData []) fun _ => ?_
  refine Ensures.bind (looks operands.target) fun goesOn => ?_
  split
  · dsimp only
    cases moves : operands.movesValue kind with
    | true => exact Ensures.bind (pays operands moves) fun _ => launches input output holds
    | false =>
        exact (launches input output holds).imp (fun _ => owes moves) (fun _ _ => id)
          fun _ _ => id
  · exact Ensures.pure skips

/-- Up to the launch a call is prepared calmly, but that gas may be given back. -/
theorem prepareCall
    (gives : ∀ gas, Keeps invariant (giveBack gas))
    (environment : Environment)
    (kind : CallKind) :
    Keeps invariant (prepareCall environment kind) := by
  refine calm.ensures_prepareCall (fun _ _ => trivial)
    (fun target => calm.inspectCallee _ kind target)
    (fun operands _ => calm.chargeValue kind operands.target) (fun _ holds => holds)
    (fun input output (_ : True) => ?_) fun _ => id
  refine keeps_frame.bind fun frame => (calm.charge _).bind fun _ => ?_
  refine (Quiet.canStart _ _ _).bind fun starts => ?_
  split
  · refine (keeps_readMemory _ _).bind fun data => ?_
    exact keeps_context.bind fun context => Keeps.pure _
  · exact (gives _).bind fun _ => Keeps.pure _

/-- What is done before a creation is launched is done calmly. -/
theorem ensures_prepareCreation
    {environment : Environment}
    {salted : Bool}
    {after : Option CreationLaunch → Machine → Prop}
    (launches : ∀ (value : Word) (start length : Nat),
      Ensures invariant (launchCreation environment.limits value start length) after
        (fun _ => invariant)) :
    Ensures invariant (prepareCreation environment salted) after (fun _ => invariant) := by
  have launched :
      ∀ (value : Word) (start length : Nat),
        Ensures invariant
          (do
            Exec.updateFrame fun frame => { frame with returnData := [] }
            launchCreation environment.limits value start length)
          after (fun _ => invariant) := fun value start length =>
    Ensures.bind (calm.setReturnData [])
      fun _ => launches value start length
  refine Ensures.bind calm.pop3 fun ⟨value, offset, size⟩ => ?_
  dsimp only
  cases salted with
  | true =>
      refine Ensures.bind calm.pop fun _ => ?_
      refine Ensures.bind (calm.expand _ _) fun ⟨start, length⟩ => ?_
      refine Ensures.bind (calm.chargeInitCode _ _) fun _ => ?_
      exact Ensures.bind (calm.charge _) fun _ => launched value start length
  | false =>
      refine Ensures.bind (calm.expand _ _) fun ⟨start, length⟩ => ?_
      exact Ensures.bind (calm.chargeInitCode _ _) fun _ => launched value start length

theorem prepareCreation
    (environment : Environment)
    (salted : Bool) :
    Keeps invariant (prepareCreation environment salted) := by
  refine calm.ensures_prepareCreation fun value start length => ?_
  refine (Quiet.canStart _ _ _).bind fun starts => ?_
  split
  · refine keeps_frame.bind fun frame => ?_
    refine (calm.charge _).bind fun _ => ?_
    refine (keeps_readMemory _ _).bind fun initCode => ?_
    exact keeps_context.bind fun context => Keeps.pure _
  · exact Keeps.pure _

/-- After the gas has been given back, an outcome is taken calmly. -/
theorem ensures_takeOutcome
    {before : Machine → Prop}
    {outcome : Outcome}
    (bare : isStatic = true → outcome.IsBare)
    (gives :
      Ensures before (giveBack outcome.gas) (fun _ => invariant) (fun _ => invariant))
    (offset size : Nat) :
    Ensures before (takeOutcome outcome offset size) (fun _ => invariant)
      (fun _ => invariant) := by
  have rest :
      Keeps invariant (do
        Exec.updateFrame fun frame => { frame with returnData := outcome.output }
        pushBool outcome.isSuccess) :=
    (calm.setReturnData _).bind fun _ => calm.push _
  refine Ensures.bind gives fun _ => ?_
  refine Ensures.bind (calm.writeMemory _ _) fun _ => ?_
  dsimp only
  exact Keeps.guarded (calm.takeSuccess bare) rest

end Memory

end Calm

/-! ## Instructions that change the ledger or start other frames -/

/--
An invariant that instructions keep within what is allowed, whatever they write to the ledger
and are given back, if the calls and creations that they start keep it.
-/
structure KeptBesideLedger
    (environment : Environment)
    (runner : Runner)
    (flow memory : Bool)
    (invariant : Machine → Prop) : Prop extends Calm flow memory false invariant where
  giveBack :
    ∀ gas : UInt64, Keeps invariant (Exec.giveBack gas)
  change :
    ∀ update : World → Except VmError (Unit × World),
      Keeps invariant (Exec.onSimulation (SimAction.change update))
  messageCall :
    ∀ (kind : CallKind) (context : FrameContext),
      Keeps invariant
        (Exec.onSimulation (SimAction.messageCall environment runner kind context))
  createContract :
    ∀ (creator : Address) (context : FrameContext) (initCode : Bytes),
      Keeps invariant
        (Exec.onSimulation
          (SimAction.createContract environment runner creator context initCode))

namespace KeptBesideLedger

open Exec

variable
  {environment : Environment}
  {runner : Runner}
  {flow memory : Bool}
  {invariant : Machine → Prop}

theorem updateWorld
    (kept : KeptBesideLedger environment runner flow memory invariant)
    (update : World → World) :
    Keeps invariant (updateWorld update) :=
  kept.change fun world => .ok ((), update world)

section Memory

variable (kept : KeptBesideLedger environment runner flow true invariant)
include kept

theorem create
    (salted : Bool) :
    Keeps invariant (create environment runner salted) := by
  refine (kept.prepareCreation environment salted).bind fun launch? => ?_
  cases launch? with
  | none =>
      exact kept.push 0
  | some launch =>
      refine keeps_context.bind fun context => ?_
      refine (kept.createContract _ _ _).bind fun outcome => ?_
      exact kept.ensures_takeCreation nofun (kept.giveBack _)

theorem call
    (kind : CallKind) :
    Keeps invariant (call environment runner kind) := by
  refine (kept.prepareCall kept.giveBack environment kind).bind fun launch? => ?_
  cases launch? with
  | none =>
      exact kept.push 0
  | some launch =>
      refine (kept.messageCall _ _).bind fun outcome => ?_
      exact kept.ensures_takeOutcome nofun (kept.giveBack _) _ _

end Memory

/-- An instruction that is within what is allowed keeps the invariant. -/
theorem execute
    (kept : KeptBesideLedger environment runner flow memory invariant)
    {instruction : Instruction}
    (flows : instruction.isFlow = true → flow = true)
    (touches : instruction.touchesMemory = true → memory = true) :
    Keeps invariant (execute environment runner instruction) := by
  cases calls : instruction.callKind? with
  | some kind =>
      obtain rfl : memory = true := by
        cases instruction with
        | call | callCode | delegateCall | staticCall => exact touches rfl
        | _ => cases calls
      rw [execute_of_callKind? calls]
      exact kept.call kind
  | none =>
      cases modifies : instruction.modifiesState with
      | false => exact kept.toCalm.execute environment runner calls modifies flows touches
      | true =>
          cases instruction with
          | storageStore => exact kept.storageStore rfl fun _ _ _ => kept.updateWorld _
          | transientStore => exact kept.transientStore fun _ _ _ => kept.updateWorld _
          | log topics =>
              obtain rfl := touches rfl
              exact kept.log rfl _ _
          | create | create2 =>
              obtain rfl := touches rfl
              exact kept.create _
          | selfDestruct => exact kept.selfDestruct kept.change _
          | _ => cases modifies

end KeptBesideLedger

end LedgerEvm
