import LedgerEvm.Machine.Transact
import LedgerEvm.Proofs.Machine.Calls
import LedgerEvm.Proofs.TokenService.Calls

namespace LedgerEvm

/-!
# How a run changes the world

Whatever code is run, and however it ends, the world evolves by moves and frames; a
static frame only marks what it accesses.  The proof follows the code: answers without
code, frames around calls and creations, single instructions, and last the run itself by
induction on its bound.
-/

open World (Move Evolves)

namespace World

variable (world : World)

theorem Move.of_static
    {isStatic : Bool}
    {world after : World}
    (move : Move true world after) :
    Move isStatic world after := by
  cases move with
  | warmAccount => exact .warmAccount _ _ _
  | warmSlot => exact .warmSlot _ _ _ _

/-- What stands against a self-destruction does not depend on what was accessed. -/
theorem objectionToSelfDestruct?_warmAccount
    (accessed : Address)
    (rule : SelfDestructRule)
    (contract beneficiary : Address) :
    (world.warmAccount accessed).objectionToSelfDestruct? rule contract beneficiary =
      world.objectionToSelfDestruct? rule contract beneficiary := by
  have get : ∀ address, (world.warmAccount accessed).get address = world.get address :=
    fun address => get_record world address (fun _ => rfl) fun _ => rfl
  have entry :
      ∀ address, (world.warmAccount accessed).accountEntry address =
        world.accountEntry address :=
    fun address => accountEntry_record world address fun _ => rfl
  have created :
      ∀ address,
        (world.warmAccount accessed).isCreated address = world.isCreated address :=
    fun address => isCreated_record world address fun _ => rfl
  simp only [objectionToSelfDestruct?, objectionToDeletion?, answersAt, reaches,
    isTokenTreasury, hasTokenBalance, ownsNfts, get, entry, created]

end World

/-! ## Frames -/

/-- The world has evolved from a starting point. -/
def Simulation.Evolved (isStatic : Bool) (start : World) (simulation : Simulation) : Prop :=
  Evolves isStatic start simulation.world

namespace SimAction

variable {α : Type} {invariant : Simulation → Prop}

theorem keeps_ask
    (question : World → Except StateError α) :
    Keeps invariant (ask question) := by
  intro simulation holds
  unfold ask
  cases question simulation.world <;> exact holds

theorem keeps_answered
    (result : Except PrecompileError (UInt64 × Bytes))
    (gasLimit : UInt64) :
    Keeps invariant (answered result gasLimit) := by
  unfold answered
  split
  · exact Keeps.pure _
  · split
    · exact Keeps.pure _
    · split
      · exact Keeps.throw _
      · exact Keeps.pure _

/-- A change keeps what every successful change of the world keeps. -/
theorem keeps_change
    {update : World → Except VmError (α × World)}
    (keeps : ∀ {simulation : Simulation} {after : World} {answer : α},
      invariant simulation →
      update simulation.world = .ok (answer, after) →
      invariant { simulation with world := after }) :
    Keeps invariant (change update) := by
  intro simulation holds
  unfold change
  cases result : update simulation.world with
  | ok answer => exact keeps holds result
  | error error => exact holds

/-- What an action of the token service keeps of the world, its attempt keeps. -/
theorem keeps_attempt
    {invariant : World → Prop}
    {action : TokenAction α}
    (keeps : Keeps invariant action) :
    Keeps (fun simulation => invariant simulation.world) (attempt action) := by
  intro simulation holds
  have reached := keeps simulation.world holds
  unfold attempt
  cases result : action simulation.world with
  | ok answer world =>
      rw [result] at reached
      exact reached
  | error error world =>
      rw [result] at reached
      exact reached

/-- A frame around an action that evolves every world of which a fact holds. -/
theorem keepsGiven_framed
    {isStatic : Bool}
    (fact : World → Prop)
    (keeps : α → Bool)
    {action : SimAction α}
    (evolves : ∀ start : World,
      KeepsGiven (fun simulation => fact simulation.world)
        (Simulation.Evolved isStatic start) action)
    (pushed : ∀ world : World, fact world → fact world.push)
    (start : World) :
    KeepsGiven (fun simulation => fact simulation.world)
      (Simulation.Evolved isStatic start) (framed keeps action) := by
  intro simulation holds
  obtain ⟨evolved, known⟩ := holds
  have inside :=
    evolves simulation.world.push { simulation with world := simulation.world.push }
      ⟨Evolves.refl simulation.world.push, pushed _ known⟩
  unfold framed
  cases result : action { simulation with world := simulation.world.push } with
  | ok answer inner =>
      rw [result] at inside
      dsimp only
      cases keeps answer with
      | true => exact evolved.kept inside
      | false => exact evolved.dropped inside
  | error error inner =>
      rw [result] at inside
      exact evolved.dropped inside

/-- A frame around an action that evolves every world. -/
theorem keeps_framed
    {isStatic : Bool}
    (keeps : α → Bool)
    {action : SimAction α}
    (evolves : ∀ start : World, Keeps (Simulation.Evolved isStatic start) action)
    (start : World) :
    Keeps (Simulation.Evolved isStatic start) (framed keeps action) := by
  have given :=
    keepsGiven_framed (fun _ => True) keeps
      (fun start => KeepsGiven.of_keeps (evolves start)) (fun _ => id) start
  exact given.imp (fun _ evolved => ⟨evolved, trivial⟩) (fun _ _ => id) fun _ _ => id

/-- Whoever answers a call keeps what dispatched calls and the code of contracts keep. -/
theorem keeps_runTarget_of_answers
    {environment : Environment}
    {runner : Runner}
    {context : FrameContext}
    (answers :
      ∀ dispatched : DispatchedCall,
        dispatched.call.isStatic = context.isStatic →
        Keeps invariant (attempt dispatched.answer))
    (runs : ∀ code : Bytes, Keeps invariant (runner context code)) :
    Keeps invariant (runTarget environment runner context) := by
  let call : SystemCall :=
    { sender := context.caller
      timestamp := context.block.timestamp
      gasLimit := context.gasLimit
      isStatic := context.isStatic }
  let prices := environment.prices
  unfold runTarget
  dsimp only
  split
  · exact keeps_answered _ _
  · split
    · exact (answers ⟨call, prices, none, context.data⟩ rfl).bind fun _ => keeps_answered _ _
    · split
      · exact keeps_answered _ _
      · split
        · exact keeps_answered _ _
        · refine (keeps_ask _).bind fun isToken => ?_
          split
          · exact (answers ⟨call, prices, some context.codeAddress, context.data⟩ rfl).bind
              fun _ => keeps_answered _ _
          · refine (keeps_ask _).bind fun code => ?_
            split
            · exact Keeps.pure _
            · exact runs code

/-- What the move of the value and what follows it keep. -/
theorem keeps_withTransfer
    {invariant : World → Prop}
    {context : FrameContext}
    {target : Address}
    {next : SimAction Outcome}
    (moves : ∀ {world after : World},
      invariant world →
      world.transfer context.caller target context.value = .ok after →
      invariant after)
    (keeps : Keeps (fun simulation => invariant simulation.world) next) :
    Keeps (fun simulation => invariant simulation.world) (withTransfer context target next) := by
  intro simulation holds
  unfold withTransfer
  cases moved : simulation.world.transfer context.caller target context.value with
  | ok world =>
      exact keeps { simulation with world } (moves holds moved)
  | error error =>
      dsimp only
      cases error.isAbort <;> exact holds

/-- Moving a value is one move, and none where no value is given. -/
theorem evolves_transfer
    {isStatic : Bool}
    {start world after : World}
    {source target : Address}
    {value : Word}
    (mayMove : isStatic = true → value = 0)
    (evolves : Evolves isStatic start world)
    (moved : world.transfer source target value = .ok after) :
    Evolves isStatic start after := by
  cases isStatic with
  | false => exact evolves.move (.transfer moved)
  | true =>
      simp only [World.transfer, mayMove rfl, true_or, if_true] at moved
      cases moved
      exact evolves

/-- Where an address is found it is free, and what drawing numbers keeps is kept. -/
theorem ensures_freshAddress
    (invariant : World → Prop)
    (draw : ∀ {world : World}, invariant world → invariant world.draw)
    (creator : Address) :
    Ensures (fun simulation => invariant simulation.world) (freshAddress creator)
      (fun address simulation =>
        invariant simulation.world ∧ simulation.world.isFree address = .ok true)
      (fun _ simulation => invariant simulation.world) := by
  intro simulation holds
  unfold freshAddress
  cases draws : simulation.world.newContractAddress creator with
  | mk answer drawn =>
      have kept := World.holds_newContractAddress invariant draw draws holds
      cases answer with
      | error error => exact kept
      | ok address => exact ⟨kept, (World.of_newContractAddress draws).2⟩

/-- Counting a creation does not occupy a free address. -/
theorem keeps_countNonce
    {invariant : World → Prop}
    {creator : Address}
    (counts : ∀ {world after : World} {reached : Bool},
      world.updateAccount creator
          (fun account => { account with nonce := account.nonce.addClamp 1 }) =
        .ok (reached, after) →
      invariant world →
      invariant after)
    (address : Address) :
    Keeps
      (fun simulation =>
        invariant simulation.world ∧ simulation.world.isFree address = .ok true)
      (countNonce creator) := by
  refine keeps_change fun ⟨holds, free⟩ result => ?_
  obtain ⟨⟨reached, counted⟩, found, done⟩ := exists_of_bind_eq_ok result
  cases done
  have counted := World.eq_ok_of_lookUp found
  exact ⟨counts counted holds, World.isFree_updateAccount free counted⟩

/-- Deploying code changes the account that is given it, or nothing. -/
theorem keeps_deployOutput
    {invariant : World → Prop}
    {address : Address}
    (deploys : ∀ {world after : World} {code : Bytes} {reached : Bool},
      world.updateAccount address (fun account => { account with code }) =
        .ok (reached, after) →
      invariant world →
      invariant after)
    (limits : Limits)
    (outcome : Outcome) :
    Keeps (fun simulation => invariant simulation.world)
      (deployOutput limits address outcome) := by
  intro simulation holds
  unfold deployOutput
  cases deployed : deploy limits address outcome.output outcome.gas simulation.world with
  | error error =>
      dsimp only
      cases error.isAbort <;> exact holds
  | ok result =>
      obtain ⟨_, _, _, _, reached, updated⟩ := deploy_cases deployed
      exact deploys updated holds

end SimAction

/-- A runner that evolves the world, and in static frames only marks what it accesses. -/
def Runner.Evolving (runner : Runner) : Prop :=
  ∀ ⦃isStatic : Bool⦄ ⦃context : FrameContext⦄ (code : Bytes) (start : World),
    (isStatic = true → context.isStatic = true) →
    Keeps (Simulation.Evolved isStatic start) (runner context code)

namespace SimAction

variable
  {environment : Environment}
  {runner : Runner}
  (evolving : runner.Evolving)
include evolving

/-- Whoever answers a call evolves the world, in a static frame as static. -/
theorem keeps_runTarget
    {isStatic : Bool}
    {context : FrameContext}
    (static : isStatic = true → context.isStatic = true)
    (start : World) :
    Keeps (Simulation.Evolved isStatic start) (runTarget environment runner context) := by
  refine keeps_runTarget_of_answers (fun dispatched same => ?_) fun code =>
    evolving code start static
  exact keeps_attempt (dispatched.evolves_answer start fun inStatic => same.trans (static inStatic))

/-- What is done in the frame of a call. -/
theorem keeps_sent
    {isStatic : Bool}
    {kind : CallKind}
    {context : FrameContext}
    (static : isStatic = true → context.isStatic = true)
    (mayMove : isStatic = true → kind = .call → context.value = 0)
    (start : World) :
    Keeps (Simulation.Evolved isStatic start)
      (if kind = .call then
        withTransfer context context.address (runTarget environment runner context)
      else
        runTarget environment runner context) := by
  have answers :
      Keeps (Simulation.Evolved isStatic start) (runTarget environment runner context) :=
    keeps_runTarget evolving static start
  split
  · rename_i isCall
    exact keeps_withTransfer (evolves_transfer fun inStatic => mayMove inStatic isCall) answers
  · exact answers

/-- A call evolves the world, from a static frame that sends nothing along as static. -/
theorem keeps_messageCall
    {isStatic : Bool}
    {kind : CallKind}
    {context : FrameContext}
    (static : isStatic = true → context.isStatic = true)
    (mayMove : isStatic = true → kind = .call → context.value = 0)
    (start : World) :
    Keeps (Simulation.Evolved isStatic start)
      (messageCall environment runner kind context) :=
  keeps_framed _ (keeps_sent evolving static mayMove) start

/-! ## Creations -/

/-- What is done in the frame of a creation, at an address that is free. -/
theorem keepsGiven_founded
    (address : Address)
    (context : FrameContext)
    (initCode : Bytes)
    (start : World) :
    KeepsGiven (fun simulation => simulation.world.isFree address = .ok true)
      (Simulation.Evolved false start)
      (do
        putNewContract address
        withTransfer context address do
          let outcome ← runner context initCode
          if outcome.isSuccess then
            deployOutput environment.limits address outcome
          else
            return outcome) := by
  refine KeepsGiven.bind_used ?_ fun _ => ?_
  · intro simulation holds
    exact holds.1.move (.newContract holds.2)
  · refine keeps_withTransfer (evolves_transfer fun inStatic => by cases inStatic) ?_
    refine (evolving initCode start fun inStatic => by cases inStatic).bind
      fun outcome => ?_
    split
    · exact keeps_deployOutput (fun deployed evolves => evolves.move (.deploy deployed)) _ _
    · exact Keeps.pure _

/-- A creation evolves the world. -/
theorem keeps_createContract
    (creator : Address)
    (context : FrameContext)
    (initCode : Bytes)
    (start : World) :
    Keeps (Simulation.Evolved false start)
      (createContract environment runner creator context initCode) := by
  refine Ensures.bind
    (ensures_freshAddress (Evolves false start) (fun evolves => evolves.move (.draw _)) creator)
    fun address => ?_
  refine KeepsGiven.bind
    (keeps_countNonce (fun counted evolves => evolves.move (.countNonce counted)) address)
    fun _ => ?_
  exact keepsGiven_framed (fun world => world.isFree address = .ok true) _
    (keepsGiven_founded evolving address _ initCode)
    (fun world free => (World.isFree_push address).trans free) start

end SimAction

/-! ## Instructions -/

/-- The world has evolved from a starting point, in a static frame as static. -/
def Machine.Evolved (isStatic : Bool) (start : World) (machine : Machine) : Prop :=
  machine.simulation.Evolved isStatic start ∧
    (isStatic = true → machine.frame.context.isStatic = true)

namespace Exec

variable {isStatic : Bool} {start : World}

theorem quiet_evolved
    (isStatic : Bool)
    (start : World) :
    Quiet false (Machine.Evolved isStatic start) where
  move move holds := by
    refine ⟨holds.1, fun inStatic => ?_⟩
    rw [move.context_eq]
    exact holds.2 inStatic
  trace _ holds := holds
  touch move holds := ⟨holds.1.move move.of_static, holds.2⟩

/-- What evolves the world in a simulation does so in a frame. -/
theorem keeps_onSimulation_evolved
    {α : Type}
    {action : SimAction α}
    (evolves : Keeps (Simulation.Evolved isStatic start) action) :
    Keeps (Machine.Evolved isStatic start) (onSimulation action) :=
  keeps_onSimulation fun frame =>
    Ensures.and evolves
      (Keeps.fact (isStatic = true → frame.context.isStatic = true) action)

theorem keeps_giveBack
    (gas : UInt64) :
    Keeps (Machine.Evolved isStatic start) (giveBack gas) :=
  fun _ holds => holds

/--
The context of a frame that may be called: static from a static frame, and then without
value.
-/
def MayCall (isStatic : Bool) (kind : CallKind) (context : FrameContext) : Prop :=
  (isStatic = true → context.isStatic = true) ∧
    (isStatic = true → kind = .call → context.value = 0)

/-- A call that is launched is one that may be made. -/
theorem ensures_launchCall
    {kind : CallKind}
    {operands : CallOperands}
    (noValue : isStatic = true → kind = .call → operands.value = 0)
    (limits : Limits)
    (input output : Nat × Nat) :
    Ensures (Machine.Evolved isStatic start)
      (launchCall limits kind operands input output)
      (fun launch? machine =>
        machine.Evolved isStatic start ∧
          ∀ launch, launch? = some launch → MayCall isStatic kind launch.context)
      (fun _ => Machine.Evolved isStatic start) := by
  have quiet := quiet_evolved isStatic start
  refine Ensures.bind keeps_frame fun frame => ?_
  refine Ensures.bind (quiet.charge _) fun _ => ?_
  refine Ensures.bind (Quiet.canStart _ _ _) fun starts => ?_
  split
  · refine Ensures.bind (keeps_readMemory _ _) fun data => ?_
    refine Ensures.bind ensures_context fun context => ?_
    refine Ensures.pure ?_
    rintro machine ⟨holds, rfl⟩
    refine ⟨holds, ?_⟩
    rintro launch ⟨⟩
    refine ⟨fun inStatic => ?_, fun inStatic isCall => ?_⟩
    · exact FrameContext.isStatic_child (holds.2 inStatic) _ _ _ _ _
    · subst isCall
      exact noValue inStatic rfl
  · refine Ensures.bind (keeps_giveBack _) fun _ => ?_
    refine Ensures.pure fun machine holds => ⟨holds, ?_⟩
    rintro launch ⟨⟩

/-- What is prepared is a call that may be made. -/
theorem ensures_prepareCall_evolved
    (environment : Environment)
    (kind : CallKind) :
    Ensures (Machine.Evolved isStatic start) (prepareCall environment kind)
      (fun launch? machine =>
        machine.Evolved isStatic start ∧
          ∀ launch, launch? = some launch → MayCall isStatic kind launch.context)
      (fun _ => Machine.Evolved isStatic start) := by
  have quiet := quiet_evolved isStatic start
  refine quiet.ensures_prepareCall
    (fun holds noValue inStatic => noValue (holds.2 inStatic))
    (fun target => quiet.inspectCallee _ kind target)
    (fun operands _ => quiet.chargeValue kind operands.target) (fun _ holds => holds)
    (fun input output noValue => ensures_launchCall noValue _ _ _) fun machine holds => ?_
  exact ⟨holds, fun launch impossible => by cases impossible⟩

section

variable
  {environment : Environment}
  {runner : Runner}
  (evolving : runner.Evolving)
include evolving

/-- A call evolves the world. -/
theorem keeps_call
    (kind : CallKind) :
    Keeps (Machine.Evolved isStatic start) (call environment runner kind) := by
  have quiet := quiet_evolved isStatic start
  refine Ensures.bind (ensures_prepareCall_evolved environment kind) fun launch? => ?_
  refine Ensures.of_fact fun launched => ?_
  cases launch? with
  | none =>
      exact quiet.push 0
  | some launch =>
      obtain ⟨static, noValue⟩ := launched launch rfl
      refine Keeps.bind (keeps_onSimulation_evolved ?_) fun outcome => ?_
      · exact SimAction.keeps_messageCall evolving static noValue start
      · exact quiet.ensures_takeOutcome nofun (keeps_giveBack _) _ _

/-- A creation evolves the world. -/
theorem keeps_create
    (salted : Bool) :
    Keeps (Machine.Evolved false start) (create environment runner salted) := by
  have quiet := quiet_evolved false start
  refine (quiet.prepareCreation environment salted).bind fun launch? => ?_
  cases launch? with
  | none =>
      exact quiet.push 0
  | some launch =>
      refine keeps_context.bind fun context => ?_
      refine Keeps.bind (keeps_onSimulation_evolved ?_) fun outcome => ?_
      · exact SimAction.keeps_createContract evolving _ _ _ start
      · exact quiet.ensures_takeCreation nofun (keeps_giveBack _)

end

/-! ## Self-destruction -/

/-- Nothing stands against a self-destruction in the world as it is. -/
def Unopposed
    (rule : SelfDestructRule)
    (contract beneficiary : Address)
    (machine : Machine) : Prop :=
  machine.simulation.world.objectionToSelfDestruct? rule contract beneficiary = .ok none

/-- The world after a contract's balance has been swept, together with how it came about. -/
def Swept
    (invariant : World → Prop)
    (rule : SelfDestructRule)
    (contract beneficiary : Address)
    (machine : Machine) : Prop :=
  ∃ world balance,
    invariant world ∧
      world.objectionToSelfDestruct? rule contract beneficiary = .ok none ∧
      world.balance contract = .ok balance ∧
      world.transfer contract beneficiary balance = .ok machine.simulation.world

/--
A property of worlds that is kept when a contract is swept and when it is destroyed under a
rule.
-/
structure KeptByDestruction (rule : SelfDestructRule) (invariant : World → Prop) : Prop where
  transfer :
    ∀ {world after : World} {source target : Address} {value : Word},
      invariant world →
      world.transfer source target value = .ok after →
      invariant after
  destroy :
    ∀ {world emptied after : World} {contract beneficiary : Address} {balance : Word},
      invariant world →
      world.objectionToSelfDestruct? rule contract beneficiary = .ok none →
      world.balance contract = .ok balance →
      world.transfer contract beneficiary balance = .ok emptied →
      (rule.sparesOldContracts = true → emptied.isCreated contract = true) →
      emptied.deleteAccount contract = .ok after →
      invariant after

section

variable
  {rule : SelfDestructRule}
  {invariant : World → Prop}
  (kept : KeptByDestruction rule invariant)
include kept

/-- The property holds after a sweep. -/
theorem Swept.holds
    {contract beneficiary : Address}
    {machine : Machine}
    (swept : Swept invariant rule contract beneficiary machine) :
    invariant machine.simulation.world := by
  obtain ⟨world, balance, before, _, _, moved⟩ := swept
  exact kept.transfer before moved

omit kept in
/-- The sweep of a balance that was read in a world where nothing stands against it. -/
theorem ensures_sweep
    (rule : SelfDestructRule)
    (contract beneficiary : Address)
    (balance : Word) :
    Ensures
      (fun machine =>
        (invariant machine.simulation.world ∧ Unopposed rule contract beneficiary machine) ∧
          machine.simulation.world.balance contract = .ok balance)
      (onSimulation (SimAction.change fun world => do
        return ((), ← world.transfer contract beneficiary balance)))
      (fun _ => Swept invariant rule contract beneficiary)
      (fun _ machine => invariant machine.simulation.world) := by
  intro ⟨frame, simulation⟩ ⟨⟨before, unopposed⟩, held⟩
  simp only [onSimulation, SimAction.change]
  cases moved : simulation.world.transfer contract beneficiary balance with
  | ok emptied => exact ⟨simulation.world, balance, before, unopposed, held, moved⟩
  | error error => exact before

/-- Deleting a contract after the sweep completes its destruction. -/
theorem ensures_delete
    {contract beneficiary : Address}
    {isCreated : Bool}
    (doomed : (!rule.sparesOldContracts || isCreated) = true) :
    Ensures
      (fun machine =>
        Swept invariant rule contract beneficiary machine ∧
          Except.ok (machine.simulation.world.isCreated contract) =
            (Except.ok isCreated : Except StateError Bool))
      (onSimulation (SimAction.change fun world =>
        match world.deleteAccount contract with
        | .ok changed => .ok ((), changed)
        | .error error => .error (.state error)))
      (fun _ machine => invariant machine.simulation.world)
      (fun _ machine => invariant machine.simulation.world) := by
  intro ⟨frame, simulation⟩ ⟨swept, created⟩
  have after := swept.holds kept
  obtain ⟨world, balance, before, unopposed, held, moved⟩ := swept
  simp only [onSimulation, SimAction.change]
  cases deleted : simulation.world.deleteAccount contract with
  | error error => exact after
  | ok changed =>
      refine kept.destroy before unopposed held moved ?_ deleted
      intro spares
      cases created
      simpa [spares] using doomed

/-- Self-destruction keeps what a sweep and a destruction keep. -/
theorem keeps_selfDestruct
    (quiet : Quiet false fun machine => invariant machine.simulation.world) :
    Keeps (fun machine => invariant machine.simulation.world) (selfDestruct rule) := by
  refine keeps_context.bind fun context => ?_
  refine quiet.popAddress.bind fun beneficiary => ?_
  refine Ensures.bind (ensures_ask _) fun objection? => ?_
  cases objection? with
  | some reason =>
      exact fun machine holds => holds.1
  | none =>
      have goesOn :
          Keeps
            (fun machine =>
              invariant machine.simulation.world ∧
                Unopposed rule context.address beneficiary machine)
            (updateWorld fun world => world.warmAccount beneficiary) := by
        rintro ⟨frame, simulation⟩ ⟨before, unopposed⟩
        refine ⟨@Calm.touch _ _ _ _ quiet.toCalm frame simulation _ (.warmAccount _ _ _) before, ?_⟩
        exact (World.objectionToSelfDestruct?_warmAccount _ _ _ _ _).trans unopposed
      change KeepsGiven (Unopposed rule context.address beneficiary)
        (fun machine => invariant machine.simulation.world) _
      refine KeepsGiven.bind (keeps_ask _) fun wasWarm => ?_
      refine KeepsGiven.bind goesOn fun _ => ?_
      refine Ensures.bind ((ensures_ask _).imp_failed fun _ _ holds => holds.1)
        fun balance => ?_
      refine Ensures.bind ((keeps_ask _).imp_failed fun _ _ holds => holds.1.1)
        fun beneficiaryAccount => ?_
      refine Ensures.bind
        ((keeps_charge (fun _ holds => holds) _).imp_failed fun _ _ holds => holds.1.1)
        fun _ => ?_
      refine Ensures.bind (ensures_sweep rule _ _ balance) fun _ => ?_
      refine Ensures.bind
        ((ensures_ask _).imp_failed fun _ _ swept => swept.holds kept)
        fun isCreated => ?_
      dsimp only
      split
      · rename_i doomed
        exact Ensures.bind (ensures_delete kept doomed) fun _ => quiet.finish _
      · exact
          (quiet.finish _).imp (fun _ swept => swept.1.holds kept) (fun _ _ => id)
            fun _ _ => id

end

/-- A destruction is one move. -/
theorem keptByDestruction_evolves
    (rule : SelfDestructRule)
    (start : World) :
    KeptByDestruction rule (Evolves false start) where
  transfer evolved moved := evolved.move (.transfer moved)
  destroy evolved unopposed held moved doomed deleted :=
    evolved.move (.destroy unopposed held moved doomed deleted)

/-- Every instruction evolves the world. -/
theorem keptByInstructions_evolved
    {environment : Environment}
    {runner : Runner}
    (evolving : runner.Evolving)
    (isStatic : Bool)
    (start : World) :
    KeptByInstructions environment runner isStatic (Machine.Evolved isStatic start) where
  toQuiet := (quiet_evolved isStatic start).restrict isStatic
  static holds := holds.2
  count holds := holds
  setStorage mayWrite _ _ address key value holds := by
    subst mayWrite
    exact ⟨holds.1.move (.setStorage _ address key value), holds.2⟩
  setTransient mayWrite _ _ address key value holds := by
    subst mayWrite
    exact ⟨holds.1.move (.setTransient _ address key value), holds.2⟩
  selfDestruct mayWrite := by
    subst mayWrite
    have quiet : Quiet false fun machine => Evolves false start machine.simulation.world :=
      { move := fun _ evolved => evolved
        trace := fun _ evolved => evolved
        touch := fun move evolved => evolved.move move.of_static }
    refine (keeps_selfDestruct (keptByDestruction_evolves _ start) quiet).imp
      (fun _ evolved => evolved.1) (fun _ _ evolved => ?_) fun _ _ evolved => ?_
    · exact ⟨evolved, fun inStatic => by cases inStatic⟩
    · exact ⟨evolved, fun inStatic => by cases inStatic⟩
  create mayWrite salted := by
    subst mayWrite
    exact keeps_create evolving salted
  call kind := keeps_call evolving kind

end Exec

/-! ## Runs -/

namespace Frame

theorem keeps_failWith
    {invariant : Simulation → Prop}
    (traced : ∀ {simulation : Simulation} (trace : Trace),
      invariant simulation → invariant { simulation with trace })
    (error : VmError)
    (gas : UInt64) :
    Keeps invariant (failWith error gas) := by
  intro simulation holds
  unfold failWith
  by_cases aborts : error.isAbort
  · simp only [aborts, if_true]
    exact holds
  · simp only [aborts]
    exact traced _ holds

/-- However long a frame runs, the world evolves. -/
theorem keeps_run
    (environment : Environment)
    {isStatic : Bool}
    (start : World)
    (fuel : Nat)
    {frame : Frame}
    (static : isStatic = true → frame.context.isStatic = true) :
    Keeps (Simulation.Evolved isStatic start) (run environment fuel frame) := by
  -- the bound of a frame also bounds the frames it starts, so one hypothesis serves both
  induction fuel generalizing isStatic start frame with
  | zero =>
      exact Keeps.throw _
  | succ fuel inductionHypothesis =>
      have evolving : (environment.runnerWithin fun _ => fuel).Evolving :=
        fun _ _ _ start static => inductionHypothesis start static
      have kept :
          KeptByInstructions environment (environment.runnerWithin fun _ => fuel) isStatic
            (Machine.Evolved isStatic start) :=
        Exec.keptByInstructions_evolved evolving isStatic start
      have ran :=
        ensures_run_succ (fun _ _ holds => holds.1) kept.step
          (fun frame simulation holds =>
            inductionHypothesis start holds.2 simulation holds.1)
          (fun error frame simulation holds =>
            keeps_failWith (fun _ => id) error frame.gas simulation holds.1)
          frame
      exact fun simulation evolved => ran simulation ⟨evolved, static⟩

end Frame

namespace Environment

/-- Whatever bound is set, code that is run evolves the world. -/
theorem evolving_runnerWithin
    (environment : Environment)
    (bound : FrameContext → Nat) :
    (environment.runnerWithin bound).Evolving :=
  fun _ _ _ start static => Frame.keeps_run environment start _ static

variable
  (environment : Environment)
  (bound : FrameContext → Nat)
  (context : FrameContext)
  (start : World)

theorem keeps_messageCall
    (kind : CallKind) :
    Keeps (Simulation.Evolved false start)
      (SimAction.messageCall environment (environment.runnerWithin bound) kind context) :=
  SimAction.keeps_messageCall (environment.evolving_runnerWithin bound)
    (fun inStatic => Bool.noConfusion inStatic)
    (fun inStatic => Bool.noConfusion inStatic) start

theorem keeps_createContract
    (creator : Address)
    (initCode : Bytes) :
    Keeps (Simulation.Evolved false start)
      (SimAction.createContract environment (environment.runnerWithin bound) creator context
        initCode) :=
  SimAction.keeps_createContract (environment.evolving_runnerWithin bound) creator context
    initCode start

end Environment

end LedgerEvm
