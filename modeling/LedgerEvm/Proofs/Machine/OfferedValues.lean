import LedgerEvm.Proofs.Ledger.Payers
import LedgerEvm.Proofs.Ledger.Slots
import LedgerEvm.Proofs.Machine.FrameInvariants
import LedgerEvm.Proofs.Machine.StartedFrames

namespace LedgerEvm

/-!
# Values that are offered

A frame sees a value as what its call has sent.  An instruction that starts a frame asks before
what the sender holds, whoever the target is.  The first frame of a transaction is only held up
by the payment, and a payment to oneself is none.
-/

open World (Covers OnlyWarmed)

namespace SimAction

variable
  {context : FrameContext}
  {simulation : Simulation}

/-! ## First frames -/

/-- A call of somebody else goes ahead only with a value that its caller holds. -/
theorem covers_of_opened?
    {opened : Simulation}
    (opens : opened? .call context simulation = some opened)
    (different : context.caller ≠ context.address) :
    simulation.world.Covers context.caller context.value := by
  obtain ⟨world, _, ⟨impossible, _⟩ | ⟨_, moved⟩⟩ := opened?_cases opens
  · exact (impossible rfl).elim
  · refine (World.covers_of_transfer moved different).congr ?_
    simp only [World.balance, (OnlyWarmed.push simulation.world).get_eq]

/-- A call of oneself goes ahead with any value. -/
theorem opened?_of_caller_eq
    (same : context.caller = context.address) :
    opened? .call context simulation =
      some { simulation with world := simulation.world.push } := by
  simp only [opened?, if_true, same, World.transfer_self]

/-- A contract of another address is created only with a value that its creator holds. -/
theorem covers_of_found
    {creator : Address}
    {context' : FrameContext}
    {founded : Simulation}
    (found : SimAction.found creator context simulation = .ok context' founded)
    (different : context'.caller ≠ context'.address) :
    simulation.world.Covers context'.caller context'.value := by
  obtain ⟨address, drawn, reached, counted, paid, draws, counts, moved, rfl, _⟩ :=
    exists_of_found found
  change creator ≠ address at different
  have sameDrawn : drawn.balance creator = simulation.world.balance creator := by
    rw [(World.of_newContractAddress draws).1]
    rfl
  have sameCounted : counted.balance creator = drawn.balance creator :=
    World.balance_updateAccount counts (fun _ => rfl) fun _ => rfl
  refine (World.covers_of_transfer moved different).congr ?_
  rw [← sameDrawn, ← sameCounted]
  have put := @World.get_createAccount_of_ne counted.push
    { Account.newContract address [] with nonce := 1 } creator different
  simp only [World.balance, put, (OnlyWarmed.push counted).get_eq]

end SimAction

namespace Exec

/-! ## Frames that are started -/

/-- The machine reaches the accounts that another one does, for the same call. -/
def SeesAccounts (start machine : Machine) : Prop :=
  machine.frame.context = start.frame.context ∧
    machine.simulation.world.get = start.simulation.world.get

theorem quiet_seesAccounts
    (start : Machine) :
    Quiet false (SeesAccounts start) where
  move moved sees := ⟨moved.context_eq.trans sees.1, sees.2⟩
  trace _ sees := sees
  touch touched sees := by
    cases touched with
    | warmAccount => exact ⟨sees.1, (OnlyWarmed.warmAccount _ _).get_eq.trans sees.2⟩
    | warmSlot => exact ⟨sees.1, (OnlyWarmed.warmSlot _ _ _).get_eq.trans sees.2⟩

theorem keeps_giveBack_seesAccounts
    (start : Machine)
    (gas : UInt64) :
    Keeps (SeesAccounts start) (giveBack gas) :=
  fun _ sees => sees

/-- A frame that checks what its account holds may start another one only with that. -/
theorem ensures_canStart
    (start : Machine)
    (limits : Limits)
    (value : Word)
    (checksBalance : Bool) :
    Ensures (SeesAccounts start) (canStart limits value checksBalance)
      (fun starts machine =>
        SeesAccounts start machine ∧
          (starts = true → checksBalance = true →
            start.simulation.world.Covers start.frame.context.address value))
      fun _ => SeesAccounts start := by
  refine Ensures.bind ensures_context fun context => ?_
  split
  · exact Ensures.pure fun _ sees => ⟨sees.1, nofun⟩
  · split
    · refine Ensures.bind ((ensures_ask _).imp_failed fun _ _ sees => sees.1) fun held => ?_
      refine Ensures.pure ?_
      rintro machine ⟨⟨sees, rfl⟩, read⟩
      refine ⟨sees, fun enough _ => .inr ⟨held, ?_, ?_⟩⟩
      · rw [← read, sees.1]
        simp only [World.balance, sees.2]
      · simpa using enough
    · rename_i unchecked
      exact Ensures.pure fun _ sees => ⟨sees.1, fun _ checked => (unchecked checked).elim⟩

/-- The frame that a call starts is offered a value that the calling account holds. -/
theorem yields_prepareCall_covered
    (environment : Environment)
    (kind : CallKind)
    (start : Machine) :
    Yields (SeesAccounts start) (prepareCall environment kind) fun launch? _ =>
      ∀ launch, launch? = some launch → kind ≠ .delegateCall →
        launch.context.caller = start.frame.context.address ∧
          start.simulation.world.Covers start.frame.context.address launch.context.value := by
  have quiet := quiet_seesAccounts start
  refine Yields.of_ensures (quiet.ensures_prepareCall (fun _ _ => trivial)
    (fun target => quiet.inspectCallee _ kind target)
    (fun operands _ => quiet.chargeValue kind operands.target) (fun _ sees => sees)
    (fun {operands} input output (_ : True) => ?_) fun _ _ _ impossible => by cases impossible)
  refine Ensures.bind keeps_frame fun frame => Ensures.bind (quiet.charge _) fun _ => ?_
  refine Ensures.bind (ensures_canStart start _ _ _) fun starts => ?_
  split
  · rename_i goesOn
    refine Ensures.of_fact fun covers => ?_
    refine Ensures.bind (keeps_readMemory _ _) fun data => ?_
    refine Ensures.bind ensures_context fun context => Ensures.pure ?_
    rintro machine ⟨sees, rfl⟩ launch launched direct
    cases launched
    have covered :
        kind.hasValue = true →
        start.simulation.world.Covers start.frame.context.address operands.value := by
      intro hasValue
      by_cases nothing : operands.value = 0
      · exact .inl nothing
      · exact covers goesOn (by simpa [CallOperands.movesValue, hasValue] using nothing)
    rw [sees.1]
    cases kind with
    | call | callCode => exact ⟨rfl, covered rfl⟩
    | delegateCall => exact (direct rfl).elim
    | staticCall => exact ⟨rfl, .inl rfl⟩
  · have gives :
        Keeps (SeesAccounts start) (giveBack (Gas.forwarded frame.gas operands.requested)) :=
      keeps_giveBack_seesAccounts start _
    refine Ensures.bind (gives.imp (fun _ sees => sees.1) (fun _ _ => id) fun _ _ => id)
      fun _ => ?_
    exact Ensures.pure fun _ _ _ impossible => by cases impossible

/-- The frame that a creation starts is offered a value that the creating account holds. -/
theorem yields_prepareCreation_covered
    (environment : Environment)
    (salted : Bool)
    (start : Machine) :
    Yields (SeesAccounts start) (prepareCreation environment salted) fun launch? _ =>
      ∀ launch, launch? = some launch →
        start.simulation.world.Covers start.frame.context.address launch.context.value := by
  have quiet := quiet_seesAccounts start
  refine Yields.of_ensures (quiet.ensures_prepareCreation fun value offset length => ?_)
  refine Ensures.bind (ensures_canStart start _ _ _) fun starts => ?_
  split
  · rename_i goesOn
    refine Ensures.of_fact fun covers => ?_
    refine Ensures.bind keeps_frame fun frame => Ensures.bind (quiet.charge _) fun _ => ?_
    refine Ensures.bind (keeps_readMemory _ _) fun initCode => ?_
    refine Ensures.bind ensures_context fun context => Ensures.pure ?_
    rintro machine _ launch launched
    cases launched
    exact covers goesOn rfl
  · exact Ensures.pure fun _ _ _ impossible => by cases impossible

/--
What an instruction offers to the frame that it starts is held by the account that offers it,
before the step.  Only a delegated call offers nothing of its own.
-/
theorem covers_of_launch?
    {environment : Environment}
    {machine : Machine}
    {launch : FrameLaunch}
    (found : launch? environment machine = some launch)
    (direct : machine.frame.instruction? environment.rules ≠ some .delegateCall) :
    launch.context.caller = machine.frame.context.address ∧
      machine.simulation.world.Covers machine.frame.context.address launch.context.value := by
  obtain ⟨instruction, place, gasBefore, ready, begun, found⟩ := exists_of_launch? found
  obtain ⟨fetched, frame, world⟩ := (yields_begin environment machine).of_ok begun rfl
  have sees : SeesAccounts machine ready := by
    refine ⟨?_, ?_⟩
    · rw [frame]
    · rw [world]
  cases instruction with
  | call | callCode | staticCall =>
      obtain ⟨prepared, paid, code, opened, prepares, _, rfl⟩ := exists_of_callLaunch? found
      exact
        (yields_prepareCall_covered environment _ machine).of_ok prepares sees prepared rfl nofun
  | delegateCall => exact (direct fetched).elim
  | create | create2 =>
      obtain ⟨prepared, paid, context, founded, prepares, founds, rfl⟩ :=
        exists_of_creationLaunch? found
      obtain ⟨address, same⟩ := SimAction.context_of_found founds
      have kept : SeesAccounts machine paid :=
        ((quiet_seesAccounts machine).prepareCreation environment _).of_ok prepares sees
      dsimp only
      rw [same]
      refine ⟨?_, ?_⟩
      · change paid.frame.context.address = _
        rw [kept.1]
      · exact
          (yields_prepareCreation_covered environment _ machine).of_ok prepares sees prepared rfl
  | _ => cases found

end Exec

namespace CallStack

variable
  {environment : Environment}
  {start stack : CallStack}
  {context : FrameContext}
  {world : World}

/-! ## Runs -/

/--
How the value that a frame sees has been offered, by who waits for the frame.  The first frame
has it from an account that held it, or that called itself.  Any other one has it from the
account of the frame that started it, which held it at that moment, unless it was delegated.
-/
def IsOffered (environment : Environment) (start : CallStack) (world : World) (frame : Frame) :
    List WaitingFrame → Prop
  | [] =>
      frame.context.caller = frame.context.address ∨
        world.Covers frame.context.caller frame.context.value
  | below :: waiting =>
      ∃ count starter launch,
        Leads (Moves environment) count start ⟨.running starter, waiting⟩ ∧
          Exec.launch? environment starter = some launch ∧
          launch.waiting = below ∧
          launch.IsServedBy frame ∧
          (starter.frame.instruction? environment.rules = some .delegateCall ∨
            frame.context.caller = starter.frame.context.address ∧
              starter.simulation.world.Covers frame.context.caller frame.context.value)

/-- A transaction that begins has marked accesses only. -/
theorem get_warmed
    (context : FrameContext)
    (isCreation : Bool)
    (world : World) :
    (Environment.warmed context isCreation world).get = world.get := by
  have origin := (OnlyWarmed.push world).trans (.warmAccount _ context.origin)
  unfold Environment.warmed
  cases isCreation with
  | true => exact origin.get_eq
  | false => exact (origin.trans (.warmAccount _ context.address)).get_eq

/-- The first frame has been offered what its caller holds, or is called by itself. -/
theorem Begins.exists_offered
    {trace : Trace}
    (begins : start.Begins environment context world trace) :
    ∃ first : Machine,
      start = ⟨.running first, []⟩ ∧
        (first.frame.context.caller = first.frame.context.address ∨
          world.Covers first.frame.context.caller first.frame.context.value) := by
  have unwarmed
      {isCreation : Bool}
      {payer : Address}
      {value : Word}
      (covers : (Environment.warmed context isCreation world).Covers payer value) :
      world.Covers payer value :=
    covers.congr (by simp only [World.balance, get_warmed])
  cases begins with
  | @call code opened launches =>
      obtain ⟨opened', opens, launches⟩ := Option.bind_eq_some_iff.mp launches
      refine ⟨_, rfl, ?_⟩
      by_cases same : context.caller = context.address
      · exact .inl same
      · exact .inr (unwarmed (SimAction.covers_of_opened? opens same))
  | @creation context' founded founds =>
      refine ⟨_, rfl, ?_⟩
      by_cases same : context'.caller = context'.address
      · exact .inl same
      · exact .inr (unwarmed (SimAction.covers_of_found founds same))

/--
In every run of a transaction the value that a frame sees was held by who has offered it, when
the frame was started: before the transaction, or before the instruction that started it.  The
one exception is a transaction whose target is its sender, be it called or created: nobody asks
what the sender holds, and a call of the sender goes ahead with any value.
-/
theorem values_are_covered_unless_sender_is_target
    {trace : Trace}
    {count : Nat}
    {machine : Machine}
    {waiting : List WaitingFrame}
    (begins : start.Begins environment context world trace)
    (leads : Leads (Moves environment) count start ⟨.running machine, waiting⟩) :
    IsOffered environment start world machine.frame waiting ∧
      (context.caller = context.address →
        ∀ value,
          SimAction.opened? .call { context with value }
              { world := Environment.warmed context false world, trace } =
            some { world := (Environment.warmed context false world).push, trace }) := by
  obtain ⟨first, shape, offered⟩ := begins.exists_offered
  have descends : Descends environment start machine.frame waiting :=
    hasDescent_of_leads shape leads
  refine ⟨?_, fun same value => SimAction.opened?_of_caller_eq same⟩
  cases descends with
  | first begins' serves =>
      cases shape.symm.trans begins'
      simp only [IsOffered, serves.1]
      exact offered
  | @started starter launch _ frame _ reached runs found serves below =>
      refine ⟨_, starter, launch, reached, found, rfl, serves, ?_⟩
      by_cases delegated : starter.frame.instruction? environment.rules = some .delegateCall
      · exact .inl delegated
      · right
        rw [serves.1]
        obtain ⟨caller, covers⟩ := Exec.covers_of_launch? found delegated
        exact ⟨caller, caller ▸ covers⟩

/-- A contract that holds five offers three of them to another one, which sees them. -/
theorem contract_offers_what_it_holds :
    let environment : Environment :=
      { rules := ⟨⟨0, 50, 0⟩, .cancun, ⟨true, true⟩, ⟨true, true⟩⟩
        prices := ⟨.empty, .empty, fun _ _ => 1⟩ }
    -- call the callee with three, which looks at the value
    let caller :=
      { Account.newContract (Address.ofNum 1001)
          [0x60, 0x00, 0x60, 0x00, 0x60, 0x00, 0x60, 0x00, 0x60, 0x03, 0x61, 0x03, 0xea, 0x5a,
            0xf1] with
        balance := 5 }
    let callee := Account.newContract (Address.ofNum 1002) [0x34]
    let contents : Snapshot.Contents :=
      { accounts := Table.ofList [(caller.address, caller), (callee.address, callee)] }
    let world := World.ofSnapshot (.ofContents contents) true ⟨0⟩ 5000
    let context :=
      FrameContext.ofTransaction (Address.ofNum 1003) caller.address 0 [] 100000 1 { }
    ∃ start count machine waiting,
      start.Begins environment context world Trace.off ∧
        Leads (Moves environment) count start ⟨.running machine, waiting⟩ ∧
        machine.frame.context.address = callee.address ∧
        machine.frame.context.value = 3 ∧
        IsOffered environment start world machine.frame waiting := by
  intro environment caller callee contents world context
  obtain ⟨start, count, machine, waiting, begins, leads, checked⟩ :=
    @exists_running_of_advance environment context world
      (fun machine _ =>
        decide
          (machine.frame.context.address = callee.address ∧ machine.frame.context.value = 3))
      8 (by decide +kernel)
  obtain ⟨address, value⟩ := of_decide_eq_true checked
  exact ⟨start, count, machine, waiting, begins, leads, address, value,
    (values_are_covered_unless_sender_is_target begins leads).1⟩

/-- A contract that holds nothing sends itself a transaction with a value of seven, and sees it. -/
theorem sender_offers_itself_what_it_lacks :
    let environment : Environment :=
      { rules := ⟨⟨0, 50, 0⟩, .cancun, ⟨true, true⟩, ⟨true, true⟩⟩
        prices := ⟨.empty, .empty, fun _ _ => 1⟩ }
    -- return the value
    let contract :=
      Account.newContract (Address.ofNum 1002)
        [0x34, 0x60, 0x00, 0x52, 0x60, 0x20, 0x60, 0x00, 0xf3]
    let contents : Snapshot.Contents :=
      { accounts := Table.ofList [(contract.address, contract)] }
    let world := World.ofSnapshot (.ofContents contents) true ⟨0⟩ 5000
    let context :=
      FrameContext.ofTransaction contract.address contract.address 7 [] 100000 1 { }
    (environment.transact context false world Trace.off).map
          (fun result => (result.success, result.output)) =
        .ok (true, Bytes.ofNat 32 7) ∧
      world.balance contract.address = .ok 0 ∧ ¬ world.Covers contract.address 7 := by
  intro environment contract contents world context
  have held : world.balance contract.address = .ok 0 := by decide +kernel
  refine ⟨by decide +kernel, held, ?_⟩
  rintro (impossible | ⟨balance, read, enough⟩)
  · cases impossible
  · cases held.symm.trans read
    exact absurd enough (by decide)

end CallStack

end LedgerEvm
