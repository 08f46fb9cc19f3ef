import LedgerEvm.Proofs.Machine.Ties
import LedgerEvm.Proofs.TokenService.ForeignHoldings

namespace LedgerEvm

/-!
# Dispatched calls of a frame

A call of a frame that is dispatched to the token service or to a token is answered on
behalf of the frame's address; only a delegated call is answered on behalf of the frame's
own caller.  Whatever code runs at an address, no other call takes from another account what
that has not allowed the address, but what is carried out for every sender.
-/

open World (IsAboutEntries SameBelow SameEntries)

namespace DispatchedCall

/-- A dispatched call writes to the innermost journal only. -/
theorem sameBelow_answer
    (dispatched : DispatchedCall)
    (world : World) :
    SameBelow world (leaves dispatched.answer world) := by
  refine (dispatched.ensures_answer (.refl world) (fun _ => .refl world)
    fun body member => ?_).holds_leaves rfl
  intro start same
  subst start
  have below := TokenAction.keeps_run_sameBelow world.push body dispatched.call.sender
  unfold TokenAction.framed
  cases ran : TokenAction.run body dispatched.call.sender world.push with
  | ok answer inner => exact (below.of_ok ran (.refl _)).commit
  | error error inner => exact (below.of_error ran (.refl _)).revert

end DispatchedCall

namespace SimAction

variable
  {environment : Environment}
  {kind : CallKind}
  {context : FrameContext}
  {dispatched : DispatchedCall}

/-- Where a call is dispatched, its target answers with the dispatched call. -/
theorem runTarget_of_dispatched?
    {simulation : Simulation}
    (found : dispatched? environment context simulation.world = some dispatched)
    (runner : Runner) :
    runTarget environment runner context simulation =
      (attempt dispatched.answer >>= fun answer => answeredBy answer context.gasLimit)
        simulation := by
  unfold dispatched? at found
  dsimp only at found
  cases contract : FixedContract.at? context.codeAddress with
  | some contract' =>
      simp [contract] at found
  | none =>
      simp only [contract, Option.isSome_none, Bool.false_eq_true, if_false] at found
      by_cases service : context.codeAddress = Address.tokenService
      · rw [if_pos service] at found
        cases found
        simp only [runTarget, contract, if_pos service]
        rfl
      · rw [if_neg service] at found
        split at found
        · cases found
        · rename_i noFixed
          split at found
          · rename_i isToken
            cases found
            have asked :
                ask (fun world => isTokenCall world context.codeAddress) simulation =
                  .ok true simulation := by
              simp only [ask, isToken]
            simp only [runTarget, contract, if_neg service,
              if_neg fun rate => noFixed (.inl rate), if_neg fun seed => noFixed (.inr seed)]
            rw [bind_eq_of_ok asked]
            rfl
          · cases found

/-- What the target of a dispatched call leaves is what the dispatched call leaves. -/
theorem world_runTarget_of_dispatched?
    {simulation : Simulation}
    (found : dispatched? environment context simulation.world = some dispatched)
    (runner : Runner) :
    (leaves (runTarget environment runner context) simulation).world =
      leaves dispatched.answer simulation.world := by
  have answered (result : Except PrecompileError SystemAnswer) (after : Simulation) :
      leaves (answeredBy result context.gasLimit) after = after :=
    (keeps_answered _ _ : Keeps (· = after) _).holds_leaves rfl
  have same := runTarget_of_dispatched? found runner
  cases ran : dispatched.answer simulation.world with
  | ok answer world =>
      have attempted :
          attempt dispatched.answer simulation = .ok (.ok answer) { simulation with world } := by
        simp only [attempt, ran]
      rw [bind_eq_of_ok attempted] at same
      have left := congrArg Simulation.world (answered (.ok answer) { simulation with world })
      simpa only [leaves, same, ran] using left
  | error error world =>
      have attempted :
          attempt dispatched.answer simulation =
            .ok (.error error) { simulation with world } := by
        simp only [attempt, ran]
      rw [bind_eq_of_ok attempted] at same
      have left := congrArg Simulation.world (answered (.error error) { simulation with world })
      simpa only [leaves, same, ran] using left

/-- A call is opened with the entries and the allowances that there are. -/
theorem sameEntries_of_opened?
    {simulation opened : Simulation}
    (opens : opened? kind context simulation = some opened) :
    SameEntries simulation.world opened.world ∧
      opened.world.allowance = simulation.world.allowance := by
  have pushed := SameEntries.push simulation.world
  obtain ⟨world, rfl, ⟨_, rfl⟩ | ⟨_, moved⟩⟩ := opened?_cases opens
  · exact ⟨pushed, World.allowance_push _⟩
  · exact ⟨pushed.trans (.transfer moved),
      (World.allowance_transfer moved).trans (World.allowance_push _)⟩

/-- What holds before a dispatched call, and after its answer, holds after it is closed. -/
theorem holds_messageCall_of_dispatched?
    {simulation opened : Simulation}
    {property : World → Prop}
    (about : IsAboutEntries property)
    (holds : property simulation.world)
    (opens : opened? kind context simulation = some opened)
    (found : dispatched? environment context opened.world = some dispatched)
    (answered : property (leaves dispatched.answer opened.world))
    (runner : Runner) :
    property (leaves (messageCall environment runner kind context) simulation).world := by
  have below : SameBelow simulation.world.push (leaves dispatched.answer opened.world) := by
    refine SameBelow.trans ?_ (dispatched.sameBelow_answer opened.world)
    obtain ⟨world, rfl, ⟨_, rfl⟩ | ⟨_, moved⟩⟩ := opened?_cases opens
    · exact .refl _
    · exact .transfer moved
  rw [← world_runTarget_of_dispatched? found runner] at below answered
  unfold leaves at below answered ⊢
  rw [messageCall_of_opened? opens]
  cases ran : runTarget environment runner context opened with
  | ok outcome inner =>
      rw [ran] at below answered
      simp only [closeFrame]
      split
      · exact about.commit below holds answered
      · exact about (.revert below) holds
  | error error inner =>
      rw [ran] at below answered
      exact about (.revert below) holds

end SimAction

/-! ## Steps -/

/-- The account on whose behalf a call of the frame is answered. -/
def FrameContext.senderOf (context : FrameContext) (kind : CallKind) : Address :=
  if kind = .delegateCall then context.caller else context.address

/--
Two machines whose frames have one context, and whose worlds have the same entries and the
same allowances.
-/
structure Machine.SharesEntries (start machine : Machine) : Prop where
  context : machine.frame.context = start.frame.context
  entries : SameEntries start.simulation.world machine.simulation.world
  allowance : machine.simulation.world.allowance = start.simulation.world.allowance

theorem Machine.SharesEntries.refl
    (machine : Machine) :
    machine.SharesEntries machine :=
  ⟨rfl, .refl _, rfl⟩

namespace Exec

variable
  {environment : Environment}
  {machine : Machine}
  {dispatched : DispatchedCall}
  {world : World}

/-- The kind of the call that a step makes, if it makes one. -/
def callKind? (environment : Environment) (machine : Machine) : Option CallKind :=
  match begin environment machine with
  | .ok (instruction, _, _) _ => instruction.callKind?
  | .error _ _ => none

/-- What a frame pays and accesses changes neither entries nor allowances. -/
theorem quiet_sharesEntries
    (start : Machine) :
    Quiet false start.SharesEntries where
  move move shares := ⟨move.context_eq.trans shares.context, shares.entries, shares.allowance⟩
  trace _ shares := ⟨shares.context, shares.entries, shares.allowance⟩
  touch touched shares := by
    cases touched with
    | warmAccount | warmSlot =>
        refine ⟨shares.context, shares.entries.trans ?_, Eq.trans ?_ shares.allowance⟩
        · exact .record _ (fun _ => rfl) (fun _ => rfl) fun _ => rfl
        · exact World.allowance_record _ fun _ => rfl

theorem keeps_giveBack_sharesEntries
    (start : Machine)
    (gas : UInt64) :
    Keeps start.SharesEntries (giveBack gas) :=
  fun _ shares => ⟨shares.context, shares.entries, shares.allowance⟩

/-- The frame that a call starts is called from the frame that makes the call. -/
theorem yields_prepareCall_child
    (environment : Environment)
    (kind : CallKind)
    (start : Machine) :
    Yields start.SharesEntries (prepareCall environment kind) fun launch? _ =>
      ∀ launch, launch? = some launch →
        ∃ target value data gas,
          launch.context = start.frame.context.child kind target value data gas := by
  have quiet := quiet_sharesEntries start
  refine Yields.of_ensures (quiet.ensures_prepareCall (fun _ _ => trivial)
    (fun target => quiet.inspectCallee _ kind target)
    (fun operands _ => quiet.chargeValue kind operands.target) (fun _ shares => shares)
    (fun {operands} input output (_ : True) => ?_) fun _ _ _ impossible => by cases impossible)
  refine Ensures.bind keeps_frame fun frame => Ensures.bind (quiet.charge _) fun _ => ?_
  refine Ensures.bind (Quiet.canStart _ _ _) fun starts => ?_
  split
  · refine Ensures.bind (keeps_readMemory _ _) fun data => ?_
    refine Ensures.bind ensures_context fun context => ?_
    refine Ensures.pure fun machine ⟨shares, same⟩ launch launched => ?_
    cases launched
    rw [same, shares.context]
    exact ⟨_, _, _, _, rfl⟩
  · refine Ensures.bind (keeps_giveBack_sharesEntries start _) fun _ => ?_
    exact Ensures.pure fun _ _ _ impossible => by cases impossible

/-- A step that dispatches a call has prepared and opened it. -/
theorem exists_of_dispatched?
    (found : dispatched? environment machine = some (dispatched, world)) :
    ∃ instruction place gasBefore ready kind launch paid opened,
      begin environment machine = .ok (instruction, place, gasBefore) ready ∧
        instruction.callKind? = some kind ∧
        prepareCall environment kind ready = .ok (some launch) paid ∧
        SimAction.opened? kind launch.context paid.simulation = some opened ∧
        SimAction.dispatched? environment launch.context opened.world = some dispatched ∧
        world = opened.world := by
  unfold dispatched? at found
  split at found
  · rename_i instruction place gasBefore ready begun
    obtain ⟨kind, calls, found⟩ := Option.bind_eq_some_iff.mp found
    unfold calls? at found
    split at found
    · rename_i launch paid prepares
      obtain ⟨opened, opens, found⟩ := Option.bind_eq_some_iff.mp found
      obtain ⟨dispatched', dispatches, found⟩ := Option.bind_eq_some_iff.mp found
      cases found
      exact ⟨instruction, place, gasBefore, ready, kind, launch, paid, opened, begun, calls,
        prepares, opens, dispatches, rfl⟩
    · cases found
  · cases found

theorem begin_sharesEntries
    {instruction : Instruction}
    {place : Option Nat}
    {gasBefore : UInt64}
    {ready : Machine}
    (begun : begin environment machine = .ok (instruction, place, gasBefore) ready) :
    machine.SharesEntries ready := by
  have kept :=
    @ensures_begin_of_quiet environment false machine.SharesEntries
      (quiet_sharesEntries machine) (fun _ inStatic => by cases inStatic)
      fun shares => ⟨shares.context, shares.entries, shares.allowance⟩
  exact (kept.of_ok begun (.refl machine)).1

/-- A call is dispatched on behalf of the frame's address, a delegated one of its caller. -/
theorem sender_of_dispatched?
    (found : dispatched? environment machine = some (dispatched, world))
    {kind : CallKind}
    (calls : callKind? environment machine = some kind) :
    dispatched.call.sender = machine.frame.context.senderOf kind := by
  obtain ⟨instruction, place, gasBefore, ready, kind', launch, paid, opened, begun, calls',
    prepares, opens, dispatches, _⟩ := exists_of_dispatched? found
  have sameKind : kind' = kind := by
    simp only [callKind?, begun] at calls
    exact Option.some.inj (calls'.symm.trans calls)
  subst sameKind
  have sender : dispatched.call.sender = launch.context.caller := by
    unfold SimAction.dispatched? at dispatches
    dsimp only at dispatches
    repeat' split at dispatches
    all_goals cases dispatches
    all_goals rfl
  obtain ⟨target, value, data, gas, child⟩ :=
    (yields_prepareCall_child environment kind' machine).of_ok prepares
      (begin_sharesEntries begun) launch rfl
  rw [sender, child]
  cases kind' <;> rfl

/-- A dispatched call is answered with the entries and allowances that the step began with. -/
theorem sameEntries_of_dispatched?
    (found : dispatched? environment machine = some (dispatched, world)) :
    SameEntries machine.simulation.world world ∧
      world.allowance = machine.simulation.world.allowance := by
  obtain ⟨instruction, place, gasBefore, ready, kind, launch, paid, opened, begun, _,
    prepares, opens, _, rfl⟩ := exists_of_dispatched? found
  have shares : machine.SharesEntries paid :=
    ((quiet_sharesEntries machine).prepareCall (keeps_giveBack_sharesEntries machine)
      environment kind).of_ok prepares (begin_sharesEntries begun)
  obtain ⟨entries, allowance⟩ := SimAction.sameEntries_of_opened? opens
  exact ⟨shares.entries.trans entries, allowance.trans shares.allowance⟩

/-- What holds before a step, and after the answer to the call that it dispatches, holds after it. -/
theorem holds_step_of_dispatched?
    {property : World → Prop}
    (about : IsAboutEntries property)
    (holds : property machine.simulation.world)
    (found : dispatched? environment machine = some (dispatched, world))
    (answered : property (leaves dispatched.answer world))
    (runner : Runner) :
    property (leaves (step environment runner) machine).simulation.world := by
  obtain ⟨instruction, place, gasBefore, ready, kind, launch, paid, opened, begun, calls,
    prepares, opens, dispatches, rfl⟩ := exists_of_dispatched? found
  have shares : machine.SharesEntries paid :=
    ((quiet_sharesEntries machine).prepareCall (keeps_giveBack_sharesEntries machine)
      environment kind).of_ok prepares (begin_sharesEntries begun)
  let inWorld (machine : Machine) : Prop := property machine.simulation.world
  have quiet : Quiet false inWorld :=
    { move := fun _ holds => holds
      trace := fun _ holds => holds
      touch := fun touched holds => by
        cases touched with
        | warmAccount | warmSlot =>
            exact about (.record _ (fun _ => rfl) (fun _ => rfl) fun _ => rfl) holds }
  have called :
      Ensures (· = paid)
        (onSimulation (SimAction.messageCall environment runner kind launch.context))
        (fun _ => inWorld) fun _ => inWorld := by
    intro start same
    subst start
    have closed :=
      SimAction.holds_messageCall_of_dispatched? about (about shares.entries holds) opens
        dispatches answered runner
    unfold leaves at closed
    cases ran : SimAction.messageCall environment runner kind launch.context paid.simulation with
    | ok outcome after =>
        rw [onSimulation_eq_ok ran]
        rw [ran] at closed
        exact closed
    | error error after =>
        rw [onSimulation_eq_error ran]
        rw [ran] at closed
        exact closed
  have executed :
      Ensures (· = ready) (execute environment runner instruction)
        (fun _ => inWorld) fun _ => inWorld := by
    rw [execute_of_callKind? calls]
    intro start same
    subst start
    unfold call
    rw [bind_eq_of_ok prepares]
    refine Ensures.bind called (fun outcome => ?_) paid rfl
    exact quiet.ensures_takeOutcome (fun inStatic => by cases inStatic) (fun _ holds => holds)
      _ _
  have amended :=
    ensures_amending place gasBefore executed (fun _ holds => holds) fun _ holds => holds
  have stepped := amended.holds_leaves rfl
  unfold leaves at stepped ⊢
  rw [step_eq, bind_eq_of_ok begun]
  exact stepped

/--
A dispatched call takes nothing from another account than the one on whose behalf it is made:
no units of a fungible token that the other one has not allowed it, unless they are taken for
every sender, and no piece that it is not approved for, unless it is minted anew.
-/
theorem step_spares_others
    {kind : CallKind}
    (calls : callKind? environment machine = some kind)
    (found : dispatched? environment machine = some (dispatched, world))
    (filed : machine.simulation.world.IsFiled)
    (runner : Runner)
    {account : Address}
    (other : account ≠ machine.frame.context.senderOf kind) :
    let sender := machine.frame.context.senderOf kind
    let before := machine.simulation.world
    let after := (leaves (step environment runner) machine).simulation.world
    (∀ token entry,
      before.token token = .ok (some entry) →
      entry.isNonFungible = false →
      before.allowed account token sender = 0 →
      (∀ body ∈ dispatched.body? world, ¬ body.TakesFrom account token world) →
      before.units account token ≤ after.units account token) ∧
    ∀ token serial piece moved,
      before.nft token serial = .ok (some piece) →
      piece.owner = account →
      piece.spender ≠ sender →
      ¬ dispatched.MintsAnew token serial world →
      after.nft token serial = .ok (some moved) →
      moved.owner = account := by
  intro sender before after
  have isSender : dispatched.call.sender = sender := sender_of_dispatched? found calls
  obtain ⟨entries, allowance⟩ := sameEntries_of_dispatched? found
  constructor
  · intro token entry known fungible unallowed untaken
    have about : IsAboutEntries fun world =>
        before.units account token ≤ world.units account token := by
      intro _ _ same enough
      rwa [World.units_congr same.toSameHoldings]
    refine holds_step_of_dispatched? about (Nat.le_refl _) found ?_ runner
    rw [← World.units_congr entries.toSameHoldings]
    refine DispatchedCall.units_le_units_answer (filed.congr entries.toSameHoldings)
      ((entries.token token).trans known) fungible (isSender ▸ other) ?_ untaken
    rw [isSender, World.allowed, allowance]
    exact unallowed
  · intro token serial piece moved known own unapproved unminted left
    subst own
    refine holds_step_of_dispatched? (World.isAboutEntries_isOwnPiece _ _ _)
      (World.IsOwnPiece.of_nft known) found ?_ runner left
    intro changed read
    by_contra different
    have foundInside := (entries.nft token serial).trans known
    rcases DispatchedCall.sender_of_new_owner foundInside read different with
      owns | approved | minted
    · exact other (owns.symm.trans isSender)
    · exact unapproved (approved.symm.trans isSender)
    · exact unminted minted

end Exec

/-! ## A contract that calls a token -/

/-- A token in amounts that may be wiped, and of which there are a hundred units. -/
def Token.wipeable (address treasury : Address) : Token :=
  { address, treasury, totalSupply := 100, hasWipeKey := true }

/-- Two accounts with a token: one holds all its units, the other one is its treasury. -/
def Snapshot.Contents.ofHolder (holder other token : Address) : Snapshot.Contents :=
  { accounts := Table.ofList ([holder, other].map fun address => (address, { address }))
    tokens :=
      Table.ofList ([Token.wipeable token other].map fun entry => (entry.address, entry))
    relationships :=
      Table.ofList
        ([{ account := holder, token, balance := 100, kycGranted := true },
            { account := other, token, kycGranted := true }].map fun holding : Relationship =>
          (⟨holding.account, holding.token⟩, holding)) }

/-- The world of two accounts, of which one holds all units of a token. -/
def World.ofHolder (holder other token : Address) : World :=
  (World.ofSnapshot (.ofContents (.ofHolder holder other token)) true ⟨0⟩ 5000).push

/-- A frame that has copied its data to memory and is about to call with it. -/
def Machine.aboutToCall
    (instruction : UInt8)
    (stack : OperandStack)
    (context : FrameContext)
    (world : World) :
    Machine :=
  { frame :=
      { Frame.start { } context [instruction] with
        stack
        memory := ((Memory.withLimit Memory.standardLimit).growTo 4).write 0 context.data }
    simulation := { world } }

theorem World.isFiled_ofHolder
    (holder other token : Address) :
    (ofHolder holder other token).IsFiled := by
  refine IsFiled.congr ?_ (SameEntries.push _).toSameHoldings
  exact .ofContents _ [_] [_, _] rfl rfl true ⟨0⟩ 5000

theorem World.allowed_ofHolder
    (holder other token : Address)
    (owner address spender : Address) :
    (ofHolder holder other token).allowed owner address spender = 0 :=
  rfl

namespace Exec

/--
A contract cannot take units from a holder that has allowed it none: its call fails, and the
holder keeps what it has.
-/
theorem call_leaves_tokens_of_holder :
    let holder := Address.ofNum 1001
    let other := Address.ofNum 1002
    let contract := Address.ofNum 1003
    let token := Address.ofNum 2001
    let source : PriceSource :=
      { schedule := FeeSchedule.empty.list ⟨0⟩ [.cryptoTransfer, .contractCall] { }
        rates := RateTable.empty.list ⟨0⟩ (.lasting 1 12) }
    let environment : Environment :=
      { rules := ⟨⟨0, 50, 0⟩, .cancun, ⟨true, true⟩, ⟨true, true⟩⟩
        prices := source }
    let data :=
      AbiValue.encodeCall TokenFunction.ercTransferFrom.selector
        [.address holder, .address other, .uint 30]
    let context := FrameContext.ofTransaction holder contract 0 data 10000000 1 { }
    let stack : OperandStack := ⟨[5000000, token.toWord, 0, 0, 100, 0, 0], by decide⟩
    let world := World.ofHolder holder other token
    let machine := Machine.aboutToCall 0xf1 stack context world
    let after := (leaves (step environment Runner.idle) machine).simulation.world
    machine.frame.context.address = contract ∧
      machine.frame.context.caller = holder ∧
      callKind? environment machine = some .call ∧
      (∃ dispatched inner, dispatched? environment machine = some (dispatched, inner)) ∧
      world.units holder token = 100 ∧ 100 ≤ after.units holder token := by
  intro holder other contract token source environment data context stack world machine after
  have calls : callKind? environment machine = some .call := by decide +kernel
  have isDispatched : (dispatched? environment machine).isSome = true := by decide +kernel
  obtain ⟨⟨dispatched, inner⟩, found⟩ := Option.isSome_iff_exists.mp isDispatched
  have read :
      (dispatched? environment machine).bind (fun (dispatched, inner) => dispatched.body? inner) =
        some (.cryptoTransfer (.fungible token holder other 30 true)) := by
    decide +kernel
  have filed : machine.simulation.world.IsFiled := World.isFiled_ofHolder holder other token
  have different : holder ≠ machine.frame.context.senderOf .call := by
    have distinct : holder ≠ contract := by decide
    exact distinct
  obtain ⟨known, had⟩ :
      world.token token = .ok (some (.wipeable token other)) ∧
        world.units holder token = 100 := by
    decide +kernel
  have kept : world.units holder token ≤ after.units holder token := by
    refine (step_spares_others calls found filed Runner.idle different).1 token _ known rfl
      (World.allowed_ofHolder holder other token _ _ _) fun body member => ?_
    rw [found] at read
    cases read.symm.trans member
    exact id
  exact ⟨rfl, rfl, calls, ⟨dispatched, inner, found⟩, had, had.ge.trans kept⟩

/--
A contract takes units from its caller, who has allowed it none: by a delegated call, which
spends them, and by a call of the token service, which wipes them.
-/
theorem calls_take_tokens_of_caller :
    let holder := Address.ofNum 1001
    let other := Address.ofNum 1002
    let contract := Address.ofNum 1003
    let token := Address.ofNum 2001
    let source : PriceSource :=
      { schedule :=
          FeeSchedule.empty.list ⟨0⟩ [.cryptoTransfer, .tokenAccountWipe, .contractCall] { }
        rates := RateTable.empty.list ⟨0⟩ (.lasting 1 12) }
    let environment : Environment :=
      { rules := ⟨⟨0, 50, 0⟩, .cancun, ⟨true, true⟩, ⟨true, true⟩⟩
        prices := source }
    let spend := AbiValue.encodeCall TokenFunction.ercTransfer.selector [.address other, .uint 30]
    let wipe :=
      AbiValue.encodeCall TokenFunction.wipeTokenAccount.selector
        [.address token, .address holder, .uint 30]
    let context (data : Bytes) :=
      FrameContext.ofTransaction holder contract 0 data 10000000 1 { }
    let toSpend : OperandStack := ⟨[5000000, token.toWord, 0, 68, 0, 0], by decide⟩
    let toWipe : OperandStack :=
      ⟨[5000000, Address.tokenService.toWord, 0, 0, 100, 0, 0], by decide⟩
    let world := World.ofHolder holder other token
    let spending := Machine.aboutToCall 0xf4 toSpend (context spend) world
    let wiping := Machine.aboutToCall 0xf1 toWipe (context wipe) world
    let after (machine : Machine) :=
      (leaves (step environment Runner.idle) machine).simulation.world
    (∀ data, (context data).address = contract ∧ (context data).caller = holder) ∧
      (∀ address, world.allowed holder address contract = 0) ∧
      world.units holder token = 100 ∧
      callKind? environment spending = some .delegateCall ∧
      (after spending).units holder token = 70 ∧
      callKind? environment wiping = some .call ∧
      (after wiping).units holder token = 70 := by
  intro holder other contract token source environment spend wipe context toSpend toWipe world
    spending wiping after
  obtain ⟨had, delegates, spent, calls, wiped⟩ :
      world.units holder token = 100 ∧
        callKind? environment spending = some .delegateCall ∧
          (after spending).units holder token = 70 ∧
            callKind? environment wiping = some .call ∧
              (after wiping).units holder token = 70 := by
    decide +kernel
  exact ⟨fun _ => ⟨rfl, rfl⟩, fun _ => World.allowed_ofHolder _ _ _ _ _ _, had, delegates, spent,
    calls, wiped⟩

end Exec

end LedgerEvm
