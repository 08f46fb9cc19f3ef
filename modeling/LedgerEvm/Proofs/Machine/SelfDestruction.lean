import LedgerEvm.Proofs.Ledger.Payers
import LedgerEvm.Proofs.Machine.Computations
import LedgerEvm.Proofs.Machine.StartedFrames

namespace LedgerEvm

/-!
# Self-destruction

A self-destruction against which nothing stands and which is paid for has only one way left to
fail: the contract is to be deleted, and there is no account of it to delete.  So it is where
the contract has been deleted before, by a frame that it has started or by one that ran code on
its behalf.
-/

/-- What a self-destruction finds: who takes what the contract holds. -/
structure Sweep where
  beneficiary : Address
  heir? : Option Account
  balance : Word

namespace Sweep

/-- What a self-destruction pays beyond its static cost. -/
def cost (sweep : Sweep) (world : World) : UInt64 :=
  Gas.selfDestruct ((sweep.heir?.map Account.isEmpty).getD true) sweep.balance +
    (if world.isWarmAccount sweep.beneficiary then 0 else Gas.coldAccount)

end Sweep

namespace Machine

/-- Nothing stands against a self-destruction, no token takes anything, and it is paid for. -/
structure IsCleared (rule : SelfDestructRule) (sweep : Sweep) (machine : Machine) : Prop where
  named : machine.frame.stack.words.head?.map Address.ofWord = some sweep.beneficiary
  unopposed :
    machine.simulation.world.objectionToSelfDestruct? rule machine.frame.context.address
        sweep.beneficiary =
      .ok none
  held : machine.simulation.world.balance machine.frame.context.address = .ok sweep.balance
  found : machine.simulation.world.get sweep.beneficiary = .ok sweep.heir?
  regular : ∀ heir ∈ sweep.heir?, heir.isToken = false
  paid : sweep.cost machine.simulation.world ≤ machine.frame.gas

instance
    (rule : SelfDestructRule)
    (sweep : Sweep)
    (machine : Machine) :
    Decidable (machine.IsCleared rule sweep) :=
  decidable_of_iff
    (machine.frame.stack.words.head?.map Address.ofWord = some sweep.beneficiary ∧
      machine.simulation.world.objectionToSelfDestruct? rule machine.frame.context.address
          sweep.beneficiary =
        .ok none ∧
      machine.simulation.world.balance machine.frame.context.address = .ok sweep.balance ∧
      machine.simulation.world.get sweep.beneficiary = .ok sweep.heir? ∧
      (∀ heir ∈ sweep.heir?, heir.isToken = false) ∧
      sweep.cost machine.simulation.world ≤ machine.frame.gas)
    ⟨fun ⟨named, unopposed, held, found, regular, paid⟩ =>
        ⟨named, unopposed, held, found, regular, paid⟩,
      fun ⟨named, unopposed, held, found, regular, paid⟩ =>
        ⟨named, unopposed, held, found, regular, paid⟩⟩

/-- The rule has the contract deleted, but its account is not given out. -/
structure DeletesNobody (rule : SelfDestructRule) (machine : Machine) : Prop where
  doomed :
    (!rule.sparesOldContracts ||
      machine.simulation.world.isCreated machine.frame.context.address) = true
  refused : machine.simulation.world.givesOut machine.frame.context.address = .ok false

instance
    (rule : SelfDestructRule)
    (machine : Machine) :
    Decidable (machine.DeletesNobody rule) :=
  decidable_of_iff
    ((!rule.sparesOldContracts ||
        machine.simulation.world.isCreated machine.frame.context.address) = true ∧
      machine.simulation.world.givesOut machine.frame.context.address = .ok false)
    ⟨fun ⟨doomed, refused⟩ => ⟨doomed, refused⟩, fun ⟨doomed, refused⟩ => ⟨doomed, refused⟩⟩

end Machine

namespace Exec

variable
  {rule : SelfDestructRule}
  {sweep : Sweep}
  {machine : Machine}

theorem ask_eq_ok
    {α : Type}
    {question : World → Except StateError α}
    {answer : α}
    (answered : question machine.simulation.world = .ok answer) :
    ask question machine = .ok answer machine := by
  simp only [ask, answered]

theorem ask_tells
    {α : Type}
    (read : World → α)
    (machine : Machine) :
    ask (fun world => .ok (read world)) machine = .ok (read machine.simulation.world) machine :=
  rfl

/-- The end of a self-destruction, when the contract has been swept. -/
def deleteSwept (rule : SelfDestructRule) (contract : Address) : Exec Unit := do
  let isCreated ← ask fun world => .ok (world.isCreated contract)
  if !rule.sparesOldContracts || isCreated then
    onSimulation (SimAction.change fun world =>
      match world.deleteAccount contract with
      | .ok changed => .ok ((), changed)
      | .error error => .error (.state error))
  finish .stopped

/-- What is left of a self-destruction when all has been asked and paid is its sweep. -/
theorem selfDestruct_of_isCleared
    (cleared : machine.IsCleared rule sweep) :
    ∃ stack swept,
      (machine.simulation.world.warmAccount sweep.beneficiary).transfer
          machine.frame.context.address sweep.beneficiary sweep.balance =
        .ok swept ∧
      selfDestruct rule machine =
        deleteSwept rule machine.frame.context.address
          ⟨{ machine.frame with
              stack
              gas := machine.frame.gas - sweep.cost machine.simulation.world },
            { machine.simulation with world := swept }⟩ := by
  obtain ⟨frame, simulation⟩ := machine
  obtain ⟨named, unopposed, held, found, regular, paid⟩ := cleared
  dsimp only at named unopposed held found regular paid
  obtain ⟨word, top, named⟩ := Option.map_eq_some_iff.mp named
  obtain ⟨rest, words⟩ := List.head?_eq_some_iff.mp top
  obtain ⟨stack, _, pops⟩ := @pop_eq_ok ⟨frame, simulation⟩ word rest words
  have takes :
      popAddress ⟨frame, simulation⟩ =
        .ok sweep.beneficiary ⟨{ frame with stack }, simulation⟩ := by
    rw [← named, popAddress, bind_eq_of_ok pops]
    rfl
  -- marking the beneficiary as accessed changes no answer
  have warmed := World.OnlyWarmed.warmAccount simulation.world sweep.beneficiary
  have held' :
      (simulation.world.warmAccount sweep.beneficiary).balance frame.context.address =
        .ok sweep.balance := by
    rw [← held]
    simp only [World.balance, warmed.get_eq]
  have found' :
      (simulation.world.warmAccount sweep.beneficiary).get sweep.beneficiary =
        .ok sweep.heir? := by
    rw [warmed.get_eq, found]
  obtain ⟨swept, moved⟩ := World.exists_transfer_of_balance held' found' regular
  refine ⟨stack, swept, moved, ?_⟩
  have marks (frame : Frame) :
      updateWorld (fun world => world.warmAccount sweep.beneficiary) ⟨frame, simulation⟩ =
        .ok ()
          ⟨frame,
            { simulation with world := simulation.world.warmAccount sweep.beneficiary }⟩ :=
    rfl
  have sweeps :
      SimAction.change
          (fun world => do
            return ((), ← world.transfer frame.context.address sweep.beneficiary sweep.balance))
          { simulation with world := simulation.world.warmAccount sweep.beneficiary } =
        .ok () { simulation with world := swept } := by
    simp only [SimAction.change, moved]
    rfl
  unfold Sweep.cost at paid ⊢
  rw [selfDestruct, bind_eq_of_ok (context_eq_ok _), bind_eq_of_ok takes,
    bind_eq_of_ok (ask_eq_ok unopposed)]
  dsimp only
  rw [bind_eq_of_ok (ask_tells (fun world => world.isWarmAccount sweep.beneficiary) _),
    bind_eq_of_ok (marks _), bind_eq_of_ok (ask_eq_ok held'), bind_eq_of_ok (ask_eq_ok found')]
  rw [bind_eq_of_ok (charge_eq_ok paid), bind_eq_of_ok (onSimulation_eq_ok sweeps)]
  rfl

/-- After the sweep the frame ends, unless there is nobody to delete. -/
theorem deleteSwept_cases
    {contract : Address}
    {reached : Bool}
    (given : machine.simulation.world.givesOut contract = .ok reached) :
    if (!rule.sparesOldContracts || machine.simulation.world.isCreated contract) = true ∧
        reached = false then
      deleteSwept rule contract machine =
        .error (.state (.missingEntity contract.text)) machine
    else
      ∃ world,
        deleteSwept rule contract machine =
          .ok ()
            ⟨{ machine.frame with ending := some .stopped },
              { machine.simulation with world }⟩ := by
  have deletion := World.deleteAccount_eq given
  unfold deleteSwept
  rw [bind_eq_of_ok (ask_tells (fun world => world.isCreated contract) _)]
  dsimp only
  by_cases doomed :
      (!rule.sparesOldContracts || machine.simulation.world.isCreated contract) = true
  · rw [if_pos doomed]
    cases reached with
    | false =>
        rw [if_pos ⟨doomed, rfl⟩]
        simp only [Bool.false_eq_true, if_false] at deletion
        refine bind_eq_of_error (onSimulation_eq_error ?_)
        simp only [SimAction.change, deletion]
    | true =>
        rw [if_neg (fun impossible => by cases impossible.2)]
        obtain ⟨world, deleted⟩ := deletion
        refine ⟨world, ?_⟩
        have deletes :
            SimAction.change
                (fun world =>
                  match world.deleteAccount contract with
                  | .ok changed => .ok ((), changed)
                  | .error error => .error (.state error))
                machine.simulation =
              .ok () { machine.simulation with world } := by
          simp only [SimAction.change, deleted]
        rw [bind_eq_of_ok (onSimulation_eq_ok deletes)]
        rfl
  · rw [if_neg doomed, if_neg (fun impossible => doomed impossible.1)]
    exact ⟨machine.simulation.world, rfl⟩

/--
A self-destruction that is cleared ends its frame, unless there is nobody to delete: then it
fails for want of the contract.
-/
theorem selfDestruct_cases
    (cleared : machine.IsCleared rule sweep) :
    (machine.DeletesNobody rule ∧
      ∃ after,
        selfDestruct rule machine =
          .error (.state (.missingEntity machine.frame.context.address.text)) after) ∨
    (¬ machine.DeletesNobody rule ∧
      ∃ after,
        selfDestruct rule machine = .ok () after ∧ after.frame.ending = some .stopped) := by
  obtain ⟨stack, swept, moved, ends⟩ := selfDestruct_of_isCleared cleared
  obtain ⟨account?, owner, _⟩ := exists_of_bind_eq_ok cleared.held
  obtain ⟨reached, given⟩ := World.exists_givesOut owner
  have given' : swept.givesOut machine.frame.context.address = .ok reached := by
    rw [World.givesOut_source_of_transfer moved, World.givesOut_warmAccount, given]
  have created :
      swept.isCreated machine.frame.context.address =
        machine.simulation.world.isCreated machine.frame.context.address :=
    (World.isCreated_source_of_transfer moved).trans
      (World.isCreated_record _ _ fun _ => rfl)
  have deletion :=
    @deleteSwept_cases rule
      ⟨{ machine.frame with
          stack
          gas := machine.frame.gas - sweep.cost machine.simulation.world },
        { machine.simulation with world := swept }⟩
      _ _ given'
  rw [← ends] at deletion
  simp only [created] at deletion
  split at deletion
  · rename_i nobody
    obtain ⟨doomed, rfl⟩ := nobody
    exact .inl ⟨⟨doomed, given⟩, _, deletion⟩
  · rename_i somebody
    obtain ⟨world, done⟩ := deletion
    refine .inr ⟨fun nobody => somebody ⟨nobody.doomed, ?_⟩, _, done, rfl⟩
    cases given.symm.trans nobody.refused
    rfl

/-- The machine in which a self-destruction acts, if that is what the step has come to. -/
def destruction? (environment : Environment) (machine : Machine) : Option Machine :=
  match begin environment machine with
  | .ok (.selfDestruct, _, _) ready => some ready
  | _ => none

/-- The machine in which a self-destruction acts comes from the step that has come to it. -/
theorem exists_of_destruction?
    {environment : Environment}
    {ready : Machine}
    (found : destruction? environment machine = some ready) :
    ∃ place gasBefore,
      begin environment machine = .ok (.selfDestruct, place, gasBefore) ready := by
  unfold destruction? at found
  split at found
  · rename_i place gasBefore ready' begun
    cases found
    exact ⟨place, gasBefore, begun⟩
  · cases found

end Exec

/-! ## Moves -/

/-- The machine is at a self-destruction that passes a check. -/
def Machine.destroys (environment : Environment) (check : Machine → Bool) (machine : Machine) :
    Bool :=
  !machine.frame.isOver && (Exec.destruction? environment machine).any check

theorem Machine.exists_of_destroys
    {environment : Environment}
    {check : Machine → Bool}
    {machine : Machine}
    (destroys : machine.destroys environment check = true) :
    machine.frame.isOver = false ∧
      ∃ ready, Exec.destruction? environment machine = some ready ∧ check ready = true := by
  obtain ⟨runs, destroys⟩ := Bool.and_eq_true_iff.mp destroys
  exact ⟨by simpa using runs, (Option.any_eq_true _ _).mp destroys⟩

namespace CallStack

variable
  {environment : Environment}
  {sweep : Sweep}
  {machine ready : Machine}
  {waiting : List WaitingFrame}
  {place : Option Nat}
  {gasBefore : UInt64}

/-- A move that starts no frame comes to what the instruction does after the step has begun. -/
theorem moves_of_begun
    {instruction : Instruction}
    (runs : machine.frame.isOver = false)
    (begun : Exec.begin environment machine = .ok (instruction, place, gasBefore) ready)
    (none : Exec.instructionLaunch? environment place gasBefore ready instruction = none) :
    Moves environment ⟨.running machine, waiting⟩
      ⟨.ofResult
          (Exec.amending place gasBefore
            (Exec.execute environment Runner.idle instruction) ready),
        waiting⟩ := by
  have acts :=
    @moves_of_no_launch environment machine waiting runs (by simp only [Exec.launch?, begun, none])
  rwa [Exec.step_eq, bind_eq_of_ok begun] at acts

/-- A self-destruction that is cleared completes its frame if there is somebody to delete. -/
theorem completes_of_cleared
    (runs : machine.frame.isOver = false)
    (begun : Exec.destruction? environment machine = some ready)
    (cleared : ready.IsCleared environment.rules.selfDestruct sweep)
    (somebody : ¬ ready.DeletesNobody environment.rules.selfDestruct) :
    ∃ after,
      Moves environment ⟨.running machine, waiting⟩ ⟨.running after, waiting⟩ ∧
        after.frame.isOver = true ∧ after.frame.outcome.status = .completed := by
  obtain ⟨place, gasBefore, begun⟩ := Exec.exists_of_destruction? begun
  have move := @moves_of_begun _ _ _ waiting _ _ _ runs begun rfl
  rcases Exec.selfDestruct_cases cleared with ⟨nobody, _⟩ | ⟨_, after, done, ended⟩
  · exact (somebody nobody).elim
  · simp only [Exec.execute, Exec.amending, done] at move
    refine ⟨_, move, ?_, ?_⟩
    · change after.frame.isOver = true
      simp only [Frame.isOver, ended, Option.isSome_some, Bool.true_or]
    · change after.frame.outcome.status = .completed
      simp [Frame.outcome, ended]

/-- Where there is nobody to delete it halts, and the frame's gas is lost. -/
theorem halts_of_deletesNobody
    (runs : machine.frame.isOver = false)
    (begun : Exec.destruction? environment machine = some ready)
    (cleared : ready.IsCleared environment.rules.selfDestruct sweep)
    (nobody : ready.DeletesNobody environment.rules.selfDestruct) :
    ∃ after,
      Moves environment ⟨.running machine, waiting⟩
        ⟨.ended
            (.ok
              { status := .halted (.state (.missingEntity ready.frame.context.address.text))
                gas := 0 }
              after),
          waiting⟩ := by
  obtain ⟨place, gasBefore, begun⟩ := Exec.exists_of_destruction? begun
  have move := @moves_of_begun _ _ _ waiting _ _ _ runs begun rfl
  rcases Exec.selfDestruct_cases cleared with ⟨_, after, failed⟩ | ⟨somebody, _⟩
  · simp only [Exec.execute, Exec.amending, failed] at move
    exact ⟨_, move⟩
  · exact (somebody nobody).elim

/--
Whatever the rules and the state of the ledger are: when a frame comes to a self-destruction
that nothing stands against, that is paid for and whose beneficiary is no token, the next move
completes the frame, but for one case.  If the rules have the contract deleted and its account
is not given out, then the contract has been deleted already, or it has never had an account of
its own; and the frame halts for want of the contract and loses its gas.
-/
theorem selfDestruct_completes_unless_nobody_is_deleted
    (runs : machine.frame.isOver = false)
    (begun : Exec.destruction? environment machine = some ready)
    (cleared : ready.IsCleared environment.rules.selfDestruct sweep) :
    (¬ ready.DeletesNobody environment.rules.selfDestruct →
      ∃ after,
        Moves environment ⟨.running machine, waiting⟩ ⟨.running after, waiting⟩ ∧
          after.frame.isOver = true ∧ after.frame.outcome.status = .completed) ∧
    (ready.DeletesNobody environment.rules.selfDestruct →
      ready.simulation.world.LacksAccount ready.frame.context.address ∧
        ∃ after,
          Moves environment ⟨.running machine, waiting⟩
            ⟨.ended
                (.ok
                  { status :=
                      .halted (.state (.missingEntity ready.frame.context.address.text))
                    gas := 0 }
                  after),
              waiting⟩) :=
  ⟨completes_of_cleared runs begun cleared, fun nobody =>
    ⟨World.lacksAccount_of_refused nobody.refused,
      halts_of_deletesNobody runs begun cleared nobody⟩⟩

/-- A contract destroys itself for an heir, and its frame completes. -/
theorem contract_destroys_itself :
    let environment : Environment :=
      { rules := ⟨⟨0, 46, 0⟩, .shanghai, ⟨true, false⟩, ⟨true, true⟩⟩
        prices := ⟨.empty, .empty, fun _ _ => 1⟩ }
    let contract :=
      { Account.newContract (Address.ofNum 1001) [0x61, 0x03, 0xeb, 0xff] with balance := 5 }
    let heir : Account := { address := Address.ofNum 1003, balance := 1 }
    let contents : Snapshot.Contents :=
      { accounts := Table.ofList [(contract.address, contract), (heir.address, heir)] }
    let world := World.ofSnapshot (.ofContents contents) true ⟨0⟩ 5000
    let context := FrameContext.ofTransaction heir.address contract.address 0 [] 100000 1 { }
    let sweep : Sweep := ⟨heir.address, some heir, 5⟩
    ∃ start instructions machine waiting ready,
      start.Begins environment context world Trace.off ∧
        Leads (Moves environment) instructions start ⟨.running machine, waiting⟩ ∧
        machine.frame.isOver = false ∧
        Exec.destruction? environment machine = some ready ∧
        ready.IsCleared environment.rules.selfDestruct sweep ∧
        ∃ after,
          Moves environment ⟨.running machine, waiting⟩ ⟨.running after, waiting⟩ ∧
            after.frame.isOver = true ∧ after.frame.outcome.status = .completed := by
  intro environment contract heir contents world context sweep
  obtain ⟨start, instructions, machine, waiting, begins, leads, checked⟩ :=
    @exists_running_of_advance environment context world
      (fun machine _ => machine.destroys environment fun ready =>
        decide
          (ready.IsCleared environment.rules.selfDestruct sweep ∧
            ¬ ready.DeletesNobody environment.rules.selfDestruct))
      1 (by decide +kernel)
  obtain ⟨runs, ready, begun, checked⟩ := Machine.exists_of_destroys checked
  obtain ⟨cleared, somebody⟩ := of_decide_eq_true checked
  exact ⟨start, instructions, machine, waiting, ready, begins, leads,
    runs, begun, cleared,
    (selfDestruct_completes_unless_nobody_is_deleted runs begun cleared).1 somebody⟩

/--
A contract has code of another one run on its behalf, and that destroys it.  When the contract
then destroys itself for the same heir, nothing stands against it and it is paid for, but its
frame halts for want of the contract.
-/
theorem destroyed_contract_cannot_destroy_itself :
    let environment : Environment :=
      { rules := ⟨⟨0, 46, 0⟩, .shanghai, ⟨true, false⟩, ⟨true, true⟩⟩
        prices := ⟨.empty, .empty, fun _ _ => 1⟩ }
    -- have the code of the library run, then destruct for the heir
    let contract :=
      Account.newContract (Address.ofNum 1001)
        [0x60, 0x00, 0x60, 0x00, 0x60, 0x00, 0x60, 0x00, 0x61, 0x03, 0xea, 0x5a, 0xf4, 0x50,
          0x61, 0x03, 0xeb, 0xff]
    let library := Account.newContract (Address.ofNum 1002) [0x61, 0x03, 0xeb, 0xff]
    let heir : Account := { address := Address.ofNum 1003, balance := 1 }
    let contents : Snapshot.Contents :=
      { accounts :=
          Table.ofList
            [(contract.address, contract), (library.address, library), (heir.address, heir)] }
    let world := World.ofSnapshot (.ofContents contents) true ⟨0⟩ 5000
    let context := FrameContext.ofTransaction heir.address contract.address 0 [] 100000 1 { }
    let sweep : Sweep := ⟨heir.address, some heir, 0⟩
    ∃ start instructions machine waiting ready,
      start.Begins environment context world Trace.off ∧
        Leads (Moves environment) instructions start ⟨.running machine, waiting⟩ ∧
        machine.frame.isOver = false ∧
        Exec.destruction? environment machine = some ready ∧
        ready.IsCleared environment.rules.selfDestruct sweep ∧
        ready.simulation.world.accountEntry contract.address =
          .ok (some { contract with deleted := true }) ∧
        ∃ after,
          Moves environment ⟨.running machine, waiting⟩
            ⟨.ended
                (.ok
                  { status :=
                      .halted (.state (.missingEntity ready.frame.context.address.text))
                    gas := 0 }
                  after),
              waiting⟩ := by
  intro environment contract library heir contents world context sweep
  obtain ⟨start, instructions, machine, waiting, begins, leads, checked⟩ :=
    @exists_running_of_advance environment context world
      (fun machine _ => machine.destroys environment fun ready =>
        decide
          (ready.IsCleared environment.rules.selfDestruct sweep ∧
            ready.DeletesNobody environment.rules.selfDestruct ∧
            ready.simulation.world.accountEntry contract.address =
              .ok (some { contract with deleted := true })))
      13 (by decide +kernel)
  obtain ⟨runs, ready, begun, checked⟩ := Machine.exists_of_destroys checked
  obtain ⟨cleared, nobody, deleted⟩ := of_decide_eq_true checked
  exact ⟨start, instructions, machine, waiting, ready, begins, leads,
    runs, begun, cleared, deleted, halts_of_deletesNobody runs begun cleared nobody⟩

end CallStack

end LedgerEvm
