import LedgerEvm.Proofs.Machine.StartedFrames
import LedgerEvm.Proofs.Machine.UnabortedRuns

namespace LedgerEvm

/-!
# What ends a transaction

What a program does, and whatever its input is, ends no more than the frame it happens in.
A transaction as a whole fails only for what surrounds it: a lookup that fails, the price of
a log that is missing, the flag that cancels it, its deadline, or a search for a free address
that finds none.
-/

/-! ## First frames -/

/-- The runner comes to an end with an outcome. -/
def Runner.Succeeds (runner : Runner) : Prop :=
  ∀ context code simulation, ∃ outcome after, runner context code simulation = .ok outcome after

theorem Runner.succeeds_endingWith
    (outcome : Outcome)
    (after : Simulation) :
    (Runner.endingWith outcome after).Succeeds :=
  fun _ _ _ => ⟨outcome, after, rfl⟩

namespace SimAction

variable
  {environment : Environment}
  {runner : Runner}
  {context : FrameContext}
  {simulation : Simulation}

/-- Whatever a system contract has come to, answering for it fails only as an abort. -/
theorem aborts_answered
    (result : Except PrecompileError (UInt64 × Bytes))
    (gasLimit : UInt64) :
    Ensures (fun _ => True) (answered result gasLimit) (fun _ _ => True)
      fun error _ => error.isAbort = true := by
  unfold answered
  split
  · exact Ensures.pure fun _ => id
  · split
    · exact Ensures.pure fun _ => id
    · split
      · rename_i aborts
        exact Ensures.throw fun _ _ => aborts
      · exact Ensures.pure fun _ => id

theorem aborts_attempt
    {action : TokenAction SystemAnswer}
    (gasLimit : UInt64) :
    Ensures (fun _ => True) (attempt action >>= fun result => answeredBy result gasLimit)
      (fun _ _ => True) fun error _ => error.isAbort = true := by
  have attempted :
      Ensures (fun _ => True) (attempt action) (fun _ _ => True)
        fun error _ => error.isAbort = true := by
    intro simulation _
    unfold attempt
    cases action simulation.world <;> trivial
  exact attempted.bind fun result => aborts_answered _ _

/-- The target of a call fails only in a way that ends the transaction. -/
theorem isAbort_of_runTarget
    (succeeds : runner.Succeeds)
    (answers : simulation.world.snapshot.Answers)
    {error : VmError}
    {after : Simulation}
    (failed : runTarget environment runner context simulation = .error error after) :
    error.isAbort = true := by
  cases contract : FixedContract.at? context.codeAddress with
  | some contract' =>
      simp only [runTarget, contract] at failed
      exact (aborts_answered _ _).of_error failed trivial
  | none =>
      by_cases service : context.codeAddress = Address.tokenService
      · simp only [runTarget, contract, if_pos service] at failed
        exact (aborts_attempt _).of_error failed trivial
      · by_cases rate : context.codeAddress = Address.exchangeRate
        · simp only [runTarget, contract, if_neg service, if_pos rate] at failed
          exact (aborts_answered _ _).of_error failed trivial
        · by_cases seed : context.codeAddress = Address.randomSeed
          · simp only [runTarget, contract, if_neg service, if_neg rate, if_pos seed] at failed
            exact (aborts_answered _ _).of_error failed trivial
          · obtain ⟨isToken, isToken'⟩ :=
              World.exists_isTokenCall answers context.codeAddress
            have asked :
                ask (fun world => isTokenCall world context.codeAddress) simulation =
                  .ok isToken simulation := by
              simp only [ask, isToken']
            simp only [runTarget, contract, if_neg service, if_neg rate, if_neg seed] at failed
            rw [bind_eq_of_ok asked] at failed
            cases isToken with
            | true => exact (aborts_attempt _).of_error failed trivial
            | false =>
                obtain ⟨code, present⟩ := World.exists_code answers context.codeAddress
                have read :
                    ask (fun world => world.code context.codeAddress) simulation =
                      .ok code simulation := by
                  simp only [ask, present]
                simp only [Bool.false_eq_true, if_false, runCode] at failed
                rw [bind_eq_of_ok read] at failed
                split at failed
                · cases failed
                · obtain ⟨outcome, after, ran⟩ := succeeds context code simulation
                  rw [ran] at failed
                  cases failed

/-- A value that cannot be moved fails the frame, or what follows the move has failed. -/
theorem isAbort_of_withTransfer
    {target : Address}
    {next : SimAction Outcome}
    {error : VmError}
    {after : Simulation}
    (failed : withTransfer context target next simulation = .error error after) :
    error.isAbort = true ∨
      ∃ world,
        simulation.world.transfer context.caller target context.value = .ok world ∧
          next { simulation with world } = .error error after := by
  unfold withTransfer at failed
  split at failed
  · rename_i world moved
    exact .inr ⟨world, moved, failed⟩
  · split at failed
    · rename_i aborts
      cases failed
      exact .inl aborts
    · cases failed

variable
  {snapshot : Snapshot}
  {answers : snapshot.Answers}

/-- A call succeeds where code does, if an address is found where the call draws one. -/
theorem messageCall_succeeds
    (steady : runner.Steady answers.comparison)
    (succeeds : runner.Succeeds)
    (reads : simulation.world.snapshot = snapshot)
    (finds : ∀ drawing ∈ callDrawing? environment .call context simulation,
      drawing.1.Finds answers.comparison drawing.2) :
    ∃ outcome after,
      messageCall environment runner .call context simulation = .ok outcome after := by
  have besides := answers.beside reads
  have follows : Tolerance.ofFrames.Follows _ _ _ := follows_messageCall steady besides finds
  rcases follows.ok_or_regular with ⟨outcome, after, done, _⟩ | ⟨error, after, failed, regular, _⟩
  · exact ⟨outcome, after, done⟩
  · have aborts : error.isAbort = true := by
      simp only [messageCall, framed_eq, if_true] at failed
      obtain ⟨inner, failed⟩ := exists_of_closeFrame_error failed
      rcases isAbort_of_withTransfer failed with aborts | ⟨world, moved, failed⟩
      · exact aborts
      · have moves := (besides.world.push.transfer _ _ _).of_ok moved
        have answers' : world.snapshot.Answers := moves.reads ▸ answers
        exact isAbort_of_runTarget succeeds answers' failed
    change error.isAbort = false at regular
    rw [regular] at aborts
    cases aborts

/-- After its address is found a creation fails only in a way that ends the transaction. -/
theorem isAbort_of_createContract
    {creator address : Address}
    {initCode : Bytes}
    {fresh after : Simulation}
    {error : VmError}
    (succeeds : runner.Succeeds)
    (draws : freshAddress creator simulation = .ok address fresh)
    (answers : fresh.world.snapshot.Answers)
    (failed :
      createContract environment runner creator context initCode simulation =
        .error error after) :
    error.isAbort = true := by
  obtain ⟨reached, counted, updated⟩ :=
    World.exists_updateAccount answers creator fun account =>
      { account with nonce := account.nonce.addClamp 1 }
  have counts : countNonce creator fresh = .ok () { fresh with world := counted } := by
    simp only [countNonce, change, updated]
    rfl
  simp only [createContract] at failed
  rw [bind_eq_of_ok draws, bind_eq_of_ok counts, framed_eq] at failed
  obtain ⟨inner, failed⟩ := exists_of_closeFrame_error failed
  rcases isAbort_of_withTransfer failed with aborts | ⟨world, _, failed⟩
  · exact aborts
  · obtain ⟨outcome, deployed, ran⟩ := succeeds
      { context with caller := creator, address, codeAddress := address } initCode
      { fresh with world }
    rw [bind_eq_of_ok ran] at failed
    split at failed
    · exact isAbort_of_deployOutput failed
    · cases failed

/-- A creation succeeds where its init code does, if it finds an address. -/
theorem createContract_succeeds
    {creator : Address}
    {initCode : Bytes}
    (steady : runner.Steady answers.comparison)
    (succeeds : runner.Succeeds)
    (reads : simulation.world.snapshot = snapshot)
    (finds : ∃ address, (simulation.world.newContractAddress creator).1 = .ok address) :
    ∃ outcome after,
      createContract environment runner creator context initCode simulation =
        .ok outcome after := by
  have besides := answers.beside reads
  obtain ⟨address, found⟩ := finds
  have finds : simulation.world.Finds answers.comparison creator := by
    intro error failed
    rw [found] at failed
    cases failed
  have draws :
      freshAddress creator simulation =
        .ok address
          { simulation with world := (simulation.world.newContractAddress creator).2 } := by
    unfold freshAddress
    generalize simulation.world.newContractAddress creator = drawn at found ⊢
    obtain ⟨answer, world⟩ := drawn
    subst found
    rfl
  have drawn := ((follows_freshAddress besides finds).of_ok draws).world.reads
  have follows :
      Tolerance.ofFrames.Follows (Simulation.Beside answers.comparison)
        (createContract environment runner creator context initCode simulation)
        (createContract environment runner creator context initCode simulation) :=
    follows_createContract steady besides finds
  rcases follows.ok_or_regular with ⟨outcome, after, done, _⟩ | ⟨error, after, failed, regular, _⟩
  · exact ⟨outcome, after, done⟩
  · have aborts := isAbort_of_createContract succeeds draws (drawn ▸ answers) failed
    change error.isAbort = false at regular
    rw [regular] at aborts
    cases aborts

end SimAction

/-! ## Transactions -/

namespace Environment

open CallStack (Moves Leads first)

/-- Where and for whom a first frame draws an address before it runs code. -/
def firstDrawing?
    (environment : Environment)
    (context : FrameContext)
    (isCreation : Bool)
    (simulation : Simulation) :
    Option (World × Address) :=
  if isCreation then
    some (simulation.world, context.origin)
  else
    SimAction.callDrawing? environment .call context simulation

/-- At some moment of the run of a first frame an instruction of the machine is next. -/
def Executes
    (environment : Environment)
    (context : FrameContext)
    (isCreation : Bool)
    (simulation : Simulation)
    (machine : Machine) : Prop :=
  machine.frame.isOver = false ∧
    ∃ start ∈ environment.firstStack? context isCreation simulation,
      ∃ count waiting, Leads (Moves environment) count start ⟨.running machine, waiting⟩

/-- At some moment of the run of a first frame an address is drawn for somebody. -/
inductive Draws
    (environment : Environment)
    (context : FrameContext)
    (isCreation : Bool)
    (simulation : Simulation) :
    World × Address → Prop where
  | first
      {drawing : World × Address}
      (draws : drawing ∈ environment.firstDrawing? context isCreation simulation) :
      Draws environment context isCreation simulation drawing
  | step
      {machine : Machine} {drawing : World × Address}
      (executes : environment.Executes context isCreation simulation machine)
      (draws : drawing ∈ Exec.drawing? environment machine) :
      Draws environment context isCreation simulation drawing

/--
Nothing around a first frame keeps it from coming to its end: lookups answer, logs have a
price, no step comes after the flag or too late, and addresses are found.
-/
structure LetsRun
    (environment : Environment)
    (context : FrameContext)
    (isCreation : Bool)
    (simulation : Simulation) : Prop where
  answers : simulation.world.snapshot.Answers
  prices :
    ∃ prices,
      environment.prices.schedule.standardPrices .contractCall context.block.timestamp =
        .ok prices
  rate : ∃ rate, environment.prices.rates.rateAt context.block.timestamp = .ok rate
  uncancelled : ∀ steps, environment.cancelled.isSeenAt steps = false
  inTime :
    ∀ machine,
      environment.Executes context isCreation simulation machine →
      machine.simulation.steps < environment.deadline.maxSteps
  finds :
    ∀ drawing,
      environment.Draws context isCreation simulation drawing →
      ∃ address, (drawing.1.newContractAddress drawing.2).1 = .ok address

variable
  {environment : Environment}
  {context : FrameContext}
  {isCreation : Bool}
  {simulation : Simulation}

/-- A first frame runs in the block of the transaction, in a world over the same snapshot. -/
theorem exists_of_firstStack?
    (answers : simulation.world.snapshot.Answers)
    {start : CallStack}
    (begins : start ∈ environment.firstStack? context isCreation simulation) :
    ∃ context' code opened,
      start = first environment.limits context' code opened ∧
        context'.block = context.block ∧
        opened.world.snapshot = simulation.world.snapshot := by
  have besides := answers.beside rfl
  have begins : environment.firstStack? context isCreation simulation = some start := begins
  unfold firstStack? at begins
  split at begins
  · split at begins
    · rename_i context' founded founds
      cases begins
      obtain ⟨address, rfl⟩ := SimAction.context_of_found founds
      exact ⟨_, _, founded, rfl, rfl, (SimAction.beside_of_found besides founds).world.reads⟩
    · cases begins
  · split at begins
    · rename_i code opened launches
      cases begins
      exact ⟨_, code, opened, rfl, rfl,
        (SimAction.beside_of_callLaunch? besides launches).world.reads⟩
    · cases begins

variable (lets : environment.LetsRun context isCreation simulation)
include lets

namespace LetsRun

/-- Logs have a price in every frame that runs in the block of the transaction. -/
theorem chargesLogs
    {context' : FrameContext}
    (sameBlock : context'.block = context.block) :
    environment.ChargesLogs lets.answers.comparison context' := by
  intro error failed
  obtain ⟨prices, listed⟩ := lets.prices
  obtain ⟨rate, rated⟩ := lets.rate
  simp only [PriceSource.price, PriceSource.tinycents, sameBlock, listed, rated] at failed
  cases failed

/-- An address that is found is no failure at all. -/
theorem found
    {drawing : World × Address}
    (draws : environment.Draws context isCreation simulation drawing) :
    drawing.1.Finds lets.answers.comparison drawing.2 := by
  intro error failed
  obtain ⟨address, found⟩ := lets.finds drawing draws
  rw [found] at failed
  cases failed

theorem letsStep
    {machine : Machine}
    (executes : environment.Executes context isCreation simulation machine) :
    environment.LetsStep lets.answers.comparison machine where
  cancelled seen := by
    rw [lets.uncancelled] at seen
    cases seen
  late reached := absurd (lets.inTime machine executes) (Nat.not_lt.mpr reached)
  finds drawing draws := lets.found (.step executes draws)

/-- A first frame that gets to run code comes to an end with an outcome. -/
theorem run_succeeds
    {start : CallStack}
    (begins : start ∈ environment.firstStack? context isCreation simulation)
    {ended : EStateM.Result VmError Simulation Outcome}
    {count : Nat}
    (leads : Leads (Moves environment) count start ⟨.ended ended, []⟩) :
    ∃ outcome after,
      ended = .ok outcome after ∧ after.world.snapshot = simulation.world.snapshot := by
  obtain ⟨context', code, opened, same, sameBlock, reads⟩ :=
    exists_of_firstStack? lets.answers begins
  subst same
  have sharesBlock : KeptByFrames environment fun frame => frame.context.block = context.block :=
    { move := fun move same => move.context_eq ▸ same
      gas := fun _ same => same
      start := fun found same => (Exec.block_of_launch? found).trans same }
  have charges {count : Nat} {stack : CallStack}
      (reached :
        Leads (Moves environment) count (first environment.limits context' code opened) stack) :
      ∀ frame ∈ stack.frames, environment.ChargesLogs lets.answers.comparison frame.context :=
    fun frame member => lets.chargesLogs (sharesBlock.leads sameBlock reached frame member)
  exact CallStack.isUnaborted_of_leads leads charges
    (fun reached runs => lets.letsStep ⟨runs, _, begins, _, _, reached⟩) reads

end LetsRun

/-- A call has an outcome, whether it runs code or not. -/
theorem call_succeeds
    (isCall : isCreation = false) :
    ∃ outcome after,
      SimAction.messageCall environment environment.runner .call context simulation =
        .ok outcome after := by
  subst isCall
  cases launches : SimAction.callLaunch? .call context simulation with
  | none =>
      have steady :
          (Runner.endingWith (Outcome.completed [] 0) simulation).Steady
            lets.answers.comparison :=
        Runner.steady_endingWith rfl _
      rw [SimAction.messageCall_of_no_launch launches environment.runner (Runner.endingWith _ _)]
      exact SimAction.messageCall_succeeds steady (Runner.succeeds_endingWith _ _) rfl
        fun drawing draws => lets.found (.first draws)
  | some launch =>
      obtain ⟨code, opened⟩ := launch
      have begins :
          first environment.limits context code opened ∈
            environment.firstStack? context false simulation := by
        simp [firstStack?, launches]
      obtain ⟨count, _, leads⟩ := environment.leads_runner context code opened
      obtain ⟨outcome, after, ended, _⟩ := lets.run_succeeds begins leads
      rw [SimAction.messageCall_of_callLaunch? launches, ended]
      exact ⟨outcome, _, rfl⟩

/-- A creation has an outcome, whether it gets to run its init code or not. -/
theorem creation_succeeds
    (isCreation' : isCreation = true) :
    ∃ outcome after,
      SimAction.createContract environment environment.runner context.origin
          { context with data := [] } context.data simulation =
        .ok outcome after := by
  subst isCreation'
  -- how code is run matters only where the creation gets to run it, and there it has an outcome
  have same :
      ∃ outcome after,
        after.world.snapshot = simulation.world.snapshot ∧
          SimAction.createContract environment environment.runner context.origin
              { context with data := [] } context.data simulation =
            SimAction.createContract environment (Runner.endingWith outcome after)
              context.origin { context with data := [] } context.data simulation := by
    cases founds :
        SimAction.found context.origin { context with data := [] } simulation with
    | error error after =>
        exact ⟨Outcome.completed [] 0, simulation, rfl,
          SimAction.createContract_of_not_found founds _ _ _⟩
    | ok context' founded =>
        have begins :
            first environment.limits context' context.data founded ∈
              environment.firstStack? context true simulation := by
          simp [firstStack?, founds]
        obtain ⟨count, _, leads⟩ := environment.leads_runner context' context.data founded
        obtain ⟨outcome, after, ended, reads⟩ := lets.run_succeeds begins leads
        refine ⟨outcome, after, reads, ?_⟩
        rw [SimAction.createContract_of_found founds, SimAction.createContract_of_found founds,
          ended]
        rfl
  obtain ⟨outcome, after, reads, same⟩ := same
  have steady : (Runner.endingWith outcome after).Steady lets.answers.comparison :=
    Runner.steady_endingWith reads outcome
  have finds := lets.finds (simulation.world, context.origin) (.first rfl)
  rw [same]
  exact SimAction.createContract_succeeds steady (Runner.succeeds_endingWith _ _) rfl finds

/-- Whatever the first frame is to run, it has an outcome. -/
theorem firstFrame_succeeds :
    ∃ outcome after,
      environment.firstFrame context isCreation simulation = .ok outcome after := by
  cases isCreation with
  | false => exact call_succeeds lets rfl
  | true => exact creation_succeeds lets rfl

omit lets

/--
A transaction that pays for its start, and that nothing around it keeps from coming to its
end, has a result, whatever its program and its input do.
-/
theorem transact_succeeds
    {world : World}
    {trace : Trace}
    (lets :
      Gas.intrinsic context.data isCreation ≤ context.gasLimit →
      environment.LetsRun
        { context with gasLimit := context.gasLimit - Gas.intrinsic context.data isCreation }
        isCreation { world := warmed context isCreation world, trace }) :
    ∃ result, environment.transact context isCreation world trace = .ok result := by
  unfold transact
  dsimp only
  split
  · exact ⟨_, rfl⟩
  · rename_i paid
    obtain ⟨outcome, after, done⟩ := firstFrame_succeeds (lets (UInt64.not_lt.mp paid))
    rw [done]
    exact ⟨_, rfl⟩

/-- Whether an address is found where one is drawn. -/
def findsAddress (drawing : World × Address) : Bool :=
  (drawing.1.newContractAddress drawing.2).1.isOk

/-- Whether a step of the active frame is in time and an address is found where it draws one. -/
def isUnhindered (environment : Environment) (stack : CallStack) : Bool :=
  match stack.active with
  | .running machine =>
      machine.frame.isOver ||
        (decide (machine.simulation.steps < environment.deadline.maxSteps) &&
          (Exec.drawing? environment machine).all findsAddress)
  | .ended _ => true

theorem exists_of_findsAddress
    {drawing : World × Address}
    (finds : findsAddress drawing = true) :
    ∃ address, (drawing.1.newContractAddress drawing.2).1 = .ok address := by
  unfold findsAddress at finds
  cases found : (drawing.1.newContractAddress drawing.2).1 with
  | ok address => exact ⟨address, rfl⟩
  | error error =>
      rw [found] at finds
      cases finds

/-- A first frame whose moves can be computed comes to its end. -/
theorem LetsRun.of_computed
    (answers : simulation.world.snapshot.Answers)
    (prices :
      (environment.prices.schedule.standardPrices .contractCall context.block.timestamp).isOk)
    (rate : (environment.prices.rates.rateAt context.block.timestamp).isOk)
    (uncancelled : ∀ steps, environment.cancelled.isSeenAt steps = false)
    (draws : (environment.firstDrawing? context isCreation simulation).all findsAddress = true)
    (moves : Nat)
    (runs :
      (environment.firstStack? context isCreation simulation).all
        (CallStack.checksRun environment environment.isUnhindered moves) = true) :
    environment.LetsRun context isCreation simulation := by
  have answered {α : Type} {lookup : Except PricingError α} (isOk : lookup.isOk) :
      ∃ answer, lookup = .ok answer := by
    cases lookup with
    | ok answer => exact ⟨answer, rfl⟩
    | error error => cases isOk
  have unhindered {machine : Machine}
      (executes : environment.Executes context isCreation simulation machine) :
      machine.simulation.steps < environment.deadline.maxSteps ∧
        ∀ drawing ∈ Exec.drawing? environment machine, findsAddress drawing = true := by
    obtain ⟨running, start, begins, count, waiting, leads⟩ := executes
    have checked :=
      CallStack.check_of_leads ((Option.all_eq_true _ _).mp runs start begins) leads
    simp only [isUnhindered, running, Bool.false_or, Bool.and_eq_true, decide_eq_true_eq]
      at checked
    exact ⟨checked.1, (Option.all_eq_true _ _).mp checked.2⟩
  refine ⟨answers, answered prices, answered rate, uncancelled, fun machine executes => ?_,
    fun drawing drawn => ?_⟩
  · exact (unhindered executes).1
  · cases drawn with
    | first drawn =>
        exact exists_of_findsAddress ((Option.all_eq_true _ _).mp draws _ drawn)
    | step executes drawn => exact exists_of_findsAddress ((unhindered executes).2 _ drawn)

/--
A contract creates another one, which has no code, and then meets an invalid instruction.
Its steps are in time and the address is found, so the transaction has a result: it has
halted.
-/
theorem halted_program_has_result :
    let source : PriceSource :=
      { schedule := FeeSchedule.empty.list ⟨0⟩ [.contractCall] { }
        rates := RateTable.empty.list ⟨0⟩ (.lasting 1 12) }
    let environment : Environment :=
      { rules := ⟨⟨0, 50, 0⟩, .cancun, ⟨true, true⟩, ⟨true, true⟩⟩
        prices := source
        deadline := { maxSteps := 5 } }
    let caller := Address.ofNum 1001
    let contract :=
      Account.newContract (Address.ofNum 1002) [0x60, 0x00, 0x60, 0x00, 0x60, 0x00, 0xf0, 0xfe]
    let contents : Snapshot.Contents :=
      { accounts := Table.ofList [(contract.address, contract)] }
    let world := World.ofSnapshot (.ofContents contents) true ⟨0⟩ 5000
    let context := FrameContext.ofTransaction caller contract.address 0 [] 100000 1 { }
    let paid :=
      { context with gasLimit := context.gasLimit - Gas.intrinsic context.data false }
    environment.LetsRun paid false { world := warmed context false world } ∧
      ∃ result,
        environment.transact context false world Trace.off = .ok result ∧
          result.haltReason = some .invalidOperation := by
  intro source environment caller contract contents world context paid
  have lets : environment.LetsRun paid false { world := warmed context false world } :=
    .of_computed (Snapshot.answers_ofContents contents) (by decide +kernel) (by decide +kernel)
      (fun _ => rfl) (by decide +kernel) 20 (by decide +kernel)
  have halted :
      (environment.transact context false world Trace.off).map CallResult.haltReason =
        .ok (some .invalidOperation) := by
    decide +kernel
  obtain ⟨result, done⟩ := transact_succeeds fun _ => lets
  rw [done] at halted
  exact ⟨lets, result, done, Except.ok.inj halted⟩

end Environment

end LedgerEvm
