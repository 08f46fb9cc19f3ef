import LedgerEvm.Proofs.Machine.MemoryContents

namespace LedgerEvm

/-!
# Output windows

A frame that makes a call is left with its answer: as much of the output in memory as the window
for it holds, all of it as return data, and a word that tells whether the callee completed.  A
call that is skipped leaves an empty answer, and memory as it was.
-/

/-- What an account holds does not depend on what was accessed. -/
theorem World.balance_warmAccount
    (world : World)
    (accessed address : Address) :
    (world.warmAccount accessed).balance address = world.balance address := by
  have get : (world.warmAccount accessed).get address = world.get address :=
    get_record world address (fun _ => rfl) fun _ => rfl
  simp only [balance, get]

namespace Exec

variable
  {machine after : Machine}
  {kind : CallKind}
  {operands : CallOperands}

/-! ## Operands -/

/-- Take the windows of a call, the last of its operands. -/
def popWindows
    (kind : CallKind)
    (requested : Word)
    (target : Address)
    (value : Word) :
    Exec CallOperands := do
  let input ← pop2
  let output ← pop2
  if (← context).isStatic ∧ kind = .call ∧ value ≠ 0 then
    throw .writeInStaticContext
  return { requested, target, value, input, output }

theorem popCall_eq
    (kind : CallKind) :
    popCall kind = (do
      let requested ← pop
      let target ← popAddress
      let value ← if kind.hasValue then pop else pure 0
      popWindows kind requested target value) :=
  rfl

theorem of_popWindows_eq_ok
    {requested value : Word}
    {target : Address}
    (done : popWindows kind requested target value machine = .ok operands after) :
    ∃ rest : OperandStack,
      operands = { requested, target, value, input := operands.input, output := operands.output } ∧
        machine.frame.stack.words =
          operands.input.1 :: operands.input.2 :: operands.output.1 :: operands.output.2 ::
            rest.words ∧
        after = ⟨{ machine.frame with stack := rest }, machine.simulation⟩ := by
  obtain ⟨input, first, pops, done⟩ := exists_of_run_eq_ok done
  obtain ⟨_, inputs, rfl⟩ := of_pop2_eq_ok pops
  obtain ⟨output, second, pops, done⟩ := exists_of_run_eq_ok done
  obtain ⟨rest, outputs, rfl⟩ := of_pop2_eq_ok pops
  obtain ⟨context, looked, looks, done⟩ := exists_of_run_eq_ok done
  cases looks
  dsimp only at done
  split at done
  · cases done
  · cases done
    refine ⟨rest, rfl, ?_, rfl⟩
    rw [inputs]
    exact congrArg _ (congrArg _ outputs)

/-- A call finds its operands on the stack and takes nothing else. -/
theorem of_popCall_eq_ok
    (done : popCall kind machine = .ok operands after) :
    ∃ (target : Word) (rest : OperandStack),
      operands.target = Address.ofWord target ∧
        machine.frame.stack.words =
          callWords kind operands.requested target operands.value
            (operands.input.1 :: operands.input.2 :: operands.output.1 ::
              operands.output.2 :: rest.words) ∧
        after = ⟨{ machine.frame with stack := rest }, machine.simulation⟩ := by
  rw [popCall_eq] at done
  obtain ⟨requested, first, pops, done⟩ := exists_of_run_eq_ok done
  obtain ⟨_, requests, rfl⟩ := of_pop_eq_ok pops
  obtain ⟨address, second, pops, done⟩ := exists_of_run_eq_ok done
  obtain ⟨target, named, pops, names⟩ := exists_of_run_eq_ok pops
  obtain ⟨_, targets, rfl⟩ := of_pop_eq_ok pops
  cases names
  dsimp only at done targets
  split at done
  · rename_i hasValue
    obtain ⟨value, third, pops, done⟩ := exists_of_run_eq_ok done
    obtain ⟨_, values, rfl⟩ := of_pop_eq_ok pops
    obtain ⟨rest, same, windows, rfl⟩ := of_popWindows_eq_ok done
    rw [same]
    refine ⟨target, rest, rfl, ?_, rfl⟩
    rw [requests, targets, callWords, if_pos hasValue]
    exact congrArg _ (congrArg _ (values.trans (congrArg _ windows)))
  · rename_i noValue
    obtain ⟨value, third, pures, done⟩ := exists_of_run_eq_ok done
    cases pures
    obtain ⟨rest, same, windows, rfl⟩ := of_popWindows_eq_ok done
    rw [same]
    refine ⟨target, rest, rfl, ?_, rfl⟩
    rw [requests, targets, callWords, if_neg noValue]
    exact congrArg _ (congrArg _ windows)

/-! ## Whether a call is made -/

/-- An access is paid for, and the account is warm from then on. -/
theorem of_access_eq_ok
    {target : Address}
    (done : inspect.access target machine = .ok () after) :
    ∃ gas,
      after =
        ⟨{ machine.frame with gas },
          { machine.simulation with
            world := machine.simulation.world.warmAccount target }⟩ := by
  obtain ⟨wasWarm, known, knows, rest⟩ := exists_of_run_eq_ok done
  obtain ⟨-, rfl⟩ := of_ask_eq_ok knows
  obtain ⟨_, warmed, warms, pays⟩ := exists_of_run_eq_ok rest
  cases warms
  obtain ⟨-, rfl⟩ := of_charge_eq_ok pays
  exact ⟨_, rfl⟩

/-- A delegated call looks at its target, and is not made if that is a system account. -/
theorem of_inspectCallee_eq_ok
    {rule : AddressRule}
    {target : Address}
    {goesOn : Bool}
    (done : inspectCallee rule kind target machine = .ok goesOn after) :
    (∃ gas simulation, after = ⟨{ machine.frame with gas }, simulation⟩) ∧
      (goesOn = false ↔
        kind = .delegateCall ∧
          machine.simulation.world.judge rule target = .ok .systemAccount) ∧
      (goesOn = true →
        after.simulation.world = machine.simulation.world.warmAccount target) := by
  unfold inspectCallee at done
  split at done
  · rename_i delegated
    obtain ⟨verdict, asked, asks, judged⟩ := exists_of_run_eq_ok done
    obtain ⟨judges, rfl⟩ := of_ask_eq_ok asks
    cases verdict with
    | systemAccount =>
        obtain ⟨_, paid, charges, rest⟩ := exists_of_run_eq_ok judged
        obtain ⟨-, rfl⟩ := of_charge_eq_ok charges
        cases rest
        exact ⟨⟨_, _, rfl⟩, by simp [delegated, judges], nofun⟩
    | invalid => cases judged
    | regular =>
        obtain ⟨_, accessed, accesses, rest⟩ := exists_of_run_eq_ok judged
        obtain ⟨gas, rfl⟩ := of_access_eq_ok accesses
        cases rest
        exact ⟨⟨_, _, rfl⟩, by simp [judges], fun _ => rfl⟩
  · rename_i notDelegated
    obtain ⟨_, accessed, accesses, rest⟩ := exists_of_run_eq_ok done
    obtain ⟨gas, rfl⟩ := of_access_eq_ok accesses
    cases rest
    exact ⟨⟨_, _, rfl⟩, by simp [notDelegated], fun _ => rfl⟩

/-- A value is only paid for before it moves. -/
theorem of_chargeValue_eq_ok
    {target : Address}
    (done : chargeValue kind target machine = .ok () after) :
    ∃ gas, after = ⟨{ machine.frame with gas }, machine.simulation⟩ := by
  obtain ⟨_, paid, charges, done⟩ := exists_of_run_eq_ok done
  obtain ⟨-, rfl⟩ := of_charge_eq_ok charges
  split at done
  · obtain ⟨answers, asked, asks, done⟩ := exists_of_run_eq_ok done
    obtain ⟨-, rfl⟩ := of_ask_eq_ok asks
    split at done
    · obtain ⟨-, rfl⟩ := of_charge_eq_ok done
      exact ⟨_, rfl⟩
    · cases done
      exact ⟨_, rfl⟩
  · cases done
    exact ⟨_, rfl⟩

/-- The frame may not start another one: it is too deep, or holds less than the value. -/
def CannotStart
    (limits : Limits)
    (value : Word)
    (checksBalance : Bool)
    (machine : Machine) :
    Prop :=
  limits.maxCallDepth ≤ machine.frame.context.depth ∨
    checksBalance = true ∧
      ∃ balance,
        machine.simulation.world.balance machine.frame.context.address = .ok balance ∧
          balance < value

theorem of_canStart_eq_ok
    {limits : Limits}
    {value : Word}
    {checksBalance starts : Bool}
    (done : canStart limits value checksBalance machine = .ok starts after) :
    after = machine ∧ (starts = false ↔ CannotStart limits value checksBalance machine) := by
  obtain ⟨context, looked, looks, decides⟩ := exists_of_run_eq_ok done
  cases looks
  unfold CannotStart
  split at decides
  · rename_i deep
    cases decides
    exact ⟨rfl, by simp [deep]⟩
  · rename_i shallow
    split at decides
    · rename_i checks
      obtain ⟨balance, asked, asks, compares⟩ := exists_of_run_eq_ok decides
      obtain ⟨held, rfl⟩ := of_ask_eq_ok asks
      cases compares
      exact ⟨rfl, by simp [shallow, checks, held]⟩
    · rename_i unchecked
      cases decides
      exact ⟨rfl, by simp [shallow, unchecked]⟩

/-- Gas is set aside exactly for a frame that may be started, which is given its input. -/
theorem of_launchCall_eq_ok
    {limits : Limits}
    {input output : Nat × Nat}
    {launch? : Option CallLaunch}
    (done : launchCall limits kind operands input output machine = .ok launch? after) :
    (∃ gas, after = ⟨{ machine.frame with gas }, machine.simulation⟩) ∧
      (launch? = none ↔
        CannotStart limits operands.value (operands.movesValue kind) machine) ∧
      ∀ launch, launch? = some launch →
        launch.output = output ∧
          ∃ gas,
            launch.context =
              machine.frame.context.child kind operands.target operands.value
                (machine.frame.memory.read input.1 input.2) gas := by
  obtain ⟨frame, looked, looks, sets⟩ := exists_of_run_eq_ok done
  cases looks
  obtain ⟨_, paid, charges, starts⟩ := exists_of_run_eq_ok sets
  obtain ⟨-, rfl⟩ := of_charge_eq_ok charges
  obtain ⟨started, checked, checks, launches⟩ := exists_of_run_eq_ok starts
  obtain ⟨rfl, cannot⟩ := of_canStart_eq_ok checks
  split at launches
  · rename_i may
    subst may
    obtain ⟨data, read, reads, launches⟩ := exists_of_run_eq_ok launches
    cases reads
    obtain ⟨context, looked, looks, launches⟩ := exists_of_run_eq_ok launches
    cases looks
    cases launches
    refine ⟨⟨_, rfl⟩, ?_, ?_⟩
    · exact ⟨nofun, fun able => absurd (cannot.mpr able) nofun⟩
    · rintro launch ⟨⟩
      exact ⟨rfl, _, rfl⟩
  · rename_i mayNot
    obtain ⟨_, given, gives, launches⟩ := exists_of_run_eq_ok launches
    cases gives
    cases launches
    exact ⟨⟨_, rfl⟩, ⟨fun _ => cannot.mp ((Bool.not_eq_true _).mp mayNot), fun _ => rfl⟩,
      nofun⟩

end Exec

/--
A call is skipped: it is delegated to a system account, or the frame that makes it is at the
greatest depth or holds less than the value that it sends along.
-/
def Machine.SkipsCall
    (environment : Environment)
    (kind : CallKind)
    (operands : Exec.CallOperands)
    (machine : Machine) :
    Prop :=
  kind = .delegateCall ∧
      machine.simulation.world.judge environment.rules.addresses operands.target =
        .ok .systemAccount ∨
    Exec.CannotStart environment.limits operands.value (operands.movesValue kind) machine

namespace Exec

theorem of_prepareCall_eq_ok
    {environment : Environment}
    {launch? : Option CallLaunch}
    (done : prepareCall environment kind machine = .ok launch? after) :
    ∃ (operands : CallOperands) (target : Word) (stack : OperandStack) (gas : UInt64)
        (memory : Memory) (window : Nat × Nat),
      operands.target = Address.ofWord target ∧
        machine.frame.stack.words =
          callWords kind operands.requested target operands.value
            (operands.input.1 :: operands.input.2 :: operands.output.1 ::
              operands.output.2 :: stack.words) ∧
        memory.contents = machine.frame.memory.contents ∧
        window.1 + window.2 ≤ memory.size ∧
        window.2 = operands.output.2.toNat ∧
        (operands.output.2 ≠ 0 → window.1 = operands.output.1.toNat) ∧
        after.frame = { machine.frame with stack, gas, memory, returnData := [] } ∧
        (launch? = none ↔ machine.SkipsCall environment kind operands) ∧
        ∀ launch, launch? = some launch →
          launch.output = window ∧
            after.simulation.world = machine.simulation.world.warmAccount operands.target ∧
            ∃ gas,
              launch.context =
                machine.frame.context.child kind operands.target operands.value
                  ((machine.frame.memory.contents.behind operands.input.1.toNat).first
                    operands.input.2.toNat)
                  gas := by
  obtain ⟨operands, popped, pops, prepares⟩ := exists_of_run_eq_ok done
  obtain ⟨target, stack, named, words, rfl⟩ := of_popCall_eq_ok pops
  obtain ⟨input, first, grows, prepares⟩ := exists_of_run_eq_ok prepares
  obtain ⟨_, _, rfl, sameInput, _, inputLength, inputBegins⟩ := contents_of_expand grows
  obtain ⟨window, second, grows, prepares⟩ := exists_of_run_eq_ok prepares
  obtain ⟨_, memory, rfl, sameOutput, fits, length, begins⟩ := contents_of_expand grows
  obtain ⟨_, emptied, empties, prepares⟩ := exists_of_run_eq_ok prepares
  cases empties
  obtain ⟨goesOn, looked, looks, prepares⟩ := exists_of_run_eq_ok prepares
  obtain ⟨⟨gas, simulation, rfl⟩, skipped, warmed⟩ := of_inspectCallee_eq_ok looks
  have same : memory.contents = machine.frame.memory.contents := sameOutput.trans sameInput
  refine ⟨operands, target, stack, ?_⟩
  dsimp only at prepares
  split at prepares
  · rename_i goes
    have paid :
        ∃ gas ready,
          launchCall environment.limits kind operands input window ready = .ok launch? after ∧
            ready =
              ⟨{ machine.frame with stack, gas, memory, returnData := [] }, simulation⟩ := by
      split at prepares
      · obtain ⟨_, paid, pays, launches⟩ := exists_of_run_eq_ok prepares
        obtain ⟨gas, rfl⟩ := of_chargeValue_eq_ok pays
        exact ⟨gas, _, launches, rfl⟩
      · exact ⟨gas, _, prepares, rfl⟩
    obtain ⟨gas, ready, launches, rfl⟩ := paid
    obtain ⟨⟨gas, rfl⟩, cannot, launched⟩ := of_launchCall_eq_ok launches
    refine ⟨gas, memory, window, named, words, same, fits, length, begins, rfl, ?_, ?_⟩
    · have notSkipped := mt skipped.mpr (by simp [goes])
      unfold CannotStart at cannot
      rw [warmed goes, World.balance_warmAccount] at cannot
      exact cannot.trans (or_iff_right notSkipped).symm
    · intro launch found
      obtain ⟨output, given, context⟩ := launched launch found
      refine ⟨output, warmed goes, given, context.trans ?_⟩
      change
        machine.frame.context.child _ _ _ (memory.read input.1 input.2) _ = _
      rw [Memory.read_eq_first, same, first_window inputLength inputBegins]
  · rename_i stays
    cases prepares
    have system := skipped.mp ((Bool.not_eq_true _).mp stays)
    exact ⟨gas, memory, window, named, words, same, fits, length, begins, rfl,
      ⟨fun _ => .inl system, fun _ => rfl⟩, nofun⟩

end Exec

/-! ## What the frame is left with -/

/-- A frame whose call was skipped has an empty answer and a zero on its stack. -/
structure Frame.Skipped (before after : Frame) (rest : List Word) : Prop where
  memory : after.memory.contents = before.memory.contents
  returnData : after.returnData = []
  stack : after.stack.words = 0 :: rest
  logs : after.logs = before.logs
  refund : after.refund = before.refund

/-- How many bytes of an output a window of memory takes. -/
def Outcome.copied (outcome : Outcome) (size : Word) : Nat :=
  min size.toNat outcome.output.length

/--
A frame whose call was answered has as much of the output in the window as both of them hold, all
of it as its return data, and a word on its stack that tells whether the callee completed.  Only
then it has the callee's logs and refund as well.
-/
structure Frame.Answered
    (before after : Frame)
    (window : Word × Word)
    (rest : List Word)
    (outcome : Outcome) :
    Prop where
  inside :
    ∀ index < outcome.copied window.2,
      outcome.output[index]? = some (after.memory.contents (window.1.toNat + index))
  outside :
    ∀ index,
      index < window.1.toNat ∨ window.1.toNat + outcome.copied window.2 ≤ index →
      after.memory.contents index = before.memory.contents index
  returnData : after.returnData = outcome.output
  stack : after.stack.words = Word.ofBool outcome.isSuccess :: rest
  logs : after.logs = if outcome.isSuccess then before.logs ++ outcome.logs else before.logs
  refund :
    after.refund = if outcome.isSuccess then before.refund + outcome.refund else before.refund

namespace Exec

theorem of_onSimulation_eq_ok
    {α : Type}
    {action : SimAction α}
    {answer : α}
    (done : onSimulation action machine = .ok answer after) :
    ∃ later, action machine.simulation = .ok answer later ∧ after = ⟨machine.frame, later⟩ := by
  unfold onSimulation at done
  cases acted : action machine.simulation with
  | ok found later =>
      simp only [acted] at done
      cases done
      exact ⟨later, rfl, rfl⟩
  | error error later => simp only [acted, reduceCtorEq] at done

theorem of_takeOutcome_eq_ok
    {outcome : Outcome}
    {offset size : Nat}
    (done : takeOutcome outcome offset size machine = .ok () after)
    (fits : offset + size ≤ machine.frame.memory.size) :
    after.frame.memory.contents =
        machine.frame.memory.contents.overwrite offset (min size outcome.output.length)
          outcome.output.extended ∧
      after.frame.returnData = outcome.output ∧
      after.frame.stack.words =
        Word.ofBool outcome.isSuccess :: machine.frame.stack.words ∧
      after.frame.logs =
        (if outcome.isSuccess then machine.frame.logs ++ outcome.logs else machine.frame.logs) ∧
      after.frame.refund =
        (if outcome.isSuccess then machine.frame.refund + outcome.refund
          else machine.frame.refund) ∧
      after.simulation = machine.simulation := by
  obtain ⟨_, given, gives, writes⟩ := exists_of_run_eq_ok done
  cases gives
  obtain ⟨_, written, writing, takes⟩ := exists_of_run_eq_ok writes
  cases writing
  have within : offset + min size outcome.output.length ≤ machine.frame.memory.size := by omega
  have contents := Memory.contents_storeWindow within outcome.output 0
  have start : outcome.output.extended.behind 0 = outcome.output.extended := by
    funext index
    rw [Contents.behind, Nat.zero_add]
  rw [start] at contents
  dsimp only at takes
  split at takes
  · rename_i completed
    obtain ⟨_, taken, taking, leaves⟩ := exists_of_run_eq_ok takes
    cases taking
    obtain ⟨_, returned, returns, pushes⟩ := exists_of_run_eq_ok leaves
    cases returns
    obtain ⟨stack, pushed, rfl⟩ := of_push_eq_ok pushes
    exact ⟨contents, rfl, pushed, (if_pos completed).symm, (if_pos completed).symm, rfl⟩
  · rename_i failed
    obtain ⟨_, returned, returns, pushes⟩ := exists_of_run_eq_ok takes
    cases returns
    obtain ⟨stack, pushed, rfl⟩ := of_push_eq_ok pushes
    exact ⟨contents, rfl, pushed, (if_neg failed).symm, (if_neg failed).symm, rfl⟩

/-- Where a window begins that takes nothing does not matter. -/
theorem overwrite_copied
    {outcome : Outcome}
    {window : Nat × Nat}
    {offset size : Word}
    (begins : size ≠ 0 → window.1 = offset.toNat)
    {contents source : Contents} :
    contents.overwrite window.1 (outcome.copied size) source =
      contents.overwrite offset.toNat (outcome.copied size) source := by
  by_cases empty : size = 0
  · subst empty
    have none : outcome.copied 0 = 0 := Nat.zero_min _
    rw [none, Contents.overwrite_zero, Contents.overwrite_zero]
  · rw [begins empty]

/-- What a call does to its frame when it succeeds. -/
theorem of_call_eq_ok
    {environment : Environment}
    {runner : Runner}
    (done : call environment runner kind machine = .ok () after) :
    ∃ (operands : CallOperands) (target : Word) (rest : List Word),
      operands.target = Address.ofWord target ∧
        machine.frame.stack.words =
          callWords kind operands.requested target operands.value
            (operands.input.1 :: operands.input.2 :: operands.output.1 ::
              operands.output.2 :: rest) ∧
        (machine.SkipsCall environment kind operands ∧ machine.frame.Skipped after.frame rest ∨
          ¬ machine.SkipsCall environment kind operands ∧
            ∃ gas prior outcome later,
              prior.world = machine.simulation.world.warmAccount operands.target ∧
                SimAction.messageCall environment runner kind
                    (machine.frame.context.child kind operands.target operands.value
                      ((machine.frame.memory.contents.behind operands.input.1.toNat).first
                        operands.input.2.toNat)
                      gas)
                    prior =
                  .ok outcome later ∧
                after.simulation = later ∧
                machine.frame.Answered after.frame operands.output rest outcome) := by
  obtain ⟨launch?, ready, prepares, launches⟩ := exists_of_run_eq_ok done
  obtain ⟨operands, target, stack, gas, memory, window, named, words, same, fits, length, begins,
    frame, skipped, launched⟩ := of_prepareCall_eq_ok prepares
  refine ⟨operands, target, stack.words, named, words, ?_⟩
  have contents : ready.frame.memory.contents = machine.frame.memory.contents := by
    rwa [frame]
  have below : ready.frame.stack.words = stack.words := by
    rw [frame]
  have emptied : ready.frame.returnData = [] := by
    rw [frame]
  have sameLogs : ready.frame.logs = machine.frame.logs := by
    rw [frame]
  have sameRefund : ready.frame.refund = machine.frame.refund := by
    rw [frame]
  cases launch? with
  | none =>
      obtain ⟨pushed, answer, rfl⟩ := of_push_eq_ok launches
      exact .inl
        ⟨skipped.mp rfl, contents, emptied, answer.trans (congrArg _ below), sameLogs, sameRefund⟩
  | some launch =>
      have made : ¬ machine.SkipsCall environment kind operands := mt skipped.mpr nofun
      obtain ⟨rfl, warmed, given, context⟩ := launched launch rfl
      obtain ⟨outcome, answered, answers, takes⟩ := exists_of_run_eq_ok launches
      obtain ⟨later, calls, rfl⟩ := of_onSimulation_eq_ok answers
      obtain ⟨overwritten, returned, pushed, logs, refund, shared⟩ :=
        of_takeOutcome_eq_ok takes (by rwa [frame])
      rw [context] at calls
      have shown :
          after.frame.memory.contents =
            machine.frame.memory.contents.overwrite operands.output.1.toNat
              (outcome.copied operands.output.2) outcome.output.extended := by
        rw [overwritten, contents, length]
        exact overwrite_copied begins
      refine .inr ⟨made, given, _, outcome, later, warmed, calls, shared, ?_⟩
      exact
        { inside := fun index inside => by
            rw [shown, Contents.overwrite_inside inside]
            exact Bytes.getElem?_eq_extended (inside.trans_le (Nat.min_le_right _ _))
          outside := fun index outside => by
            rw [shown, Contents.overwrite_outside outside]
          returnData := returned
          stack := pushed.trans (congrArg _ below)
          logs := logs.trans (by rw [sameLogs])
          refund := refund.trans (by rw [sameRefund]) }

end Exec

/--
A call of whatever kind that does not fail its frame finds its operands on the stack and grows
memory to hold the windows of its input and its output.  It is skipped exactly for the reasons
there are for that, and then memory holds what it held.  Otherwise its target is called with what
memory held in the window of the input, and of memory only as much of the other window changes as
the output fills.
-/
theorem call_changes_only_its_output_window
    {environment : Environment}
    {runner : Runner}
    {instruction : Instruction}
    {kind : CallKind}
    {machine after : Machine}
    (found : machine.frame.instruction? environment.rules = some instruction)
    (calls : instruction.callKind? = some kind)
    (steps : Exec.step environment runner machine = .ok () after) :
    ∃ (operands : Exec.CallOperands) (target : Word) (rest : List Word),
      operands.target = Address.ofWord target ∧
        machine.frame.stack.words =
          Exec.callWords kind operands.requested target operands.value
            (operands.input.1 :: operands.input.2 :: operands.output.1 ::
              operands.output.2 :: rest) ∧
        after.frame.memory.size =
          max machine.frame.memory.size
            (Memory.wordsFor
                (Window.furthest
                  [⟨operands.input.1, operands.input.2⟩,
                    ⟨operands.output.1, operands.output.2⟩]) *
              32) ∧
        (machine.SkipsCall environment kind operands ∧ machine.frame.Skipped after.frame rest ∨
          ¬ machine.SkipsCall environment kind operands ∧
            ∃ gas prior outcome later,
              prior.world = machine.simulation.world.warmAccount operands.target ∧
                SimAction.messageCall environment runner kind
                    (machine.frame.context.child kind operands.target operands.value
                      ((machine.frame.memory.contents.behind operands.input.1.toNat).first
                        operands.input.2.toNat)
                      gas)
                    prior =
                  .ok outcome later ∧
                after.simulation.world = later.world ∧
                machine.frame.Answered after.frame operands.output rest outcome) := by
  have touched :
      machine.frame.windows environment.rules =
        instruction.windows machine.frame.stack.words := by
    rw [Frame.windows, found]
  have size := Exec.size_of_step steps
  rw [touched] at size
  rw [Exec.step_eq] at steps
  obtain ⟨begun, ready, begins, acts⟩ := exists_of_run_eq_ok steps
  obtain ⟨fetched, moved, world⟩ := (Exec.yields_begin environment machine).of_ok begins rfl
  obtain ⟨acted, executes, same, shared⟩ := Exec.of_amending_eq_ok acts
  cases found.symm.trans fetched
  rw [Exec.execute_of_callKind? calls] at executes
  obtain ⟨operands, target, rest, named, words, left⟩ := Exec.of_call_eq_ok executes
  rw [moved] at words
  have skips :
      ready.SkipsCall environment kind operands ↔ machine.SkipsCall environment kind operands := by
    simp only [Machine.SkipsCall, Exec.CannotStart, moved, world]
  rw [words, Instruction.windows_of_callKind? calls] at size
  rw [skips, world, moved, ← same] at left
  refine ⟨operands, target, rest, named, words, size, left.imp ?_ ?_⟩
  · rintro ⟨skipped, left⟩
    exact ⟨skipped, left.memory, left.returnData, left.stack, left.logs, left.refund⟩
  · rintro ⟨made, gas, prior, outcome, later, warmed, answers, rfl, left⟩
    exact ⟨made, gas, prior, outcome, _, warmed, answers, shared, left.inside, left.outside,
      left.returnData, left.stack, left.logs, left.refund⟩

/--
The identity contract is called with five bytes and answers with all of them.  Only three have
room: the window overlaps the one of the input, and the byte behind it stays.
-/
theorem identity_fills_three_bytes :
    let environment : Environment :=
      { rules := ⟨⟨0, 50, 0⟩, .cancun, ⟨true, true⟩, ⟨true, true⟩⟩
        prices := ⟨.empty, .empty, fun _ _ => 1⟩ }
    let context :=
      FrameContext.ofTransaction (Address.ofNum 1001) (Address.ofNum 1002) 0 [] 100000 1 { }
    let frame : Frame :=
      { Frame.start { } context [0xfa] with
        stack := ⟨[50000, 4, 0, 5, 2, 3], by decide⟩
        memory := ⟨(List.range 32).toArray.map UInt8.ofNat, 1024⟩ }
    let simulation : Simulation :=
      { world := World.ofSnapshot (Snapshot.ofContents { }) true ⟨0⟩ 5000
        trace := Trace.off }
    let machine : Machine := ⟨frame, simulation⟩
    let after := stateOf (Exec.step environment Runner.idle machine)
    machine.frame.instruction? environment.rules = some .staticCall ∧
      Exec.step environment Runner.idle machine = .ok () after ∧
      after.frame.returnData = [0, 1, 2, 3, 4] ∧
      after.frame.memory.contents 4 = 2 ∧
      after.frame.memory.contents 5 = 5 := by
  intro environment context frame simulation machine after
  have found : machine.frame.instruction? environment.rules = some .staticCall := by
    decide +kernel
  have steps : Exec.step environment Runner.idle machine = .ok () after :=
    eq_ok_of_answerOf (by decide +kernel)
  have returned : after.frame.returnData = [0, 1, 2, 3, 4] := by decide +kernel
  have fifth : machine.frame.memory.contents 5 = 5 := by decide +kernel
  have calls : Instruction.staticCall.callKind? = some .staticCall := rfl
  obtain ⟨operands, target, rest, -, words, -, left⟩ :=
    call_changes_only_its_output_window found calls steps
  have shape :
      ([50000, 4, 0, 5, 2, 3] : List Word) =
        operands.requested :: target :: operands.input.1 :: operands.input.2 ::
          operands.output.1 :: operands.output.2 :: rest :=
    words
  simp only [List.cons.injEq] at shape
  obtain ⟨-, -, -, -, offset, length, -⟩ := shape
  refine ⟨found, steps, returned, ?_⟩
  rcases left with ⟨-, skipped⟩ | ⟨-, _, _, outcome, _, -, -, -, answered⟩
  · cases returned.symm.trans skipped.returnData
  · have output : outcome.output = [0, 1, 2, 3, 4] := answered.returnData.symm.trans returned
    have copied : outcome.copied operands.output.2 = 3 := by
      rw [Outcome.copied, output, ← length]
      rfl
    have third := answered.inside 2 (by omega)
    have fourth := answered.outside 5 (.inr (by rw [copied, ← offset]; decide))
    rw [output, ← offset] at third
    exact ⟨(Option.some.inj third).symm, fourth.trans fifth⟩

end LedgerEvm
