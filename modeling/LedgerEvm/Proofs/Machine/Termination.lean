import LedgerEvm.Proofs.Machine.BesideWorld

namespace LedgerEvm

/-!
# Every run ends because its gas does

An instruction ends its frame or spends gas of the frames taken together, and a frame
comes into being only with an instruction that spends.  So the gas at the start bounds the
instructions and the moves between them.  Neither the limit on steps, nor the deadline,
nor the limit on the depth of calls has a part in this: the surroundings and the depth may
be others at every move.
-/

/-- The gas that the frame on top has left. -/
def ActiveFrame.unspent : ActiveFrame → Nat
  | .running machine => machine.frame.gas.toNat
  | .ended result => endedGas result

/-- Whether the frame on top has still to be closed. -/
def ActiveFrame.isRunning : ActiveFrame → Bool
  | .running _ => true
  | .ended _ => false

namespace CallStack

/-- The gas that is left in all frames together. -/
def unspent (stack : CallStack) : Nat :=
  stack.active.unspent +
    stack.waiting.foldr (fun waiting total => waiting.frame.gas.toNat + total) 0

/-- The stack with another depth for the frame on top. -/
def atDepth (depth : UInt16) : CallStack → CallStack
  | ⟨.running ⟨frame, simulation⟩, waiting⟩ =>
      ⟨.running ⟨{ frame with context := { frame.context with depth } }, simulation⟩, waiting⟩
  | stack => stack

/-- One move in some surroundings and at some depth, so whatever the limits are. -/
def MovesFreely (before after : CallStack) : Prop :=
  ∃ environment depth, (before.atDepth depth).next environment = some after

theorem MovesFreely.of_moves
    {environment : Environment}
    {before after : CallStack}
    (move : Moves environment before after) :
    MovesFreely before after := by
  obtain ⟨active, waiting⟩ := before
  cases active with
  | running machine => exact ⟨environment, machine.frame.context.depth, move⟩
  | ended result => exact ⟨environment, 0, move⟩

/-- What a move does to the frames and their gas. -/
inductive Spends (before after : CallStack) : Prop where
  /-- An instruction ends its frame. -/
  | ends
      (acts : before.active.executes = true)
      (rests : after.active.executes = false)
      (same : after.waiting = before.waiting)
      (left : after.unspent ≤ before.unspent)
  /-- An instruction spends gas, and may start a frame. -/
  | pays
      (acts : before.active.executes = true)
      (height : after.waiting.length ≤ before.waiting.length + 1)
      (left : after.unspent < before.unspent)
  /-- A frame that is over is closed. -/
  | closes
      (waits : before.active.executes = false)
      (unclosed : before.active.isRunning = true)
      (closed : after.active.isRunning = false)
      (same : after.waiting = before.waiting)
      (left : after.unspent ≤ before.unspent)
  /-- A frame that has ended hands on what is left of its gas. -/
  | handsOn
      (waits : before.active.executes = false)
      (height : after.waiting.length < before.waiting.length)
      (left : after.unspent ≤ before.unspent)

/-- A failed action leaves its frame with what is left of its gas. -/
theorem unspent_ofResult_le
    {result : EStateM.Result VmError Machine Unit}
    {budget : Nat}
    (within :
      match result with
      | .ok _ after => after.Within 0 budget
      | .error _ after => after.Within 0 budget) :
    (ActiveFrame.ofResult result).unspent ≤ budget := by
  cases result with
  | ok answer after => exact within
  | error error after =>
      exact Nat.le_trans (endedGas_failWith_le error after.frame.gas after.simulation) within

/-- A step that starts no frame ends its frame or spends. -/
theorem spends_step
    (environment : Environment)
    {machine : Machine}
    (waiting : List WaitingFrame)
    (runs : machine.frame.isOver = false) :
    Spends ⟨.running machine, waiting⟩
      ⟨.ofResult (Exec.step environment Runner.idle machine), waiting⟩ := by
  have acts : (ActiveFrame.running machine).executes = true := by
    simp only [ActiveFrame.executes, runs, Bool.not_false]
  have progresses :
      Ensures (Machine.Within 0 machine.frame.gas.toNat)
        (Exec.step environment Runner.idle)
        (fun _ => Machine.Progressed machine.frame.gas.toNat)
        (fun _ => Machine.Within 0 machine.frame.gas.toNat) :=
    Exec.step_progresses Runner.idle_leavesAtMost _
  cases result : Exec.step environment Runner.idle machine with
  | error error after =>
      have within := progresses.of_error result (Nat.le_refl _)
      have left := endedGas_failWith_le error after.frame.gas after.simulation
      refine .ends acts rfl rfl (Nat.add_le_add_right ?_ _)
      exact Nat.le_trans left within
  | ok answer after =>
      rcases progresses.of_ok result (Nat.le_refl _) with spent | ⟨rests, within⟩
      · exact .pays acts (Nat.le_succ _) (Nat.add_lt_add_right spent _)
      · refine .ends acts ?_ rfl (Nat.add_le_add_right within _)
        simp only [ActiveFrame.ofResult, ActiveFrame.executes, rests, Bool.not_true]

/-- Every move is one of the four, in all surroundings. -/
theorem spends_moves
    {environment : Environment}
    {before after : CallStack}
    (move : Moves environment before after) :
    Spends before after := by
  cases move.moved with
  | @handOn result frame waiting =>
      have left := unspent_ofResult_le (frame.resume_within environment.limits result)
      refine .handsOn rfl (Nat.lt_succ_self _) ?_
      simp only [unspent, List.foldr_cons, ActiveFrame.unspent] at left ⊢
      omega
  | close rests =>
      refine .closes ?_ rfl rfl rfl (Nat.le_of_eq ?_)
      · simp only [ActiveFrame.executes, rests, Bool.not_true]
      · simp only [unspent, ActiveFrame.unspent, endedGas, Frame.gas_outcome]
  | act runs => exact spends_step environment _ runs
  | @launch machine waiting launch runs found =>
      have given := Exec.gas_of_launch? found
      have begins :
          (launch.start environment.limits).frame.gas = launch.context.gasLimit :=
        rfl
      refine .pays ?_ (Nat.le_refl _) ?_
      · simp only [ActiveFrame.executes, runs, Bool.not_false]
      · simp only [unspent, List.foldr_cons, ActiveFrame.unspent, begins]
        omega

/-- The depth has no part in what a move does to the frames and their gas. -/
theorem Spends.of_movesFreely
    {before after : CallStack}
    (move : MovesFreely before after) :
    Spends before after := by
  obtain ⟨environment, depth, move⟩ := move
  have spends := spends_moves move
  obtain ⟨active, waiting⟩ := before
  cases active with
  | running machine =>
      cases spends with
      | ends acts rests same left => exact .ends acts rests same left
      | pays acts height left => exact .pays acts height left
      | closes waits unclosed closed same left => exact .closes waits unclosed closed same left
      | handsOn waits height left => exact .handsOn waits height left
  | ended result => exact spends

/-! ## What bounds a run -/

/-- What bounds the instructions that are still to come. -/
def potential (stack : CallStack) : Nat :=
  2 * stack.unspent + stack.waiting.length + stack.instructions

theorem Spends.potential_le
    {before after : CallStack}
    (spends : Spends before after) :
    after.potential + before.instructions ≤ before.potential := by
  have one : after.instructions ≤ 1 := by
    unfold instructions
    split <;> decide
  cases spends with
  | ends acts rests same left =>
      simp only [potential, instructions, acts, rests, same, if_true, Bool.false_eq_true,
        if_false]
      omega
  | pays acts height left =>
      simp only [potential, instructions, acts, if_true] at one ⊢
      omega
  | closes waits unclosed closed same left =>
      have rests : after.active.executes = false := by
        cases active : after.active with
        | running machine => rw [active] at closed; cases closed
        | ended result => rfl
      simp only [potential, instructions, waits, rests, same, Bool.false_eq_true, if_false]
      omega
  | handsOn waits height left =>
      simp only [potential, instructions, waits, Bool.false_eq_true, if_false] at one ⊢
      omega

/-- The instructions of a run are paid for by what it starts with. -/
theorem Leads.count_le
    {count : Nat}
    {before after : CallStack}
    (leads : Leads MovesFreely count before after) :
    count + after.potential ≤ before.potential := by
  induction leads with
  | stay stack => omega
  | go move leads inductionHypothesis =>
      have spent := (Spends.of_movesFreely move).potential_le
      omega

/-- What bounds the moves that are still to come. -/
def rank (stack : CallStack) : Nat :=
  4 * stack.potential + 2 * stack.waiting.length + if stack.active.isRunning then 1 else 0

theorem Spends.rank_lt
    {before after : CallStack}
    (spends : Spends before after) :
    after.rank < before.rank := by
  have spent := spends.potential_le
  have one : (if after.active.isRunning then 1 else 0) ≤ 1 := by
    split <;> decide
  cases spends with
  | ends acts rests same left =>
      simp only [instructions, acts, if_true] at spent
      simp only [rank, same]
      omega
  | pays acts height left =>
      simp only [instructions, acts, if_true] at spent
      simp only [rank]
      omega
  | closes waits unclosed closed same left =>
      simp only [rank, same, unclosed, closed, if_true, Bool.false_eq_true, if_false]
      omega
  | handsOn waits height left =>
      simp only [rank]
      omega

/-- Nothing goes on forever. -/
theorem wellFounded_movesFreely :
    WellFounded fun after before => MovesFreely before after :=
  Subrelation.wf (fun move => (Spends.of_movesFreely move).rank_lt)
    (measure rank).wf

theorem potential_first
    (limits : Limits)
    (context : FrameContext)
    (code : Bytes)
    (simulation : Simulation) :
    (first limits context code simulation).potential ≤ 2 * context.gasLimit.toNat + 1 := by
  have one : (first limits context code simulation).instructions ≤ 1 := by
    unfold instructions
    split <;> decide
  have gas : (first limits context code simulation).unspent = context.gasLimit.toNat := rfl
  have none : (first limits context code simulation).waiting.length = 0 := rfl
  unfold potential
  omega

/-- Only where the first frame has ended there is no move. -/
theorem exists_moves
    (environment : Environment)
    {stack : CallStack}
    (goesOn : ∀ result, stack ≠ ⟨.ended result, []⟩) :
    ∃ after, Moves environment stack after := by
  obtain ⟨active, waiting⟩ := stack
  cases active with
  | ended result =>
      cases waiting with
      | nil => exact absurd rfl (goesOn result)
      | cons frame waiting => exact ⟨_, rfl⟩
  | running machine =>
      cases runs : machine.frame.isOver with
      | true => exact ⟨_, moves_of_isOver runs⟩
      | false =>
          cases found : Exec.launch? environment machine with
          | none => exact ⟨_, moves_of_no_launch runs found⟩
          | some launch => exact ⟨_, moves_of_launch? runs found⟩

end CallStack

/-! ## The whole -/

open CallStack (MovesFreely Moves Leads first)

/-- The same surroundings with limits that do not strike at so many steps and depth zero. -/
def Environment.unlimited (environment : Environment) (steps : Nat) : Environment :=
  { environment with
    cancelled := Cancellation.constant false
    deadline := { environment.deadline with maxSteps := steps + 1 }
    limits := { environment.limits with maxCallDepth := 1 } }

/-- In an environment every run ends because its gas does. -/
structure Environment.EndsByGas (environment : Environment) : Prop where
  /-- An instruction ends its frame, or less gas is left in all frames together. -/
  instruction :
    ∀ before after, MovesFreely before after → before.active.executes = true →
      (after.waiting = before.waiting ∧ after.active.executes = false ∧
          after.unspent ≤ before.unspent) ∨
        after.unspent < before.unspent
  /-- Between instructions no gas comes in. -/
  between :
    ∀ before after, MovesFreely before after → before.active.executes = false →
      after.unspent ≤ before.unspent
  /-- From a first frame there are at most twice as many instructions as gas, and one. -/
  count :
    ∀ limits context code simulation count after,
      Leads MovesFreely count (first limits context code simulation) after →
      count ≤ 2 * context.gasLimit.toNat + 1
  /-- There is no endless run. -/
  wellFounded : WellFounded fun after before => MovesFreely before after
  /-- Nor does a run get stuck before its first frame has ended. -/
  goesOn :
    ∀ stack, (∀ result, stack ≠ ⟨.ended result, []⟩) → ∃ after, Moves environment stack after
  /-- Limits that do not strike are among those that a free move may have. -/
  unlimited :
    ∀ (machine : Machine) (value : Word),
      Exec.countStep (environment.unlimited machine.simulation.steps) machine =
          .ok () ⟨machine.frame,
            { machine.simulation with steps := machine.simulation.steps + 1 }⟩ ∧
        (machine.frame.context.depth = 0 →
          Exec.canStart (environment.unlimited machine.simulation.steps).limits value false
            machine = .ok true machine)
  /-- What comes out in the end is the run of the first frame. -/
  run :
    ∀ context code simulation,
      ∃ count ≤ 2 * context.gasLimit.toNat + 1,
        Leads (Moves environment) count (first environment.limits context code simulation)
          ⟨.ended (environment.runner context code simulation), []⟩
  /-- The run counts as many steps at most. -/
  steps :
    ∀ context code simulation,
      (leaves (environment.runner context code) simulation).steps ≤
        simulation.steps + (2 * context.gasLimit.toNat + 1)

namespace Environment

variable (environment : Environment)

/-- The run of a first frame within the bound on its instructions. -/
theorem leads_runner
    (context : FrameContext)
    (code : Bytes)
    (simulation : Simulation) :
    ∃ count ≤ 2 * context.gasLimit.toNat + 1,
      Leads (Moves environment) count (first environment.limits context code simulation)
        ⟨.ended (environment.runner context code simulation), []⟩ := by
  have paid :
      CallStack.PaidFor (Frame.stepBound context.gasLimit)
        (Frame.start environment.limits context code) :=
    .inr (Nat.le_refl _)
  obtain ⟨count, leads⟩ := CallStack.leads_run environment paid simulation []
  have bounded := (leads.imp MovesFreely.of_moves).count_le
  have start := CallStack.potential_first environment.limits context code simulation
  exact ⟨count, Nat.le_trans (Nat.le_of_add_right_le bounded) start, leads⟩

theorem steps_runner_le
    (context : FrameContext)
    (code : Bytes)
    (simulation : Simulation) :
    (leaves (environment.runner context code) simulation).steps ≤
      simulation.steps + (2 * context.gasLimit.toNat + 1) := by
  obtain ⟨count, atMost, leads⟩ := environment.leads_runner context code simulation
  have counted := leads.steps_le
  unfold leaves
  cases result : environment.runner context code simulation with
  | ok outcome after =>
      rw [result] at counted
      exact Nat.le_trans counted (Nat.add_le_add_left atMost _)
  | error error after =>
      rw [result] at counted
      exact Nat.le_trans counted (Nat.add_le_add_left atMost _)

/-- At the steps that they are made for, the lifted limits do not strike. -/
theorem unlimited_spares
    (machine : Machine)
    (value : Word) :
    Exec.countStep (environment.unlimited machine.simulation.steps) machine =
        .ok () ⟨machine.frame,
          { machine.simulation with steps := machine.simulation.steps + 1 }⟩ ∧
      (machine.frame.context.depth = 0 →
        Exec.canStart (environment.unlimited machine.simulation.steps).limits value false
          machine = .ok true machine) := by
  constructor
  · have early : ¬machine.simulation.steps + 1 ≤ machine.simulation.steps :=
      Nat.not_succ_le_self _
    simp only [Exec.countStep, unlimited, Cancellation.constant, Bool.false_eq_true, if_false]
    exact if_neg early
  · intro shallow
    have deeper :
        ¬(environment.unlimited machine.simulation.steps).limits.maxCallDepth ≤
          machine.frame.context.depth := by
      rw [shallow]
      change ¬(1 : UInt16) ≤ 0
      decide
    unfold Exec.canStart
    rw [bind_eq_of_ok (Exec.context_eq_ok machine), if_neg deeper]
    rfl

/-- In every environment runs end because their gas does. -/
theorem endsByGas
    (environment : Environment) :
    environment.EndsByGas where
  instruction before after move acts := by
    cases CallStack.Spends.of_movesFreely move with
    | ends _ rests same left => exact .inl ⟨same, rests, left⟩
    | pays _ height left => exact .inr left
    | closes waits => rw [acts] at waits; cases waits
    | handsOn waits => rw [acts] at waits; cases waits
  between before after move waits := by
    cases CallStack.Spends.of_movesFreely move with
    | ends acts => rw [waits] at acts; cases acts
    | pays acts => rw [waits] at acts; cases acts
    | closes _ _ _ _ left => exact left
    | handsOn _ _ left => exact left
  count limits context code simulation count after leads := by
    have bounded := leads.count_le
    have start := CallStack.potential_first limits context code simulation
    omega
  wellFounded := CallStack.wellFounded_movesFreely
  goesOn _ := CallStack.exists_moves environment
  unlimited := environment.unlimited_spares
  run := environment.leads_runner
  steps := environment.steps_runner_le

end Environment

end LedgerEvm
