import LedgerEvm.Proofs.Machine.SteadySteps
import LedgerEvm.Proofs.Machine.UnabortedRuns

namespace LedgerEvm

/-!
# Runs compared in whole

Two runs that differ in their snapshots or in their traces are compared move by move, and so
are the results of the two transactions.

## Failing lookups

A lookup that fails ends the transaction, in whatever frame, system contract or token call
it is made.  None is taken for an answer: a transaction that does not end in such a failure
has the result that it has over any source of answers in place of the failures.
-/

/-- The lookup answers as another one does, or it fails. -/
def AnswersAs {α : Type} (lookup whole : Except StateError α) : Prop :=
  lookup = whole ∨ ∃ what, lookup = .error (.snapshot what)

/--
Each lookup answers as in another snapshot, or it fails.  Failures are fixed: a snapshot is a
function of what is asked, so a lookup that fails does so every time it is made.
-/
structure Snapshot.FailsWithin (partly whole : Snapshot) : Prop where
  account : ∀ address, AnswersAs (partly.account address) (whole.account address)
  storage : ∀ address key, AnswersAs (partly.storage address key) (whole.storage address key)
  token : ∀ address, AnswersAs (partly.token address) (whole.token address)
  relationship :
    ∀ account token,
      AnswersAs (partly.relationship account token) (whole.relationship account token)
  nft : ∀ token serial, AnswersAs (partly.nft token serial) (whole.nft token serial)
  allowance :
    ∀ owner token spender,
      AnswersAs (partly.allowance owner token spender) (whole.allowance owner token spender)

/-- Failed lookups of the first side are excused, and every failure may be shared. -/
def Tolerance.ofLookups : Tolerance where
  excused error := ∃ what, error = .state (.snapshot what)
  shared _ := True
  isLookup := id
  shares _ := trivial

theorem AnswersAs.matches
    {α : Type}
    {lookup whole : Except StateError α}
    (answers : AnswersAs lookup whole) :
    Tolerance.ofLookups.Matches Eq lookup whole := by
  rcases answers with rfl | ⟨what, rfl⟩
  · exact .same fun _ _ => trivial
  · exact .excused ⟨what, rfl⟩

/-- The snapshot whose lookups may fail beside the other one. -/
def Snapshot.FailsWithin.comparison
    {partly whole : Snapshot}
    (fails : partly.FailsWithin whole) :
    Comparison where
  toTolerance := .ofLookups
  partly := partly
  whole := whole
  account address := (fails.account address).matches
  storage address key := (fails.storage address key).matches
  token address := (fails.token address).matches
  relationship account token := (fails.relationship account token).matches
  nft token serial := (fails.nft token serial).matches
  allowance owner token spender := (fails.allowance owner token spender).matches

/-! ### Runs -/

namespace Frame

variable {comparison : Comparison}

/-- A frame that fails does so alike, and an excused failure is handed on. -/
theorem follows_failWith
    {error : VmError}
    {first second : Simulation}
    (shares : comparison.shared error)
    (besides : Simulation.Beside comparison first second)
    (gas : UInt64) :
    comparison.Follows (Simulation.Beside comparison) (failWith error gas first)
      (failWith error gas second) := by
  unfold failWith
  split
  · exact .error shares besides
  · exact .ok ⟨besides.world, comparison.traces.recordReason besides.trace _, besides.steps⟩

/-- Where every failure may be shared, a frame runs alike over both snapshots. -/
theorem steady_run
    (shares : ∀ error, comparison.shared error)
    (environment : Environment)
    (fuel : Nat)
    (frame : Frame) :
    SimAction.Steady comparison (run environment fuel frame) := by
  induction fuel generalizing frame with
  | zero => exact .throw (shares _)
  | succ fuel inductionHypothesis =>
      intro first second besides
      have runs : (environment.runnerWithin fun _ => fuel).Steady comparison :=
        fun context code => inductionHypothesis (Frame.start environment.limits context code)
      have machines :
          Machine.Beside comparison environment ⟨frame, first⟩ ⟨frame, second⟩ :=
        ⟨rfl, fun _ _ => shares _, besides⟩
      have stepped :=
        Exec.follows_step runs machines ⟨fun _ => shares _, fun _ => shares _⟩
          fun _ _ _ _ => shares _
      rw [run_succ, run_succ]
      split
      · exact .ok besides
      · generalize Exec.step environment _ ⟨frame, first⟩ = result at stepped ⊢
        generalize Exec.step environment _ ⟨frame, second⟩ = result' at stepped ⊢
        cases stepped with
        | @ok answer after after' besides =>
            obtain ⟨frame, simulation⟩ := after
            obtain ⟨_, simulation'⟩ := after'
            obtain ⟨rfl, _, besides⟩ := besides
            exact inductionHypothesis frame _ _ besides
        | @error error after after' shared besides =>
            dsimp only
            rw [besides.frame]
            exact follows_failWith shared besides.simulation _
        | @excused error after _ excuse =>
            have aborts : error.isAbort = true := comparison.isAbort excuse
            simp only [failWith, aborts, if_true]
            exact .excused excuse

end Frame

namespace Environment

variable {comparison : Comparison}

theorem beside_warmed
    {first second : World}
    (besides : World.Beside comparison first second)
    (context : FrameContext)
    (isCreation : Bool) :
    World.Beside comparison (warmed context isCreation first)
      (warmed context isCreation second) := by
  cases isCreation with
  | true => exact besides.push.warmAccount _
  | false => exact (besides.push.warmAccount _).warmAccount _

theorem steady_firstFrame
    (shares : ∀ error, comparison.shared error)
    (environment : Environment)
    (context : FrameContext)
    (isCreation : Bool) :
    SimAction.Steady comparison (environment.firstFrame context isCreation) := by
  intro first second besides
  have runs : environment.runner.Steady comparison :=
    fun context code => Frame.steady_run shares environment _ _
  unfold firstFrame
  split
  · exact SimAction.follows_createContract runs besides fun _ _ => shares _
  · exact SimAction.follows_messageCall runs besides fun _ _ _ _ => shares _

/--
A transaction over a snapshot whose lookups may fail ends in such a failure, or it has
exactly the result that it has over the snapshot that answers.  Which lookups fail is fixed
before the transaction; a source that fails only when it is asked again is no snapshot.
-/
theorem transact_of_failing_lookups
    {partly : Snapshot}
    {world : World}
    (fails : partly.FailsWithin world.snapshot)
    (environment : Environment)
    (context : FrameContext)
    (isCreation : Bool)
    (trace : Trace) :
    (∃ what,
      environment.transact context isCreation { world with snapshot := partly } trace =
        .error (.state (.snapshot what))) ∨
      environment.transact context isCreation { world with snapshot := partly } trace =
        environment.transact context isCreation world trace := by
  have worlds : World.Beside fails.comparison { world with snapshot := partly } world :=
    ⟨rfl, rfl⟩
  have besides :
      Simulation.Beside fails.comparison
        { world := warmed context isCreation { world with snapshot := partly }, trace }
        { world := warmed context isCreation world, trace } :=
    ⟨beside_warmed worlds context isCreation, rfl, rfl⟩
  unfold transact
  dsimp only
  split
  · exact .inr rfl
  · have runs := steady_firstFrame (fun _ => trivial) environment
      { context with gasLimit := context.gasLimit - Gas.intrinsic context.data isCreation }
      isCreation _ _ besides
    generalize environment.firstFrame _ isCreation
      { world := warmed context isCreation { world with snapshot := partly }, trace } = result
      at runs ⊢
    generalize environment.firstFrame _ isCreation
      { world := warmed context isCreation world, trace } = result' at runs ⊢
    cases runs with
    | ok besides =>
        right
        dsimp only
        rw [besides.trace]
    | error => exact .inr rfl
    | excused excuse =>
        obtain ⟨what, isLookup⟩ := excuse
        exact .inl ⟨what, congrArg Except.error isLookup⟩

/--
A contract tells the balance of the address that it is asked for.  Where the lookup of one
account fails, a question for that account ends in the failure, and no other question does.
-/
theorem failing_lookup_ends_one_question :
    let environment : Environment :=
      { rules := ⟨⟨0, 50, 0⟩, .cancun, ⟨true, true⟩, ⟨true, true⟩⟩
        prices := ⟨.empty, .empty, fun _ _ => 1⟩ }
    let asker := Address.ofNum 1001
    let contract :=
      { Account.newContract (Address.ofNum 1002)
          [0x60, 0x00, 0x35, 0x31, 0x60, 0x00, 0x52, 0x60, 0x20, 0x60, 0x00, 0xf3] with
        balance := 7 }
    let hidden := Address.ofNum 1003
    let contents : Snapshot.Contents :=
      { accounts := Table.ofList [(contract.address, contract)] }
    let whole := Snapshot.ofContents contents
    let partly : Snapshot :=
      { whole with
        account := fun address =>
          if address = hidden then .error (.snapshot "timed out") else whole.account address }
    let world := World.ofSnapshot whole true ⟨0⟩ 5000
    let ask (address : Address) :=
      FrameContext.ofTransaction asker contract.address 0 address.toWord.toBytes 100000 1 { }
    partly.FailsWithin world.snapshot ∧
      environment.transact (ask hidden) false { world with snapshot := partly } Trace.off =
        .error (.state (.snapshot "timed out")) ∧
      (environment.transact (ask contract.address) false { world with snapshot := partly }
          Trace.off).map CallResult.output = .ok (Bytes.ofNat 32 7) ∧
      environment.transact (ask contract.address) false { world with snapshot := partly }
          Trace.off =
        environment.transact (ask contract.address) false world Trace.off := by
  intro environment asker contract hidden contents whole partly world ask
  have fails : partly.FailsWithin world.snapshot := by
    refine ⟨fun address => ?_, fun _ _ => .inl rfl, fun _ => .inl rfl, fun _ _ => .inl rfl,
      fun _ _ => .inl rfl, fun _ _ _ => .inl rfl⟩
    dsimp only [partly]
    split
    · exact .inr ⟨_, rfl⟩
    · exact .inl rfl
  have failed :
      environment.transact (ask hidden) false { world with snapshot := partly } Trace.off =
        .error (.state (.snapshot "timed out")) := by
    decide +kernel
  have answered :
      (environment.transact (ask contract.address) false { world with snapshot := partly }
        Trace.off).map CallResult.output = .ok (Bytes.ofNat 32 7) := by
    decide +kernel
  refine ⟨fails, failed, answered, ?_⟩
  rcases transact_of_failing_lookups fails environment (ask contract.address) false Trace.off with
    ⟨what, error⟩ | same
  · rw [error] at answered
    cases answered
  · exact same

end Environment

/-!
## Tracing

A transaction does not see its trace.  Run with two traces it ends in one error, or in
results that differ in the recorded steps at most; and of each step both traces show the
same, as far as their options let both of them show it.
-/

/-- Nothing is excused, and every failure is shared. -/
def Tolerance.exact : Tolerance :=
  { Tolerance.ofFrames with
    shared := fun _ => True
    shares := fun _ => trivial }

/-- Two runs over one snapshot, with traces that are kept as these two begin. -/
def Comparison.ofTraces (snapshot : Snapshot) (begun begun' : Trace) : Comparison where
  toTolerance := .exact
  partly := snapshot
  whole := snapshot
  account _ := .same fun _ _ => trivial
  storage _ _ := .same fun _ _ => trivial
  token _ := .same fun _ _ => trivial
  relationship _ _ := .same fun _ _ => trivial
  nft _ _ := .same fun _ _ => trivial
  allowance _ _ _ := .same fun _ _ => trivial
  traces := .ofSettings begun begun'

/-- Two traces that have recorded nothing lie side by side over one world. -/
theorem Simulation.beside_of_no_steps
    (world : World)
    {begun begun' : Trace}
    (empty : begun.steps = #[])
    (empty' : begun'.steps = #[]) :
    Simulation.Beside (.ofTraces world.snapshot begun begun') { world, trace := begun }
      { world, trace := begun' } where
  world := ⟨rfl, rfl⟩
  trace :=
    { settings := ⟨rfl, rfl⟩
      settings' := ⟨rfl, rfl⟩
      steps := fun _ _ => by
        rw [empty, empty']
        exact .nil }
  steps := rfl

/-- The result of a transaction but for the recorded steps. -/
def CallResult.untraced (result : CallResult) : CallResult :=
  { result with steps := [] }

namespace Environment

/-- The first frame of a transaction ends alike whatever the traces are. -/
theorem follows_firstFrame_of_traces
    (environment : Environment)
    (context : FrameContext)
    (isCreation : Bool)
    (world : World)
    {begun begun' : Trace}
    (empty : begun.steps = #[])
    (empty' : begun'.steps = #[]) :
    Tolerance.exact.Follows (Simulation.Beside (.ofTraces world.snapshot begun begun'))
      (environment.firstFrame context isCreation { world, trace := begun })
      (environment.firstFrame context isCreation { world, trace := begun' }) :=
  @steady_firstFrame (.ofTraces world.snapshot begun begun') (fun _ => trivial) environment
    context isCreation _ _ (Simulation.beside_of_no_steps world empty empty')

/--
A transaction that is traced in two ways ends in the same error, or in results that differ
in the recorded steps at most.  If both traces record, they record the same instructions,
and what their options both show of each is the same.
-/
theorem transact_of_traces
    (environment : Environment)
    (context : FrameContext)
    (isCreation : Bool)
    (world : World)
    (mode mode' : TraceMode)
    (options options' : TraceOptions) :
    let traced := environment.transact context isCreation world (Trace.ofMode mode options)
    let traced' := environment.transact context isCreation world (Trace.ofMode mode' options')
    (∃ error, traced = .error error ∧ traced' = .error error) ∨
      ∃ result result',
        traced = .ok result ∧
          traced' = .ok result' ∧
          result.untraced = result'.untraced ∧
          (mode = .opcode →
            mode' = .opcode →
            List.Forall₂ (TraceStep.Agrees options options') result.steps result'.steps) := by
  dsimp only
  unfold transact
  dsimp only
  split
  · exact .inr ⟨_, _, rfl, rfl, rfl, fun _ _ => .nil⟩
  · have runs :=
      @follows_firstFrame_of_traces environment
        { context with gasLimit := context.gasLimit - Gas.intrinsic context.data isCreation }
        isCreation (warmed context isCreation world) (Trace.ofMode mode options)
        (Trace.ofMode mode' options') rfl rfl
    generalize environment.firstFrame _ isCreation
      { world := warmed context isCreation world, trace := Trace.ofMode mode options } = ended
      at runs ⊢
    generalize environment.firstFrame _ isCreation
      { world := warmed context isCreation world, trace := Trace.ofMode mode' options' } = ended'
      at runs ⊢
    cases runs with
    | error => exact .inl ⟨_, rfl, rfl⟩
    | excused excuse => exact excuse.elim
    | ok besides =>
        refine .inr ⟨_, _, rfl, rfl, rfl, fun records records' => ?_⟩
        exact besides.trace.steps (by rw [records]; rfl) (by rw [records']; rfl)

/--
A contract calls another one, which looks a slot up and halts.  One trace shows stacks and
the other one storage; both record the instructions of both frames, and the results differ
in nothing else.
-/
theorem call_of_halting_contract_is_traced_alike :
    let environment : Environment :=
      { rules := ⟨⟨0, 50, 0⟩, .cancun, ⟨true, true⟩, ⟨true, true⟩⟩
        prices := ⟨.empty, .empty, fun _ _ => 1⟩ }
    let halting :=
      Account.newContract (Address.ofNum 1002) [0x60, 0x05, 0x54, 0xfe]
    let calling :=
      Account.newContract (Address.ofNum 1003)
        [0x5f, 0x5f, 0x5f, 0x5f, 0x5f, 0x61, 0x03, 0xea, 0x5a, 0xf1, 0x00]
    let contents : Snapshot.Contents :=
      { accounts := Table.ofList [(halting.address, halting), (calling.address, calling)] }
    let world := World.ofSnapshot (Snapshot.ofContents contents) true ⟨0⟩ 5000
    let context :=
      FrameContext.ofTransaction (Address.ofNum 1001) calling.address 0 [] 100000 1 { }
    let withStack : TraceOptions := { stack := true }
    let withStorage : TraceOptions := { stack := false, storage := true }
    ∃ result result',
      environment.transact context false world (Trace.ofMode .opcode withStack) = .ok result ∧
        environment.transact context false world (Trace.ofMode .opcode withStorage) = .ok result' ∧
        result.untraced = result'.untraced ∧
        result.steps.map TraceStep.name =
          ["PUSH0", "PUSH0", "PUSH0", "PUSH0", "PUSH0", "PUSH2", "GAS", "CALL", "PUSH1",
            "SLOAD", "STOP"] ∧
        List.Forall₂ (TraceStep.Agrees withStack withStorage) result.steps result'.steps := by
  intro environment halting calling contents world context withStack withStorage
  have names :
      (environment.transact context false world (Trace.ofMode .opcode withStack)).map
          (fun result => result.steps.map TraceStep.name) =
        .ok
          ["PUSH0", "PUSH0", "PUSH0", "PUSH0", "PUSH0", "PUSH2", "GAS", "CALL", "PUSH1",
            "SLOAD", "STOP"] := by
    decide +kernel
  rcases
    transact_of_traces environment context false world .opcode .opcode withStack withStorage with
    ⟨error, failed, _⟩ | ⟨result, result', ended, ended', same, agree⟩
  · rw [failed] at names
    cases names
  · rw [ended] at names
    exact ⟨result, result', ended, ended', same, Except.ok.inj names, agree rfl rfl⟩

end Environment

end LedgerEvm
