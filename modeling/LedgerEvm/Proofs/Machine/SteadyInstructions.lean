import LedgerEvm.Proofs.Machine.SteadyCalls

namespace LedgerEvm

/-!
# Steady instructions

Every instruction acts alike over both snapshots, whatever its operands are, as long as the
frames that it starts are run alike.  A failure of its own ends no more than its frame.
-/

/-- A log whose cost is not told has no price. -/
theorem Gas.price_of_log_eq_error
    {source : PriceSource}
    {context : Gas.LogContext}
    {bytes topics : Nat}
    {error : PricingError}
    (failed : Gas.log source context bytes topics = .error error) :
    source.price context.functionality .rbh context.now = .error error := by
  unfold Gas.log at failed
  cases priced : source.price context.functionality .rbh context.now with
  | ok price =>
      simp only [priced] at failed
      cases failed
  | error error' =>
      simp only [priced] at failed
      cases failed
      rfl

namespace Environment

/-- A log whose price is not found fails in a way that both sides may share. -/
def ChargesLogs
    (comparison : Comparison)
    (environment : Environment)
    (context : FrameContext) : Prop :=
  ∀ error,
    environment.prices.price .contractCall .rbh context.block.timestamp = .error error →
    comparison.shared (.ofPricing error)

/-- A transaction that is cut off after so many steps fails in a way that both sides may share. -/
structure GoesOn (comparison : Comparison) (environment : Environment) (steps : Nat) : Prop where
  cancelled :
    environment.cancelled.isSeenAt steps = true → comparison.shared .cancelled
  late :
    environment.deadline.maxSteps ≤ steps →
    comparison.shared
      (.timeout environment.deadline.elapsedMillis environment.deadline.maxMillis)

end Environment

/--
Machines that are the same but for the snapshots of their worlds and for their traces, in a
frame that may log.
-/
structure Machine.Beside
    (comparison : Comparison)
    (environment : Environment)
    (first second : Machine) : Prop where
  frame : first.frame = second.frame
  context : environment.ChargesLogs comparison second.frame.context
  simulation : Simulation.Beside comparison first.simulation second.simulation

namespace Exec

variable
  {comparison : Comparison}
  {environment : Environment}
  {α : Type}

/-- Done in machines that lie side by side the action ends alike. -/
abbrev Steady (comparison : Comparison) (environment : Environment) (action : Exec α) : Prop :=
  Tolerance.Steady comparison.toTolerance (Machine.Beside comparison environment) action

/-! ## Parts of instructions -/

theorem steady_frame :
    Steady comparison environment frame := by
  rintro ⟨frame, simulation⟩ ⟨_, simulation'⟩ ⟨rfl, context, besides⟩
  exact .ok ⟨rfl, context, besides⟩

theorem steady_context :
    Steady comparison environment context := by
  rintro ⟨frame, simulation⟩ ⟨_, simulation'⟩ ⟨rfl, context, besides⟩
  exact .ok ⟨rfl, context, besides⟩

/-- A frame does not change its context. -/
theorem steady_updateFrame
    {update : Frame → Frame}
    (keeps : ∀ frame, (update frame).context = frame.context) :
    Steady comparison environment (updateFrame update) := by
  rintro ⟨frame, simulation⟩ ⟨_, simulation'⟩ ⟨rfl, context, besides⟩
  exact .ok ⟨rfl, (keeps frame).symm ▸ context, besides⟩

theorem steady_updateMemory
    (update : Memory → Memory) :
    Steady comparison environment (updateMemory update) :=
  steady_updateFrame fun _ => rfl

theorem steady_ask
    {question : World → Except StateError α}
    (reads : ∀ {first second : World},
      World.Beside comparison first second →
      comparison.Matches Eq (question first) (question second)) :
    Steady comparison environment (ask question) := by
  rintro ⟨frame, simulation⟩ ⟨_, simulation'⟩ ⟨rfl, context, besides⟩
  have answers := reads besides.world
  unfold ask
  dsimp only
  generalize question simulation.world = answer at answers ⊢
  generalize question simulation'.world = answer' at answers ⊢
  cases answers with
  | ok same =>
      subst same
      exact .ok ⟨rfl, context, besides⟩
  | error shares => exact .error shares ⟨rfl, context, besides⟩
  | excused excuse => exact .excused excuse

/-- What the journals know is known without a lookup. -/
theorem steady_askJournals
    {question : World → α}
    (same : ∀ {first second : World},
      World.Beside comparison first second →
      question first = question second) :
    Steady comparison environment (ask fun world => .ok (question world)) :=
  steady_ask fun besides => .ok (same besides)

theorem steady_updateWorld
    {update : World → World}
    (keeps : ∀ {first second : World},
      World.Beside comparison first second →
      World.Beside comparison (update first) (update second)) :
    Steady comparison environment (updateWorld update) := by
  rintro ⟨frame, simulation⟩ ⟨_, simulation'⟩ ⟨rfl, context, besides⟩
  exact .ok ⟨rfl, context, besides.withWorld (keeps besides.world)⟩

theorem steady_recordStorage
    (key value : Word) :
    Steady comparison environment (updateTrace fun trace => trace.recordStorage key value) := by
  rintro ⟨frame, ⟨world, trace, steps⟩⟩ ⟨_, ⟨world', trace', steps'⟩⟩ ⟨rfl, context, besides⟩
  have traces := comparison.traces.recordStorage besides.trace key value
  exact .ok ⟨rfl, context, besides.world, traces, besides.steps⟩

theorem follows_onSimulation
    {action : SimAction α}
    {first second : Machine}
    (besides : Machine.Beside comparison environment first second)
    (runs :
      comparison.Follows (Simulation.Beside comparison) (action first.simulation)
        (action second.simulation)) :
    comparison.Follows (Machine.Beside comparison environment) (onSimulation action first)
      (onSimulation action second) := by
  obtain ⟨frame, simulation⟩ := first
  obtain ⟨_, simulation'⟩ := second
  obtain ⟨rfl, context, besides⟩ := besides
  unfold onSimulation
  dsimp only at runs ⊢
  generalize action simulation = result at runs ⊢
  generalize action simulation' = result' at runs ⊢
  cases runs with
  | ok besides => exact .ok ⟨rfl, context, besides⟩
  | error shares besides => exact .error shares ⟨rfl, context, besides⟩
  | excused excuse => exact .excused excuse

theorem steady_onSimulation
    {action : SimAction α}
    (steady : SimAction.Steady comparison action) :
    Steady comparison environment (onSimulation action) :=
  fun _ _ besides => follows_onSimulation besides (steady _ _ besides.simulation)

theorem steady_updateStack
    {update : OperandStack → Except VmError OperandStack}
    (fails : ∀ stack, comparison.Matches Eq (update stack) (update stack)) :
    Steady comparison environment (updateStack update) := by
  rintro ⟨frame, simulation⟩ ⟨_, simulation'⟩ ⟨rfl, context, besides⟩
  have fails := fails frame.stack
  unfold updateStack
  dsimp only
  generalize update frame.stack = result at fails ⊢
  cases result with
  | ok stack => exact .ok ⟨rfl, context, besides⟩
  | error error =>
      cases fails with
      | error shares => exact .error shares ⟨rfl, context, besides⟩
      | excused excuse => exact .excused excuse

theorem matches_push
    {tolerance : Tolerance}
    (stack : OperandStack)
    (word : Word) :
    tolerance.Matches Eq (stack.push word) (stack.push word) := by
  unfold OperandStack.push
  split
  · exact .ok rfl
  · exact .error (tolerance.shares rfl)

theorem steady_push
    (word : Word) :
    Steady comparison environment (push word) :=
  steady_updateStack fun stack => matches_push stack word

theorem matches_pop
    {tolerance : Tolerance}
    (stack : OperandStack) :
    tolerance.Matches Eq stack.pop stack.pop := by
  unfold OperandStack.pop
  split
  · exact .error (tolerance.shares rfl)
  · exact .ok rfl

theorem matches_dup
    {tolerance : Tolerance}
    (stack : OperandStack)
    (depth : Nat) :
    tolerance.Matches Eq (stack.dup depth) (stack.dup depth) := by
  refine Tolerance.Matches.bind_eq ?_ fun word => matches_push stack word
  unfold OperandStack.peek
  split
  · exact .ok rfl
  · exact .error (tolerance.shares rfl)

theorem matches_swap
    {tolerance : Tolerance}
    (stack : OperandStack)
    (places : Nat) :
    tolerance.Matches Eq (stack.swap places) (stack.swap places) := by
  unfold OperandStack.swap
  split
  · split
    · exact .error (tolerance.shares rfl)
    · exact .ok rfl
  · exact .error (tolerance.shares rfl)

theorem steady_pop :
    Steady comparison environment pop := by
  rintro ⟨frame, simulation⟩ ⟨_, simulation'⟩ ⟨rfl, context, besides⟩
  have fails : comparison.Matches Eq frame.stack.pop frame.stack.pop := matches_pop _
  unfold pop
  dsimp only
  generalize frame.stack.pop = result at fails ⊢
  cases result with
  | ok taken => exact .ok ⟨rfl, context, besides⟩
  | error error =>
      cases fails with
      | error shares => exact .error shares ⟨rfl, context, besides⟩
      | excused excuse => exact .excused excuse

theorem steady_popAddress :
    Steady comparison environment popAddress :=
  steady_pop.bind fun _ => .pure _

theorem steady_pop2 :
    Steady comparison environment pop2 :=
  steady_pop.bind fun _ => steady_pop.bind fun _ => .pure _

theorem steady_pop3 :
    Steady comparison environment pop3 :=
  steady_pop.bind fun _ => steady_pop.bind fun _ => steady_pop.bind fun _ => .pure _

theorem steady_popList
    (count : Nat) :
    Steady comparison environment (popList count) := by
  induction count with
  | zero => exact .pure _
  | succ count inductionHypothesis =>
      exact steady_pop.bind fun _ => inductionHypothesis.bind fun _ => .pure _

theorem steady_charge
    (gas : UInt64) :
    Steady comparison environment (charge gas) := by
  rintro ⟨frame, simulation⟩ ⟨_, simulation'⟩ ⟨rfl, context, besides⟩
  unfold charge
  dsimp only
  split
  · exact .error (comparison.shares rfl) ⟨rfl, context, besides⟩
  · exact .ok ⟨rfl, context, besides⟩

theorem steady_giveBack
    (gas : UInt64) :
    Steady comparison environment (giveBack gas) :=
  steady_updateFrame fun _ => rfl

theorem steady_addRefund
    (refund : Int64) :
    Steady comparison environment
      (updateFrame fun frame => { frame with refund := frame.refund + refund }) :=
  steady_updateFrame fun _ => rfl

theorem steady_setReturnData
    (returnData : Bytes) :
    Steady comparison environment (updateFrame fun frame => { frame with returnData }) :=
  steady_updateFrame fun _ => rfl

theorem steady_advanceBy
    (count : Nat) :
    Steady comparison environment
      (updateFrame fun frame => { frame with position := frame.position + count }) :=
  steady_updateFrame fun _ => rfl

theorem steady_memoryOperand
    (word : Word) :
    Steady comparison environment (memoryOperand word) := by
  unfold memoryOperand
  split
  · exact .pure _
  · exact .throw (comparison.shares rfl)

theorem steady_neededWords
    (offset size : Nat) :
    Steady comparison environment (neededWords offset size) := by
  rintro ⟨frame, simulation⟩ ⟨_, simulation'⟩ ⟨rfl, context, besides⟩
  unfold neededWords
  dsimp only
  split
  · exact .ok ⟨rfl, context, besides⟩
  · exact .error (comparison.shares rfl) ⟨rfl, context, besides⟩

theorem steady_expand
    (offset size : Word) :
    Steady comparison environment (expand offset size) := by
  unfold expand
  split
  · exact .pure _
  · refine (steady_memoryOperand offset).bind fun offset => ?_
    refine (steady_memoryOperand size).bind fun size => ?_
    refine (steady_neededWords offset size).bind fun ⟨present, needed⟩ => ?_
    refine (steady_charge _).bind fun _ => ?_
    exact (steady_updateMemory _).bind fun _ => .pure _

theorem steady_readMemory
    (offset size : Nat) :
    Steady comparison environment (readMemory offset size) := by
  rintro ⟨frame, simulation⟩ ⟨_, simulation'⟩ ⟨rfl, context, besides⟩
  exact .ok ⟨rfl, context, besides⟩

theorem steady_copyToMemory
    (destination offset size : Word)
    (source : Bytes) :
    Steady comparison environment (copyToMemory destination offset size source) := by
  refine (steady_expand _ _).bind fun ⟨target, length⟩ => ?_
  exact (steady_charge _).bind fun _ => steady_updateMemory _

theorem steady_jump
    (destination : Word) :
    Steady comparison environment (jump destination) := by
  rintro ⟨frame, simulation⟩ ⟨_, simulation'⟩ ⟨rfl, context, besides⟩
  unfold jump
  dsimp only
  split
  · exact .ok ⟨rfl, context, besides⟩
  · exact .error (comparison.shares rfl) ⟨rfl, context, besides⟩

theorem steady_finish
    (ending : FrameEnding) :
    Steady comparison environment (finish ending) :=
  steady_updateFrame fun _ => rfl

/-! ## Instructions that only compute or look -/

theorem steady_unary
    (operation : Word → Word) :
    Steady comparison environment (unary operation) :=
  steady_pop.bind fun _ => steady_push _

theorem steady_binary
    (operation : Word → Word → Word) :
    Steady comparison environment (binary operation) :=
  steady_pop2.bind fun _ => steady_push _

theorem steady_relation
    (test : Word → Word → Bool) :
    Steady comparison environment (relation test) :=
  steady_pop2.bind fun _ => steady_push _

theorem steady_ternary
    (operation : Word → Word → Word → Word) :
    Steady comparison environment (ternary operation) :=
  steady_pop3.bind fun _ => steady_push _

theorem steady_power :
    Steady comparison environment power :=
  steady_pop2.bind fun _ => (steady_charge _).bind fun _ => steady_push _

theorem steady_hashMemory :
    Steady comparison environment hashMemory := by
  refine steady_pop2.bind fun ⟨offset, size⟩ => ?_
  refine (steady_expand _ _).bind fun ⟨start, length⟩ => ?_
  refine (steady_charge _).bind fun _ => ?_
  exact (steady_readMemory _ _).bind fun _ => steady_push _

theorem steady_pushContext
    (read : FrameContext → Word) :
    Steady comparison environment (pushContext read) :=
  steady_context.bind fun _ => steady_push _

theorem steady_access
    (address : Address) :
    Steady comparison environment (inspect.access address) := by
  refine (steady_askJournals fun besides => besides.isWarmAccount address).bind
    fun wasWarm => ?_
  refine (steady_updateWorld fun besides => besides.record _).bind fun _ => ?_
  exact steady_charge _

theorem steady_inspect
    (rule : AddressRule)
    (address : Address) :
    Steady comparison environment (inspect rule address) := by
  refine (steady_ask fun besides => besides.judge rule address).bind fun verdict => ?_
  cases verdict with
  | systemAccount => exact (steady_charge _).bind fun _ => .pure _
  | invalid => exact .throw (comparison.shares rfl)
  | regular => exact (steady_access address).bind fun _ => .pure _

theorem steady_lookUp
    {default : α}
    {question : World → Except StateError α}
    (reads : ∀ {first second : World},
      World.Beside comparison first second →
      comparison.Matches Eq (question first) (question second))
    (rule : AddressRule)
    (address : Address) :
    Steady comparison environment (lookUp rule address default question) := by
  refine (steady_inspect rule address).bind fun regular => ?_
  split
  · exact steady_ask reads
  · exact .pure _

theorem steady_balance
    (rule : AddressRule) :
    Steady comparison environment (balance rule) := by
  refine steady_popAddress.bind fun address => ?_
  refine Tolerance.Steady.bind ?_ fun _ => steady_push _
  exact steady_lookUp (fun besides => besides.balance address) _ _

theorem steady_extCodeSize
    (rule : AddressRule) :
    Steady comparison environment (extCodeSize rule) := by
  refine steady_popAddress.bind fun address => ?_
  refine Tolerance.Steady.bind ?_ fun _ => steady_push _
  exact steady_lookUp (fun besides => besides.code address) _ _

theorem steady_extCodeCopy
    (rule : AddressRule) :
    Steady comparison environment (extCodeCopy rule) := by
  refine steady_popAddress.bind fun address => ?_
  refine steady_pop3.bind fun ⟨destination, offset, size⟩ => ?_
  refine Tolerance.Steady.bind ?_ fun _ => steady_copyToMemory _ _ _ _
  exact steady_lookUp (fun besides => besides.code address) _ _

theorem matches_codeHashAt
    {first second : World}
    (besides : World.Beside comparison first second)
    (address : Address) :
    comparison.Matches Eq (codeHashAt first address) (codeHashAt second address) := by
  refine (besides.get address).bind_eq fun account? => ?_
  cases account? with
  | some account => exact .same fun _ failed => by split at failed <;> cases failed
  | none => exact .ok rfl

theorem steady_extCodeHash
    (rule : AddressRule) :
    Steady comparison environment (extCodeHash rule) := by
  refine steady_popAddress.bind fun address => ?_
  refine Tolerance.Steady.bind ?_ fun _ => steady_push _
  exact steady_lookUp (fun besides => matches_codeHashAt besides address) _ _

theorem steady_returnDataCopy :
    Steady comparison environment returnDataCopy := by
  refine steady_pop3.bind fun ⟨destination, offset, size⟩ => ?_
  refine steady_frame.bind fun frame => ?_
  dsimp only
  exact .guarded (.throw (comparison.shares rfl)) (steady_copyToMemory _ _ _ _)

theorem steady_blockHash
    (hashes : BlockHashes) :
    Steady comparison environment (blockHash hashes) :=
  steady_pop.bind fun _ => steady_context.bind fun _ => steady_push _

theorem steady_randomValue
    (spec : Spec) :
    Steady comparison environment (randomValue spec) :=
  steady_context.bind fun _ => steady_push _

theorem steady_memoryLoad :
    Steady comparison environment memoryLoad := by
  refine steady_pop.bind fun offset => ?_
  refine (steady_expand _ _).bind fun ⟨start, _⟩ => ?_
  exact steady_frame.bind fun _ => steady_push _

theorem steady_memoryStore :
    Steady comparison environment memoryStore := by
  refine steady_pop2.bind fun ⟨offset, word⟩ => ?_
  exact (steady_expand _ _).bind fun ⟨start, _⟩ => steady_updateMemory _

theorem steady_memoryStoreByte :
    Steady comparison environment memoryStoreByte := by
  refine steady_pop2.bind fun ⟨offset, word⟩ => ?_
  exact (steady_expand _ _).bind fun ⟨start, _⟩ => steady_updateMemory _

theorem steady_memoryCopy :
    Steady comparison environment memoryCopy := by
  refine steady_pop3.bind fun ⟨destination, source, size⟩ => ?_
  refine (steady_expand _ _).bind fun ⟨_, length⟩ => ?_
  refine (steady_charge _).bind fun _ => ?_
  split
  · exact steady_updateMemory _
  · exact .pure _

theorem steady_storageLoad :
    Steady comparison environment storageLoad := by
  refine steady_pop.bind fun key => ?_
  refine steady_context.bind fun context => ?_
  refine (steady_askJournals fun besides => besides.isWarmSlot _ _).bind fun wasWarm => ?_
  refine (steady_updateWorld fun besides => besides.record _).bind fun _ => ?_
  refine (steady_charge _).bind fun _ => ?_
  refine (steady_ask fun besides => besides.storage _ _).bind fun value => ?_
  exact (steady_recordStorage _ _).bind fun _ => steady_push _

theorem steady_storageStore :
    Steady comparison environment storageStore := by
  refine steady_frame.bind fun frame => ?_
  refine .guarded (.throw (comparison.shares rfl)) ?_
  refine steady_pop2.bind fun ⟨key, value⟩ => ?_
  refine steady_context.bind fun context => ?_
  refine (steady_ask fun besides => besides.initialStorage _ _).bind fun initial => ?_
  refine (steady_ask fun besides => besides.storage _ _).bind fun current => ?_
  refine (steady_askJournals fun besides => besides.isWarmSlot _ _).bind fun wasWarm => ?_
  refine (steady_updateWorld fun besides => besides.record _).bind fun _ => ?_
  refine (steady_charge _).bind fun _ => ?_
  refine (steady_addRefund _).bind fun _ => ?_
  refine (steady_updateWorld fun besides => besides.record _).bind fun _ => ?_
  exact steady_recordStorage _ _

theorem steady_transientLoad :
    Steady comparison environment transientLoad := by
  refine steady_pop.bind fun key => ?_
  refine steady_context.bind fun context => ?_
  refine (steady_askJournals fun besides => besides.transient _ _).bind fun value => ?_
  exact steady_push _

theorem steady_transientStore :
    Steady comparison environment transientStore := by
  refine steady_pop2.bind fun ⟨key, value⟩ => ?_
  refine steady_context.bind fun context => ?_
  exact steady_updateWorld fun besides => besides.record _

theorem steady_jumpIf :
    Steady comparison environment jumpIf := by
  refine steady_pop2.bind fun ⟨destination, condition⟩ => ?_
  dsimp only
  split
  · exact steady_jump _
  · exact .pure _

theorem steady_pushImmediate
    (size : Nat) :
    Steady comparison environment (pushImmediate size) := by
  refine steady_frame.bind fun frame => ?_
  exact (steady_advanceBy size).bind fun _ => steady_push _

theorem steady_finishWith
    (ending : FrameEnding) :
    Steady comparison environment (finishWith ending) := by
  refine steady_pop2.bind fun ⟨offset, size⟩ => ?_
  refine (steady_expand _ _).bind fun ⟨start, length⟩ => ?_
  refine (steady_readMemory _ _).bind fun output => ?_
  refine Tolerance.Steady.bind ?_ fun _ => steady_finish ending
  exact steady_updateFrame fun _ => rfl

/-! ## Instructions that write -/

/-- What follows may rely on the price of a log. -/
theorem steady_withContext
    {next : FrameContext → Exec α}
    (goesOn : ∀ context,
      environment.ChargesLogs comparison context →
      Steady comparison environment (next context)) :
    Steady comparison environment (context >>= next) := by
  intro first second besides
  refine (steady_context first second besides).bind fun context first' second' got besides => ?_
  cases got
  exact goesOn _ besides.context first' second besides

theorem steady_log
    (count : Nat) :
    Steady comparison environment (log environment.prices count) := by
  refine steady_pop2.bind fun ⟨offset, size⟩ => ?_
  refine (steady_popList count).bind fun topics => ?_
  refine (steady_expand _ _).bind fun ⟨start, length⟩ => ?_
  refine steady_withContext fun context charges => ?_
  have recorded :
      Steady comparison environment (do
        let data ← readMemory start length
        updateFrame fun frame =>
          { frame with
            logs := frame.logs.push ⟨context.address, topics.map Hash.mk, data⟩ }) :=
    (steady_readMemory _ _).bind fun data => steady_updateFrame fun _ => rfl
  dsimp only
  split
  · exact (steady_charge _).bind fun _ => recorded
  · rename_i error failed
    have unpriced := Gas.price_of_log_eq_error failed
    exact Tolerance.Steady.bind (.throw (charges error unpriced)) fun _ => recorded

theorem matches_deleted
    {first second : World}
    (besides : World.Beside comparison first second)
    (contract : Address) :
    comparison.Matches (World.BesideWith comparison)
      (match first.deleteAccount contract with
        | .ok changed => Except.ok ((), changed)
        | .error error => .error (VmError.state error))
      (match second.deleteAccount contract with
        | .ok changed => Except.ok ((), changed)
        | .error error => .error (VmError.state error)) := by
  have deletes := besides.deleteAccount contract
  generalize first.deleteAccount contract = result at deletes ⊢
  generalize second.deleteAccount contract = result' at deletes ⊢
  cases deletes with
  | ok worlds => exact .ok ⟨rfl, worlds⟩
  | error shares => exact .error shares
  | excused excuse => exact .excused excuse

theorem steady_selfDestruct
    (rule : SelfDestructRule) :
    Steady comparison environment (selfDestruct rule) := by
  refine steady_context.bind fun context => ?_
  refine steady_popAddress.bind fun beneficiary => ?_
  refine (steady_ask fun besides => besides.objectionToSelfDestruct? rule _ _).bind
    fun objection? => ?_
  cases objection? with
  | some reason => exact fun _ _ besides => .error (comparison.shares rfl) besides
  | none =>
      refine (steady_askJournals fun besides => besides.isWarmAccount _).bind fun wasWarm => ?_
      refine (steady_updateWorld fun besides => besides.record _).bind fun _ => ?_
      refine (steady_ask fun besides => besides.balance _).bind fun balance => ?_
      refine (steady_ask fun besides => besides.get _).bind fun beneficiaryAccount => ?_
      refine (steady_charge _).bind fun _ => ?_
      refine Tolerance.Steady.bind ?_ fun _ => ?_
      · refine steady_onSimulation (SimAction.steady_change fun besides => ?_)
        exact (besides.transfer _ _ _).bind fun _ _ worlds => .ok ⟨rfl, worlds⟩
      · refine (steady_askJournals fun besides => besides.isCreated _).bind fun isCreated => ?_
        refine .guarded ?_ (steady_finish _)
        exact steady_onSimulation (SimAction.steady_change fun besides =>
          matches_deleted besides _)

/-! ## Parts of calls and creations -/

theorem steady_inspectCallee
    (rule : AddressRule)
    (kind : CallKind)
    (target : Address) :
    Steady comparison environment (inspectCallee rule kind target) := by
  unfold inspectCallee
  split
  · exact steady_inspect rule target
  · exact (steady_access target).bind fun _ => .pure _

theorem steady_chargeValue
    (kind : CallKind)
    (target : Address) :
    Steady comparison environment (chargeValue kind target) := by
  refine (steady_charge _).bind fun _ => ?_
  split
  · refine (steady_ask fun besides => besides.answersAt target).bind fun answers => ?_
    split
    · exact steady_charge _
    · exact .pure _
  · exact .pure _

theorem steady_canStart
    (limits : Limits)
    (value : Word)
    (checksBalance : Bool) :
    Steady comparison environment (canStart limits value checksBalance) := by
  refine steady_context.bind fun context => ?_
  split
  · exact .pure _
  · split
    · exact (steady_ask fun besides => besides.balance _).bind fun _ => .pure _
    · exact .pure _

theorem steady_popCall
    (kind : CallKind) :
    Steady comparison environment (popCall kind) := by
  have rest (requested : Word) (target : Address) (value : Word) :
      Steady comparison environment (do
        let input ← pop2
        let output ← pop2
        if (← context).isStatic ∧ kind = .call ∧ value ≠ 0 then
          throw .writeInStaticContext
        return ({ requested, target, value, input, output } : CallOperands)) := by
    refine steady_pop2.bind fun input => ?_
    refine steady_pop2.bind fun output => ?_
    refine steady_context.bind fun context => ?_
    exact .guarded (.throw (comparison.shares rfl)) (.pure _)
  refine steady_pop.bind fun requested => ?_
  refine steady_popAddress.bind fun target => ?_
  dsimp only
  split
  · exact steady_pop.bind fun value => rest requested target value
  · exact rest requested target 0

theorem steady_launchCall
    (limits : Limits)
    (kind : CallKind)
    (operands : CallOperands)
    (input output : Nat × Nat) :
    Steady comparison environment (launchCall limits kind operands input output) := by
  refine steady_frame.bind fun frame => ?_
  refine (steady_charge _).bind fun _ => ?_
  refine (steady_canStart _ _ _).bind fun starts => ?_
  split
  · refine (steady_readMemory _ _).bind fun data => ?_
    exact steady_context.bind fun context => .pure _
  · exact (steady_giveBack _).bind fun _ => .pure _

theorem steady_prepareCall
    (kind : CallKind) :
    Steady comparison environment (prepareCall environment kind) := by
  refine (steady_popCall kind).bind fun operands => ?_
  refine (steady_expand _ _).bind fun input => ?_
  refine (steady_expand _ _).bind fun output => ?_
  refine (steady_setReturnData _).bind fun _ => ?_
  refine (steady_inspectCallee _ _ _).bind fun goesOn => ?_
  split
  · exact .guarded (steady_chargeValue _ _) (steady_launchCall _ _ _ _ _)
  · exact .pure _

theorem steady_takeSuccess
    (outcome : Outcome) :
    Steady comparison environment (takeOutcome.takeSuccess outcome) :=
  steady_updateFrame fun _ => rfl

theorem steady_takeOutcome
    (outcome : Outcome)
    (offset size : Nat) :
    Steady comparison environment (takeOutcome outcome offset size) := by
  refine (steady_giveBack _).bind fun _ => ?_
  refine (steady_updateMemory _).bind fun _ => ?_
  refine .guarded (steady_takeSuccess outcome) ?_
  exact (steady_setReturnData _).bind fun _ => steady_push _

theorem steady_chargeInitCode
    (length : Nat) :
    Steady comparison environment (chargeInitCode environment length) := by
  unfold chargeInitCode
  dsimp only
  split
  · exact .guarded (.throw (comparison.shares rfl)) (steady_charge _)
  · exact .pure _

theorem steady_launchCreation
    (limits : Limits)
    (value : Word)
    (start length : Nat) :
    Steady comparison environment (launchCreation limits value start length) := by
  refine (steady_canStart _ _ _).bind fun starts => ?_
  split
  · refine steady_frame.bind fun frame => ?_
    refine (steady_charge _).bind fun _ => ?_
    refine (steady_readMemory _ _).bind fun initCode => ?_
    exact steady_context.bind fun context => .pure _
  · exact .pure _

theorem steady_prepareCreation
    (salted : Bool) :
    Steady comparison environment (prepareCreation environment salted) := by
  have launched (value : Word) (start length : Nat) :
      Steady comparison environment (do
        updateFrame fun frame => { frame with returnData := [] }
        launchCreation environment.limits value start length) :=
    (steady_setReturnData _).bind fun _ => steady_launchCreation _ _ _ _
  refine steady_pop3.bind fun ⟨value, offset, size⟩ => ?_
  dsimp only
  cases salted with
  | true =>
      refine steady_pop.bind fun _ => ?_
      refine (steady_expand _ _).bind fun ⟨start, length⟩ => ?_
      refine (steady_chargeInitCode _).bind fun _ => ?_
      exact (steady_charge _).bind fun _ => launched value start length
  | false =>
      refine (steady_expand _ _).bind fun ⟨start, length⟩ => ?_
      exact (steady_chargeInitCode _).bind fun _ => launched value start length

theorem steady_takeCreation
    (outcome : Outcome) :
    Steady comparison environment (takeCreation outcome) := by
  refine (steady_giveBack _).bind fun _ => ?_
  split
  · exact (steady_takeSuccess outcome).bind fun _ => steady_push _
  · exact (steady_setReturnData _).bind fun _ => steady_push _
  · exact steady_push _

end Exec

end LedgerEvm
