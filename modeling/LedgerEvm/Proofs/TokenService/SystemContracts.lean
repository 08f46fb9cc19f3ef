import LedgerEvm.Proofs.TokenService.Effects

namespace LedgerEvm

/-!
# What every system contract promises

A call of a system contract fails without a trace, whatever it had already written when it
was refused.  When it is answered it costs no more than the gas it came with, and the
world reads as before unless the call may write and the answer says that it did.
-/

/-- The system contracts that answer calls without code. -/
inductive SystemContract where
  | tokenService
  | token (address : Address)
  | exchangeRate
  | randomSeed (seed : Hash)
  deriving Repr, DecidableEq

namespace SystemContract

/-- The answer of a system contract to a call. -/
def answer
    (contract : SystemContract)
    (call : SystemCall)
    (source : PriceSource)
    (input : Bytes) :
    TokenAction SystemAnswer :=
  match contract with
  | .tokenService => call.answerService source input
  | .token address => call.answerToken source address input
  | .exchangeRate => SystemCall.execute.liftExcept (call.answerExchangeRate source input)
  | .randomSeed seed => SystemCall.execute.liftExcept (call.answerRandomSeed source input seed)

end SystemContract

/-- An action that fails in a frame of its own leaves every answer of the world as it was. -/
theorem TokenAction.ensures_framed_view
    {α : Type}
    {action : TokenAction α}
    {world : World}
    (below : Keeps (World.SameBelow world.push) action) :
    Ensures (· = world) action.framed
      (fun _ _ => True) fun _ after => after.view = world.view := by
  intro start same
  subst same
  unfold TokenAction.framed
  cases ran : action start.push with
  | ok answer inner =>
      trivial
  | error error inner =>
      exact World.view_revert (Ensures.of_error below ran (.refl _))

namespace SystemCall

variable
  {call : SystemCall}
  {source : PriceSource}
  {input : Bytes}
  {world : World}

/-- What a call is promised of its answer and of the world that comes with it. -/
structure Promised
    (call : SystemCall)
    (world : World)
    (answer : SystemAnswer)
    (after : World) :
    Prop where
  withinGas : answer.gasCost ≤ call.gasLimit
  unchanged : call.isStatic = true ∨ answer.stateChanged = false → after.view = world.view

/-- An action that answers a call as promised, or fails without a trace. -/
def AnswersAsPromised
    (call : SystemCall)
    (world : World)
    (action : TokenAction SystemAnswer) :
    Prop :=
  Ensures (· = world) action (call.Promised world) fun _ after => after.view = world.view

theorem le_of_checkGas
    {gas : UInt64}
    (checked : call.checkGas gas = .ok ()) :
    gas ≤ call.gasLimit := by
  unfold checkGas at checked
  split at checked
  · cases checked
  · rename_i enough
    exact UInt64.not_lt.mp enough

/-- A call that is refused before anything is done leaves no trace. -/
theorem answersAsPromised_throw
    (error : PrecompileError) :
    call.AnswersAsPromised world (throw error) :=
  Ensures.throw fun _ same => same ▸ rfl

/-- A result that does not touch the world has to be within the gas. -/
theorem answersAsPromised_liftExcept
    {result : Except PrecompileError SystemAnswer}
    (withinGas : ∀ answer, result = .ok answer → answer.gasCost ≤ call.gasLimit) :
    call.AnswersAsPromised world (execute.liftExcept result) := by
  cases result with
  | ok answer =>
      exact Ensures.pure fun _ same => ⟨withinGas answer rfl, fun _ => same ▸ rfl⟩
  | error error =>
      exact answersAsPromised_throw error

/-- A call from a frame that may not write is carried out only as a question. -/
theorem ensures_perform_view
    {read : TokenCall}
    {function : TokenFunction}
    (reads : function.Reads read)
    (mayWrite : call.isStatic = true → function.isView = true) :
    Ensures (· = world) (call.perform read)
      (fun result after => call.isStatic = true ∨ result.2 = false → after.view = world.view)
      fun _ after => after.view = world.view := by
  cases read with
  | query query =>
      have asked : Keeps (· = world) (TokenAction.approvedSpender query) :=
        TokenAction.keeps_approvedSpender query
      refine (asked.imp_failed fun _ _ same => same ▸ rfl).bind fun spender => ?_
      exact Ensures.pure fun _ same _ => same ▸ rfl
  | write body kind =>
      have writes : ¬ call.isStatic = true := by
        intro static
        cases reads.1.symm.trans (mayWrite static)
      have below := TokenAction.keeps_run_sameBelow world.push body call.sender
      refine (TokenAction.ensures_framed_view below).bind fun result => ?_
      refine Ensures.pure fun _ _ silent => ?_
      rcases silent with static | silent
      · exact absurd static writes
      · cases silent

theorem answersAsPromised_execute
    (function : TokenFunction)
    (setting : CallSetting) :
    call.AnswersAsPromised world (call.execute source function input setting) := by
  have lifted {β : Type} (result : Except PrecompileError β) :
      Ensures (· = world) (execute.liftExcept result)
        (fun value after => after = world ∧ result = .ok value)
        fun _ after => after.view = world.view :=
    (ensures_liftExcept result).imp_failed fun _ _ same => same ▸ rfl
  have seen :
      Ensures (· = world) (get : TokenAction World) (fun _ after => after = world)
        fun _ after => after.view = world.view :=
    fun _ same => same
  unfold execute
  dsimp only
  split
  · exact answersAsPromised_throw _
  rename_i allowed
  have mayWrite : call.isStatic = true → function.isView = true := by
    intro static
    simpa [static] using allowed
  refine (lifted _).bind fun read => Ensures.of_fact fun found => ?_
  refine seen.bind fun _ => ?_
  refine (lifted _).bind fun gasCost => Ensures.of_fact fun _ => ?_
  refine (lifted _).bind fun _ => Ensures.of_fact fun checked => ?_
  have reads := TokenFunction.reads_of_readCall found
  refine (ensures_perform_view reads mayWrite).bind fun result => ?_
  exact Ensures.pure fun _ unchanged => ⟨le_of_checkGas checked, unchanged⟩

theorem answersAsPromised_answerService
    (source : PriceSource)
    (input : Bytes) :
    call.AnswersAsPromised world (call.answerService source input) := by
  unfold answerService
  split
  · exact answersAsPromised_execute _ _
  · exact answersAsPromised_throw _

theorem answersAsPromised_answerToken
    (source : PriceSource)
    (input : Bytes)
    (address : Address) :
    call.AnswersAsPromised world (call.answerToken source address input) := by
  unfold answerToken
  split
  · split
    · have known : Keeps (· = world) (TokenAction.knownToken address) :=
        TokenAction.keeps_knownToken address
      refine (known.imp_failed fun _ _ same => same ▸ rfl).bind fun token => ?_
      exact answersAsPromised_execute _ _
    · exact answersAsPromised_throw _
  · exact answersAsPromised_throw _

theorem withinGas_answerExchangeRate
    {answer : SystemAnswer}
    (answered : call.answerExchangeRate source input = .ok answer) :
    answer.gasCost ≤ call.gasLimit := by
  unfold answerExchangeRate at answered
  obtain ⟨_, checked, answered⟩ := exists_of_bind_eq_ok answered
  obtain ⟨selector, _, answered⟩ := exists_of_bind_eq_ok answered
  dsimp only at answered
  split at answered
  · cases answered
  · obtain ⟨amount, _, answered⟩ := exists_of_bind_eq_ok answered
    obtain ⟨rate, _, answered⟩ := exists_of_bind_eq_ok answered
    cases answered
    exact le_of_checkGas checked

theorem withinGas_answerRandomSeed
    {seed : Hash}
    {answer : SystemAnswer}
    (answered : call.answerRandomSeed source input seed = .ok answer) :
    answer.gasCost ≤ call.gasLimit := by
  unfold answerRandomSeed at answered
  obtain ⟨selector, _, answered⟩ := exists_of_bind_eq_ok answered
  dsimp only at answered
  split at answered
  · cases answered
  · obtain ⟨gasCost, _, answered⟩ := exists_of_bind_eq_ok answered
    obtain ⟨_, checked, answered⟩ := exists_of_bind_eq_ok answered
    cases answered
    exact le_of_checkGas checked

/-! ## More gas -/

section

variable
  {answer : SystemAnswer}
  {limit : UInt64}
  (more : call.gasLimit ≤ limit)
include more

/-- A charge that is within the gas is so within more. -/
theorem checkGas_of_more
    {gas : UInt64}
    (checked : call.checkGas gas = .ok ()) :
    { call with gasLimit := limit }.checkGas gas = .ok () :=
  if_neg (UInt64.not_lt.mpr (UInt64.le_trans (le_of_checkGas checked) more))

/-- The limit of a call is looked at for this charge only. -/
theorem execute_of_more
    {function : TokenFunction}
    {setting : CallSetting}
    {after : World}
    (answered : call.execute source function input setting world = .ok answer after) :
    { call with gasLimit := limit }.execute source function input setting world =
      .ok answer after := by
  unfold execute at answered ⊢
  dsimp only at answered ⊢
  by_cases refused : call.isStatic = true ∧ (!function.isView) = true
  · rw [if_pos refused] at answered
    cases answered
  · rw [if_neg refused] at answered ⊢
    obtain ⟨read, _, reads, answered⟩ := exists_of_run_eq_ok answered
    obtain ⟨known, seen, gets, answered⟩ := exists_of_run_eq_ok answered
    obtain ⟨gasCost, priced, prices, answered⟩ := exists_of_run_eq_ok answered
    obtain ⟨_, _, checks, answered⟩ := exists_of_run_eq_ok answered
    obtain ⟨rfl, checked⟩ := (ensures_liftExcept (call.checkGas gasCost)).of_ok checks rfl
    have prices :
        execute.liftExcept ({ call with gasLimit := limit }.gasOf source known read) seen =
          .ok gasCost priced :=
      prices
    have checks :
        execute.liftExcept ({ call with gasLimit := limit }.checkGas gasCost) priced =
          .ok () priced := by
      rw [checkGas_of_more more checked]
      rfl
    rw [bind_eq_of_ok reads, bind_eq_of_ok gets, bind_eq_of_ok prices, bind_eq_of_ok checks]
    exact answered

theorem answerService_of_more
    {after : World}
    (answered : call.answerService source input world = .ok answer after) :
    { call with gasLimit := limit }.answerService source input world = .ok answer after := by
  unfold answerService at answered ⊢
  cases found : (readSelector input).bind (find TokenFunction.serviceTable) with
  | ok function =>
      rw [found] at answered
      exact execute_of_more more answered
  | error error =>
      rw [found] at answered
      cases answered

theorem answerToken_of_more
    {address : Address}
    {after : World}
    (answered : call.answerToken source address input world = .ok answer after) :
    { call with gasLimit := limit }.answerToken source address input world =
      .ok answer after := by
  unfold answerToken at answered ⊢
  cases read : readSelector input with
  | error error =>
      rw [read] at answered
      cases answered
  | ok selector =>
      rw [read] at answered
      dsimp only at answered ⊢
      cases found : find TokenFunction.tokenTable selector with
      | error error =>
          rw [found] at answered
          cases answered
      | ok function =>
          rw [found] at answered
          obtain ⟨token, _, known, answered⟩ := exists_of_run_eq_ok answered
          dsimp only
          rw [bind_eq_of_ok known]
          exact execute_of_more more answered

theorem answerExchangeRate_of_more
    (answered : call.answerExchangeRate source input = .ok answer) :
    { call with gasLimit := limit }.answerExchangeRate source input = .ok answer := by
  obtain ⟨_, checked, answered⟩ := exists_of_bind_eq_ok answered
  unfold answerExchangeRate
  rw [checkGas_of_more more checked]
  exact answered

theorem answerRandomSeed_of_more
    {seed : Hash}
    (answered : call.answerRandomSeed source input seed = .ok answer) :
    { call with gasLimit := limit }.answerRandomSeed source input seed = .ok answer := by
  obtain ⟨selector, read, answered⟩ := exists_of_bind_eq_ok answered
  unfold answerRandomSeed
  rw [read]
  change (if selector ≠ toRandomSeed then _ else _ : Except PrecompileError SystemAnswer) = _
  dsimp only at answered
  split at answered
  · cases answered
  · rename_i known
    obtain ⟨gasCost, priced, answered⟩ := exists_of_bind_eq_ok answered
    obtain ⟨_, checked, answered⟩ := exists_of_bind_eq_ok answered
    rw [if_neg known]
    dsimp only
    rw [priced]
    change ({ call with gasLimit := limit }.checkGas gasCost >>= _) = _
    rw [checkGas_of_more more checked]
    exact answered

end

end SystemCall

/-- Every system contract answers every call as promised, in every world. -/
theorem SystemContract.answersAsPromised
    (contract : SystemContract)
    (call : SystemCall)
    (source : PriceSource)
    (input : Bytes)
    (world : World) :
    call.AnswersAsPromised world (contract.answer call source input) := by
  cases contract with
  | tokenService => exact SystemCall.answersAsPromised_answerService source input
  | token address => exact SystemCall.answersAsPromised_answerToken source input address
  | exchangeRate =>
      apply SystemCall.answersAsPromised_liftExcept
      intro answer answered
      exact SystemCall.withinGas_answerExchangeRate answered
  | randomSeed seed =>
      apply SystemCall.answersAsPromised_liftExcept
      intro answer answered
      exact SystemCall.withinGas_answerRandomSeed answered

end LedgerEvm
