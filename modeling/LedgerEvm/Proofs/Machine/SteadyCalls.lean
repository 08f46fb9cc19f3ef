import LedgerEvm.Proofs.Machine.Ties
import LedgerEvm.Proofs.TokenService.SteadyCalls

namespace LedgerEvm

/-!
# Steady calls and creations

A call and a creation end alike over both snapshots, as long as code is run alike: a failed
lookup is handed on, whoever meets it, and everything else is answered as it is answered
over the other snapshot.
-/

/-- Simulations that are the same but for the snapshots of their worlds, with traces alike. -/
structure Simulation.Beside (comparison : Comparison) (first second : Simulation) : Prop where
  world : World.Beside comparison first.world second.world
  trace : comparison.traces.alike first.trace second.trace
  steps : first.steps = second.steps

/-- Whatever code is run, it is run alike. -/
def Runner.Steady (comparison : Comparison) (runner : Runner) : Prop :=
  ∀ context code,
    Tolerance.Steady comparison.toTolerance (Simulation.Beside comparison) (runner context code)

namespace Simulation.Beside

variable
  {comparison : Comparison}
  {first second : Simulation}
  {world world' : World}

theorem withWorld
    (besides : Simulation.Beside comparison first second)
    (worlds : World.Beside comparison world world') :
    Simulation.Beside comparison { first with world } { second with world := world' } :=
  ⟨worlds, besides.trace, besides.steps⟩

end Simulation.Beside

namespace SimAction

variable
  {comparison : Comparison}
  {α : Type}
  {first second : Simulation}

/-- Done in simulations that lie side by side the action ends alike. -/
abbrev Steady (comparison : Comparison) (action : SimAction α) : Prop :=
  Tolerance.Steady comparison.toTolerance (Simulation.Beside comparison) action

/-! ## Parts of calls -/

theorem steady_ask
    {question : World → Except StateError α}
    (reads : ∀ {first second : World},
      World.Beside comparison first second →
      comparison.Matches Eq (question first) (question second)) :
    Steady comparison (ask question) := by
  intro first second besides
  have answers := reads besides.world
  unfold ask
  generalize question first.world = answer at answers ⊢
  generalize question second.world = answer' at answers ⊢
  cases answers with
  | ok same =>
      subst same
      exact .ok besides
  | error shares => exact .error shares besides
  | excused excuse => exact .excused excuse

theorem steady_change
    {update : World → Except VmError (α × World)}
    (changes : ∀ {first second : World},
      World.Beside comparison first second →
      comparison.Matches (World.BesideWith comparison) (update first) (update second)) :
    Steady comparison (change update) := by
  intro first second besides
  have changed := changes besides.world
  unfold change
  generalize update first.world = result at changed ⊢
  generalize update second.world = result' at changed ⊢
  cases changed with
  | @ok answer answer' holds =>
      obtain ⟨answer, world⟩ := answer
      obtain ⟨_, world'⟩ := answer'
      obtain ⟨rfl, worlds⟩ := holds
      exact .ok (besides.withWorld worlds)
  | error shares => exact .error shares besides
  | excused excuse => exact .excused excuse

/-- The world's frame is closed alike, with what was written in it or without. -/
theorem follows_closeFrame
    {keeps : α → Bool}
    {ended ended' : EStateM.Result VmError Simulation α}
    (ends : comparison.Follows (Simulation.Beside comparison) ended ended') :
    comparison.Follows (Simulation.Beside comparison) (closeFrame keeps ended)
      (closeFrame keeps ended') := by
  cases ends with
  | excused excuse => exact .excused excuse
  | error shares besides => exact .error shares (besides.withWorld besides.world.revert)
  | ok besides =>
      refine .ok (besides.withWorld ?_)
      split
      · exact besides.world.commit
      · exact besides.world.revert

/-- What is done alike in a frame of the world is done alike around it. -/
theorem follows_framed
    {keeps : α → Bool}
    {action : SimAction α}
    (runs :
      comparison.Follows (Simulation.Beside comparison)
        (action { first with world := first.world.push })
        (action { second with world := second.world.push })) :
    comparison.Follows (Simulation.Beside comparison) (framed keeps action first)
      (framed keeps action second) := by
  rw [framed_eq, framed_eq]
  exact follows_closeFrame runs

/-- A system contract's failure is handed on when it ends the transaction, and else answered. -/
theorem follows_answered
    {result result' : Except PrecompileError (UInt64 × Bytes)}
    (same : comparison.Matches Eq result result')
    (besides : Simulation.Beside comparison first second)
    (gasLimit : UInt64) :
    comparison.Follows (Simulation.Beside comparison) (answered result gasLimit first)
      (answered result' gasLimit second) := by
  cases same with
  | ok same =>
      subst same
      exact .ok besides
  | @error error shares =>
      change comparison.shared (VmError.ofPrecompile error) at shares
      have steady : Steady comparison (answered (.error error) gasLimit) := by
        unfold answered
        dsimp only
        split
        · exact .pure _
        · split
          · exact .throw shares
          · exact .pure _
      exact steady first second besides
  | @excused error _ excuse =>
      change comparison.excused (VmError.ofPrecompile error) at excuse
      obtain ⟨what, isLookup⟩ := comparison.isLookup excuse
      simp only [answered, isLookup, VmError.isAbort]
      exact .excused (isLookup ▸ excuse)

theorem follows_answeredBy
    {result result' : Except PrecompileError SystemAnswer}
    (same : comparison.Matches Eq result result')
    (besides : Simulation.Beside comparison first second)
    (gasLimit : UInt64) :
    comparison.Follows (Simulation.Beside comparison) (answeredBy result gasLimit first)
      (answeredBy result' gasLimit second) := by
  refine follows_answered ?_ besides gasLimit
  cases same with
  | ok same => exact .ok (same ▸ rfl)
  | error shares => exact .error shares
  | excused excuse => exact .excused excuse

/-- A refused token action is answered with its refusal, but a failed lookup is handed on. -/
theorem follows_attempt
    {action : TokenAction SystemAnswer}
    (runs :
      comparison.Follows (World.Beside comparison) (action first.world) (action second.world))
    (besides : Simulation.Beside comparison first second)
    (gasLimit : UInt64) :
    comparison.Follows (Simulation.Beside comparison)
      ((attempt action >>= fun result => answeredBy result gasLimit) first)
      ((attempt action >>= fun result => answeredBy result gasLimit) second) := by
  have attempted {simulation : Simulation} {answer : SystemAnswer} {world : World}
      (ran : action simulation.world = .ok answer world) :
      (attempt action >>= fun result => answeredBy result gasLimit) simulation =
        answeredBy (.ok answer) gasLimit { simulation with world } :=
    bind_eq_of_ok (by simp only [attempt, ran])
  have refused {simulation : Simulation} {error : PrecompileError} {world : World}
      (ran : action simulation.world = .error error world) :
      (attempt action >>= fun result => answeredBy result gasLimit) simulation =
        answeredBy (.error error) gasLimit { simulation with world } :=
    bind_eq_of_ok (by simp only [attempt, ran])
  generalize ran : action first.world = result at runs
  generalize ran' : action second.world = result' at runs
  cases runs with
  | ok worlds =>
      rw [attempted ran, attempted ran']
      exact follows_answeredBy (.ok rfl) (besides.withWorld worlds) gasLimit
  | error shares worlds =>
      rw [refused ran, refused ran']
      exact follows_answeredBy (.error shares) (besides.withWorld worlds) gasLimit
  | @excused error world _ excuse =>
      change comparison.excused (VmError.ofPrecompile error) at excuse
      obtain ⟨what, isLookup⟩ := comparison.isLookup excuse
      rw [refused ran]
      simp only [answeredBy, answered, Except.map, isLookup, VmError.isAbort]
      exact .excused (isLookup ▸ excuse)

/-! ## Calls -/

theorem steady_runCode
    {runner : Runner}
    (runs : runner.Steady comparison)
    (context : FrameContext) :
    Steady comparison (runCode runner context) := by
  refine (steady_ask fun besides => besides.code context.codeAddress).bind fun code => ?_
  split
  · exact .pure _
  · exact runs context code

/-- Where and for whom the target of a call draws an address, if it gets to draw one. -/
def targetDrawing?
    (environment : Environment)
    (context : FrameContext)
    (world : World) :
    Option (World × Address) := do
  let dispatched ← dispatched? environment context world
  dispatched.drawing? world

theorem matches_isTokenCall
    {first second : World}
    (besides : World.Beside comparison first second)
    (address : Address) :
    comparison.Matches Eq (isTokenCall first address) (isTokenCall second address) := by
  have redirects : first.redirectsTokenCalls = second.redirectsTokenCalls := by
    rw [besides.same]
  unfold isTokenCall
  rw [redirects]
  split
  · exact (besides.token address).bind_eq fun _ => .ok rfl
  · exact .ok rfl

/-- The target of a call answers alike, if an address is found where it draws one. -/
theorem follows_runTarget
    {environment : Environment}
    {runner : Runner}
    {context : FrameContext}
    (runs : runner.Steady comparison)
    (besides : Simulation.Beside comparison first second)
    (finds : ∀ drawing ∈ targetDrawing? environment context second.world,
      drawing.1.Finds comparison drawing.2) :
    comparison.Follows (Simulation.Beside comparison)
      (runTarget environment runner context first)
      (runTarget environment runner context second) := by
  have answers {dispatched : DispatchedCall} {first : Simulation}
      (besides : Simulation.Beside comparison first second)
      (found : dispatched? environment context second.world = some dispatched) :
      comparison.Follows (World.Beside comparison) (dispatched.answer first.world)
        (dispatched.answer second.world) := by
    refine DispatchedCall.follows_answer besides.world fun drawing draws => finds drawing ?_
    rw [targetDrawing?, found]
    exact draws
  cases contract : FixedContract.at? context.codeAddress with
  | some contract' =>
      simp only [runTarget, contract]
      refine follows_answered ?_ besides _
      unfold FixedContract.execute
      dsimp only
      split
      · exact .error (comparison.shares rfl)
      · exact .ok rfl
  | none =>
      by_cases service : context.codeAddress = Address.tokenService
      · have found (world : World) :
            dispatched? environment context world =
              some
                ⟨⟨context.caller, context.block.timestamp, context.gasLimit, context.isStatic⟩,
                  environment.prices, none, context.data⟩ := by
          simp only [dispatched?, contract, if_pos service]
          rfl
        simp only [runTarget, contract, if_pos service]
        exact follows_attempt (answers besides (found _)) besides _
      · by_cases rate : context.codeAddress = Address.exchangeRate
        · simp only [runTarget, contract, if_neg service, if_pos rate]
          exact follows_answeredBy (SystemCall.matches_answerExchangeRate _ _ _) besides _
        · by_cases seed : context.codeAddress = Address.randomSeed
          · simp only [runTarget, contract, if_neg service, if_neg rate, if_pos seed]
            exact follows_answeredBy (SystemCall.matches_answerRandomSeed _ _ _ _) besides _
          · simp only [runTarget, contract, if_neg service, if_neg rate, if_neg seed]
            have asks :
                Steady comparison (ask fun world => isTokenCall world context.codeAddress) :=
              steady_ask fun besides => matches_isTokenCall besides _
            refine (asks first second besides).bind fun isToken first' second' asked besides => ?_
            cases isToken with
            | false => exact steady_runCode runs context first' second' besides
            | true =>
                cases isToken : isTokenCall second.world context.codeAddress with
                | error error =>
                    simp only [ask, isToken] at asked
                    cases asked
                | ok answer =>
                    simp only [ask, isToken] at asked
                    cases asked
                    have found :
                        dispatched? environment context second.world =
                          some
                            ⟨⟨context.caller, context.block.timestamp, context.gasLimit,
                                context.isStatic⟩,
                              environment.prices, some context.codeAddress, context.data⟩ := by
                      simp [dispatched?, contract, service, rate, seed, isToken]
                    exact follows_attempt (answers besides found) besides _

/--
Where a value can be moved, what follows has to be done alike; where it cannot, the frame has
failed alike.
-/
theorem follows_withTransfer
    {context : FrameContext}
    {target : Address}
    {next : SimAction Outcome}
    (besides : Simulation.Beside comparison first second)
    (goesOn : ∀ world world',
      second.world.transfer context.caller target context.value = .ok world' →
      World.Beside comparison world world' →
      comparison.Follows (Simulation.Beside comparison) (next { first with world })
        (next { second with world := world' })) :
    comparison.Follows (Simulation.Beside comparison) (withTransfer context target next first)
      (withTransfer context target next second) := by
  have moves := besides.world.transfer context.caller target context.value
  unfold withTransfer
  generalize first.world.transfer context.caller target context.value = result at moves ⊢
  generalize second.world.transfer context.caller target context.value = result' at moves goesOn ⊢
  cases moves with
  | ok worlds => exact goesOn _ _ rfl worlds
  | @error error shares =>
      dsimp only
      split
      · exact .error shares besides
      · exact .ok besides
  | @excused error _ excuse =>
      have aborts : error.isAbort = true := comparison.isAbort excuse
      simp only [aborts, if_true]
      exact .excused excuse

/-- Where and for whom a call draws an address, if it gets to draw one for a token. -/
def callDrawing?
    (environment : Environment)
    (kind : CallKind)
    (context : FrameContext)
    (simulation : Simulation) :
    Option (World × Address) := do
  let opened ← opened? kind context simulation
  targetDrawing? environment context opened.world

theorem follows_messageCall
    {environment : Environment}
    {runner : Runner}
    {kind : CallKind}
    {context : FrameContext}
    (runs : runner.Steady comparison)
    (besides : Simulation.Beside comparison first second)
    (finds : ∀ drawing ∈ callDrawing? environment kind context second,
      drawing.1.Finds comparison drawing.2) :
    comparison.Follows (Simulation.Beside comparison)
      (messageCall environment runner kind context first)
      (messageCall environment runner kind context second) := by
  refine follows_framed ?_
  have pushed := besides.withWorld besides.world.push
  unfold callDrawing? opened? at finds
  split
  · rename_i isCall
    refine follows_withTransfer pushed fun world world' moved worlds => ?_
    simp only [isCall, if_true, moved] at finds
    exact follows_runTarget runs (besides.withWorld worlds) finds
  · rename_i notCall
    simp only [notCall, if_false] at finds
    exact follows_runTarget runs pushed finds

/-! ## Creations -/

theorem matches_deploy
    {first second : World}
    (besides : World.Beside comparison first second)
    (limits : Limits)
    (address : Address)
    (code : Bytes)
    (gas : UInt64) :
    comparison.Matches (World.BesideWith comparison) (deploy limits address code gas first)
      (deploy limits address code gas second) := by
  unfold deploy
  dsimp only
  split
  · exact .error (comparison.shares rfl)
  · split
    · exact .error (comparison.shares rfl)
    · split
      · exact .error (comparison.shares rfl)
      · refine (besides.updateAccount address _).lookUp.bind fun deployed deployed' same => ?_
        exact .ok ⟨rfl, same.world⟩

theorem steady_deployOutput
    (limits : Limits)
    (address : Address)
    (outcome : Outcome) :
    Steady comparison (deployOutput limits address outcome) := by
  intro first second besides
  have deploys := matches_deploy besides.world limits address outcome.output outcome.gas
  unfold deployOutput
  generalize deploy limits address outcome.output outcome.gas first.world = result at deploys ⊢
  generalize deploy limits address outcome.output outcome.gas second.world = result' at deploys ⊢
  cases deploys with
  | @ok answer answer' holds =>
      obtain ⟨cost, world⟩ := answer
      obtain ⟨_, world'⟩ := answer'
      obtain ⟨rfl, worlds⟩ := holds
      exact .ok (besides.withWorld worlds)
  | @error error shares =>
      dsimp only
      split
      · exact .error shares besides
      · exact .ok besides
  | @excused error _ excuse =>
      have aborts : error.isAbort = true := comparison.isAbort excuse
      simp only [aborts, if_true]
      exact .excused excuse

theorem follows_freshAddress
    {creator : Address}
    (besides : Simulation.Beside comparison first second)
    (finds : second.world.Finds comparison creator) :
    comparison.Follows (Simulation.Beside comparison) (freshAddress creator first)
      (freshAddress creator second) := by
  have draws := besides.world.newContractAddress creator
  unfold World.Finds at finds
  unfold freshAddress
  generalize first.world.newContractAddress creator = drawn at draws ⊢
  generalize second.world.newContractAddress creator = drawn' at draws finds ⊢
  obtain ⟨answer, world⟩ := drawn
  obtain ⟨answer', world'⟩ := drawn'
  rcases draws with ⟨error, failed, excuse⟩ | ⟨same, worlds⟩
  · subst failed
    exact .excused excuse
  · subst same
    cases answer with
    | ok address => exact .ok (besides.withWorld worlds)
    | error error => exact .error (finds error rfl) (besides.withWorld worlds)

theorem steady_countNonce
    (address : Address) :
    Steady comparison (countNonce address) :=
  steady_change fun besides =>
    (besides.updateAccount address _).lookUp.bind fun _ _ same => .ok ⟨rfl, same.world⟩

theorem follows_createContract
    {environment : Environment}
    {runner : Runner}
    {creator : Address}
    {context : FrameContext}
    {initCode : Bytes}
    (runs : runner.Steady comparison)
    (besides : Simulation.Beside comparison first second)
    (finds : second.world.Finds comparison creator) :
    comparison.Follows (Simulation.Beside comparison)
      (createContract environment runner creator context initCode first)
      (createContract environment runner creator context initCode second) := by
  refine (follows_freshAddress besides finds).bind fun address first' second' _ besides => ?_
  refine Tolerance.Steady.bind (steady_countNonce creator) (fun _ => ?_) first' second' besides
  intro first second besides
  refine follows_framed ?_
  have put : Steady comparison (putNewContract address) :=
    steady_change fun besides => .ok ⟨rfl, besides.record _⟩
  refine (put _ _ (besides.withWorld besides.world.push)).bind
    fun _ first' second' _ besides => ?_
  refine follows_withTransfer besides fun world world' _ worlds => ?_
  refine Tolerance.Steady.bind (runs _ _) (fun outcome => ?_) _ _ (besides.withWorld worlds)
  split
  · exact steady_deployOutput _ _ _
  · exact .pure _

end SimAction

end LedgerEvm
