import LedgerEvm.Proofs.Machine.CallStack
import LedgerEvm.Proofs.Machine.DispatchedCalls
import LedgerEvm.Proofs.Machine.SteadySteps

namespace LedgerEvm

/-!
# Runs that are not aborted

Over a snapshot whose lookups do not fail a run lies beside itself, so a steady step of it
succeeds or fails in a way that ends no more than its frame.  No move of such a run aborts
it, as long as its steps are in time and addresses are found where they are drawn.
-/

/-! ## Snapshots that answer -/

/-- No lookup fails. -/
structure Snapshot.Answers (snapshot : Snapshot) : Prop where
  account : ∀ address, ∃ answer, snapshot.account address = .ok answer
  storage : ∀ address key, ∃ answer, snapshot.storage address key = .ok answer
  token : ∀ address, ∃ answer, snapshot.token address = .ok answer
  relationship : ∀ account token, ∃ answer, snapshot.relationship account token = .ok answer
  nft : ∀ token serial, ∃ answer, snapshot.nft token serial = .ok answer
  allowance :
    ∀ owner token spender, ∃ answer, snapshot.allowance owner token spender = .ok answer

/-- The lookups of finite tables do not fail. -/
theorem Snapshot.answers_ofContents
    (contents : Contents) :
    (ofContents contents).Answers where
  account _ := ⟨_, rfl⟩
  storage _ _ := ⟨_, rfl⟩
  token _ := ⟨_, rfl⟩
  relationship _ _ := ⟨_, rfl⟩
  nft _ _ := ⟨_, rfl⟩
  allowance _ _ _ := ⟨_, rfl⟩

namespace World

variable {world : World} (answers : world.snapshot.Answers)
include answers

theorem exists_accountEntry
    (address : Address) :
    ∃ account?, world.accountEntry address = .ok account? := by
  unfold accountEntry
  split
  · exact ⟨_, rfl⟩
  · exact answers.account address

theorem exists_token
    (address : Address) :
    ∃ token?, world.token address = .ok token? := by
  unfold token
  split
  · exact ⟨_, rfl⟩
  · exact answers.token address

theorem exists_get
    (address : Address) :
    ∃ account?, world.get address = .ok account? := by
  obtain ⟨entry, read⟩ := exists_accountEntry answers address
  obtain ⟨token?, found⟩ := exists_token answers address
  simp only [get, read, found]
  split
  · cases token? <;> exact ⟨_, rfl⟩
  · exact ⟨_, rfl⟩

theorem exists_code
    (address : Address) :
    ∃ code, world.code address = .ok code := by
  obtain ⟨account?, found⟩ := exists_get answers address
  simp only [code, found]
  exact ⟨_, rfl⟩

theorem exists_isTokenCall
    (address : Address) :
    ∃ isToken, SimAction.isTokenCall world address = .ok isToken := by
  obtain ⟨token?, found⟩ := exists_token answers address
  simp only [SimAction.isTokenCall, found]
  split <;> exact ⟨_, rfl⟩

theorem exists_updateAccount
    (address : Address)
    (change : Account → Account) :
    ∃ reached changed, world.updateAccount address change = .ok (reached, changed) := by
  have claims : ∃ claimed, world.claimAccount address = .ok claimed := by
    obtain ⟨account?, found⟩ := exists_get answers address
    simp only [claimAccount, found]
    split
    · exact ⟨_, rfl⟩
    · cases account? with
      | none => exact ⟨_, rfl⟩
      | some account =>
          dsimp only [bind, Except.bind]
          split <;> exact ⟨_, rfl⟩
  obtain ⟨⟨account?, claimed⟩, claims⟩ := claims
  simp only [updateAccount, claims]
  cases account? <;> exact ⟨_, _, rfl⟩

end World

/-! ## Failures that end no more than a frame -/

/-- Nothing is excused, and what both sides share ends no more than a frame. -/
def Tolerance.ofFrames : Tolerance where
  excused _ := False
  shared error := error.isAbort = false
  isLookup := False.elim
  shares := id

/-- A snapshot that answers, beside itself. -/
def Snapshot.Answers.comparison
    {snapshot : Snapshot}
    (answers : snapshot.Answers) :
    Comparison :=
  have matches_of_ok {α : Type} {lookup : Except StateError α}
      (found : ∃ answer, lookup = .ok answer) :
      Tolerance.ofFrames.Matches Eq lookup lookup := by
    obtain ⟨answer, rfl⟩ := found
    exact .ok rfl
  { toTolerance := .ofFrames
    partly := snapshot
    whole := snapshot
    account := fun address => matches_of_ok (answers.account address)
    storage := fun address key => matches_of_ok (answers.storage address key)
    token := fun address => matches_of_ok (answers.token address)
    relationship := fun account token => matches_of_ok (answers.relationship account token)
    nft := fun token serial => matches_of_ok (answers.nft token serial)
    allowance := fun owner token spender => matches_of_ok (answers.allowance owner token spender) }

theorem Snapshot.Answers.beside
    {snapshot : Snapshot}
    (answers : snapshot.Answers)
    {simulation : Simulation}
    (reads : simulation.world.snapshot = snapshot) :
    Simulation.Beside answers.comparison simulation simulation := by
  subst reads
  exact ⟨⟨rfl, rfl⟩, rfl, rfl⟩

namespace Tolerance

variable {ε σ α : Type} [Failure ε]

theorem Matches.of_ok
    {tolerance : Tolerance}
    {alike : α → α → Prop}
    {result : Except ε α}
    {answer : α}
    (alikes : tolerance.Matches alike result result)
    (found : result = .ok answer) :
    alike answer answer := by
  subst found
  cases alikes with
  | ok holds => exact holds

theorem Follows.of_ok
    {tolerance : Tolerance}
    {beside : σ → σ → Prop}
    {result : EStateM.Result ε σ α}
    {answer : α}
    {state : σ}
    (follows : tolerance.Follows beside result result)
    (done : result = .ok answer state) :
    beside state state := by
  subst done
  cases follows with
  | ok besides => exact besides

/-- What is done beside itself succeeds, or it fails in a way that ends no more than a frame. -/
theorem Follows.ok_or_regular
    {beside : σ → σ → Prop}
    {result : EStateM.Result ε σ α}
    (follows : ofFrames.Follows beside result result) :
    (∃ answer state, result = .ok answer state ∧ beside state state) ∨
      ∃ error state,
        result = .error error state ∧ (Failure.inMachine error).isAbort = false ∧
          beside state state := by
  cases result with
  | ok answer state => exact .inl ⟨answer, state, rfl, follows.of_ok rfl⟩
  | error error state =>
      cases follows with
      | error shares besides => exact .inr ⟨error, state, rfl, shares, besides⟩
      | excused excuse => exact excuse.elim

end Tolerance

/-! ## Moves -/

namespace SimAction

variable
  {comparison : Comparison}
  {context : FrameContext}
  {simulation : Simulation}

theorem beside_of_callLaunch?
    {kind : CallKind}
    {code : Bytes}
    {opened : Simulation}
    (besides : Simulation.Beside comparison simulation simulation)
    (launches : callLaunch? kind context simulation = some (code, opened)) :
    Simulation.Beside comparison opened opened := by
  obtain ⟨opened', opens, launches⟩ := Option.bind_eq_some_iff.mp launches
  obtain ⟨code', _, launches⟩ := Option.bind_eq_some_iff.mp launches
  cases launches
  obtain ⟨world, rfl, ⟨_, rfl⟩ | ⟨_, moved⟩⟩ := opened?_cases opens
  · exact besides.withWorld besides.world.push
  · exact besides.withWorld ((besides.world.push.transfer _ _ _).of_ok moved)

theorem beside_of_found
    {creator : Address}
    {context' : FrameContext}
    {founded : Simulation}
    (besides : Simulation.Beside comparison simulation simulation)
    (founds : found creator context simulation = .ok context' founded) :
    Simulation.Beside comparison founded founded := by
  obtain ⟨address, drawn, reached, counted, paid, draws, updated, moved, _, rfl⟩ :=
    exists_of_found founds
  have drawing : World.Beside comparison drawn drawn := by
    rcases besides.world.newContractAddress creator with ⟨error, failed, _⟩ | ⟨_, worlds⟩
    · rw [draws] at failed
      cases failed
    · rw [draws] at worlds
      exact worlds
  have counting := ((drawing.updateAccount creator _).of_ok updated).world
  exact besides.withWorld (((counting.push.record _).transfer _ _ _).of_ok moved)

end SimAction

namespace Exec

variable
  {environment : Environment}
  {machine : Machine}
  {launch : FrameLaunch}

/-- A frame that is started begins beside itself, as the frame that starts it was. -/
theorem beside_of_launch?
    {comparison : Comparison}
    (besides : Machine.Beside comparison environment machine machine)
    (goesOn : environment.GoesOn comparison machine.simulation.steps)
    (found : launch? environment machine = some launch) :
    Simulation.Beside comparison launch.simulation launch.simulation := by
  obtain ⟨instruction, place, gasBefore, ready, begun, found⟩ := exists_of_launch? found
  have readied := beside_of_begin besides goesOn begun
  rcases exists_of_instructionLaunch? found with ⟨kind, called⟩ | ⟨_, salted, created⟩
  · obtain ⟨prepared, paid, code, opened, prepares, launches, rfl⟩ :=
      exists_of_callLaunch? called
    have pays := (steady_prepareCall kind _ _ readied).of_ok prepares
    exact SimAction.beside_of_callLaunch? pays.simulation launches
  · obtain ⟨prepared, paid, context, founded, prepares, founds, rfl⟩ :=
      exists_of_creationLaunch? created
    have pays := (steady_prepareCreation salted _ _ readied).of_ok prepares
    exact SimAction.beside_of_found pays.simulation founds

/-- The frame that a creation starts is called from the frame that makes the creation. -/
theorem yields_prepareCreation_calling
    (environment : Environment)
    (salted : Bool)
    (start : Machine) :
    Yields start.SharesEntries (prepareCreation environment salted) fun launch? _ =>
      ∀ launch, launch? = some launch →
        ∃ value gas, launch.context = start.frame.context.calling Address.zero value [] gas := by
  have quiet := quiet_sharesEntries start
  refine Yields.of_ensures (quiet.ensures_prepareCreation fun value first length => ?_)
  refine Ensures.bind (Quiet.canStart _ _ _) fun starts => ?_
  split
  · refine Ensures.bind keeps_frame fun frame => ?_
    refine Ensures.bind (quiet.charge _) fun _ => ?_
    refine Ensures.bind (keeps_readMemory _ _) fun initCode => ?_
    refine Ensures.bind ensures_context fun context => ?_
    refine Ensures.pure fun machine ⟨shares, same⟩ launch launched => ?_
    cases launched
    rw [same, shares.context]
    exact ⟨_, _, rfl⟩
  · exact Ensures.pure fun _ _ _ impossible => by cases impossible

/-- A frame that is started runs in the block of the frame that starts it. -/
theorem block_of_launch?
    (found : launch? environment machine = some launch) :
    launch.context.block = machine.frame.context.block := by
  obtain ⟨instruction, place, gasBefore, ready, begun, found⟩ := exists_of_launch? found
  have shares := begin_sharesEntries begun
  rcases exists_of_instructionLaunch? found with ⟨kind, called⟩ | ⟨_, salted, created⟩
  · obtain ⟨prepared, paid, code, opened, prepares, _, rfl⟩ := exists_of_callLaunch? called
    obtain ⟨target, value, data, gas, child⟩ :=
      (yields_prepareCall_child environment kind machine).of_ok prepares shares prepared rfl
    rw [child]
    cases kind <;> rfl
  · obtain ⟨prepared, paid, context, founded, prepares, founds, rfl⟩ :=
      exists_of_creationLaunch? created
    obtain ⟨value, gas, calling⟩ :=
      (yields_prepareCreation_calling environment salted machine).of_ok prepares shares
        prepared rfl
    obtain ⟨address, rfl⟩ := SimAction.context_of_found founds
    rw [calling]
    rfl

end Exec

/-- An active frame over a snapshot that has not failed beyond itself. -/
def ActiveFrame.IsUnaborted (snapshot : Snapshot) : ActiveFrame → Prop
  | .running machine => machine.simulation.world.snapshot = snapshot
  | .ended result => ∃ outcome after, result = .ok outcome after ∧ after.world.snapshot = snapshot

/-- The runner that has come to an end already, whatever it is to run. -/
def Runner.endingWith (outcome : Outcome) (after : Simulation) : Runner :=
  fun _ _ _ => .ok outcome after

/-- Nothing around a step keeps it from being done. -/
structure Environment.LetsStep
    (comparison : Comparison)
    (environment : Environment)
    (machine : Machine) :
    Prop extends Environment.GoesOn comparison environment machine.simulation.steps where
  finds :
    ∀ drawing ∈ Exec.drawing? environment machine, drawing.1.Finds comparison drawing.2

section Unaborted

variable
  {snapshot : Snapshot}
  {answers : snapshot.Answers}
  {environment : Environment}

theorem Runner.steady_endingWith
    {after : Simulation}
    (reads : after.world.snapshot = snapshot)
    (outcome : Outcome) :
    (Runner.endingWith outcome after).Steady answers.comparison :=
  fun _ _ _ _ _ => .ok (answers.beside reads)

theorem ActiveFrame.isUnaborted_ofResult
    {result : EStateM.Result VmError Machine Unit}
    (follows :
      answers.comparison.Follows (Machine.Beside answers.comparison environment) result
        result) :
    (ofResult result).IsUnaborted snapshot := by
  have follows : Tolerance.ofFrames.Follows _ result result := follows
  rcases follows.ok_or_regular with ⟨_, after, rfl, besides⟩ | ⟨error, after, rfl, regular, besides⟩
  · exact besides.simulation.world.reads
  · change error.isAbort = false at regular
    simp only [ofResult, Frame.failWith, regular, Bool.false_eq_true, if_false]
    exact ⟨_, _, rfl, besides.simulation.world.reads⟩

namespace CallStack

/-- A move that nothing around it keeps from being done aborts nothing. -/
theorem isUnaborted_moves
    {before after : CallStack}
    (move : Moves environment before after)
    (contexts : ∀ frame ∈ before.frames,
      environment.ChargesLogs answers.comparison frame.context)
    (letsStep : ∀ machine,
      before.active = .running machine →
      machine.frame.isOver = false →
      environment.LetsStep answers.comparison machine)
    (unaborted : before.active.IsUnaborted snapshot) :
    after.active.IsUnaborted snapshot := by
  obtain ⟨active, waiting⟩ := before
  unfold Moves at move
  cases active with
  | ended result =>
      cases waiting with
      | nil => cases move
      | cons frame waiting =>
          cases move
          obtain ⟨outcome, ended, rfl, reads⟩ := unaborted
          have context := contexts frame.frame List.mem_cons_self
          exact ActiveFrame.isUnaborted_ofResult
            (frame.follows_resume context (.ok (answers.beside reads)))
  | running machine =>
      have besides : Machine.Beside answers.comparison environment machine machine :=
        ⟨rfl, contexts machine.frame List.mem_cons_self, answers.beside unaborted⟩
      cases runs : machine.frame.isOver with
      | true =>
          simp only [next, runs, if_true] at move
          cases move
          exact ⟨_, _, rfl, unaborted⟩
      | false =>
          have lets := letsStep machine rfl runs
          cases found : Exec.launch? environment machine with
          | none =>
              simp only [next, runs, found, Bool.false_eq_true, if_false] at move
              cases move
              -- no frame is started, so the step may be looked at with a runner that is steady
              have steady :
                  (Runner.endingWith (Outcome.completed [] 0) machine.simulation).Steady
                    answers.comparison :=
                Runner.steady_endingWith unaborted _
              rw [Exec.step_of_no_launch found Runner.idle (Runner.endingWith _ _)]
              exact ActiveFrame.isUnaborted_ofResult
                (Exec.follows_step steady besides lets.toGoesOn lets.finds)
          | some launch =>
              simp only [next, runs, found, Bool.false_eq_true, if_false] at move
              cases move
              exact (Exec.beside_of_launch? besides lets.toGoesOn found).world.reads

/-- Nothing is aborted in a run that nothing around it keeps from being done. -/
theorem isUnaborted_of_leads
    {start stack : CallStack}
    {count : Nat}
    (leads : Leads (Moves environment) count start stack)
    (contexts : ∀ {count : Nat} {stack : CallStack},
      Leads (Moves environment) count start stack →
      ∀ frame ∈ stack.frames, environment.ChargesLogs answers.comparison frame.context)
    (letsStep : ∀ {count : Nat} {machine : Machine} {waiting : List WaitingFrame},
      Leads (Moves environment) count start ⟨.running machine, waiting⟩ →
      machine.frame.isOver = false →
      environment.LetsStep answers.comparison machine)
    (begins : start.active.IsUnaborted snapshot) :
    stack.active.IsUnaborted snapshot := by
  -- what surrounds a move is known of the stacks that the run leads to, so both are kept
  have kept {before after : CallStack}
      (move : Moves environment before after)
      (holds :
        (∃ count, Leads (Moves environment) count start before) ∧
          before.active.IsUnaborted snapshot) :
      (∃ count, Leads (Moves environment) count start after) ∧
        after.active.IsUnaborted snapshot := by
    obtain ⟨active, waiting⟩ := before
    obtain ⟨⟨count, reached⟩, unaborted⟩ := holds
    refine ⟨⟨_, reached.trans (.one move)⟩, ?_⟩
    refine isUnaborted_moves move (contexts reached) (fun machine running runs => ?_) unaborted
    cases running
    exact letsStep reached runs
  exact (leads.keeps kept ⟨⟨0, .stay start⟩, begins⟩).2

end CallStack

end Unaborted

end LedgerEvm
