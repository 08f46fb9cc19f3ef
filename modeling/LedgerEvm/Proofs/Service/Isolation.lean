import LedgerEvm.Proofs.Actions
import LedgerEvm.Proofs.Ledger.Inquiries
import LedgerEvm.Service

/-!
# Requests to one service

A service answers one request after the other.  Between them it keeps its statistics and the
caches in front of its snapshot, and time passes.  None of this reaches an answer: each request
is answered as by a service that was just built for it alone.
-/

namespace LedgerEvm

/-! ## Answers without what is kept -/

section

variable {ε σ α β : Type}

/-- Whether the answer of an action is the same from every state. -/
def IsOblivious (action : EStateM ε σ α) : Prop :=
  ∀ state state', answerOf (action state) = answerOf (action state')

theorem IsOblivious.pure
    (answer : α) :
    IsOblivious (Pure.pure answer : EStateM ε σ α) :=
  fun _ _ => rfl

theorem IsOblivious.throw
    (error : ε) :
    IsOblivious (throwThe ε error : EStateM ε σ α) :=
  fun _ _ => rfl

/-- What goes on from the same answer, from whatever state, answers the same. -/
theorem IsOblivious.bind
    {first : EStateM ε σ β}
    {next : β → EStateM ε σ α}
    (begins : IsOblivious first)
    (goesOn : ∀ answer, IsOblivious (next answer)) :
    IsOblivious (first >>= next) := by
  intro state state'
  have same := begins state state'
  cases result : first state with
  | ok answer middle =>
      cases result' : first state' with
      | ok answer' middle' =>
          rw [result, result'] at same
          cases same
          rw [bind_eq_of_ok result, bind_eq_of_ok result']
          exact goesOn answer middle middle'
      | error error' middle' =>
          rw [result, result'] at same
          cases same
  | error error middle =>
      cases result' : first state' with
      | ok answer' middle' =>
          rw [result, result'] at same
          cases same
      | error error' middle' =>
          rw [result, result'] at same
          cases same
          rw [bind_eq_of_error result, bind_eq_of_error result']
          rfl

end

/-! ## Requests -/

/-- What a service can be asked for. -/
inductive ServiceRequest where
  | call (request : CallRequest)
  | trace (request : CallRequest) (options : TraceOptions)
  | estimate (request : CallRequest)
  deriving DecidableEq

/-- What a service answers: the result of a call, or a gas limit. -/
inductive ServiceAnswer where
  | result (result : CallResult)
  | gasLimit (gasLimit : Nat)

namespace Service

variable {service : Service}

/-- Answer a request. -/
def respond (service : Service) : ServiceRequest → Action ServiceAnswer
  | .call request => return .result (← service.call request)
  | .trace request options => return .result (← service.trace request options)
  | .estimate request => return .gasLimit (← service.estimate request)

/-- Neither whether a request is rejected nor its simulation depends on the statistics. -/
theorem isOblivious_execute
    (request : CallRequest)
    (trace : Trace) :
    IsOblivious (service.execute request trace) := by
  intro stats stats'
  unfold execute
  dsimp only
  split
  · rfl
  · cases service.simulate request trace <;> rfl

theorem isOblivious_succeedsWith
    (request : CallRequest)
    (gasLimit : Nat) :
    IsOblivious (service.succeedsWith request gasLimit) :=
  (isOblivious_execute _ _).bind fun _ => .pure _

/-- Every halving asks the same question again. -/
theorem isOblivious_narrow
    (request : CallRequest)
    (halvings low high : Nat) :
    IsOblivious (service.narrow request halvings low high) := by
  induction halvings generalizing low high with
  | zero => exact .pure _
  | succ halvings inductionHypothesis =>
      unfold narrow
      split
      · refine (isOblivious_succeedsWith request _).bind fun succeeds => ?_
        split
        · exact inductionHypothesis _ _
        · exact inductionHypothesis _ _
      · exact .pure _

theorem isOblivious_estimate
    (request : CallRequest) :
    IsOblivious (service.estimate request) := by
  refine (isOblivious_execute request Trace.off).bind fun first => ?_
  split
  · exact (IsOblivious.throw _).bind fun _ => isOblivious_narrow request 64 _ _
  · exact isOblivious_narrow request 64 _ _

/-- No answer depends on the statistics. -/
theorem isOblivious_respond
    (request : ServiceRequest) :
    IsOblivious (service.respond request) := by
  cases request with
  | call request => exact (isOblivious_execute request _).bind fun _ => .pure _
  | trace request options => exact (isOblivious_execute request _).bind fun _ => .pure _
  | estimate request => exact (isOblivious_estimate request).bind fun _ => .pure _

/-! ## Sessions -/

/--
A way in which a service answers requests by lookups.  Each of its inquiries ends, over whatever
snapshot, as the service over that snapshot answers.
-/
structure Inquirer (service : Service) where
  inquire :
    ServiceRequest → ServiceStats →
      Inquiry (EStateM.Result VmError ServiceStats ServiceAnswer)
  run_inquire :
    ∀ request stats snapshot,
      (inquire request stats).run snapshot = { service with snapshot }.respond request stats

/-- A service has a way of answering by lookups. -/
theorem Inquirer.nonempty
    (service : Service) :
    Nonempty service.Inquirer := by
  have each (request : ServiceRequest) (stats : ServiceStats) :=
    Inquiry.exists_run fun snapshot => { service with snapshot }.respond request stats
  choose inquire run_inquire using each
  exact ⟨⟨inquire, run_inquire⟩⟩

/-- What a service keeps between requests. -/
structure Session where
  stats : ServiceStats
  cached : CachedSnapshot
  lookups : Nat

/-- What a service that was just built keeps: nothing, behind caches of its configuration. -/
def newSession (service : Service) : Session where
  stats := { }
  cached :=
    .ofSnapshot service.snapshot service.configuration.caches.entity
      service.configuration.caches.token
  lookups := 0

namespace Inquirer

variable (inquirer : service.Inquirer) (clock : Nat → Nat)

/-- Answer a request in a session: its lookups go through the caches, at the times of the clock. -/
def answer
    (session : Session)
    (request : ServiceRequest) :
    Except VmError ServiceAnswer × Session :=
  let (result, cached, lookups) :=
    (inquirer.inquire request session.stats).through clock session.cached session.lookups
  (answerOf result, ⟨stateOf result, cached, lookups⟩)

/-- Answer requests one after the other, each in the session that the one before it left. -/
def answers : Session → List ServiceRequest → List (Except VmError ServiceAnswer)
  | _, [] => []
  | session, request :: requests =>
      let (answer, after) := inquirer.answer clock session request
      answer :: answers after requests

variable {inquirer clock}

/-- Through faithful caches, whatever the statistics, the answer is that of the snapshot. -/
theorem answer_of_isFaithful
    {session : Session}
    (faithful : session.cached.IsFaithful service.snapshot)
    (request : ServiceRequest) :
    (inquirer.answer clock session request).1 = answerOf (service.respond request { }) ∧
      (inquirer.answer clock session request).2.cached.IsFaithful service.snapshot := by
  obtain ⟨outcome, kept⟩ :=
    (inquirer.inquire request session.stats).through_eq_run clock faithful session.lookups
  refine ⟨?_, kept⟩
  rw [inquirer.run_inquire] at outcome
  exact (congrArg answerOf outcome).trans (isOblivious_respond request _ _)

theorem answers_of_isFaithful
    {session : Session}
    (faithful : session.cached.IsFaithful service.snapshot)
    (requests : List ServiceRequest) :
    inquirer.answers clock session requests =
      requests.map fun request => answerOf (service.respond request { }) := by
  induction requests generalizing session with
  | nil => rfl
  | cons request requests inductionHypothesis =>
      have answered :
          (inquirer.answer clock session request).1 = answerOf (service.respond request { }) ∧
            (inquirer.answer clock session request).2.cached.IsFaithful service.snapshot :=
        answer_of_isFaithful faithful request
      exact congrArg₂ List.cons answered.1 (inductionHypothesis answered.2)

end Inquirer

theorem isFaithful_newSession
    (service : Service) :
    service.newSession.cached.IsFaithful service.snapshot :=
  CachedSnapshot.isFaithful_ofSnapshot _ _ _

/--
Each of the requests to a service gets the answer that a service that was just built gives it as
its only request, in whatever order and at whatever times the two make their lookups.
-/
theorem answers_are_isolated
    (service : Service) :
    Nonempty service.Inquirer ∧
      ∀ (inquirer alone : service.Inquirer) (clock clockAlone : Nat → Nat)
        (requests : List ServiceRequest),
        inquirer.answers clock service.newSession requests =
          requests.map fun request => (alone.answer clockAlone service.newSession request).1 := by
  refine ⟨Inquirer.nonempty service, fun inquirer alone clock clockAlone requests => ?_⟩
  rw [Inquirer.answers_of_isFaithful service.isFaithful_newSession]
  refine List.map_congr_left fun request _ => ?_
  exact (Inquirer.answer_of_isFaithful service.isFaithful_newSession request).1.symm

end Service

end LedgerEvm
