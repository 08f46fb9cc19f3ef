import LedgerEvm.Proofs.Machine.BlindCode
import LedgerEvm.Proofs.Machine.GasSoundness
import LedgerEvm.Proofs.Service.Isolation

namespace LedgerEvm

namespace Service

/-!
# Gas estimates

An estimate is searched for between what the first try used and what the request allows.
Success need not grow with the gas limit, since code can look at its gas, so the search knows of
no limit but the ones it tried.  What it keeps is that the upper of its two limits suffices, and
that the lower one is where it began or has failed.
-/

variable
  {service : Service}
  {request : CallRequest}

/-! ## Limits that suffice -/

/-- Whether a request succeeds with a gas limit, whatever the statistics. -/
def Suffices (service : Service) (request : CallRequest) (gasLimit : UInt64) : Prop :=
  ∀ stats, ∃ result after,
    service.call { request with gasLimit } stats = .ok result after ∧ result.success = true

/-- A limit suffices if it does once. -/
theorem suffices_of_call
    {gasLimit : UInt64}
    {stats after : ServiceStats}
    {result : CallResult}
    (called : service.call { request with gasLimit } stats = .ok result after)
    (succeeded : result.success = true) :
    service.Suffices request gasLimit := by
  intro stats'
  have same := @isOblivious_execute service { request with gasLimit } Trace.off stats' stats
  unfold call at called ⊢
  rw [called] at same
  obtain ⟨after', answered⟩ := exists_of_answerOf_eq_ok same
  exact ⟨result, after', answered, succeeded⟩

/-- A limit with which a request once came to no success does not suffice. -/
theorem not_suffices_of_call
    {gasLimit : UInt64}
    {stats after : ServiceStats}
    {result : CallResult}
    (called : service.call { request with gasLimit } stats = .ok result after)
    (failed : result.success = false) :
    ¬ service.Suffices request gasLimit := by
  intro enough
  obtain ⟨result', after', called', succeeded⟩ := enough stats
  rw [called] at called'
  cases called'
  rw [failed] at succeeded
  cases succeeded

/-- A try tells whether its limit suffices. -/
theorem suffices_iff_of_succeedsWith
    {gasLimit : Nat}
    {stats after : ServiceStats}
    {succeeds : Bool}
    (tried : service.succeedsWith request gasLimit stats = .ok succeeds after) :
    service.Suffices request (UInt64.ofNat gasLimit) ↔ succeeds = true := by
  obtain ⟨result, middle, called, read⟩ := exists_of_run_eq_ok tried
  cases read
  constructor
  · intro enough
    by_contra failed
    exact not_suffices_of_call called (Bool.eq_false_iff.mpr failed) enough
  · exact suffices_of_call called

/-! ## The search -/

/--
The search between two limits as it is meant, with no bound on its rounds: as long as they are
no neighbours the limit in the middle is tried, and takes the place of the upper one if it
suffices and of the lower one if not.  A try that fails by an error ends the search.
-/
inductive Search (service : Service) (request : CallRequest) :
    Nat → Nat → Nat → ServiceStats → EStateM.Result VmError ServiceStats Nat → Prop where
  | closed {low high : Nat} {stats : ServiceStats}
      (neighbours : high ≤ low + 1) :
      Search service request 0 low high stats (.ok high stats)
  | failed {low high : Nat} {stats after : ServiceStats} {error : VmError}
      (apart : low + 1 < high)
      (tried :
        service.succeedsWith request (low + (high - low) / 2) stats = .error error after) :
      Search service request 1 low high stats (.error error after)
  | lowered {rounds low high : Nat} {stats after : ServiceStats}
      {result : EStateM.Result VmError ServiceStats Nat}
      (apart : low + 1 < high)
      (tried : service.succeedsWith request (low + (high - low) / 2) stats = .ok true after)
      (rest : Search service request rounds low (low + (high - low) / 2) after result) :
      Search service request (rounds + 1) low high stats result
  | raised {rounds low high : Nat} {stats after : ServiceStats}
      {result : EStateM.Result VmError ServiceStats Nat}
      (apart : low + 1 < high)
      (tried : service.succeedsWith request (low + (high - low) / 2) stats = .ok false after)
      (rest : Search service request rounds (low + (high - low) / 2) high after result) :
      Search service request (rounds + 1) low high stats result

/--
With enough halvings for the gap the search that is run is the search that is meant: each round
halves the gap, so the bound is never what ends it.
-/
theorem exists_search_narrow
    {halvings low high : Nat}
    (enough : high - low ≤ 2 ^ halvings)
    (stats : ServiceStats) :
    ∃ rounds ≤ halvings,
      Search service request rounds low high stats
        (service.narrow request halvings low high stats) := by
  induction halvings generalizing low high stats with
  | zero =>
      have neighbours : high ≤ low + 1 := by
        rw [Nat.pow_zero] at enough
        omega
      exact ⟨0, Nat.le_refl _, .closed neighbours⟩
  | succ halvings inductionHypothesis =>
      rw [Nat.pow_succ] at enough
      by_cases apart : low + 1 < high
      · rw [narrow, if_pos apart]
        cases tried : service.succeedsWith request (low + (high - low) / 2) stats with
        | error error after =>
            rw [bind_eq_of_error tried]
            exact ⟨1, Nat.le_add_left _ _, .failed apart tried⟩
        | ok succeeds after =>
            rw [bind_eq_of_ok tried]
            cases succeeds with
            | true =>
                have lower : low + (high - low) / 2 - low ≤ 2 ^ halvings := by omega
                obtain ⟨rounds, bounded, rest⟩ := inductionHypothesis lower after
                exact ⟨rounds + 1, Nat.succ_le_succ bounded, .lowered apart tried rest⟩
            | false =>
                have upper : high - (low + (high - low) / 2) ≤ 2 ^ halvings := by omega
                obtain ⟨rounds, bounded, rest⟩ := inductionHypothesis upper after
                exact ⟨rounds + 1, Nat.succ_le_succ bounded, .raised apart tried rest⟩
      · rw [narrow, if_neg apart]
        exact ⟨0, Nat.zero_le _, .closed (Nat.not_lt.mp apart)⟩

namespace Search

variable
  {rounds low high limit : Nat}
  {stats after : ServiceStats}
  {result : EStateM.Result VmError ServiceStats Nat}

/-- A search takes one course only. -/
theorem unique
    {rounds' : Nat}
    {result' : EStateM.Result VmError ServiceStats Nat}
    (search : Search service request rounds low high stats result)
    (search' : Search service request rounds' low high stats result') :
    rounds = rounds' ∧ result = result' := by
  induction search generalizing rounds' result' with
  | closed neighbours =>
      cases search' with
      | closed => exact ⟨rfl, rfl⟩
      | failed apart | lowered apart | raised apart => omega
  | failed apart tried =>
      cases search' with
      | closed neighbours => omega
      | failed _ tried' =>
          rw [tried] at tried'
          cases tried'
          exact ⟨rfl, rfl⟩
      | lowered _ tried' | raised _ tried' =>
          rw [tried] at tried'
          cases tried'
  | lowered apart tried _ inductionHypothesis =>
      cases search' with
      | closed neighbours => omega
      | failed _ tried' | raised _ tried' =>
          rw [tried] at tried'
          cases tried'
      | lowered _ tried' rest' =>
          rw [tried] at tried'
          cases tried'
          obtain ⟨sameRounds, sameResult⟩ := inductionHypothesis rest'
          exact ⟨congrArg (· + 1) sameRounds, sameResult⟩
  | raised apart tried _ inductionHypothesis =>
      cases search' with
      | closed neighbours => omega
      | failed _ tried' | lowered _ tried' =>
          rw [tried] at tried'
          cases tried'
      | raised _ tried' rest' =>
          rw [tried] at tried'
          cases tried'
          obtain ⟨sameRounds, sameResult⟩ := inductionHypothesis rest'
          exact ⟨congrArg (· + 1) sameRounds, sameResult⟩

/-- The upper limit only comes down, and suffices all along if it does at first. -/
theorem limit_suffices
    (search : Search service request rounds low high stats (.ok limit after))
    (begins : service.Suffices request (UInt64.ofNat high)) :
    limit ≤ high ∧ service.Suffices request (UInt64.ofNat limit) := by
  generalize outcome : EStateM.Result.ok limit after = result at search
  induction search with
  | closed =>
      cases outcome
      exact ⟨Nat.le_refl _, begins⟩
  | failed => cases outcome
  | lowered apart tried _ inductionHypothesis =>
      obtain ⟨below, holds⟩ :=
        inductionHypothesis ((suffices_iff_of_succeedsWith tried).mpr rfl) outcome
      exact ⟨by omega, holds⟩
  | raised _ _ _ inductionHypothesis =>
      exact inductionHypothesis begins outcome

/-- What is found lies above where the search began. -/
theorem lt_limit
    (search : Search service request rounds low high stats (.ok limit after))
    (begins : low < high) :
    low < limit := by
  generalize outcome : EStateM.Result.ok limit after = result at search
  induction search with
  | closed =>
      cases outcome
      exact begins
  | failed => cases outcome
  | lowered _ _ _ inductionHypothesis =>
      exact inductionHypothesis (by omega) outcome
  | raised _ _ _ inductionHypothesis =>
      have above := inductionHypothesis (by omega) outcome
      omega

/-- The limit below the one that is found has failed, unless the search began there. -/
theorem not_suffices_below
    (search : Search service request rounds low high stats (.ok limit after)) :
    limit ≤ low + 1 ∨ ¬ service.Suffices request (UInt64.ofNat (limit - 1)) := by
  generalize outcome : EStateM.Result.ok limit after = result at search
  induction search with
  | closed neighbours =>
      cases outcome
      exact .inl neighbours
  | failed => cases outcome
  | lowered _ _ _ inductionHypothesis =>
      exact inductionHypothesis outcome
  | raised apart tried rest inductionHypothesis =>
      rcases inductionHypothesis outcome with beside | fails
      · -- What is found beside the limit that was just tried has a failed one below it.
        subst outcome
        have above := rest.lt_limit (by omega)
        rw [Nat.le_antisymm beside above, Nat.add_sub_cancel]
        refine .inr fun enough => ?_
        cases (suffices_iff_of_succeedsWith tried).mp enough
      · exact .inr fails

end Search

/-! ## Estimates -/

section

variable
  {stats after : ServiceStats}
  {first : CallResult}

/-- A result that is answered is what the simulation came to, of a request that is allowed. -/
theorem of_execute_eq_ok
    {trace : Trace}
    (executed : service.execute request trace stats = .ok first after) :
    request.gasLimit ≤ service.configuration.maxGasLimit ∧
      service.simulate request trace = .ok first ∧ after = stats.countResult first := by
  unfold execute at executed
  dsimp only at executed
  split at executed
  · cases executed
  · rename_i allowed
    split at executed
    · rename_i simulated
      cases executed
      exact ⟨UInt64.not_lt.mp allowed, simulated, rfl⟩
    · cases executed

/-- The gross usage of a call lies within its limit, so it is told exactly. -/
theorem grossUsage_of_call
    (called : service.call request stats = .ok first after) :
    (first.gasUsed.addClamp first.gasRefund).toNat =
        first.gasUsed.toNat + first.gasRefund.toNat ∧
      first.gasUsed.toNat + first.gasRefund.toNat ≤ request.gasLimit.toNat := by
  have within :
      first.gasUsed.toNat + first.gasRefund.toNat ≤ request.gasLimit.toNat :=
    (Environment.transact_bounds (of_execute_eq_ok called).2.1).1
  have inRange := request.gasLimit.toNat_lt_size
  refine ⟨?_, within⟩
  rw [UInt64.toNat_addClamp]
  omega

theorem estimate_of_error
    {error : VmError}
    (called : service.call request stats = .error error after) :
    service.estimate request stats = .error error after :=
  bind_eq_of_error called

/-- A request that comes to no success is not estimated; the error says why it failed. -/
theorem estimate_of_failure
    (called : service.call request stats = .ok first after)
    (failed : first.success = false) :
    service.estimate request stats = .error (.revert (failureText first)) after := by
  unfold estimate
  rw [bind_eq_of_ok called]
  simp only [failed]
  rfl

theorem estimate_of_success
    (called : service.call request stats = .ok first after)
    (succeeded : first.success = true) :
    service.estimate request stats =
      service.narrow request 64 ((first.gasUsed.addClamp first.gasRefund).toNat - 1)
        request.gasLimit.toNat after := by
  unfold estimate
  rw [bind_eq_of_ok called]
  simp only [succeeded]
  rfl

/-- Below any limit the gap is one that 64 halvings close. -/
theorem sub_le_of_uint64
    (high : UInt64)
    (low : Nat) :
    high.toNat - low ≤ 2 ^ 64 := by
  have inRange := high.toNat_lt
  omega

/-- After a first try that succeeds the estimate is what the search comes to. -/
theorem exists_search_estimate
    (called : service.call request stats = .ok first after)
    (succeeded : first.success = true) :
    ∃ rounds ≤ 64,
      Search service request rounds (first.gasUsed.toNat + first.gasRefund.toNat - 1)
        request.gasLimit.toNat after (service.estimate request stats) := by
  rw [estimate_of_success called succeeded, (grossUsage_of_call called).1]
  exact exists_search_narrow (sub_le_of_uint64 _ _) after

/-- An estimate is found by a search that a first try with success has begun. -/
theorem exists_search_of_estimate
    {limit : Nat}
    (estimated : service.estimate request stats = .ok limit after) :
    ∃ first begun rounds,
      service.call request stats = .ok first begun ∧ first.success = true ∧
        Search service request rounds (first.gasUsed.toNat + first.gasRefund.toNat - 1)
          request.gasLimit.toNat begun (.ok limit after) := by
  cases called : service.call request stats with
  | error error begun =>
      rw [estimate_of_error called] at estimated
      cases estimated
  | ok first begun =>
      cases succeeded : first.success with
      | false =>
          rw [estimate_of_failure called succeeded] at estimated
          cases estimated
      | true =>
          obtain ⟨rounds, _, search⟩ := exists_search_estimate called succeeded
          rw [estimated] at search
          exact ⟨first, begun, rounds, rfl, succeeded, search⟩

end

/--
An estimate can be used: it is no more than the request allows, and the request succeeds with it.
A request that does not succeed itself is answered by an error.  The search has an end from
wherever it begins and whatever the request allows, and within the halvings that it is given.
-/
theorem estimates_are_usable
    (service : Service)
    (request : CallRequest) :
    (∀ stats limit after,
      service.estimate request stats = .ok limit after →
        limit ≤ request.gasLimit.toNat ∧ service.Suffices request (UInt64.ofNat limit)) ∧
      (∀ stats,
        ¬ service.Suffices request request.gasLimit →
          ∃ error after, service.estimate request stats = .error error after) ∧
      (∀ stats first after,
        service.call request stats = .ok first after → first.success = true →
          ∃ rounds ≤ 64,
            Search service request rounds (first.gasUsed.toNat + first.gasRefund.toNat - 1)
              request.gasLimit.toNat after (service.estimate request stats)) ∧
      ∀ (low ceiling : UInt64) stats, ∃ rounds ≤ 64, ∃ result,
        Search service request rounds low.toNat ceiling.toNat stats result := by
  refine ⟨fun stats limit after estimated => ?_, fun stats lacking => ?_, ?_, ?_⟩
  · obtain ⟨first, begun, rounds, called, succeeded, search⟩ :=
      exists_search_of_estimate estimated
    have begins : service.Suffices request request.gasLimit :=
      @suffices_of_call service request _ _ _ _ called succeeded
    apply search.limit_suffices
    rwa [UInt64.ofNat_toNat]
  · cases called : service.call request stats with
    | error error after => exact ⟨error, after, estimate_of_error called⟩
    | ok first after =>
        cases succeeded : first.success with
        | false => exact ⟨_, after, estimate_of_failure called succeeded⟩
        | true => exact absurd (@suffices_of_call service request _ _ _ _ called succeeded) lacking
  · exact fun _ _ _ => exists_search_estimate
  · intro low ceiling stats
    obtain ⟨rounds, bounded, search⟩ :=
      @exists_search_narrow service request _ _ _ (sub_le_of_uint64 ceiling low.toNat) stats
    exact ⟨rounds, bounded, _, search⟩

/-- A contract that succeeds with an odd amount of gas only is estimated with a limit that does. -/
theorem reader_of_gas_is_estimated :
    let rules : Ruleset := ⟨⟨0, 50, 0⟩, .cancun, ⟨true, true⟩, ⟨true, true⟩⟩
    -- jump to the end if what is left is odd, and into nothing if not
    let contract :=
      Account.newContract (Address.ofNum 1001)
        [0x5a, 0x60, 0x01, 0x16, 0x60, 0x08, 0x57, 0xfe, 0x5b, 0x00]
    let contents : Snapshot.Contents :=
      { accounts := Table.ofList [(contract.address, contract)] }
    let service : Service :=
      { configuration := { }
        timeline := ⟨(⟨0⟩, rules), []⟩
        snapshot := .ofContents contents
        prices := ⟨.empty, .empty, fun _ _ => 1⟩
        blockHashes := ⟨[]⟩ }
    let request : CallRequest :=
      { sender := Address.ofNum 1003, target := contract.address, gasLimit := 101, data := [],
        block := { } }
    answerOf (service.estimate request { }) = .ok 29 ∧
      29 ≤ request.gasLimit.toNat ∧ service.Suffices request 29 := by
  intro rules contract contents service request
  have estimated : answerOf (service.estimate request { }) = .ok 29 := by decide +kernel
  obtain ⟨after, answered⟩ := exists_of_answerOf_eq_ok estimated
  exact ⟨estimated, (estimates_are_usable service request).1 _ _ _ answered⟩

/-! ## Limits below an estimate -/

/-- The code that a request begins with does not see its gas. -/
def BeginsBlind (service : Service) (request : CallRequest) : Prop :=
  Environment.BeginsBlind (context request) request.target.isNone (service.world request)

/-- With any greater limit that is allowed, a call of blind code that succeeds is the same call. -/
theorem call_of_more
    {stats after : ServiceStats}
    {result : CallResult}
    {limit : UInt64}
    (blind : service.BeginsBlind request)
    (called : service.call request stats = .ok result after)
    (succeeded : result.success = true)
    (more : request.gasLimit ≤ limit)
    (allowed : limit ≤ service.configuration.maxGasLimit) :
    service.call { request with gasLimit := limit } stats = .ok result after := by
  obtain ⟨-, simulated, rfl⟩ := of_execute_eq_ok called
  have simulated' : service.simulate { request with gasLimit := limit } Trace.off = .ok result :=
    @Environment.transact_of_more (service.environment request) (context request)
      request.target.isNone (service.world request) result limit blind simulated succeeded more
  unfold call execute
  dsimp only
  rw [if_neg (UInt64.not_lt.mpr allowed), simulated']

/-- Limits that suffice for blind code reach up to the greatest that is allowed. -/
theorem suffices_of_more
    {fewer limit : UInt64}
    (blind : service.BeginsBlind request)
    (enough : service.Suffices request fewer)
    (more : fewer ≤ limit)
    (allowed : limit ≤ service.configuration.maxGasLimit) :
    service.Suffices request limit := by
  intro stats
  obtain ⟨result, after, called, succeeded⟩ := enough stats
  exact ⟨result, after,
    @call_of_more service { request with gasLimit := fewer } _ _ _ _ blind called succeeded more
      allowed, succeeded⟩

/-- A limit below the one that is found suffices only if the search does not look at it. -/
theorem Search.unseen_below
    {rounds gross high limit : Nat}
    {stats after : ServiceStats}
    (search : Search service request rounds (gross - 1) high stats (.ok limit after))
    {smaller : UInt64}
    (below : smaller.toNat < limit)
    (enough : service.Suffices request smaller) :
    smaller.toNat < gross ∨ (gross = 0 ∧ smaller = 0) ∨
      (smaller.toNat < limit - 1 ∧ ¬ service.Suffices request (UInt64.ofNat (limit - 1))) := by
  rcases search.not_suffices_below with beside | fails
  · by_cases used : gross = 0
    · refine .inr (.inl ⟨used, ?_⟩)
      rw [← UInt64.toNat_inj]
      change smaller.toNat = 0
      omega
    · exact .inl (by omega)
  · refine .inr (.inr ⟨Nat.lt_of_le_of_ne (by omega) ?_, fails⟩)
    intro same
    rw [← same, UInt64.ofNat_toNat] at fails
    exact fails enough

/-- Blind code uses the same with every limit that suffices, so no limit is below that. -/
theorem grossUsage_le_of_suffices
    {stats after : ServiceStats}
    {first : CallResult}
    {smaller : UInt64}
    (blind : service.BeginsBlind request)
    (called : service.call request stats = .ok first after)
    (enough : service.Suffices request smaller)
    (below : smaller ≤ request.gasLimit) :
    first.gasUsed.toNat + first.gasRefund.toNat ≤ smaller.toNat := by
  obtain ⟨result, after', calledSmaller, succeeded⟩ := enough stats
  have same : service.call request stats = .ok result after' :=
    @call_of_more service { request with gasLimit := smaller } _ _ _ request.gasLimit blind
      calledSmaller succeeded below (of_execute_eq_ok called).1
  rw [called] at same
  cases same
  exact (grossUsage_of_call calledSmaller).2

/--
A limit below an estimate that suffices is one that the search does not look at: it lies below
what the first try used, or is no gas at all when the first try used none, or lies below a limit
that has failed.  If the request begins with blind code, it is no gas at all.
-/
theorem smaller_limits_of_estimate
    {stats after : ServiceStats}
    {limit : Nat}
    (estimated : service.estimate request stats = .ok limit after) :
    ∃ first begun,
      service.call request stats = .ok first begun ∧ first.success = true ∧
        ∀ smaller : UInt64, smaller.toNat < limit → service.Suffices request smaller →
          (smaller.toNat < first.gasUsed.toNat + first.gasRefund.toNat ∨
            (first.gasUsed.toNat + first.gasRefund.toNat = 0 ∧ smaller = 0) ∨
            (smaller.toNat < limit - 1 ∧
              ¬ service.Suffices request (UInt64.ofNat (limit - 1)))) ∧
          (service.BeginsBlind request →
            first.gasUsed.toNat + first.gasRefund.toNat = 0 ∧ smaller = 0) := by
  obtain ⟨first, begun, rounds, called, succeeded, search⟩ := exists_search_of_estimate estimated
  refine ⟨first, begun, called, succeeded, fun smaller below enough => ?_⟩
  have unseen := search.unseen_below below enough
  refine ⟨unseen, fun blind => ?_⟩
  have begins : service.Suffices request request.gasLimit :=
    @suffices_of_call service request _ _ _ _ called succeeded
  have reached : limit ≤ request.gasLimit.toNat :=
    (search.limit_suffices (by rwa [UInt64.ofNat_toNat])).1
  have allowed := (of_execute_eq_ok called).1
  rw [UInt64.le_iff_toNat_le] at allowed
  rcases unseen with less | nothing | ⟨less, fails⟩
  · have used :=
      grossUsage_le_of_suffices blind called enough (UInt64.le_iff_toNat_le.mpr (by omega))
    omega
  · exact nothing
  · have inRange := request.gasLimit.toNat_lt_size
    have told : (UInt64.ofNat (limit - 1)).toNat = limit - 1 :=
      UInt64.toNat_ofNat_of_lt' (by omega)
    refine absurd (suffices_of_more blind enough ?_ ?_) fails
    · rw [UInt64.le_iff_toNat_le]
      omega
    · rw [UInt64.le_iff_toNat_le]
      omega

/-- A contract that clears a slot is estimated with what it uses before its refund, exactly. -/
theorem clearing_of_slot_is_estimated :
    let rules : Ruleset := ⟨⟨0, 50, 0⟩, .cancun, ⟨true, true⟩, ⟨true, true⟩⟩
    let contract := Account.newContract (Address.ofNum 1001) [0x5f, 0x5f, 0x55, 0x00]
    let contents : Snapshot.Contents :=
      { accounts := Table.ofList [(contract.address, contract)]
        storage := Table.ofList [(⟨contract.address, 0⟩, 1)] }
    let service : Service :=
      { configuration := { }
        timeline := ⟨(⟨0⟩, rules), []⟩
        snapshot := .ofContents contents
        prices := ⟨.empty, .empty, fun _ _ => 1⟩
        blockHashes := ⟨[]⟩ }
    let request : CallRequest :=
      { sender := Address.ofNum 1003, target := contract.address, gasLimit := 9000, data := [],
        block := { } }
    answerOf (service.estimate request { }) = .ok 5004 ∧
      service.BeginsBlind request ∧
      ∀ smaller : UInt64, smaller.toNat < 5004 → ¬ service.Suffices request smaller := by
  intro rules contract contents service request
  have estimated : answerOf (service.estimate request { }) = .ok 5004 := by decide +kernel
  have blind : service.BeginsBlind request := by
    intro code found
    have same : Except.ok code = Except.ok contract.code := found.symm
    cases same
    decide
  obtain ⟨after, answered⟩ := exists_of_answerOf_eq_ok estimated
  obtain ⟨first, begun, called, _, unseen⟩ := smaller_limits_of_estimate answered
  refine ⟨estimated, blind, fun smaller below enough => ?_⟩
  have used :
      (answerOf (service.call request { })).map
          (fun result => result.gasUsed.toNat + result.gasRefund.toNat) = .ok 5004 := by
    decide +kernel
  rw [called] at used
  have nothing := ((unseen smaller below enough).2 blind).1
  cases nothing.symm.trans (Except.ok.inj used)

/--
A contract that ignores the failure of its callee, which takes all the gas that it is given,
uses nearly everything on the first try, whatever is allowed; much less suffices.
-/
theorem ignored_failure_is_overestimated :
    let rules : Ruleset := ⟨⟨0, 50, 0⟩, .cancun, ⟨true, true⟩, ⟨true, true⟩⟩
    -- call the callee with all the gas, and stop whatever it answers
    let contract :=
      Account.newContract (Address.ofNum 1001)
        [0x60, 0x00, 0x60, 0x00, 0x60, 0x00, 0x60, 0x00, 0x60, 0x00, 0x61, 0x03, 0xea, 0x5a,
          0xf1, 0x00]
    let callee := Account.newContract (Address.ofNum 1002) [0xfe]
    let contents : Snapshot.Contents :=
      { accounts := Table.ofList [(contract.address, contract), (callee.address, callee)] }
    let service : Service :=
      { configuration := { }
        timeline := ⟨(⟨0⟩, rules), []⟩
        snapshot := .ofContents contents
        prices := ⟨.empty, .empty, fun _ _ => 1⟩
        blockHashes := ⟨[]⟩ }
    let request : CallRequest :=
      { sender := Address.ofNum 1003, target := contract.address, gasLimit := 2700, data := [],
        block := { } }
    answerOf (service.estimate request { }) = .ok 2699 ∧ service.Suffices request 2620 := by
  intro rules contract callee contents service request
  refine ⟨by decide +kernel, ?_⟩
  have called :
      (answerOf (service.call { request with gasLimit := 2620 } { })).map CallResult.success =
        .ok true := by
    decide +kernel
  cases answered : service.call { request with gasLimit := 2620 } { } with
  | error error after =>
      rw [answered] at called
      cases called
  | ok result after =>
      rw [answered] at called
      exact suffices_of_call answered (Except.ok.inj called)

end Service

end LedgerEvm
