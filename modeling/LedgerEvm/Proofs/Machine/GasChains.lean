import Mathlib.Data.List.Chain
import LedgerEvm.Proofs.Machine.TraceViews
import LedgerEvm.Proofs.Machine.StartedFrames

namespace LedgerEvm

/-!
# Chains of gas

Among the steps of one frame, each shows the gas that the one before it has left.  What a step
that starts a frame costs is known only when that frame has ended, so until then the frame that
waits has a chain up to that step, and an entry that shows the gas before it.  The difference that
is put in then is never cut off: no frame gets back more than it has given away and paid.
-/

/-- The step has cost what it shows, and so much gas was left. -/
def TraceStep.Leaves (step : TraceStep) (gas : UInt64) : Prop :=
  step.gasCost ≤ step.gas ∧ gas = step.gas - step.gasCost

theorem TraceStep.leaves_of_add_eq
    {step : TraceStep}
    {gas : UInt64}
    (spent : gas.toNat + step.gasCost.toNat = step.gas.toNat) :
    step.Leaves gas := by
  have covered : step.gasCost ≤ step.gas := by
    rw [UInt64.le_iff_toNat_le]
    omega
  refine ⟨covered, UInt64.toNat_inj.mp ?_⟩
  rw [UInt64.toNat_sub_of_le _ _ covered]
  omega

/--
The first step shows what was given, each other one what the step before it has left, and the last
one leaves so much, where that is known; without a step all that was given is left.
-/
structure TraceStep.Chained
    (given : UInt64)
    (left : Option UInt64)
    (steps : List TraceStep) : Prop where
  first : ∀ step ∈ steps.head?, step.gas = given
  next : steps.IsChain fun step following => step.Leaves following.gas
  last : ∀ gas ∈ left, ∀ step ∈ steps.getLast?, step.Leaves gas
  unspent : ∀ gas ∈ left, steps = [] → gas = given

/-- A step that shows what was left before it goes on with the chain. -/
theorem TraceStep.Chained.concat
    {given : UInt64}
    {left : Option UInt64}
    {steps : List TraceStep}
    {step : TraceStep}
    (chained : Chained given (some step.gas) steps)
    (leaves : ∀ gas ∈ left, step.Leaves gas) :
    Chained given left (steps ++ [step]) where
  first := by
    cases steps with
    | nil =>
        rintro _ ⟨⟩
        exact chained.unspent _ rfl rfl
    | cons head rest => exact chained.first
  next := by
    refine List.isChain_append.mpr
      ⟨chained.next, .singleton _, fun step' among following found => ?_⟩
    cases found
    exact chained.last _ rfl step' among
  last gas known step' found := by
    rw [List.getLast?_concat] at found
    cases found
    exact leaves gas known
  unspent gas known none := (List.append_ne_nil_of_right_ne_nil _ (List.cons_ne_nil _ _) none).elim

/-- What a frame with this outcome has left, when it has completed or reverted. -/
def Outcome.left? (outcome : Outcome) : Option UInt64 :=
  match outcome.status with
  | .completed => some outcome.gas
  | .reverted => some outcome.gas
  | .halted _ => none

theorem Outcome.gas_of_left?
    {outcome : Outcome}
    {gas : UInt64}
    (left : gas ∈ outcome.left?) :
    outcome.gas = gas := by
  unfold left? at left
  split at left
  · exact Option.some.inj left
  · exact Option.some.inj left
  · cases left

/-- What the frame on top has left, unless it has failed. -/
def ActiveFrame.left? : ActiveFrame → Option UInt64
  | .running machine => some machine.frame.gas
  | .ended (.ok outcome _) => outcome.left?
  | .ended (.error _ _) => none

theorem ActiveFrame.left?_failWith
    (error : VmError)
    (gas : UInt64)
    (simulation : Simulation) :
    (ActiveFrame.ended (Frame.failWith error gas simulation)).left? = none := by
  unfold Frame.failWith
  split <;> rfl

namespace FrameRecord

/-- The steps of a frame among all that a trace shows. -/
def steps (record : FrameRecord) (all : List TraceStep) : List TraceStep :=
  record.places.filterMap fun place => all[place]?

/-- What the frame has left when it has completed or reverted. -/
def left? (record : FrameRecord) : Option UInt64 :=
  record.outcome.bind Outcome.left?

end FrameRecord

/--
The steps of a frame stand in the order they were made in; the first shows the gas that the frame
was given, each other one what the one before it has left, and the last one leaves what the frame
has left when it completes or reverts.
-/
structure FrameRecord.GasChains (all : List TraceStep) (record : FrameRecord) : Prop
    extends TraceStep.Chained record.context.gasLimit record.left? (record.steps all) where
  ascending : record.places.Pairwise (· < ·)

/-! ## Chains of charges -/

/--
From what was given, the charges in these places follow each other and leave so much; what is left
is not known when the last charge may still be amended.
-/
inductive Chains (charges : List (UInt64 × UInt64)) (given : UInt64) :
    List Nat → Option UInt64 → Prop where
  | begin : Chains charges given [] (some given)
  | spend
      {places : List Nat} {index : Nat} {gas cost left : UInt64}
      (earlier : Chains charges given places (some gas))
      (later : ∀ place ∈ places, place < index)
      (shown : charges[index]? = some (gas, cost))
      (spent : left.toNat + cost.toNat = gas.toNat) :
      Chains charges given (places ++ [index]) (some left)
  | act
      {places : List Nat} {index : Nat} {gas cost : UInt64}
      (earlier : Chains charges given places (some gas))
      (later : ∀ place ∈ places, place < index)
      (shown : charges[index]? = some (gas, cost)) :
      Chains charges given (places ++ [index]) none

namespace Chains

variable
  {charges charges' : List (UInt64 × UInt64)}
  {given : UInt64}
  {places : List Nat}
  {left : Option UInt64}

/-- A chain depends on the charges in its own places. -/
theorem congr
    (chains : Chains charges given places left)
    (same : ∀ place ∈ places, charges'[place]? = charges[place]?) :
    Chains charges' given places left := by
  induction chains with
  | begin => exact .begin
  | spend _ later shown spent inductionHypothesis =>
      have last := same _ (List.mem_append_right _ (List.mem_singleton_self _))
      have earlier :=
        inductionHypothesis fun place among => same place (List.mem_append_left _ among)
      exact .spend earlier later (last.trans shown) spent
  | act _ later shown inductionHypothesis =>
      have last := same _ (List.mem_append_right _ (List.mem_singleton_self _))
      have earlier :=
        inductionHypothesis fun place among => same place (List.mem_append_left _ among)
      exact .act earlier later (last.trans shown)

/-- The charges of a chain stand in their order. -/
theorem ascending
    (chains : Chains charges given places left) :
    places.Pairwise (· < ·) := by
  have appended
      {places : List Nat} {index : Nat}
      (ascends : places.Pairwise (· < ·))
      (later : ∀ place ∈ places, place < index) :
      (places ++ [index]).Pairwise (· < ·) := by
    refine List.pairwise_append.mpr ⟨ascends, List.pairwise_singleton _ _, ?_⟩
    rintro place among _ last
    cases List.mem_singleton.mp last
    exact later place among
  induction chains with
  | begin => exact .nil
  | spend _ later _ _ inductionHypothesis => exact appended inductionHypothesis later
  | act _ later _ inductionHypothesis => exact appended inductionHypothesis later

/-- A chain of charges is one of the steps that show them. -/
theorem chained
    {all : List TraceStep}
    (chains : Chains (all.map fun step => (step.gas, step.gasCost)) given places left) :
    TraceStep.Chained given left (places.filterMap fun place => all[place]?) := by
  have recorded
      {index : Nat} {gas cost : UInt64}
      (shown : (all.map fun step => (step.gas, step.gasCost))[index]? = some (gas, cost)) :
      ∃ step, all[index]? = some step ∧ step.gas = gas ∧ step.gasCost = cost := by
    rw [List.getElem?_map, Option.map_eq_some_iff] at shown
    obtain ⟨step, found, charged⟩ := shown
    cases charged
    exact ⟨step, found, rfl, rfl⟩
  induction chains with
  | begin => exact ⟨nofun, .nil, nofun, fun _ known _ => (Option.some.inj known).symm⟩
  | spend earlier later shown spent inductionHypothesis =>
      obtain ⟨step, found, rfl, rfl⟩ := recorded shown
      rw [List.filterMap_append, List.filterMap_cons_some found, List.filterMap_nil]
      refine inductionHypothesis.concat ?_
      rintro _ ⟨⟩
      exact step.leaves_of_add_eq spent
  | act earlier later shown inductionHypothesis =>
      obtain ⟨step, found, rfl, rfl⟩ := recorded shown
      rw [List.filterMap_append, List.filterMap_cons_some found, List.filterMap_nil]
      exact inductionHypothesis.concat nofun

end Chains

/-! ## Frames and their chains -/

/-- The steps of a frame chain, up to what it has left when it has completed or reverted. -/
def FrameRecord.Settled (charges : List (UInt64 × UInt64)) (record : FrameRecord) : Prop :=
  ∃ left,
    Chains charges record.context.gasLimit record.places left ∧
      ∀ gas ∈ record.left?, left = some gas

/-- The steps of the frame on top chain, up to what it has left unless it has failed. -/
def FrameRecord.Follows
    (charges : List (UInt64 × UInt64))
    (record : FrameRecord)
    (active : ActiveFrame) :
    Prop :=
  record.outcome = active.outcome? ∧
    ∃ left,
      Chains charges record.context.gasLimit record.places left ∧
        ∀ gas ∈ active.left?, left = some gas

/-- The steps of a frame that waits chain up to the one that has started another frame. -/
inductive FrameRecord.Awaits (charges : List (UInt64 × UInt64)) :
    WaitingFrame → FrameRecord → Prop where
  | intro
      {context : FrameContext} {places : List Nat} {waiting : WaitingFrame}
      {index : Nat} {cost : UInt64}
      (placed : waiting.place = some index)
      (earlier : Chains charges context.gasLimit places (some waiting.gasBefore))
      (later : ∀ place ∈ places, place < index)
      (shown : charges[index]? = some (waiting.gasBefore, cost)) :
      Awaits charges waiting { context, places := places ++ [index] }

namespace FrameRecord

variable
  {charges charges' : List (UInt64 × UInt64)}
  {record : FrameRecord}

theorem Settled.congr
    (settled : record.Settled charges)
    (same : ∀ place ∈ record.places, charges'[place]? = charges[place]?) :
    record.Settled charges' := by
  obtain ⟨left, chains, known⟩ := settled
  exact ⟨left, chains.congr same, known⟩

theorem Follows.settled
    {active : ActiveFrame}
    (follows : record.Follows charges active) :
    record.Settled charges := by
  obtain ⟨ends, left, chains, known⟩ := follows
  refine ⟨left, chains, fun gas among => known gas ?_⟩
  rw [left?, ends] at among
  cases active with
  | running machine => cases among
  | ended result =>
      cases result with
      | ok outcome after => exact among
      | error error after => cases among

theorem Awaits.settled
    {waiting : WaitingFrame}
    (awaits : record.Awaits charges waiting) :
    record.Settled charges := by
  cases awaits with
  | intro placed earlier later shown => exact ⟨_, .act earlier later shown, nofun⟩

theorem Awaits.congr
    {waiting : WaitingFrame}
    (awaits : Awaits charges waiting record)
    (same : ∀ place ∈ record.places, charges'[place]? = charges[place]?) :
    Awaits charges' waiting record := by
  cases awaits with
  | intro placed earlier later shown =>
      have last := same _ (List.mem_append_right _ (List.mem_singleton_self _))
      refine .intro placed (earlier.congr fun place among => ?_) later (last.trans shown)
      exact same place (List.mem_append_left _ among)

/-- Of a frame that has settled, the steps themselves chain. -/
theorem Settled.gasChains
    {all : List TraceStep}
    (settled : record.Settled (all.map fun step => (step.gas, step.gasCost))) :
    record.GasChains all := by
  obtain ⟨left, chains, known⟩ := settled
  obtain ⟨first, next, last, unspent⟩ := chains.chained
  exact
    { ascending := chains.ascending
      first
      next
      last := fun gas among => last gas (known gas among)
      unspent := fun gas among => unspent gas (known gas among) }

end FrameRecord

namespace CallStack

variable
  {environment : Environment}
  {charges : List (UInt64 × UInt64)}

/-! ## The gas of frames that wait -/

/--
Each frame that waits had, before its step, what it has kept and at least what the frames above it
have left.
-/
def Backed : Nat → List WaitingFrame → Prop
  | _, [] => True
  | unspent, waiting :: rest =>
      waiting.frame.gas.toNat + unspent ≤ waiting.gasBefore.toNat ∧
        Backed waiting.gasBefore.toNat rest

theorem Backed.mono
    {unspent unspent' : Nat}
    {waiting : List WaitingFrame}
    (backed : Backed unspent waiting)
    (less : unspent' ≤ unspent) :
    Backed unspent' waiting := by
  cases waiting with
  | nil => exact trivial
  | cons frame rest =>
      refine ⟨?_, backed.2⟩
      have covers := backed.1
      omega

/-! ## Moves -/

/--
At some moment of a run the trace shows these charges, each in a place of one frame, and the
charges of each frame chain.
-/
structure Accounted
    (charges : List (UInt64 × UInt64))
    (stack : CallStack)
    (record : FrameRecord)
    (records handedOn : List FrameRecord) : Prop where
  shows : stack.active.simulation.Shows charges
  placed :
    ((record :: records ++ handedOn).flatMap FrameRecord.places).Perm
      (List.range charges.length)
  backed : Backed stack.active.unspent stack.waiting
  active : record.Follows charges stack.active
  waiting : List.Forall₂ (FrameRecord.Awaits charges) stack.waiting records
  handedOn : ∀ record ∈ handedOn, record.Settled charges

namespace Accounted

variable
  {stack : CallStack}
  {record : FrameRecord}
  {records handedOn : List FrameRecord}

/-- Whatever the frames are about to do, their charges chain. -/
theorem settled
    (accounted : Accounted charges stack record records handedOn) :
    ∀ record' ∈ record :: records ++ handedOn, record'.Settled charges := by
  intro record' among
  rcases List.mem_append.mp among with unended | ended
  · rcases List.mem_cons.mp unended with rfl | waits
    · exact accounted.active.settled
    · obtain ⟨frame, _, awaits⟩ := exists_of_forall₂ accounted.waiting waits
      exact awaits.settled
  · exact accounted.handedOn record' ended

/-- Each charge has one place, also when the active frame gains the places of more. -/
theorem placed_gained
    {more : List (UInt64 × UInt64)}
    {record' : FrameRecord}
    (accounted : Accounted charges stack record records handedOn)
    (gained : record'.places = record.places ++ List.range' charges.length more.length) :
    ((record' :: records ++ handedOn).flatMap FrameRecord.places).Perm
      (List.range (charges ++ more).length) := by
  have placed := accounted.placed
  simp only [List.cons_append, List.flatMap_cons] at placed ⊢
  have ranges :
      List.range (charges ++ more).length =
        List.range charges.length ++ List.range' charges.length more.length := by
    have appended := @List.range'_append 0 charges.length more.length 1
    rw [Nat.one_mul, Nat.zero_add] at appended
    rw [List.range_eq_range', List.range_eq_range', List.length_append, appended]
  rw [gained, ranges, List.append_assoc]
  have moved :
      (record.places ++
          (List.range' charges.length more.length ++
            (records ++ handedOn).flatMap FrameRecord.places)).Perm
        (record.places ++ (records ++ handedOn).flatMap FrameRecord.places ++
          List.range' charges.length more.length) := by
    rw [List.append_assoc]
    exact List.perm_append_comm.append_left record.places
  exact moved.trans (placed.append_right _)

/-- All places are those of charges. -/
theorem lt_length
    (accounted : Accounted charges stack record records handedOn)
    {record' : FrameRecord}
    (among : record' ∈ record :: records ++ handedOn)
    {place : Nat}
    (own : place ∈ record'.places) :
    place < charges.length :=
  List.mem_range.mp (accounted.placed.mem_iff.mp (List.mem_flatMap.mpr ⟨record', among, own⟩))

/-- More charges leave those in the places of frames as they are. -/
theorem getElem?_append
    (accounted : Accounted charges stack record records handedOn)
    (more : List (UInt64 × UInt64))
    {record' : FrameRecord}
    (among : record' ∈ record :: records ++ handedOn) :
    ∀ place ∈ record'.places, (charges ++ more)[place]? = charges[place]? :=
  fun _ own => List.getElem?_append_left (accounted.lt_length among own)

end Accounted

/-- Frames that wait depend on the charges in their own places. -/
theorem awaits_congr
    {charges' : List (UInt64 × UInt64)}
    {waiting : List WaitingFrame}
    {records : List FrameRecord}
    (awaits : List.Forall₂ (FrameRecord.Awaits charges) waiting records)
    (same :
      ∀ record ∈ records, ∀ place ∈ record.places, charges'[place]? = charges[place]?) :
    List.Forall₂ (FrameRecord.Awaits charges') waiting records := by
  induction awaits with
  | nil => exact .nil
  | cons first _ inductionHypothesis =>
      refine .cons (first.congr (same _ List.mem_cons_self)) (inductionHypothesis ?_)
      exact fun record among => same record (List.mem_cons_of_mem _ among)

section Moves

variable
  {machine : Machine}
  {active : ActiveFrame}
  {waiting : List WaitingFrame}
  {record : FrameRecord}
  {records handedOn : List FrameRecord}

/-- A frame that acts or is closed gains the places of the charges that are added. -/
theorem places_gained
    {before after : Trace}
    {more : List (UInt64 × UInt64)}
    (shows : TraceView.charges.Shows charges before)
    (shows' : TraceView.charges.Shows (charges ++ more) after) :
    (record.gained before after).places =
      record.places ++ List.range' charges.length more.length := by
  simp only [FrameRecord.gained, shows.size_eq, shows'.size_eq, List.length_append,
    Nat.add_sub_cancel_left]

/-- The frames are accounted for when the active one has acted, or has been closed. -/
theorem Accounted.stay
    {more : List (UInt64 × UInt64)}
    {left : Option UInt64}
    (accounted : Accounted charges ⟨.running machine, waiting⟩ record records handedOn)
    (shows : active.simulation.Shows (charges ++ more))
    (spends : active.unspent ≤ machine.frame.gas.toNat)
    (chains :
      Chains (charges ++ more) record.context.gasLimit
        (record.places ++ List.range' charges.length more.length) left)
    (known : ∀ gas ∈ active.left?, left = some gas) :
    Accounted (charges ++ more) ⟨active, waiting⟩
      (record.followed machine.simulation.trace active) records handedOn := by
  have gained :
      (record.followed machine.simulation.trace active).places =
        record.places ++ List.range' charges.length more.length :=
    places_gained accounted.shows shows
  refine ⟨shows, ?_, accounted.backed.mono spends, ⟨rfl, left, ?_, known⟩, ?_, ?_⟩
  · exact accounted.placed_gained gained
  · rw [gained]
    exact chains
  · exact awaits_congr accounted.waiting fun record' among =>
      accounted.getElem?_append more
        (List.mem_append_left _ (List.mem_cons_of_mem _ among))
  · exact fun record' among =>
      (accounted.handedOn record' among).congr
        (accounted.getElem?_append more (List.mem_append_right _ among))

/-- The active frame's chain, whatever is added to the charges. -/
theorem Accounted.chains
    (accounted : Accounted charges ⟨.running machine, waiting⟩ record records handedOn)
    (more : List (UInt64 × UInt64)) :
    Chains (charges ++ more) record.context.gasLimit record.places
      (some machine.frame.gas) := by
  obtain ⟨_, left, chains, known⟩ := accounted.active
  rw [known _ rfl] at chains
  exact chains.congr (accounted.getElem?_append more List.mem_cons_self)

/-- The frames are accounted for when a frame has been closed. -/
theorem Accounted.close
    (accounted : Accounted charges ⟨.running machine, waiting⟩ record records handedOn) :
    Accounted (charges ++ [])
      ⟨.ended (.ok machine.frame.outcome machine.simulation), waiting⟩
      (record.followed machine.simulation.trace
        (.ended (.ok machine.frame.outcome machine.simulation)))
      records handedOn := by
  have shows : machine.simulation.Shows (charges ++ []) := by
    rw [List.append_nil]
    exact accounted.shows
  have chains := accounted.chains []
  rw [← List.append_nil record.places] at chains
  refine accounted.stay shows (Nat.le_of_eq ?_) chains fun gas known => ?_
  · exact congrArg UInt64.toNat machine.frame.gas_outcome
  · exact congrArg some (machine.frame.gas_outcome.symm.trans (Outcome.gas_of_left? known))

/-- The frames are accounted for when an instruction has acted. -/
theorem Accounted.act
    (environment : Environment)
    (accounted : Accounted charges ⟨.running machine, waiting⟩ record records handedOn) :
    let active := ActiveFrame.ofResult (Exec.step environment Runner.idle machine)
    ∃ charges',
      Accounted charges' ⟨active, waiting⟩ (record.followed machine.simulation.trace active)
        records handedOn := by
  have progresses :
      Ensures (Machine.Within 0 machine.frame.gas.toNat)
        (Exec.step environment Runner.idle)
        (fun _ => Machine.Progressed machine.frame.gas.toNat)
        (fun _ => Machine.Within 0 machine.frame.gas.toNat) :=
    Exec.step_progresses Runner.idle_leavesAtMost _
  have steps :
      Ensures
        (fun machine' =>
          machine'.simulation.Shows charges ∧ machine'.frame.gas = machine.frame.gas)
        (Exec.step environment Runner.idle) _ _ :=
    Exec.shows_step
  have last (cost : UInt64) :
      (charges ++ [(machine.frame.gas, cost)])[charges.length]? =
        some (machine.frame.gas, cost) :=
    List.getElem?_concat_length
  have later : ∀ place ∈ record.places, place < charges.length :=
    fun _ => accounted.lt_length List.mem_cons_self
  dsimp only
  cases result : Exec.step environment Runner.idle machine with
  | ok answer after =>
      have shows := steps.of_ok result ⟨accounted.shows, rfl⟩
      have within : after.frame.gas.toNat ≤ machine.frame.gas.toNat :=
        (progresses.of_ok result (Nat.le_refl _)).within
      have spent :
          after.frame.gas.toNat + (machine.frame.gas.subClamp after.frame.gas).toNat =
            machine.frame.gas.toNat := by
        rw [UInt64.toNat_subClamp]
        omega
      refine ⟨charges ++ [(machine.frame.gas, machine.frame.gas.subClamp after.frame.gas)], ?_⟩
      refine accounted.stay shows within (.spend (accounted.chains _) later (last _) spent) ?_
      exact fun gas known => known
  | error error after =>
      have within := progresses.of_error result (Nat.le_refl _)
      have left := endedGas_failWith_le error after.frame.gas after.simulation
      have spends :
          (ActiveFrame.ofResult (.error error after)).unspent ≤ machine.frame.gas.toNat :=
        Nat.le_trans left within
      have failed :
          (ActiveFrame.ofResult (.error error after)).left? = none :=
        ActiveFrame.left?_failWith error after.frame.gas after.simulation
      have unknown (left : Option UInt64) :
          ∀ gas ∈ (ActiveFrame.ofResult (.error error after)).left?, left = some gas := by
        rw [failed]
        exact nofun
      rcases steps.of_error result ⟨accounted.shows, rfl⟩ with ⟨_, shows⟩ | ⟨cost, shows⟩
      · have chains := accounted.chains []
        rw [← List.append_nil record.places] at chains
        rw [← List.append_nil charges] at shows
        refine ⟨charges ++ [], accounted.stay (shows_ofResult shows) spends chains (unknown _)⟩
      · refine ⟨charges ++ [(machine.frame.gas, cost)], ?_⟩
        exact accounted.stay (shows_ofResult shows) spends
          (.act (accounted.chains _) later (last cost)) (unknown _)

/-- The frames are accounted for when an instruction has started one more. -/
theorem Accounted.launch
    {launch : FrameLaunch}
    (accounted : Accounted charges ⟨.running machine, waiting⟩ record records handedOn)
    (found : Exec.launch? environment machine = some launch) :
    ∃ charges',
      Accounted charges'
        ⟨.running (launch.start environment.limits), launch.waiting :: waiting⟩
        { context := launch.context }
        (record.gained machine.simulation.trace launch.simulation.trace :: records)
        handedOn := by
  obtain ⟨⟨cost, shows⟩, placed, gasBefore⟩ := Exec.shows_launch? found accounted.shows
  have given := Exec.gas_of_launch? found
  have places :
      (record.gained machine.simulation.trace launch.simulation.trace).places =
        record.places ++ [charges.length] :=
    places_gained accounted.shows shows
  have awaits :
      FrameRecord.Awaits (charges ++ [(machine.frame.gas, cost)]) launch.waiting
        (record.gained machine.simulation.trace launch.simulation.trace) := by
    have gained :
        record.gained machine.simulation.trace launch.simulation.trace =
          { context := record.context, places := record.places ++ [charges.length] } :=
      FrameRecord.mk.injEq .. |>.mpr ⟨rfl, places, accounted.active.1⟩
    have earlier := accounted.chains [(machine.frame.gas, cost)]
    rw [← gasBefore] at earlier ⊢
    rw [gained]
    have later : ∀ place ∈ record.places, place < charges.length :=
      fun _ => accounted.lt_length List.mem_cons_self
    exact .intro placed earlier later List.getElem?_concat_length
  refine ⟨_, shows, accounted.placed_gained places, ⟨?_, ?_⟩,
    ⟨rfl, _, .begin, fun gas known => known⟩, ?_, ?_⟩
  · rw [gasBefore]
    exact Nat.le_of_succ_le given
  · rw [gasBefore]
    exact accounted.backed
  · refine .cons awaits (awaits_congr accounted.waiting fun record' among => ?_)
    exact accounted.getElem?_append _ (List.mem_append_left _ (List.mem_cons_of_mem _ among))
  · intro record' among
    refine (accounted.handedOn record' among).congr ?_
    exact accounted.getElem?_append _ (List.mem_append_right _ among)

/-- The place of a frame that waits is the last of its own, and no other frame's. -/
theorem Accounted.distinct
    {context : FrameContext}
    {places : List Nat}
    {index : Nat}
    {stack : CallStack}
    (accounted :
      Accounted charges stack record ({ context, places := places ++ [index] } :: records)
        handedOn) :
    index ∉ places ∧
      ∀ record' ∈ record :: records ++ handedOn, index ∉ record'.places := by
  have distinct := accounted.placed.nodup_iff.mpr List.nodup_range
  simp only [List.cons_append, List.flatMap_cons, List.nodup_append] at distinct
  obtain ⟨_, ⟨⟨_, _, earlier⟩, _, later⟩, above⟩ := distinct
  have last : index ∈ places ++ [index] := List.mem_append_right _ (List.mem_singleton_self _)
  refine ⟨fun among => earlier index among index (List.mem_singleton_self _) rfl, ?_⟩
  intro record' among own
  rcases List.mem_cons.mp among with rfl | below
  · exact above index own index (List.mem_append_left _ last) rfl
  · exact later index last index (List.mem_flatMap.mpr ⟨record', below, own⟩) rfl

/-- The frames are accounted for when a frame has handed on how it has ended. -/
theorem Accounted.handOn
    {result : EStateM.Result VmError Simulation Outcome}
    {frame : WaitingFrame}
    {starter : FrameRecord}
    (accounted :
      Accounted charges ⟨.ended result, frame :: waiting⟩ record (starter :: records)
        handedOn) :
    let active := ActiveFrame.ofResult (frame.resume environment.limits result)
    ∃ charges',
      Accounted charges' ⟨active, waiting⟩ (starter.followed (stateOf result).trace active)
        records (record :: handedOn) := by
  obtain ⟨awaits, waits⟩ := List.forall₂_cons.mp accounted.waiting
  obtain @⟨context, places, _, index, cost, placed, earlier, later, shown⟩ := awaits
  obtain ⟨notEarlier, notOther⟩ := accounted.distinct
  have shows : (stateOf result).Shows charges := by
    have shows := accounted.shows
    cases result <;> exact shows
  have resumed := TraceView.shows_resume environment.limits placed shows
  have within := frame.resume_within environment.limits result
  have left := unspent_ofResult_le within
  dsimp only at resumed ⊢
  generalize frame.resume environment.limits result = after at resumed within left ⊢
  let change (charge : UInt64 × UInt64) : UInt64 × UInt64 :=
    (charge.1, frame.gasBefore.subClamp (stateOf after).frame.gas)
  change (stateOf after).simulation.Shows (charges.modify index change) at resumed
  have same
      {others : List Nat}
      (foreign : index ∉ others) :
      ∀ place ∈ others, (charges.modify index change)[place]? = charges[place]? := by
    intro place among
    have other : index ≠ place := fun here => foreign (here ▸ among)
    rw [List.getElem?_modify_ne _ _ other]
  have amended :
      (charges.modify index change)[index]? =
        some (frame.gasBefore, frame.gasBefore.subClamp (stateOf after).frame.gas) := by
    rw [List.getElem?_modify_eq, shown]
    rfl
  have chained := earlier.congr (same notEarlier)
  have unmoved :
      (FrameRecord.followed { context, places := places ++ [index] } (stateOf result).trace
        (.ofResult after)).places = places ++ [index] := by
    have sized := (shows_ofResult resumed).size_eq
    rw [List.length_modify, ← shows.size_eq] at sized
    simp only [FrameRecord.followed, FrameRecord.gained, sized, Nat.sub_self, List.range'_zero,
      List.append_nil]
  -- what comes back and what was kept are within the gas before the step, so nothing is clamped
  have covered := accounted.backed.1
  have kept : (ActiveFrame.ofResult after).unspent ≤ frame.gasBefore.toNat :=
    Nat.le_trans left covered
  refine ⟨_, shows_ofResult resumed, ?_, accounted.backed.2.mono kept, ⟨rfl, ?_⟩, ?_, ?_⟩
  · have moved := accounted.placed
    rw [List.length_modify]
    refine List.Perm.trans ?_ moved
    simp only [List.cons_append, List.flatMap_cons, List.flatMap_append, unmoved]
    have inner :=
      List.perm_append_comm_assoc (records.flatMap FrameRecord.places) record.places
        (handedOn.flatMap FrameRecord.places)
    exact (inner.append_left (places ++ [index])).trans (List.perm_append_comm_assoc _ _ _)
  · cases after with
    | ok answer after =>
        have spent :
            after.frame.gas.toNat + (frame.gasBefore.subClamp after.frame.gas).toNat =
              frame.gasBefore.toNat := by
          rw [UInt64.toNat_subClamp]
          change after.frame.gas.toNat ≤ _ at kept
          omega
        rw [unmoved]
        exact ⟨_, .spend chained later amended spent, fun gas known => known⟩
    | error error after =>
        have failed := ActiveFrame.left?_failWith error after.frame.gas after.simulation
        rw [unmoved]
        refine ⟨none, .act chained later amended, fun gas known => ?_⟩
        rw [ActiveFrame.ofResult, failed] at known
        cases known
  · exact awaits_congr waits fun record' among =>
      same (notOther record' (List.mem_append_left _ (List.mem_cons_of_mem _ among)))
  · intro record' among
    rcases List.mem_cons.mp among with rfl | among
    · exact accounted.active.settled.congr (same (notOther _ List.mem_cons_self))
    · refine (accounted.handedOn record' among).congr (same (notOther record' ?_))
      exact List.mem_append_right _ among

end Moves

/-- A first frame that has recorded nothing is accounted for. -/
theorem accounted_first
    {limits : Limits}
    {context : FrameContext}
    {code : Bytes}
    {simulation : Simulation}
    (shows : simulation.Shows []) :
    Accounted [] (first limits context code simulation) { context } [] [] where
  shows := shows
  placed := .nil
  backed := trivial
  active := ⟨rfl, some context.gasLimit, .begin, fun _ known => known⟩
  waiting := .nil
  handedOn := List.forall_mem_nil _

/-- All along a run that records from its start, the frames are accounted for. -/
theorem Recorded.accounted
    {context : FrameContext}
    {code : Bytes}
    {simulation : Simulation}
    {stack : CallStack}
    {records handedOn : List FrameRecord}
    (recorded :
      Recorded environment (first environment.limits context code simulation) stack records
        handedOn)
    (shows : simulation.Shows []) :
    ∃ charges record records',
      records = record :: records' ∧ Accounted charges stack record records' handedOn := by
  generalize begun : first environment.limits context code simulation = start at recorded
  -- the records tell for each move whose entry it adds or amends
  induction recorded with
  | @begin machine begins =>
      subst begun
      cases begins
      exact ⟨[], _, [], rfl, accounted_first shows⟩
  | stay _ move inductionHypothesis =>
      obtain ⟨charges, record, records', same, accounted⟩ := inductionHypothesis
      cases same
      cases move.moved with
      | close finished => exact ⟨_, _, _, rfl, accounted.close⟩
      | act runs =>
          obtain ⟨charges', accounted⟩ := accounted.act environment
          exact ⟨_, _, _, rfl, accounted⟩
  | launch _ runs found inductionHypothesis =>
      obtain ⟨charges, record, records', same, accounted⟩ := inductionHypothesis
      cases same
      obtain ⟨charges', accounted⟩ := accounted.launch found
      exact ⟨_, _, _, rfl, accounted⟩
  | handOn _ inductionHypothesis =>
      obtain ⟨charges, record, records', same, accounted⟩ := inductionHypothesis
      cases same
      obtain ⟨charges', accounted⟩ := @Accounted.handOn environment _ _ _ _ _ _ _ _ accounted
      exact ⟨_, _, _, rfl, accounted⟩

/--
The steps are those of the frames on record, each of one of them, and the gas that the steps of
each frame show chains.
-/
structure ChainsGas
    (environment : Environment)
    (start stack : CallStack)
    (steps : List TraceStep) : Prop where
  recorded :
    ∃ records handedOn, Recorded environment start stack records handedOn
  placed :
    ∀ {records handedOn : List FrameRecord},
      Recorded environment start stack records handedOn →
      ((records ++ handedOn).flatMap FrameRecord.places).Perm (List.range steps.length)
  chained :
    ∀ {records handedOn : List FrameRecord},
      Recorded environment start stack records handedOn →
      ∀ record ∈ records ++ handedOn, record.GasChains steps

/-- All along a run that is traced from its start, the gas of the recorded steps chains. -/
theorem chainsGas_of_leads
    {context : FrameContext}
    {code : Bytes}
    {simulation : Simulation}
    {count : Nat}
    {stack : CallStack}
    (shows : simulation.Shows [])
    (leads :
      Leads (Moves environment) count (first environment.limits context code simulation)
        stack) :
    ChainsGas environment (first environment.limits context code simulation) stack
      stack.trace.steps.toList where
  recorded := Recorded.exists_of_leads rfl leads
  placed recorded := by
    obtain ⟨charges, record, records, rfl, accounted⟩ := recorded.accounted shows
    have sized : stack.trace.steps.size = charges.length := accounted.shows.size_eq
    rw [Array.length_toList, sized]
    exact accounted.placed
  chained recorded record among := by
    obtain ⟨charges, record, records, rfl, accounted⟩ := recorded.accounted shows
    have settled := accounted.settled _ among
    rw [← accounted.shows.values_eq] at settled
    exact settled.gasChains

end CallStack

/-! ## Transactions -/

namespace Environment

open CallStack (ChainsGas Leads Moves)

variable
  {environment : Environment}
  {context : FrameContext}
  {isCreation : Bool}

/--
Trace gas chains.  At every moment of a traced run, and in the steps of a transaction that has
been traced, each step is one of one frame's; and for each frame the first step shows the gas that
the frame was given, each next one what the step before it has left, with the steps of nested
frames in between, and the last one leaves what the frame has when it completes or reverts.  The
gas that a frame gives away and gets back is in the cost of the step that waits.  What it costs to
deploy the code that init code returns is charged after the frame of that has completed.
-/
theorem traced_gas_chains
    (environment : Environment)
    (context : FrameContext)
    (isCreation : Bool)
    (options : TraceOptions) :
    (∀ {world : World} {start stack : CallStack} {count : Nat},
      environment.firstStack? context isCreation
          { world, trace := Trace.ofMode .opcode options } = some start →
      Leads (Moves environment) count start stack →
      ChainsGas environment start stack stack.trace.steps.toList) ∧
      ∀ {world : World} {result : CallResult},
        environment.transact context isCreation world (Trace.ofMode .opcode options) =
          .ok result →
        result.steps = [] ∨
          ∃ start count ended,
            environment.firstStack?
                { context with
                  gasLimit := context.gasLimit - Gas.intrinsic context.data isCreation }
                isCreation
                { world := warmed context isCreation world
                  trace := Trace.ofMode .opcode options } = some start ∧
              Leads (Moves environment) count start ⟨.ended ended, []⟩ ∧
              ChainsGas environment start ⟨.ended ended, []⟩ result.steps := by
  have chains
      {context : FrameContext} {world : World} {start stack : CallStack} {count : Nat}
      (begins :
        environment.firstStack? context isCreation
          { world, trace := Trace.ofMode .opcode options } = some start)
      (leads : Leads (Moves environment) count start stack) :
      ChainsGas environment start stack stack.trace.steps.toList := by
    have beside := (Simulation.besideAccess_shows []).toBesideWorld
    obtain ⟨context', code, opened, rfl, shows⟩ :=
      exists_of_firstStack?_beside beside ⟨rfl, rfl⟩ begins
    exact CallStack.chainsGas_of_leads shows leads
  refine ⟨chains, fun done => ?_⟩
  rcases steps_of_transact rfl done with none | ⟨start, count, ended, begins, leads, same⟩
  · exact .inl none
  · refine .inr ⟨start, count, ended, begins, leads, ?_⟩
    rw [same]
    have shown := chains begins leads
    cases ended <;> exact shown

/--
A contract sends a unit along with a call of another one, which looks a slot up with the stipend.
The call costs what is charged for it less what is left of the stipend, and the next step of the
caller shows the gas that is left then.
-/
theorem gas_of_call_with_stipend_chains :
    let environment : Environment :=
      { rules := ⟨⟨0, 50, 0⟩, .cancun, ⟨true, true⟩, ⟨true, true⟩⟩
        prices := ⟨.empty, .empty, fun _ _ => 1⟩ }
    let called := Account.newContract (Address.ofNum 1002) [0x5f, 0x54, 0x00]
    let calling :=
      { Account.newContract (Address.ofNum 1003)
          [0x5f, 0x5f, 0x5f, 0x5f, 0x60, 0x01, 0x61, 0x03, 0xea, 0x5f, 0xf1, 0x5a, 0x00] with
        balance := 5 }
    let contents : Snapshot.Contents :=
      { accounts := Table.ofList [(called.address, called), (calling.address, calling)] }
    let world := World.ofSnapshot (Snapshot.ofContents contents) true ⟨0⟩ 5000
    let context :=
      FrameContext.ofTransaction (Address.ofNum 1001) calling.address 0 [] 100000 1 { }
    ∃ result start count ended,
      environment.transact context false world (Trace.ofMode .opcode { }) = .ok result ∧
        result.steps.map (fun step => (step.name, step.depth, step.gas, step.gasCost)) =
          [("PUSH0", 0, 100000, 2), ("PUSH0", 0, 99998, 2), ("PUSH0", 0, 99996, 2),
            ("PUSH0", 0, 99994, 2), ("PUSH1", 0, 99992, 3), ("PUSH2", 0, 99989, 3),
            ("PUSH0", 0, 99986, 2), ("CALL", 0, 99984, 11402), ("PUSH0", 1, 2300, 2),
            ("SLOAD", 1, 2298, 2100), ("STOP", 1, 198, 0), ("GAS", 0, 88582, 2),
            ("STOP", 0, 88580, 0)] ∧
        Leads (Moves environment) count start ⟨.ended ended, []⟩ ∧
        ChainsGas environment start ⟨.ended ended, []⟩ result.steps := by
  intro environment called calling contents world context
  let shown (step : TraceStep) := (step.name, step.depth, step.gas, step.gasCost)
  have steps :
      (environment.transact context false world (Trace.ofMode .opcode { })).map
          (fun result => result.steps.map shown) =
        .ok
          [("PUSH0", 0, 100000, 2), ("PUSH0", 0, 99998, 2), ("PUSH0", 0, 99996, 2),
            ("PUSH0", 0, 99994, 2), ("PUSH1", 0, 99992, 3), ("PUSH2", 0, 99989, 3),
            ("PUSH0", 0, 99986, 2), ("CALL", 0, 99984, 11402), ("PUSH0", 1, 2300, 2),
            ("SLOAD", 1, 2298, 2100), ("STOP", 1, 198, 0), ("GAS", 0, 88582, 2),
            ("STOP", 0, 88580, 0)] := by
    decide +kernel
  cases done : environment.transact context false world (Trace.ofMode .opcode { }) with
  | error error =>
      rw [done] at steps
      cases steps
  | ok result =>
      rw [done] at steps
      have same := Except.ok.inj steps
      dsimp only at same
      rcases (traced_gas_chains environment context false { }).2 done with
        none | ⟨start, count, ended, _, leads, chains⟩
      · rw [none] at same
        cases same
      · exact ⟨result, start, count, ended, rfl, same, leads, chains⟩

end Environment

end LedgerEvm
