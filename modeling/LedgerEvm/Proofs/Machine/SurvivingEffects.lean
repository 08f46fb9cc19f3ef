import LedgerEvm.Proofs.Machine.Bequests

namespace LedgerEvm

/-!
# Effects that survive

Frames that are open hold together, from the first one up to any other, what has been left in
frames of which each has completed or is one of them.  So a transaction hands out what was left in
frames that have all completed, and takes nothing of a frame that has failed or of those it
started.
-/

/-! ## What is left in which frames -/

namespace Chronicle

/-- Each of the frames in which something was left has completed, or is among these. -/
def counts (chronicle : Chronicle) (among : List Nat) (left : List Nat × Effect) : Bool :=
  left.1.all fun frame => chronicle.completed.contains frame || among.contains frame

/-- What was left in frames that have completed or are among these, in the order of the run. -/
def leftWithin (chronicle : Chronicle) (among : List Nat) : List Effect :=
  (chronicle.effects.filter (chronicle.counts among)).map Prod.snd

/-- What was left in frames that have completed together with all below them. -/
def survivors (chronicle : Chronicle) : List Effect :=
  chronicle.leftWithin []

theorem counts_iff
    {chronicle : Chronicle}
    {among : List Nat}
    {left : List Nat × Effect} :
    chronicle.counts among left = true ↔
      ∀ frame ∈ left.1, frame ∈ chronicle.completed ∨ frame ∈ among := by
  simp only [counts, List.all_eq_true, Bool.or_eq_true, List.contains_iff_mem]

/-- Of open frames, something was left in one and all those below, and in none above. -/
def IsRooted (frames : List Nat) : List Nat → Prop
  | [] => False
  | top :: below =>
      (∀ frame ∈ top :: below, frame ∈ frames) ∨ top ∉ frames ∧ IsRooted frames below

theorem IsRooted.below
    {frames below : List Nat}
    {top next : Nat}
    (rooted : IsRooted frames (top :: next :: below)) :
    IsRooted frames (next :: below) :=
  rooted.elim (fun all => .inl fun frame member => all frame (List.mem_cons_of_mem _ member))
    And.right

theorem effects_closed
    (chronicle : Chronicle)
    (completes : Bool) :
    (chronicle.closed completes).effects = chronicle.effects := by
  cases completes <;> rfl

theorem handedOn_cons
    {chronicle : Chronicle}
    {starter : Nat}
    {others : List Nat}
    (waits : chronicle.waiting = starter :: others)
    (completes : Bool) :
    chronicle.handedOn completes =
      { chronicle.closed completes with active := starter, waiting := others } := by
  unfold handedOn
  rw [waits]

/-- Frames are told apart by their numbers, and effects are told with frames that there are. -/
structure IsNumbered (chronicle : Chronicle) : Prop where
  distinct : chronicle.path.Nodup
  opened : ∀ frame ∈ chronicle.path, frame < chronicle.started
  ended : ∀ frame ∈ chronicle.completed, frame < chronicle.started ∧ frame ∉ chronicle.path
  known : ∀ left ∈ chronicle.effects, ∀ frame ∈ left.1, frame < chronicle.started
  rooted : ∀ left ∈ chronicle.effects, IsRooted left.1 chronicle.path

namespace IsNumbered

variable {chronicle : Chronicle}

theorem first :
    IsNumbered { } where
  distinct := List.nodup_singleton 0
  opened frame member := by
    cases List.mem_singleton.mp member
    exact Nat.zero_lt_one
  ended _ member := nomatch member
  known _ member := nomatch member
  rooted _ member := nomatch member

theorem executed
    (numbered : chronicle.IsNumbered)
    (before after : Trace) :
    (chronicle.executed before after).IsNumbered :=
  ⟨numbered.distinct, numbered.opened, numbered.ended, numbered.known, numbered.rooted⟩

theorem halted
    (numbered : chronicle.IsNumbered)
    (place : Option Nat)
    (error : VmError)
    (trace : Trace) :
    (chronicle.halted place error trace).IsNumbered := by
  unfold Chronicle.halted
  split
  · exact numbered
  · exact
      ⟨numbered.distinct, numbered.opened, numbered.ended, numbered.known, numbered.rooted⟩

theorem affected
    (numbered : chronicle.IsNumbered)
    (effect? : Option Effect) :
    (chronicle.affected effect?).IsNumbered := by
  have newest
      {left : List Nat × Effect}
      (member : left ∈ effect?.toList.map fun effect => (chronicle.path, effect)) :
      left.1 = chronicle.path := by
    obtain ⟨effect, -, rfl⟩ := List.mem_map.mp member
    rfl
  refine ⟨numbered.distinct, numbered.opened, numbered.ended, ?_, ?_⟩
  · intro left member
    rcases List.mem_append.mp member with earlier | now
    · exact numbered.known left earlier
    · rw [newest now]
      exact numbered.opened
  · intro left member
    rcases List.mem_append.mp member with earlier | now
    · exact numbered.rooted left earlier
    · rw [newest now]
      exact .inl fun _ => id

theorem launched
    (numbered : chronicle.IsNumbered) :
    chronicle.launched.IsNumbered where
  distinct :=
    List.nodup_cons.mpr
      ⟨fun member => Nat.lt_irrefl _ (numbered.opened _ member), numbered.distinct⟩
  opened frame member := by
    rcases List.mem_cons.mp member with rfl | below
    · exact Nat.lt_succ_self _
    · exact Nat.lt_succ_of_lt (numbered.opened frame below)
  ended frame member := by
    obtain ⟨before, closed⟩ := numbered.ended frame member
    refine ⟨Nat.lt_succ_of_lt before, fun isOpen => ?_⟩
    rcases List.mem_cons.mp isOpen with rfl | below
    · exact Nat.lt_irrefl _ before
    · exact closed below
  known left member frame inside := Nat.lt_succ_of_lt (numbered.known left member frame inside)
  rooted left member :=
    .inr
      ⟨fun inside => Nat.lt_irrefl _ (numbered.known left member _ inside),
        numbered.rooted left member⟩

theorem handedOn
    (numbered : chronicle.IsNumbered)
    {starter : Nat}
    {others : List Nat}
    (waits : chronicle.waiting = starter :: others)
    (completes : Bool) :
    (chronicle.handedOn completes).IsNumbered := by
  obtain ⟨distinct, opened, ended, known, rooted⟩ := numbered
  unfold path at distinct opened ended rooted
  rw [waits] at distinct opened ended rooted
  obtain ⟨apart, distinct⟩ := List.nodup_cons.mp distinct
  have below : ∀ frame ∈ starter :: others, frame < chronicle.started :=
    fun frame member => opened frame (List.mem_cons_of_mem _ member)
  have earlier :
      ∀ frame ∈ chronicle.completed,
        frame < chronicle.started ∧ frame ∉ starter :: others :=
    fun frame member =>
      ⟨(ended frame member).1, fun isOpen => (ended frame member).2 (List.mem_cons_of_mem _ isOpen)⟩
  have rest : ∀ left ∈ chronicle.effects, IsRooted left.1 (starter :: others) :=
    fun left member => (rooted left member).below
  rw [handedOn_cons waits]
  cases completes with
  | false => exact ⟨distinct, below, earlier, known, rest⟩
  | true =>
      refine ⟨distinct, below, fun frame member => ?_, known, rest⟩
      rcases List.mem_cons.mp member with rfl | before
      · exact ⟨opened _ List.mem_cons_self, apart⟩
      · exact earlier frame before

theorem did
    (numbered : chronicle.IsNumbered)
    (place : Option Nat)
    (result : EStateM.Result VmError Machine Unit) :
    (chronicle.did place result).IsNumbered := by
  cases result with
  | ok answer after => exact numbered
  | error error after => exact numbered.halted place error _

theorem stepped
    (numbered : chronicle.IsNumbered)
    (effect? : Option Effect)
    (before : Trace)
    (result : EStateM.Result VmError Machine Unit) :
    (chronicle.stepped effect? before result).IsNumbered := by
  cases result with
  | ok answer after => exact (numbered.executed before _).affected effect?
  | error error after => exact (numbered.executed before _).halted _ error _

end IsNumbered

/-! ## What open frames hold -/

/-- From the first frame up to each, frames hold what has been left within them. -/
def Balanced (chronicle : Chronicle) : List Nat → List Bequest → Prop
  | [], [] => True
  | frame :: below, bequest :: bequests =>
      Bequest.total (bequest :: bequests) = Bequest.of (chronicle.leftWithin (frame :: below)) ∧
        chronicle.Balanced below bequests
  | _, _ => False

variable {chronicle chronicle' : Chronicle}

theorem Balanced.eq_nil
    {path : List Nat}
    (balanced : chronicle.Balanced path []) :
    path = [] := by
  cases path with
  | nil => rfl
  | cons frame below => exact balanced.elim

/-- Nothing that matters to frames has happened where as much is left within each of them. -/
theorem Balanced.congr
    {path : List Nat}
    {bequests : List Bequest}
    (balanced : chronicle.Balanced path bequests)
    (same :
      ∀ {frame : Nat} {below : List Nat},
        (frame :: below) <:+ path →
        chronicle'.leftWithin (frame :: below) = chronicle.leftWithin (frame :: below)) :
    chronicle'.Balanced path bequests := by
  induction path generalizing bequests with
  | nil =>
      cases bequests with
      | nil => exact trivial
      | cons bequest bequests => exact balanced.elim
  | cons frame below inductionHypothesis =>
      cases bequests with
      | nil => exact balanced.elim
      | cons bequest bequests =>
          refine ⟨balanced.1.trans (congrArg _ (same List.suffix_rfl).symm), ?_⟩
          exact
            inductionHypothesis balanced.2 fun within =>
              same (within.trans (List.suffix_cons _ _))

/-- The same is left where the same effects count. -/
theorem leftWithin_congr
    {among among' : List Nat}
    (effects : chronicle'.effects = chronicle.effects)
    (same :
      ∀ left ∈ chronicle.effects,
        (∀ frame ∈ left.1, frame ∈ chronicle'.completed ∨ frame ∈ among') ↔
          ∀ frame ∈ left.1, frame ∈ chronicle.completed ∨ frame ∈ among) :
    chronicle'.leftWithin among' = chronicle.leftWithin among := by
  unfold leftWithin
  rw [effects]
  refine congrArg _ (List.filter_congr fun left member => Bool.eq_iff_iff.mpr ?_)
  rw [counts_iff, counts_iff]
  exact same left member

theorem leftWithin_affected
    (chronicle : Chronicle)
    (effect? : Option Effect)
    (among : List Nat) :
    (chronicle.affected effect?).leftWithin among =
      chronicle.leftWithin among ++
        effect?.toList.filter fun effect => chronicle.counts among (chronicle.path, effect) := by
  have newest :
      ((effect?.toList.map fun effect => (chronicle.path, effect)).filter
          (chronicle.counts among)).map Prod.snd =
        effect?.toList.filter fun effect => chronicle.counts among (chronicle.path, effect) := by
    rw [List.filter_map, List.map_map]
    exact List.map_id _
  rw [← newest]
  exact (congrArg _ (List.filter_append _ _)).trans List.map_append

/-- What is left now is left within the frames that are open. -/
theorem leftWithin_affected_path
    (chronicle : Chronicle)
    (effect? : Option Effect) :
    (chronicle.affected effect?).leftWithin chronicle.path =
      chronicle.leftWithin chronicle.path ++ effect?.toList := by
  rw [leftWithin_affected, List.filter_eq_self.mpr]
  exact fun _ _ => counts_iff.mpr fun _ => .inr

/-- It is not left within those that wait. -/
theorem leftWithin_affected_waiting
    (numbered : chronicle.IsNumbered)
    (effect? : Option Effect)
    {among : List Nat}
    (within : among ⊆ chronicle.waiting) :
    (chronicle.affected effect?).leftWithin among = chronicle.leftWithin among := by
  rw [leftWithin_affected, List.filter_eq_nil_iff.mpr, List.append_nil]
  intro effect _ counted
  rcases counts_iff.mp counted chronicle.active List.mem_cons_self with closed | waits
  · exact (numbered.ended _ closed).2 List.mem_cons_self
  · exact (List.nodup_cons.mp numbered.distinct).1 (within waits)

/-- A frame that is started has nothing left in it. -/
theorem leftWithin_launched
    (numbered : chronicle.IsNumbered) :
    chronicle.launched.leftWithin (chronicle.started :: chronicle.path) =
      chronicle.leftWithin chronicle.path := by
  refine leftWithin_congr rfl fun left member => ?_
  refine forall₂_congr fun frame inside => or_congr_right ⟨fun isOpen => ?_, List.mem_cons_of_mem _⟩
  rcases List.mem_cons.mp isOpen with rfl | below
  · exact (Nat.lt_irrefl _ (numbered.known left member _ inside)).elim
  · exact below

/-- Once the active frame has completed, what is left within it is left within those below. -/
theorem leftWithin_closed
    (chronicle : Chronicle)
    (among : List Nat) :
    (chronicle.closed true).leftWithin among =
      chronicle.leftWithin (chronicle.active :: among) := by
  refine leftWithin_congr rfl fun left _ => forall₂_congr fun frame _ => ?_
  change frame ∈ chronicle.active :: chronicle.completed ∨ _ ↔ _
  rw [List.mem_cons, List.mem_cons, or_left_comm, or_assoc]

/-- Further below nothing is left yet of what was left within the active frame. -/
theorem leftWithin_closed_below
    (numbered : chronicle.IsNumbered)
    {starter : Nat}
    {others among : List Nat}
    (waits : chronicle.waiting = starter :: others)
    (completes : Bool)
    (within : among ⊆ others) :
    (chronicle.closed completes).leftWithin among = chronicle.leftWithin among := by
  obtain ⟨distinct, -, ended, -, rooted⟩ := numbered
  unfold path at distinct ended rooted
  rw [waits] at distinct ended rooted
  cases completes with
  | false => rfl
  | true =>
      refine leftWithin_congr rfl fun left member => ⟨fun all frame inside => ?_, ?_⟩
      · rcases all frame inside with closed | between
        · rcases List.mem_cons.mp closed with rfl | before
          · -- it was left in the starter too, which waits and is none of those below it
            have starts : starter ∈ left.1 := by
              rcases rooted left member with all | above
              · exact all starter (List.mem_cons_of_mem _ List.mem_cons_self)
              · exact (above.1 inside).elim
            have distinct' := List.nodup_cons.mp distinct
            rcases all starter starts with closed | between
            · rcases List.mem_cons.mp closed with rfl | before
              · exact (distinct'.1 List.mem_cons_self).elim
              · exact ((ended _ before).2 (by simp)).elim
            · exact ((List.nodup_cons.mp distinct'.2).1 (within between)).elim
          · exact .inl before
        · exact .inr between
      · exact fun all frame inside => (all frame inside).imp (List.mem_cons_of_mem _) id

end Chronicle

namespace CallStack

open Chronicle

/-- What the frames that wait hold, the uppermost one first. -/
def waitingBequests (stack : CallStack) : List Bequest :=
  stack.waiting.map fun waiting => waiting.frame.bequest

/-- The frames of a stack hold what its chronicle tells to have been left within them. -/
structure Reckoned (chronicle : Chronicle) (stack : CallStack) : Prop where
  numbered : chronicle.IsNumbered
  active :
    ∀ bequest ∈ stack.active.bequest?,
      Bequest.total (bequest :: stack.waitingBequests) =
        Bequest.of (chronicle.leftWithin chronicle.path)
  waiting : chronicle.Balanced chronicle.waiting stack.waitingBequests

variable
  {environment : Environment}
  {chronicle chronicle' : Chronicle}
  {start before after stack : CallStack}

namespace Reckoned

theorem first
    (limits : Limits)
    (context : FrameContext)
    (code : Bytes)
    (simulation : Simulation) :
    Reckoned { } (first limits context code simulation) where
  numbered := .first
  active bequest held := by
    cases held
    rfl
  waiting := trivial

/-- A frame that completes hands on what it has held. -/
theorem close
    {machine : Machine}
    {waiting : List WaitingFrame}
    (reckoned : Reckoned chronicle ⟨.running machine, waiting⟩) :
    Reckoned chronicle ⟨.ended (.ok machine.frame.outcome machine.simulation), waiting⟩ where
  numbered := reckoned.numbered
  active bequest held := by
    simp only [ActiveFrame.bequest?] at held
    split at held
    · rename_i completes
      cases held
      rw [Frame.bequest_outcome completes]
      exact reckoned.active _ rfl
    · cases held
  waiting := reckoned.waiting

/-- A frame that is started holds nothing yet, and that one waits which has held all. -/
theorem launch
    {machine : Machine}
    {waiting : List WaitingFrame}
    {launch : FrameLaunch}
    (reckoned : Reckoned chronicle ⟨.running machine, waiting⟩)
    (found : Exec.launch? environment machine = some launch) :
    Reckoned (chronicle.executed machine.simulation.trace launch.simulation.trace).launched
      ⟨.running (launch.start environment.limits), launch.waiting :: waiting⟩ := by
  obtain ⟨numbered, active, waits⟩ := reckoned
  let executed := chronicle.executed machine.simulation.trace launch.simulation.trace
  have numbered' : executed.IsNumbered := numbered.executed _ _
  have held :
      Bequest.total
          (launch.waiting.frame.bequest :: waiting.map fun waiting => waiting.frame.bequest) =
        Bequest.of (executed.leftWithin executed.path) := by
    rw [Exec.bequest_of_launch? found]
    exact active _ rfl
  refine ⟨numbered'.launched, fun bequest started => ?_, ⟨held, waits.congr fun _ => rfl⟩⟩
  cases started
  exact (Bequest.plus_empty _).trans (held.trans (congrArg _ (leftWithin_launched numbered').symm))

/-- A frame that has failed hands nothing on. -/
theorem halted
    {waiting : List WaitingFrame}
    (numbered : chronicle.IsNumbered)
    (waits :
      chronicle.Balanced chronicle.waiting (waiting.map fun waiting => waiting.frame.bequest))
    (place : Option Nat)
    (error : VmError)
    (after : Machine) :
    Reckoned (chronicle.halted place error after.simulation.trace)
      ⟨.ofResult (.error error after), waiting⟩ := by
  have failed : (ActiveFrame.ofResult (.error error after)).bequest? = none :=
    ActiveFrame.bequest?_ofResult_error error after
  refine ⟨numbered.halted place error _, fun bequest held => ?_, ?_⟩
  · rw [failed] at held
    cases held
  · unfold Chronicle.halted
    split
    · exact waits
    · exact waits.congr fun _ => rfl

/-- What an instruction leaves is left within all frames, and held by the active one. -/
theorem act
    {machine : Machine}
    {waiting : List WaitingFrame}
    (reckoned : Reckoned chronicle ⟨.running machine, waiting⟩) :
    Reckoned
      (chronicle.stepped (machine.effect? environment.rules) machine.simulation.trace
        (Exec.step environment Runner.idle machine))
      ⟨.ofResult (Exec.step environment Runner.idle machine), waiting⟩ := by
  obtain ⟨numbered, active, waits⟩ := reckoned
  cases steps : Exec.step environment Runner.idle machine with
  | error error after =>
      exact halted (numbered.executed _ _) (waits.congr fun _ => rfl) _ error after
  | ok answer after =>
      have numbered' := numbered.executed machine.simulation.trace after.simulation.trace
      refine ⟨numbered'.affected _, fun bequest held => ?_, ?_⟩
      · cases held
        refine Eq.trans ?_ (congrArg _ (leftWithin_affected_path _ _).symm)
        rw [Bequest.of_append, Exec.bequest_of_step steps, Bequest.total_plus]
        exact congrArg (Bequest.plus · _) (active _ rfl)
      · exact waits.congr fun within => leftWithin_affected_waiting numbered' _ within.subset

/-- What a frame hands on is held by the one that takes it, and so is nothing else. -/
theorem handOn
    {result : EStateM.Result VmError Simulation Outcome}
    {frame : WaitingFrame}
    {waiting : List WaitingFrame}
    (reckoned : Reckoned chronicle ⟨.ended result, frame :: waiting⟩) :
    Reckoned
      ((chronicle.handedOn (frame.awaited.completes environment.limits result)).did frame.place
        (frame.resume environment.limits result))
      ⟨.ofResult (frame.resume environment.limits result), waiting⟩ := by
  obtain ⟨numbered, active, waits⟩ := reckoned
  generalize ends : frame.awaited.completes environment.limits result = completes
  cases waitingFor : chronicle.waiting with
  | nil =>
      rw [waitingFor] at waits
      exact waits.elim
  | cons starter others =>
      rw [waitingFor] at waits
      obtain ⟨held, below⟩ := waits
      have numbered' := numbered.handedOn waitingFor completes
      have below' :
          (chronicle.handedOn completes).Balanced (chronicle.handedOn completes).waiting
            (waiting.map fun waiting => waiting.frame.bequest) := by
        rw [handedOn_cons waitingFor]
        exact below.congr fun within =>
          leftWithin_closed_below numbered waitingFor completes within.subset
      cases resumed : frame.resume environment.limits result with
      | error error after =>
          exact halted numbered' below' _ error after
      | ok answer after =>
          have takes := WaitingFrame.bequest_of_resume resumed
          rw [ends] at takes
          refine ⟨numbered', fun bequest now => ?_, below'⟩
          cases now
          cases completes with
          | false =>
              rw [handedOn_cons waitingFor]
              exact (congrArg (fun bequest => Bequest.total (bequest :: _)) takes).trans held
          | true =>
              obtain ⟨outcome, reached, rfl, succeeds, takes⟩ := takes
              rw [handedOn_cons waitingFor]
              have handed := active outcome.bequest (if_pos succeeds)
              have left := leftWithin_closed chronicle (starter :: others)
              unfold Chronicle.path at handed
              rw [waitingFor, ← left] at handed
              rw [takes, Bequest.total_plus]
              exact handed

/-- Every move keeps what frames hold in line with what is told. -/
theorem tells
    (reckoned : Reckoned chronicle before)
    (told : Tells environment chronicle before after chronicle') :
    Reckoned chronicle' after := by
  cases told with
  | close finished => exact reckoned.close
  | launch found => exact reckoned.launch found
  | act => exact reckoned.act
  | handOn => exact reckoned.handOn

end Reckoned

/-- So it is all along a run. -/
theorem Told.reckoned
    {limits : Limits}
    {context : FrameContext}
    {code : Bytes}
    {simulation : Simulation}
    (told : Told environment (first limits context code simulation) stack chronicle) :
    Reckoned chronicle stack := by
  induction told with
  | start => exact .first limits context code simulation
  | move told moves inductionHypothesis => exact inductionHypothesis.tells (moves.tells _)

/-! ## What is handed out -/

/-- A move adds to the effects at most what an instruction leaves. -/
theorem Tells.effects_cases
    (told : Tells environment chronicle before after chronicle') :
    chronicle'.effects = chronicle.effects ∨
      ∃ machine : Machine, ∃ effect,
        machine.effect? environment.rules = some effect ∧
          chronicle'.effects = chronicle.effects ++ [(chronicle.path, effect)] := by
  cases told with
  | close => exact .inl rfl
  | launch => exact .inl rfl
  | @act machine waiting =>
      cases Exec.step environment Runner.idle machine with
      | error error after => exact .inl (effects_did _ _ (.error error after))
      | ok answer after =>
          cases left : machine.effect? environment.rules with
          | none => exact .inl (List.append_nil _)
          | some effect => exact .inr ⟨machine, effect, left, rfl⟩
  | handOn =>
      refine .inl ((effects_did _ _ _).trans ?_)
      obtain ⟨_, _, _, same⟩ := chronicle.exists_handedOn_eq _
      rw [same]

/-- Nothing that is refunded in a run is worth much. -/
theorem Told.natAbs_refund_le
    (told : Told environment start stack chronicle) :
    ∀ left ∈ chronicle.effects, left.2.refund.toInt.natAbs ≤ 2 ^ 15 := by
  induction told with
  | start => exact nofun
  | move told moves inductionHypothesis =>
      rcases (moves.tells _).effects_cases with same | ⟨machine, effect, leaves, adds⟩
      · rw [same]
        exact inductionHypothesis
      · rw [adds]
        refine List.forall_mem_append.mpr ⟨inductionHypothesis, fun left newest => ?_⟩
        cases List.mem_singleton.mp newest
        exact Exec.natAbs_refund_effect?_le leaves

/-- Nothing survives of a run whose first frame has not completed. -/
theorem survivors_of_failed
    (numbered : chronicle.IsNumbered)
    (alone : chronicle.waiting = []) :
    chronicle.survivors = [] := by
  obtain ⟨-, -, ended, -, rooted⟩ := numbered
  have all :
      ∀ left ∈ chronicle.effects, ¬ chronicle.counts [] left = true := by
    intro left member counted
    have within := rooted left member
    unfold path at within
    rw [alone] at within
    rcases within with inside | ⟨-, impossible⟩
    · rcases counts_iff.mp counted _ (inside _ List.mem_cons_self) with closed | nowhere
      · exact (ended _ closed).2 List.mem_cons_self
      · cases nowhere
    · exact impossible
  unfold survivors leftWithin
  rw [List.filter_eq_nil_iff.mpr all]
  rfl

/-- The first frame hands on what survives. -/
theorem Reckoned.bequest_of_settle
    {ended : EStateM.Result VmError Simulation Outcome}
    {limits : Limits}
    {awaited : Awaited}
    {outcome : Outcome}
    {after : Simulation}
    (reckoned : Reckoned chronicle ⟨.ended ended, []⟩)
    (settles : awaited.settle limits ended = .ok outcome after)
    (succeeds : outcome.isSuccess = true) :
    outcome.bequest = Bequest.of (chronicle.closed true).survivors := by
  obtain ⟨inner, reached, rfl, completes, same, -⟩ := awaited.exists_of_settle settles succeeds
  have held := reckoned.active inner.bequest (if_pos completes)
  have alone := reckoned.waiting.eq_nil
  unfold path at held
  rw [alone, ← leftWithin_closed] at held
  rw [same]
  exact (Bequest.empty_plus _).symm.trans held

end CallStack

/-- What a transaction hands out is what these effects come to. -/
structure CallResult.HandsOut
    (effects : List Effect)
    (counter : Int64)
    (result : CallResult) : Prop where
  logs : result.logs = effects.filterMap Effect.log?
  summed : result.success = true → counter = (effects.map Effect.refund).sum
  /-- The sum is that of integers, unless there are more writes than a run has time for. -/
  counted :
    effects.length ≤ 2 ^ 47 →
      (effects.map Effect.refund).sum.toInt =
        (effects.map fun effect => effect.refund.toInt).sum
  refund :
    result.success = true →
      result.gasRefund = Gas.cappedRefund (result.gasUsed + result.gasRefund) counter
  failed : result.success = false → effects = [] ∧ result.logs = [] ∧ result.gasRefund = 0

namespace Environment

open CallStack (Told)

theorem handsOut_settle
    {outcome : Outcome}
    {effects : List Effect}
    (gasLimit : UInt64)
    (steps : List TraceStep)
    (small : ∀ effect ∈ effects, effect.refund.toInt.natAbs ≤ 2 ^ 15)
    (succeeds : outcome.isSuccess = true → outcome.bequest = Bequest.of effects)
    (fails : outcome.isSuccess = false → effects = []) :
    CallResult.HandsOut effects outcome.refund { settle gasLimit outcome with steps } := by
  have counted (few : effects.length ≤ 2 ^ 47) :
      (effects.map Effect.refund).sum.toInt =
        (effects.map fun effect => effect.refund.toInt).sum := by
    have small : ∀ value ∈ effects.map Effect.refund, value.toInt.natAbs ≤ 2 ^ 15 :=
      List.forall_mem_map.mpr small
    rw [(Int64.toInt_sum small (by rw [List.length_map]; omega)).1, List.map_map]
    rfl
  obtain ⟨status, output, gas, counter, logs, created⟩ := outcome
  cases status with
  | completed =>
      have held := succeeds rfl
      refine ⟨congrArg Bequest.logs held, fun _ => congrArg Bequest.refund held, counted, ?_, nofun⟩
      intro _
      exact congrArg (Gas.cappedRefund · counter) (UInt64.sub_add_cancel _ _).symm
  | reverted =>
      cases fails rfl
      exact ⟨rfl, nofun, counted, nofun, fun _ => ⟨rfl, rfl, rfl⟩⟩
  | halted error =>
      cases fails rfl
      unfold settle
      dsimp only
      split
      · exact ⟨rfl, nofun, counted, nofun, fun _ => ⟨rfl, rfl, rfl⟩⟩
      · exact ⟨rfl, nofun, counted, nofun, fun _ => ⟨rfl, rfl, rfl⟩⟩

/-- Where no frame is started nothing is left. -/
theorem bequest_of_no_frame
    {environment : Environment}
    {context : FrameContext}
    {isCreation : Bool}
    {entered after : Simulation}
    {outcome : Outcome}
    (ran : environment.firstFrameBy Runner.idle context isCreation entered = .ok outcome after) :
    outcome.bequest = Bequest.of [] := by
  have bare : SimAction.LeavesBare (environment.firstFrameBy Runner.idle context isCreation) := by
    unfold firstFrameBy
    split
    · exact .createContract_idle _ _ _
    · exact .messageCall (fun _ _ _ => trivial) _
  obtain ⟨logs, refund⟩ := bare.of_ok ran trivial
  ext1
  · exact congrArg Array.toList logs
  · exact refund

/--
Surviving effects.  For every transaction with a result, its logs are those of the instructions
that logged in a frame which has completed, like all those below it, in the order of the run; and
the refund that its first frame hands on is the sum of what the writes to storage refunded in
frames of that kind.  A transaction that does not succeed has no logs and no refund.
-/
theorem only_surviving_effects_are_handed_out
    {environment : Environment}
    {context : FrameContext}
    {isCreation : Bool}
    {world : World}
    {trace : Trace}
    {result : CallResult}
    (done : environment.transact context isCreation world trace = .ok result) :
    let paid :=
      { context with gasLimit := context.gasLimit - Gas.intrinsic context.data isCreation }
    let entered : Simulation := { world := warmed context isCreation world, trace }
    context.gasLimit < Gas.intrinsic context.data isCreation ∧ result.HandsOut [] 0 ∨
      ∃ outcome after,
        environment.firstFrame paid isCreation entered = .ok outcome after ∧
          (environment.firstStack? paid isCreation entered = none ∧
              result.HandsOut [] outcome.refund ∨
            ∃ start ended chronicle,
              environment.firstStack? paid isCreation entered = some start ∧
                Told environment start ⟨.ended ended, []⟩ chronicle ∧
                result.HandsOut (chronicle.closed result.success).survivors outcome.refund) := by
  intro paid entered
  rcases exists_of_transact done with ⟨short, rfl⟩ | ⟨outcome, after, ran, rfl⟩
  · exact .inl ⟨short, rfl, nofun, fun _ => rfl, nofun, fun _ => ⟨rfl, rfl, rfl⟩⟩
  refine .inr ⟨outcome, after, ran, ?_⟩
  rcases exists_of_firstFrame ran with
    ⟨none, ran⟩ | ⟨context', code, opened, count, ended, awaited, begins, leads, closes⟩
  · exact .inl ⟨none, handsOut_settle _ _ nofun (fun _ => bequest_of_no_frame ran) fun _ => rfl⟩
  · obtain ⟨chronicle, told⟩ := CallStack.exists_told_of_leads leads
    refine .inr ⟨_, ended, chronicle, begins, told, ?_⟩
    obtain ⟨inner, settles, -⟩ := SimAction.exists_of_closeFrame closes
    have reckoned := told.reckoned
    have success : (settle context.gasLimit outcome).success = outcome.isSuccess :=
      success_settle _ _
    refine handsOut_settle _ _ ?_ ?_ ?_
    · intro effect member
      obtain ⟨left, counted, rfl⟩ := List.mem_map.mp member
      have earlier := List.mem_of_mem_filter counted
      rw [chronicle.effects_closed] at earlier
      exact told.natAbs_refund_le left earlier
    · intro succeeds
      rw [success, succeeds]
      exact reckoned.bequest_of_settle settles succeeds
    · intro fails
      rw [success, fails]
      exact CallStack.survivors_of_failed reckoned.numbered reckoned.waiting.eq_nil

/--
A contract calls one that logs, calls another one and reverts, and then calls that other one itself,
which logs and clears a slot.  What was left in the call that has reverted is lost, though the other
contract has completed in it.
-/
theorem effects_of_reverted_call_are_lost :
    let source : PriceSource :=
      { schedule := FeeSchedule.empty.list ⟨0⟩ [.contractCall] { }
        rates := RateTable.empty.list ⟨0⟩ (.lasting 1 12) }
    let environment : Environment :=
      { rules := ⟨⟨0, 50, 0⟩, .cancun, ⟨true, true⟩, ⟨true, true⟩⟩
        prices := source }
    let clearing :=
      Account.newContract (Address.ofNum 1002)
        [0x60, 0x01, 0x5f, 0x5f, 0xa1, 0x5f, 0x5f, 0x55, 0x00]
    let reverting :=
      Account.newContract (Address.ofNum 1004)
        [0x60, 0x02, 0x5f, 0x5f, 0xa1, 0x5f, 0x5f, 0x5f, 0x5f, 0x5f, 0x61, 0x03, 0xea, 0x5a, 0xf1,
          0x5f, 0x5f, 0xfd]
    let calling :=
      Account.newContract (Address.ofNum 1003)
        [0x5f, 0x5f, 0x5f, 0x5f, 0x5f, 0x61, 0x03, 0xec, 0x5a, 0xf1, 0x5f, 0x5f, 0x5f, 0x5f, 0x5f,
          0x61, 0x03, 0xea, 0x5a, 0xf1, 0x60, 0x03, 0x5f, 0x5f, 0xa1, 0x00]
    let contents : Snapshot.Contents :=
      { accounts :=
          Table.ofList
            [(clearing.address, clearing), (reverting.address, reverting),
              (calling.address, calling)]
        storage := Table.ofList [(⟨clearing.address, 0⟩, 7)] }
    let world := World.ofSnapshot (Snapshot.ofContents contents) true ⟨0⟩ 5000
    let context :=
      FrameContext.ofTransaction (Address.ofNum 1001) calling.address 0 [] 100000 1 { }
    let paid := { context with gasLimit := context.gasLimit - Gas.intrinsic context.data false }
    ∃ result outcome after start ended chronicle,
      environment.transact context false world Trace.off = .ok result ∧
        (result.success, result.logs, result.gasRefund) =
          (true, [⟨clearing.address, [⟨1⟩], []⟩, ⟨calling.address, [⟨3⟩], []⟩], 4177) ∧
        environment.firstFrame paid false
            { world := warmed context false world, trace := Trace.off } =
          .ok outcome after ∧
        Told environment start ⟨.ended ended, []⟩ chronicle ∧
        result.HandsOut (chronicle.closed result.success).survivors outcome.refund := by
  intro source environment clearing reverting calling contents world context paid
  let shown (result : CallResult) := (result.success, result.logs, result.gasRefund)
  have handedOut :
      (environment.transact context false world Trace.off).map shown =
        .ok (true, [⟨clearing.address, [⟨1⟩], []⟩, ⟨calling.address, [⟨3⟩], []⟩], 4177) := by
    decide +kernel
  have started :
      (environment.firstStack? paid false
        { world := warmed context false world, trace := Trace.off }).isSome = true := by
    decide +kernel
  cases done : environment.transact context false world Trace.off with
  | error error =>
      rw [done] at handedOut
      cases handedOut
  | ok result =>
      rw [done] at handedOut
      have same := Except.ok.inj handedOut
      rcases only_surviving_effects_are_handed_out done with
        ⟨short, _⟩ | ⟨outcome, after, ran, ⟨none, _⟩ | ⟨start, ended, chronicle, _, told, handsOut⟩⟩
      · exact absurd short (by decide)
      · exact absurd started (by rw [none]; exact Bool.false_ne_true)
      · exact ⟨result, outcome, after, start, ended, chronicle, rfl, same, ran, told, handsOut⟩

end Environment

end LedgerEvm
