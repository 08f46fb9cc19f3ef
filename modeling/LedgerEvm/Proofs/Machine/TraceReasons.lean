import LedgerEvm.Proofs.Machine.Chronicles
import LedgerEvm.Proofs.Machine.TraceViews
import LedgerEvm.Proofs.Machine.Resumptions

namespace LedgerEvm

/-!
# Reasons in traces

When a frame halts, the reason is marked in the step that was recorded last.  That is the step at
which the frame has halted, if that had been recorded; but an instruction that is not defined, or
not allowed in a static frame, is refused before it is recorded, and then the reason is marked in
an earlier step, of whichever frame.
-/

namespace Chronicle

/-- Why a frame halted while no step after this one was recorded; the last one to halt counts. -/
def reasonAt (chronicle : Chronicle) (place : Nat) : Option String :=
  ((chronicle.halts.filter fun halt => halt.shown == place + 1).getLast?).map fun halt =>
    Frame.reasonText halt.error

/-- The reasons that are marked in the steps of the run. -/
def reasons (chronicle : Chronicle) : List (Option String) :=
  (List.range chronicle.executors.length).map chronicle.reasonAt

/-- A frame has halted at a step which it had recorded, for this reason. -/
def HaltsAt (chronicle : Chronicle) (place : Nat) (reason : String) : Prop :=
  ∃ halt ∈ chronicle.halts,
    halt.place = some place ∧
      chronicle.executors[place]? = some halt.frame ∧
      Frame.reasonText halt.error = reason

variable {chronicle : Chronicle}

theorem length_reasons
    (chronicle : Chronicle) :
    chronicle.reasons.length = chronicle.executors.length := by
  rw [reasons, List.length_map, List.length_range]

theorem getElem?_reasons
    (chronicle : Chronicle)
    (place : Nat) :
    chronicle.reasons[place]? =
      if place < chronicle.executors.length then some (chronicle.reasonAt place) else none := by
  rw [reasons, List.getElem?_map]
  split
  · rename_i within
    rw [List.getElem?_range within]
    rfl
  · rename_i beyond
    rw [List.getElem?_eq_none (by rw [List.length_range]; omega)]
    rfl

/-- Once one more frame has halted, its reason is that of the step that was recorded last. -/
theorem reasonAt_append
    (chronicle : Chronicle)
    (halt : Halt)
    (place : Nat) :
    { chronicle with halts := chronicle.halts ++ [halt] }.reasonAt place =
      if halt.shown = place + 1 then
        some (Frame.reasonText halt.error)
      else
        chronicle.reasonAt place := by
  rw [reasonAt, List.filter_append, List.filter_singleton]
  by_cases shown : halt.shown = place + 1
  · rw [if_pos shown, beq_iff_eq.mpr shown, cond_true, List.getLast?_concat]
    rfl
  · rw [if_neg shown, beq_eq_false_iff_ne.mpr shown, cond_false, List.append_nil]
    rfl

/-- The reason for which a frame halts is marked in the last step. -/
theorem reasons_append
    (chronicle : Chronicle)
    {halt : Halt}
    (last : halt.shown = chronicle.executors.length) :
    { chronicle with halts := chronicle.halts ++ [halt] }.reasons =
      chronicle.reasons.modify (chronicle.reasons.length - 1)
        fun _ => some (Frame.reasonText halt.error) := by
  apply List.ext_getElem?
  intro place
  rw [List.getElem?_modify, getElem?_reasons, getElem?_reasons, length_reasons, reasonAt_append,
    last]
  by_cases within : place < chronicle.executors.length
  · have here :
        chronicle.executors.length = place + 1 ↔ chronicle.executors.length - 1 = place := by
      omega
    simp only [if_pos within, here, Option.map_eq_map, Option.map_some]
  · simp only [if_neg within, Option.map_eq_map, Option.map_none]

/-- What is told of halts goes with what is told of steps. -/
structure IsPlaced (chronicle : Chronicle) : Prop where
  shown : ∀ halt ∈ chronicle.halts, halt.shown ≤ chronicle.executors.length
  atStep :
    ∀ halt ∈ chronicle.halts, ∀ place,
      halt.place = some place →
      halt.shown = place + 1 ∧ chronicle.executors[place]? = some halt.frame
  early :
    ∀ halt ∈ chronicle.halts,
      halt.place = none →
      halt.error = .writeInStaticContext ∨ ∃ byte, halt.error = .invalidOpcode byte
  once :
    ∀ halt ∈ chronicle.halts, ∀ halt' ∈ chronicle.halts, ∀ place,
      halt.place = some place →
      halt'.place = some place →
      halt = halt'

theorem executed_of_same
    (chronicle : Chronicle)
    {before after : Trace}
    (same : after.steps.size = before.steps.size) :
    chronicle.executed before after = chronicle := by
  rw [executed, same, Nat.sub_self, List.replicate_zero, List.append_nil]

theorem executed_of_recorded
    (chronicle : Chronicle)
    {before after : Trace}
    (recorded : after.steps.size = before.steps.size + 1) :
    chronicle.executed before after =
      { chronicle with executors := chronicle.executors ++ [chronicle.active] } := by
  rw [executed, recorded, Nat.add_sub_cancel_left, List.replicate_one]

namespace IsPlaced

theorem first :
    IsPlaced { } where
  shown _ member := nomatch member
  atStep _ member := nomatch member
  early _ member := nomatch member
  once _ member := nomatch member

/-- A recorded step carries no reason yet. -/
theorem reasons_executed
    (placed : chronicle.IsPlaced) :
    { chronicle with executors := chronicle.executors ++ [chronicle.active] }.reasons =
      chronicle.reasons ++ [none] := by
  have unmarked : chronicle.reasonAt chronicle.executors.length = none := by
    have none :
        (chronicle.halts.filter fun halt => halt.shown == chronicle.executors.length + 1) = [] := by
      refine List.filter_eq_nil_iff.mpr fun halt member shown => ?_
      have within := placed.shown halt member
      have beyond := beq_iff_eq.mp shown
      omega
    rw [reasonAt, none]
    rfl
  change (List.range (chronicle.executors ++ [chronicle.active]).length).map chronicle.reasonAt = _
  rw [List.length_append, List.length_singleton, List.range_succ, List.map_append,
    List.map_singleton, unmarked]
  rfl

theorem executed
    (placed : chronicle.IsPlaced) :
    { chronicle with executors := chronicle.executors ++ [chronicle.active] }.IsPlaced where
  shown halt member := by
    have within := placed.shown halt member
    rw [List.length_append]
    exact Nat.le_add_right_of_le within
  atStep halt member place here := by
    obtain ⟨shown, executor⟩ := placed.atStep halt member place here
    refine ⟨shown, ?_⟩
    obtain ⟨within, -⟩ := List.getElem?_eq_some_iff.mp executor
    exact (List.getElem?_append_left within).trans executor
  early := placed.early
  once := placed.once

theorem append
    (placed : chronicle.IsPlaced)
    {halt : Halt}
    (last : halt.shown = chronicle.executors.length)
    (atStep :
      ∀ place,
        halt.place = some place →
        halt.shown = place + 1 ∧ chronicle.executors[place]? = some halt.frame)
    (early :
      halt.place = none →
      halt.error = .writeInStaticContext ∨ ∃ byte, halt.error = .invalidOpcode byte)
    (fresh :
      ∀ place, halt.place = some place → ∀ earlier ∈ chronicle.halts, earlier.shown ≤ place) :
    { chronicle with halts := chronicle.halts ++ [halt] }.IsPlaced := by
  have later (place : Nat)
      (here : halt.place = some place) :
      ∀ earlier ∈ chronicle.halts, earlier.place ≠ some place := by
    intro earlier member there
    have shown := (placed.atStep earlier member place there).1
    have before := fresh place here earlier member
    omega
  refine ⟨?_, ?_, ?_, ?_⟩
  · exact List.forall_mem_append.mpr
      ⟨placed.shown, List.forall_mem_singleton.mpr (Nat.le_of_eq last)⟩
  · exact List.forall_mem_append.mpr ⟨placed.atStep, List.forall_mem_singleton.mpr atStep⟩
  · exact List.forall_mem_append.mpr ⟨placed.early, List.forall_mem_singleton.mpr early⟩
  · refine List.forall_mem_append.mpr ⟨fun one member => ?_, List.forall_mem_singleton.mpr ?_⟩
    · refine List.forall_mem_append.mpr ⟨placed.once one member, List.forall_mem_singleton.mpr ?_⟩
      exact fun place here there => (later place there one member here).elim
    · refine List.forall_mem_append.mpr ⟨fun other member place here there => ?_, ?_⟩
      · exact (later place here other member there).elim
      · exact List.forall_mem_singleton.mpr fun _ _ _ => rfl

/-- A reason is right in a step that no frame has found last which halted early. -/
theorem reasonAt_eq_some_iff
    (placed : chronicle.IsPlaced)
    {place : Nat}
    (recorded : ∀ halt ∈ chronicle.halts, halt.shown = place + 1 → halt.place ≠ none)
    (reason : String) :
    chronicle.reasonAt place = some reason ↔ chronicle.HaltsAt place reason := by
  have here
      {halt : Halt}
      (member : halt ∈ chronicle.halts)
      (shown : halt.shown = place + 1) :
      halt.place = some place := by
    cases here : halt.place with
    | none => exact (recorded halt member shown here).elim
    | some place' =>
        have same := (placed.atStep halt member place' here).1
        exact congrArg some (by omega)
  constructor
  · intro marked
    obtain ⟨halt, last, rfl⟩ := Option.map_eq_some_iff.mp marked
    obtain ⟨member, shown⟩ := List.mem_filter.mp (List.mem_of_getLast? last)
    have placedHere := here member (beq_iff_eq.mp shown)
    exact ⟨halt, member, placedHere, (placed.atStep halt member place placedHere).2, rfl⟩
  · rintro ⟨halt, member, placedHere, -, rfl⟩
    have shown := (placed.atStep halt member place placedHere).1
    have found : halt ∈ chronicle.halts.filter fun halt => halt.shown == place + 1 :=
      List.mem_filter.mpr ⟨member, beq_iff_eq.mpr shown⟩
    have ends := List.getLast?_eq_some_getLast (List.ne_nil_of_mem found)
    obtain ⟨member', shown'⟩ := List.mem_filter.mp (List.mem_of_getLast? ends)
    have same :=
      placed.once _ member' _ member place (here member' (beq_iff_eq.mp shown')) placedHere
    rw [reasonAt, ends, same]
    rfl

end IsPlaced

end Chronicle

namespace TraceView

/-- No reason changes when the frame that waits goes on. -/
theorem reasons_resume
    {values : List (Option String)}
    {ended : EStateM.Result VmError Simulation Outcome}
    (limits : Limits)
    (waiting : WaitingFrame)
    (shows : reasons.ShowsIn values (stateOf ended)) :
    reasons.ShowsIn values (stateOf (waiting.resume limits ended)).simulation := by
  obtain ⟨machine, kept, resumed⟩ :=
    (reasons.besideAccess values).exists_of_resume limits waiting shows
  rw [resumed]
  cases waiting.place with
  | none => exact kept
  | some index =>
      have amended := Exec.shows_amend kept index waiting.gasBefore
      change reasons.ShowsIn (values.modify index id) _ at amended
      rwa [List.modify_id] at amended

end TraceView

namespace CallStack

/-- The reasons that are told of a run are those that its trace shows. -/
structure Explained (chronicle : Chronicle) (stack : CallStack) : Prop where
  sound : stack.IsSound
  placed : chronicle.IsPlaced
  shows : TraceView.reasons.ShowsIn chronicle.reasons stack.active.simulation

variable
  {environment : Environment}
  {chronicle chronicle' : Chronicle}
  {start before after stack : CallStack}

namespace Explained

theorem first
    {limits : Limits}
    {context : FrameContext}
    {code : Bytes}
    {simulation : Simulation}
    (shows : TraceView.reasons.ShowsIn [] simulation) :
    Explained { } (first limits context code simulation) where
  sound := .first limits context code simulation
  placed := .first
  shows := shows

/-- As many steps are told of as are shown. -/
theorem size_eq
    (explained : Explained chronicle stack) :
    stack.active.simulation.trace.steps.size = chronicle.executors.length := by
  rw [explained.shows.size_eq, Chronicle.length_reasons]

/-- The active frame has executed the step that is shown in addition. -/
theorem executed_of_shows
    {machine : Machine}
    {waiting : List WaitingFrame}
    {after : Simulation}
    (explained : Explained chronicle ⟨.running machine, waiting⟩)
    (shows : TraceView.reasons.ShowsIn (chronicle.reasons ++ [none]) after) :
    after.trace.steps.size = machine.simulation.trace.steps.size + 1 ∧
      chronicle.executed machine.simulation.trace after.trace =
        { chronicle with executors := chronicle.executors ++ [chronicle.active] } := by
  have before := explained.shows.size_eq
  have recorded : after.trace.steps.size = machine.simulation.trace.steps.size + 1 := by
    rw [shows.size_eq, List.length_append, List.length_singleton]
    exact congrArg (· + 1) before.symm
  exact ⟨recorded, chronicle.executed_of_recorded recorded⟩

/-- What ends the run is no halt, and has no reason marked. -/
theorem aborted
    {waiting : List WaitingFrame}
    {error : VmError}
    {after : Machine}
    (sound : IsSound ⟨.ofResult (.error error after), waiting⟩)
    (placed : chronicle.IsPlaced)
    (shows : TraceView.reasons.ShowsIn chronicle.reasons after.simulation)
    (aborts : error.isAbort = true)
    (place : Option Nat) :
    Explained (chronicle.halted place error after.simulation.trace)
      ⟨.ofResult (.error error after), waiting⟩ := by
  have kept := @TraceView.shows_ofResult _ _ _ (.error error after) shows
  dsimp only [TraceView.settled] at kept
  rw [if_pos aborts] at kept
  rw [Chronicle.halted, if_pos aborts]
  exact ⟨sound, placed, kept⟩

/-- A frame that halts has its reason marked where it is told of. -/
theorem halted
    {waiting : List WaitingFrame}
    {error : VmError}
    {after : Machine}
    {place : Option Nat}
    (sound : IsSound ⟨.ofResult (.error error after), waiting⟩)
    (placed : chronicle.IsPlaced)
    (shows : TraceView.reasons.ShowsIn chronicle.reasons after.simulation)
    (atStep :
      ∀ index,
        place = some index →
        chronicle.executors.length = index + 1 ∧
          chronicle.executors[index]? = some chronicle.active ∧
          ∀ earlier ∈ chronicle.halts, earlier.shown ≤ index)
    (early : place = none → error.IsEarly) :
    Explained (chronicle.halted place error after.simulation.trace)
      ⟨.ofResult (.error error after), waiting⟩ := by
  by_cases aborts : error.isAbort = true
  · exact aborted sound placed shows aborts place
  · have size : after.simulation.trace.steps.size = chronicle.executors.length := by
      rw [shows.size_eq, Chronicle.length_reasons]
    have marked := @TraceView.shows_ofResult _ _ _ (.error error after) shows
    dsimp only [TraceView.settled] at marked
    rw [if_neg aborts] at marked
    have reasons :=
      @Chronicle.reasons_append chronicle ⟨chronicle.active, _, place, error⟩ size
    rw [Chronicle.halted, if_neg aborts]
    refine ⟨sound, placed.append size (fun index here => ?_) (fun unrecorded => ?_) ?_, ?_⟩
    · obtain ⟨last, executor, -⟩ := atStep index here
      exact ⟨size.trans last, executor⟩
    · exact (early unrecorded).resolve_left aborts
    · exact fun index here => (atStep index here).2.2
    · exact reasons ▸ marked

theorem launch
    {machine : Machine}
    {waiting : List WaitingFrame}
    {launch : FrameLaunch}
    (explained : Explained chronicle ⟨.running machine, waiting⟩)
    (sound : IsSound ⟨.running (launch.start environment.limits), launch.waiting :: waiting⟩)
    (found : Exec.launch? environment machine = some launch) :
    Explained (chronicle.executed machine.simulation.trace launch.simulation.trace).launched
      ⟨.running (launch.start environment.limits), launch.waiting :: waiting⟩ := by
  obtain ⟨⟨cost, shows⟩, -, -⟩ := Exec.shows_launch? found explained.shows
  rw [(explained.executed_of_shows shows).2]
  obtain ⟨shown, atStep, early, once⟩ := explained.placed.executed
  refine ⟨sound, ⟨shown, atStep, early, once⟩, ?_⟩
  have reasons := explained.placed.reasons_executed
  exact reasons ▸ shows

theorem act
    {machine : Machine}
    {waiting : List WaitingFrame}
    (explained : Explained chronicle ⟨.running machine, waiting⟩)
    (sound : IsSound ⟨.ofResult (Exec.step environment Runner.idle machine), waiting⟩) :
    Explained
      (chronicle.stepped (machine.effect? environment.rules) machine.simulation.trace
        (Exec.step environment Runner.idle machine))
      ⟨.ofResult (Exec.step environment Runner.idle machine), waiting⟩ := by
  have steps :
      Ensures
        (fun machine' =>
          TraceView.reasons.ShowsIn chronicle.reasons machine'.simulation ∧
            machine'.frame.gas = machine.frame.gas)
        (Exec.step environment Runner.idle) _ _ :=
    Exec.shows_step
  have reasons := explained.placed.reasons_executed
  cases result : Exec.step environment Runner.idle machine with
  | ok answer after =>
      rw [result] at sound
      have shows := steps.of_ok result ⟨explained.shows, rfl⟩
      unfold Chronicle.stepped
      dsimp only
      rw [(explained.executed_of_shows shows).2]
      obtain ⟨shown, atStep, early, once⟩ := explained.placed.executed
      exact ⟨sound, ⟨shown, atStep, early, once⟩, reasons ▸ shows⟩
  | error error after =>
      rw [result] at sound
      unfold Chronicle.stepped
      dsimp only
      rcases steps.of_error result ⟨explained.shows, rfl⟩ with ⟨early, shows⟩ | ⟨cost, shows⟩
      · have same :
            after.simulation.trace.steps.size = machine.simulation.trace.steps.size :=
          shows.size_eq.trans explained.shows.size_eq.symm
        rw [chronicle.executed_of_same same, if_neg (by omega)]
        exact halted sound explained.placed shows nofun fun _ => early
      · obtain ⟨recorded, executed⟩ := explained.executed_of_shows shows
        rw [executed, if_pos (by omega)]
        refine halted sound explained.placed.executed (reasons ▸ shows) ?_ nofun
        have size := explained.size_eq
        dsimp only [ActiveFrame.simulation] at size ⊢
        intro index here
        cases here
        rw [size, List.length_append]
        exact ⟨rfl, List.getElem?_concat_length, explained.placed.shown⟩

theorem handOn
    {result : EStateM.Result VmError Simulation Outcome}
    {frame : WaitingFrame}
    {waiting : List WaitingFrame}
    (explained : Explained chronicle ⟨.ended result, frame :: waiting⟩)
    (sound : IsSound ⟨.ofResult (frame.resume environment.limits result), waiting⟩)
    (completes : Bool) :
    Explained
      ((chronicle.handedOn completes).did frame.place (frame.resume environment.limits result))
      ⟨.ofResult (frame.resume environment.limits result), waiting⟩ := by
  obtain ⟨active, waitingFor, completed, same⟩ := chronicle.exists_handedOn_eq completes
  obtain ⟨shown, atStep, early, once⟩ := explained.placed
  have placed : (chronicle.handedOn completes).IsPlaced := by
    rw [same]
    exact ⟨shown, atStep, early, once⟩
  have shows : TraceView.reasons.ShowsIn chronicle.reasons (stateOf result) := by
    have shows := explained.shows
    cases result <;> exact shows
  have resumed := TraceView.reasons_resume environment.limits frame shows
  have reasons : chronicle.reasons = (chronicle.handedOn completes).reasons := by
    rw [same]
    rfl
  rw [reasons] at resumed
  cases ended : frame.resume environment.limits result with
  | ok answer after =>
      rw [ended] at sound resumed
      exact ⟨sound, placed, resumed⟩
  | error error after =>
      -- there is room for the answer, so this ends the run and is no halt of the frame
      have aborts := explained.sound.isAbort_of_resume ended
      rw [ended] at sound resumed
      exact aborted sound placed resumed aborts _

theorem tells
    (explained : Explained chronicle before)
    (sound : after.IsSound)
    (told : Tells environment chronicle before after chronicle') :
    Explained chronicle' after := by
  cases told with
  | close => exact ⟨sound, explained.placed, explained.shows⟩
  | launch found => exact explained.launch sound found
  | act => exact explained.act sound
  | handOn => exact explained.handOn sound _

end Explained

/-- So it is all along a run that is traced from its start. -/
theorem Told.explained
    {limits : Limits}
    {context : FrameContext}
    {code : Bytes}
    {simulation : Simulation}
    (shows : TraceView.reasons.ShowsIn [] simulation)
    (told : Told environment (.first limits context code simulation) stack chronicle) :
    Explained chronicle stack := by
  induction told with
  | start => exact .first shows
  | move told moves inductionHypothesis =>
      exact inductionHypothesis.tells (inductionHypothesis.sound.moves moves) (moves.tells _)

end CallStack

/-! ## What traces tell -/

/--
What the steps that a run has recorded tell of its halts.  Each carries the reason for which a frame
has halted while no later step was recorded.  If that frame had recorded the step at which it
failed, this is the step; and else it was refused an instruction, which is not recorded.
-/
structure Chronicle.Explains (chronicle : Chronicle) (steps : List TraceStep) : Prop where
  executed : chronicle.executors.length = steps.length
  marked : steps.map TraceStep.reason = chronicle.reasons
  placed : chronicle.IsPlaced
  /-- Unless a frame was refused an instruction right after it, a step tells of its own frame. -/
  blames :
    ∀ (place : Nat) (step : TraceStep),
      steps[place]? = some step →
      (∀ halt ∈ chronicle.halts, halt.shown = place + 1 → halt.place ≠ none) →
      ∀ reason, step.reason = some reason ↔ chronicle.HaltsAt place reason

/-- What is told of a traced run explains the steps that it has recorded. -/
theorem CallStack.Explained.explains
    {chronicle : Chronicle}
    {stack : CallStack}
    (explained : Explained chronicle stack) :
    chronicle.Explains stack.trace.steps.toList where
  executed := by
    rw [Array.length_toList]
    exact explained.size_eq.symm
  marked := explained.shows.values_eq
  placed := explained.placed
  blames place step here recorded reason := by
    have shown : chronicle.reasons[place]? = some step.reason := by
      rw [← explained.shows.values_eq, List.getElem?_map]
      exact congrArg (Option.map TraceStep.reason) here
    rw [Chronicle.getElem?_reasons] at shown
    split at shown
    · rw [← Option.some.inj shown]
      exact explained.placed.reasonAt_eq_some_iff recorded reason
    · cases shown

namespace Environment

open CallStack (Leads Moves Told tell)

/--
Trace reasons.  At every moment of a traced run, and in the steps of a transaction that has been
traced, a step carries a reason exactly when the frame that has executed it has halted at it, and
that is the reason of that halt, unless a frame was refused an instruction while that step was the
last one.  In that case it carries the reason of the refusal, whichever frame has executed it.
-/
theorem trace_reasons_explained
    (environment : Environment)
    (context : FrameContext)
    (isCreation : Bool)
    (options : TraceOptions) :
    (∀ {world : World} {start stack : CallStack} {chronicle : Chronicle},
      environment.firstStack? context isCreation
          { world, trace := Trace.ofMode .opcode options } = some start →
      Told environment start stack chronicle →
      chronicle.Explains stack.trace.steps.toList) ∧
      ∀ {world : World} {result : CallResult},
        environment.transact context isCreation world (Trace.ofMode .opcode options) =
          .ok result →
        result.steps = [] ∨
          ∃ start ended chronicle,
            environment.firstStack?
                { context with
                  gasLimit := context.gasLimit - Gas.intrinsic context.data isCreation }
                isCreation
                { world := warmed context isCreation world
                  trace := Trace.ofMode .opcode options } = some start ∧
              Told environment start ⟨.ended ended, []⟩ chronicle ∧
              chronicle.Explains result.steps := by
  have explained
      {context : FrameContext} {world : World} {start stack : CallStack} {chronicle : Chronicle}
      (begins :
        environment.firstStack? context isCreation
          { world, trace := Trace.ofMode .opcode options } = some start)
      (told : Told environment start stack chronicle) :
      chronicle.Explains stack.trace.steps.toList := by
    have beside := (TraceView.reasons.besideAccess []).toBesideWorld
    obtain ⟨context', code, opened, rfl, shows⟩ :=
      exists_of_firstStack?_beside beside ⟨rfl, rfl⟩ begins
    exact (told.explained shows).explains
  refine ⟨explained, fun done => ?_⟩
  rcases steps_of_transact rfl done with none | ⟨start, count, ended, begins, leads, same⟩
  · exact .inl none
  · obtain ⟨chronicle, told⟩ := CallStack.exists_told_of_leads leads
    refine .inr ⟨start, ended, chronicle, begins, told, ?_⟩
    rw [same]
    have shown := explained begins told
    cases ended <;> exact shown

/-- A contract calls one that takes a word from an empty stack, and that step carries the reason. -/
theorem reason_of_callee_with_empty_stack :
    let environment : Environment :=
      { rules := ⟨⟨0, 50, 0⟩, .cancun, ⟨true, true⟩, ⟨true, true⟩⟩
        prices := ⟨.empty, .empty, fun _ _ => 1⟩ }
    let called := Account.newContract (Address.ofNum 1002) [0x5f, 0x50, 0x50]
    let calling :=
      Account.newContract (Address.ofNum 1003)
        [0x5f, 0x5f, 0x5f, 0x5f, 0x5f, 0x61, 0x03, 0xea, 0x5a, 0xf1, 0x00]
    let contents : Snapshot.Contents :=
      { accounts := Table.ofList [(called.address, called), (calling.address, calling)] }
    let world := World.ofSnapshot (Snapshot.ofContents contents) true ⟨0⟩ 5000
    let context :=
      FrameContext.ofTransaction (Address.ofNum 1001) calling.address 0 [] 100000 1 { }
    ∃ start stack chronicle,
      environment.firstStack? context false { world, trace := Trace.ofMode .opcode { } } =
          some start ∧
        Told environment start stack chronicle ∧
        stack.trace.steps.toList.map (fun step => (step.name, step.depth, step.reason)) =
          [("PUSH0", 0, none), ("PUSH0", 0, none), ("PUSH0", 0, none), ("PUSH0", 0, none),
            ("PUSH0", 0, none), ("PUSH2", 0, none), ("GAS", 0, none), ("CALL", 0, none),
            ("PUSH0", 1, none), ("POP", 1, none), ("POP", 1, some "INSUFFICIENT_STACK_ITEMS"),
            ("STOP", 0, none)] ∧
        chronicle.halts = [⟨1, 11, some 10, .stackUnderflow⟩] ∧
        chronicle.Explains stack.trace.steps.toList := by
  intro environment called calling contents world context
  let shown (step : TraceStep) := (step.name, step.depth, step.reason)
  let expected : List (String × UInt16 × Option String) :=
    [("PUSH0", 0, none), ("PUSH0", 0, none), ("PUSH0", 0, none), ("PUSH0", 0, none),
      ("PUSH0", 0, none), ("PUSH2", 0, none), ("GAS", 0, none), ("CALL", 0, none),
      ("PUSH0", 1, none), ("POP", 1, none), ("POP", 1, some "INSUFFICIENT_STACK_ITEMS"),
      ("STOP", 0, none)]
  let check (told : CallStack × Chronicle) : Bool :=
    decide (told.1.trace.steps.toList.map shown = expected ∧
      told.2.halts = [⟨1, 11, some 10, .stackUnderflow⟩])
  have computed :
      ((environment.firstStack? context false
          { world, trace := Trace.ofMode .opcode { } }).bind fun start =>
        tell environment 14 (start, { })).any check = true := by
    decide +kernel
  obtain ⟨start, stack, chronicle, begins, told, checked⟩ :=
    CallStack.exists_told_of_tell 14 computed
  obtain ⟨steps, halts⟩ := of_decide_eq_true checked
  have explained := (trace_reasons_explained environment context false { }).1 begins told
  exact ⟨start, stack, chronicle, begins, told, steps, halts, explained⟩

/--
A contract calls one whose code is no instruction.  The call carries the reason for which the other
frame halts, though the frame that has executed it halts nowhere.
-/
theorem reason_of_refused_callee_marks_call :
    let environment : Environment :=
      { rules := ⟨⟨0, 50, 0⟩, .cancun, ⟨true, true⟩, ⟨true, true⟩⟩
        prices := ⟨.empty, .empty, fun _ _ => 1⟩ }
    let called := Account.newContract (Address.ofNum 1002) [0x0c]
    let calling :=
      Account.newContract (Address.ofNum 1003)
        [0x5f, 0x5f, 0x5f, 0x5f, 0x5f, 0x61, 0x03, 0xea, 0x5a, 0xf1, 0x00]
    let contents : Snapshot.Contents :=
      { accounts := Table.ofList [(called.address, called), (calling.address, calling)] }
    let world := World.ofSnapshot (Snapshot.ofContents contents) true ⟨0⟩ 5000
    let context :=
      FrameContext.ofTransaction (Address.ofNum 1001) calling.address 0 [] 100000 1 { }
    ∃ start stack chronicle,
      environment.firstStack? context false { world, trace := Trace.ofMode .opcode { } } =
          some start ∧
        Told environment start stack chronicle ∧
        stack.trace.steps.toList.map (fun step => (step.name, step.depth, step.reason)) =
          [("PUSH0", 0, none), ("PUSH0", 0, none), ("PUSH0", 0, none), ("PUSH0", 0, none),
            ("PUSH0", 0, none), ("PUSH2", 0, none), ("GAS", 0, none),
            ("CALL", 0, some "INVALID_OPERATION"), ("STOP", 0, none)] ∧
        chronicle.executors = List.replicate 9 0 ∧
        (∀ halt ∈ chronicle.halts, halt.frame = 1) ∧
        ¬ ∀ (place : Nat) (step : TraceStep),
            stack.trace.steps.toList[place]? = some step →
            ∀ reason, step.reason = some reason ↔ chronicle.HaltsAt place reason := by
  intro environment called calling contents world context
  let shown (step : TraceStep) := (step.name, step.depth, step.reason)
  let expected : List (String × UInt16 × Option String) :=
    [("PUSH0", 0, none), ("PUSH0", 0, none), ("PUSH0", 0, none), ("PUSH0", 0, none),
      ("PUSH0", 0, none), ("PUSH2", 0, none), ("GAS", 0, none),
      ("CALL", 0, some "INVALID_OPERATION"), ("STOP", 0, none)]
  let check (told : CallStack × Chronicle) : Bool :=
    decide (told.1.trace.steps.toList.map shown = expected ∧
      told.2.executors = List.replicate 9 0 ∧
      told.2.halts = [⟨1, 8, none, .invalidOpcode 0x0c⟩])
  have computed :
      ((environment.firstStack? context false
          { world, trace := Trace.ofMode .opcode { } }).bind fun start =>
        tell environment 12 (start, { })).any check = true := by
    decide +kernel
  obtain ⟨start, stack, chronicle, begins, told, checked⟩ :=
    CallStack.exists_told_of_tell 12 computed
  obtain ⟨steps, executors, halts⟩ := of_decide_eq_true checked
  dsimp only at steps executors halts
  refine ⟨start, stack, chronicle, begins, told, steps, executors, ?_, fun claimed => ?_⟩
  · rw [halts]
    exact List.forall_mem_singleton.mpr rfl
  · have called := congrArg (fun steps => steps[7]?) steps
    rw [List.getElem?_map] at called
    obtain ⟨step, here, same⟩ := Option.map_eq_some_iff.mp called
    have marked : step.reason = some "INVALID_OPERATION" :=
      congrArg (fun shown => shown.2.2) same
    obtain ⟨halt, member, place, -⟩ := (claimed 7 step here _).mp marked
    rw [halts] at member
    cases List.mem_singleton.mp member
    cases place

end Environment

end LedgerEvm
