import Mathlib.Data.List.Forall2

namespace LedgerEvm

/-!
# What actions ensure

Token actions, actions on a simulation and instructions all run on a state, may fail,
and leave a state behind in either case.  What is said of one is therefore said of
both ends: of the answer with the state it comes with, and of the error with the
state it was raised in.
-/

variable {ε σ α β : Type}

/-- Of two lists that agree in turn, what is in one has something in the other. -/
theorem exists_of_forall₂
    {fact : β → α → Prop}
    {items : List β}
    {answers : List α}
    (agree : List.Forall₂ fact items answers)
    {answer : α}
    (member : answer ∈ answers) :
    ∃ item ∈ items, fact item answer := by
  induction agree with
  | nil => cases member
  | cons first _ inductionHypothesis =>
      rcases List.mem_cons.mp member with rfl | among
      · exact ⟨_, List.mem_cons_self, first⟩
      · obtain ⟨item, inRest, holds⟩ := inductionHypothesis among
        exact ⟨item, List.mem_cons_of_mem _ inRest, holds⟩

/-- A chain of results that succeeds does so at each link. -/
theorem exists_of_bind_eq_ok
    {first : Except ε β}
    {next : β → Except ε α}
    {answer : α}
    (done : (first >>= next) = .ok answer) :
    ∃ value, first = .ok value ∧ next value = .ok answer := by
  cases first with
  | error error => cases done
  | ok value => exact ⟨value, rfl, done⟩

/-- A chain of results succeeds exactly when it does so at each link. -/
theorem bind_eq_ok_iff
    {first : Except ε β}
    {next : β → Except ε α}
    {answer : α} :
    (first >>= next) = .ok answer ↔ ∃ value, first = .ok value ∧ next value = .ok answer := by
  constructor
  · exact exists_of_bind_eq_ok
  · rintro ⟨value, rfl, done⟩
    exact done

/-- Both results are answers that compare, or one and the same error. -/
inductive AnswersAlike (alike : α → β → Prop) : Except ε α → Except ε β → Prop where
  | ok
      {answer : α} {answer' : β}
      (holds : alike answer answer') :
      AnswersAlike alike (.ok answer) (.ok answer')
  | error (error : ε) :
      AnswersAlike alike (.error error) (.error error)

namespace AnswersAlike

variable {γ δ : Type} {alike : α → β → Prop} {alike' : γ → δ → Prop}

theorem bind
    {first : Except ε α}
    {second : Except ε β}
    {next : α → Except ε γ}
    {next' : β → Except ε δ}
    (begins : AnswersAlike alike first second)
    (goesOn : ∀ answer answer',
      alike answer answer' → AnswersAlike alike' (next answer) (next' answer')) :
    AnswersAlike alike' (first >>= next) (second >>= next') := by
  cases begins with
  | ok holds => exact goesOn _ _ holds
  | error error => exact .error error

/-- One result goes on in two ways. -/
theorem of_bind
    (first : Except ε α)
    {next : α → Except ε γ}
    {next' : α → Except ε δ}
    (goesOn : ∀ answer,
      first = .ok answer → AnswersAlike alike' (next answer) (next' answer)) :
    AnswersAlike alike' (first >>= next) (first >>= next') := by
  cases first with
  | ok answer => exact goesOn answer rfl
  | error error => exact .error error

/-- The same errors on both sides, and for an answer one that compares. -/
theorem errors_and_answers
    {first : Except ε α}
    {second : Except ε β}
    (same : AnswersAlike alike first second) :
    (∀ error, first = .error error ↔ second = .error error) ∧
      ∀ answer, first = .ok answer → ∃ answer', second = .ok answer' ∧ alike answer answer' := by
  cases same with
  | ok holds =>
      refine ⟨fun _ => ⟨nofun, nofun⟩, ?_⟩
      rintro _ ⟨⟩
      exact ⟨_, rfl, holds⟩
  | error error => exact ⟨fun _ => by rw [Except.error.injEq, Except.error.injEq], nofun⟩

end AnswersAlike

/-- The answer of a result, without the state that is left. -/
def answerOf : EStateM.Result ε σ α → Except ε α
  | .ok answer _ => .ok answer
  | .error error _ => .error error

/-- The state of a result, without the answer. -/
def stateOf : EStateM.Result ε σ α → σ
  | .ok _ state => state
  | .error _ state => state

/-- A result with an answer is that answer with the state that is left. -/
theorem eq_ok_of_answerOf
    {result : EStateM.Result ε σ α}
    {answer : α}
    (answered : answerOf result = .ok answer) :
    result = .ok answer (stateOf result) := by
  cases result with
  | ok answer after =>
      cases answered
      rfl
  | error => cases answered

theorem exists_of_answerOf_eq_ok
    {result : EStateM.Result ε σ α}
    {answer : α}
    (answered : answerOf result = .ok answer) :
    ∃ after, result = .ok answer after :=
  ⟨_, eq_ok_of_answerOf answered⟩

theorem exists_of_answerOf_eq_error
    {result : EStateM.Result ε σ α}
    {error : ε}
    (answered : answerOf result = .error error) :
    ∃ after, result = .error error after := by
  cases result with
  | ok => cases answered
  | error error after =>
      cases answered
      exact ⟨after, rfl⟩

/-- After an action that succeeds the next one goes on. -/
theorem bind_eq_of_ok
    {first : EStateM ε σ β}
    {next : β → EStateM ε σ α}
    {state middle : σ}
    {answer : β}
    (result : first state = .ok answer middle) :
    (first >>= next) state = next answer middle := by
  change EStateM.bind first next state = _
  simp only [EStateM.bind, result]

/-- After an action that fails nothing goes on. -/
theorem bind_eq_of_error
    {first : EStateM ε σ β}
    {next : β → EStateM ε σ α}
    {state middle : σ}
    {error : ε}
    (result : first state = .error error middle) :
    (first >>= next) state = .error error middle := by
  change EStateM.bind first next state = _
  simp only [EStateM.bind, result]

/-- A chain of actions that succeeds does so at each link. -/
theorem exists_of_run_eq_ok
    {first : EStateM ε σ β}
    {next : β → EStateM ε σ α}
    {state after : σ}
    {answer : α}
    (done : (first >>= next) state = .ok answer after) :
    ∃ value middle, first state = .ok value middle ∧ next value middle = .ok answer after := by
  cases result : first state with
  | error error middle =>
      rw [bind_eq_of_error result] at done
      cases done
  | ok value middle =>
      rw [bind_eq_of_ok result] at done
      exact ⟨value, middle, rfl, done⟩

/-- A chain of actions succeeds exactly when it does so at each link. -/
theorem bind_eq_ok
    {first : EStateM ε σ β}
    {next : β → EStateM ε σ α}
    {state after : σ}
    {answer : α} :
    (first >>= next) state = .ok answer after ↔
      ∃ value middle, first state = .ok value middle ∧ next value middle = .ok answer after := by
  constructor
  · exact exists_of_run_eq_ok
  · rintro ⟨value, middle, done, goesOn⟩
    rw [bind_eq_of_ok done, goesOn]

/-- A loop over two lists goes over the one and then over the other. -/
theorem forM_append_eq_ok
    {step : β → EStateM ε σ PUnit}
    {items others : List β}
    {state after : σ} :
    (items ++ others).forM step state = .ok ⟨⟩ after ↔
      ∃ middle, items.forM step state = .ok ⟨⟩ middle ∧ others.forM step middle = .ok ⟨⟩ after := by
  induction items generalizing state with
  | nil =>
      constructor
      · exact fun done => ⟨state, rfl, done⟩
      · rintro ⟨_, nothing, done⟩
        cases nothing
        exact done
  | cons item rest inductionHypothesis =>
      change (step item >>= fun _ => (rest ++ others).forM step) state = _ ↔ _
      simp only [bind_eq_ok, inductionHypothesis]
      constructor
      · rintro ⟨value, reached, first, middle, goesOn, done⟩
        exact ⟨middle, bind_eq_ok.mpr ⟨value, reached, first, goesOn⟩, done⟩
      · rintro ⟨middle, begun, done⟩
        obtain ⟨value, reached, first, goesOn⟩ := bind_eq_ok.mp begun
        exact ⟨value, reached, first, middle, goesOn, done⟩

/-- Two actions that come to the same go on in the same way. -/
theorem bind_congr_first
    {first first' : EStateM ε σ β}
    {state : σ}
    (same : first state = first' state)
    (next : β → EStateM ε σ α) :
    (first >>= next) state = (first' >>= next) state := by
  change EStateM.bind first next state = EStateM.bind first' next state
  simp only [EStateM.bind, same]

/-- Two ways of going on do the same if they do after what the first action may answer. -/
theorem bind_congr_at
    {first : EStateM ε σ β}
    {next next' : β → EStateM ε σ α}
    {state : σ}
    (same :
      ∀ answer middle, first state = .ok answer middle → next answer middle = next' answer middle) :
    (first >>= next) state = (first >>= next') state := by
  cases result : first state with
  | ok answer middle =>
      rw [bind_eq_of_ok result, bind_eq_of_ok result]
      exact same answer middle result
  | error error middle =>
      rw [bind_eq_of_error result, bind_eq_of_error result]

/--
Begun in a state as described, the action succeeds or fails as described.
-/
def Ensures
    (before : σ → Prop)
    (action : EStateM ε σ α)
    (after : α → σ → Prop)
    (failed : ε → σ → Prop) : Prop :=
  ∀ state, before state →
    match action state with
    | .ok answer state' => after answer state'
    | .error error state' => failed error state'

/-- The state that an action leaves behind, whether it succeeds or fails. -/
def leaves (action : EStateM ε σ α) (state : σ) : σ :=
  match action state with
  | .ok _ state' => state'
  | .error _ state' => state'

theorem leaves_eq_stateOf
    (action : EStateM ε σ α)
    (state : σ) :
    leaves action state = stateOf (action state) :=
  rfl

theorem leaves_of_ok
    {action : EStateM ε σ α}
    {state after : σ}
    {answer : α}
    (done : action state = .ok answer after) :
    leaves action state = after := by
  simp only [leaves, done]

theorem leaves_of_error
    {action : EStateM ε σ α}
    {state after : σ}
    {error : ε}
    (failed : action state = .error error after) :
    leaves action state = after := by
  simp only [leaves, failed]

theorem leaves_bind_of_ok
    {first : EStateM ε σ β}
    {next : β → EStateM ε σ α}
    {state middle : σ}
    {answer : β}
    (done : first state = .ok answer middle) :
    leaves (first >>= next) state = leaves (next answer) middle := by
  simp only [leaves, bind_eq_of_ok done]

theorem leaves_bind_of_error
    {first : EStateM ε σ β}
    {next : β → EStateM ε σ α}
    {state middle : σ}
    {error : ε}
    (failed : first state = .error error middle) :
    leaves (first >>= next) state = middle :=
  leaves_of_error (bind_eq_of_error failed)

/-- An answer that is only read in another way leaves nothing else behind. -/
theorem leaves_bind_pure
    (action : EStateM ε σ β)
    (read : β → α)
    (state : σ) :
    leaves (action >>= fun answer => pure (read answer)) state = leaves action state := by
  cases result : action state with
  | ok answer after =>
      rw [leaves_bind_of_ok result, leaves_of_ok result]
      rfl
  | error error after =>
      rw [leaves_bind_of_error result, leaves_of_error result]

/-- The action keeps an invariant, whether it succeeds or fails. -/
def Keeps (invariant : σ → Prop) (action : EStateM ε σ α) : Prop :=
  Ensures invariant action (fun _ => invariant) (fun _ => invariant)

namespace Ensures

variable
  {before before' : σ → Prop}
  {action : EStateM ε σ α}
  {after after' : α → σ → Prop}
  {failed failed' : ε → σ → Prop}

theorem pure
    {answer : α}
    (holds : ∀ state, before state → after answer state) :
    Ensures before (Pure.pure answer : EStateM ε σ α) after failed :=
  holds

theorem throw
    {error : ε}
    (holds : ∀ state, before state → failed error state) :
    Ensures before (throwThe ε error : EStateM ε σ α) after failed :=
  holds

/-- After an error that is thrown nothing is done. -/
theorem throw_bind
    {error : ε}
    {next : β → EStateM ε σ α}
    (holds : ∀ state, before state → failed error state) :
    Ensures before (throwThe ε error >>= next) after failed :=
  holds

/-- What holds between two actions is what the first ensures and the second begins with. -/
theorem bind
    {between : β → σ → Prop}
    {first : EStateM ε σ β}
    {next : β → EStateM ε σ α}
    (begins : Ensures before first between failed)
    (goesOn : ∀ answer, Ensures (between answer) (next answer) after failed) :
    Ensures before (first >>= next) after failed := by
  intro state holds
  have reached := begins state holds
  change match EStateM.bind first next state with
    | .ok answer state' => after answer state'
    | .error error state' => failed error state'
  unfold EStateM.bind
  cases result : first state with
  | ok answer middle =>
      rw [result] at reached
      exact goesOn answer middle reached
  | error error middle =>
      rw [result] at reached
      exact reached

/-- One of two actions is taken, and then what follows in any case. -/
theorem branch
    {condition : Prop}
    [Decidable condition]
    {between : β → σ → Prop}
    {first second : EStateM ε σ β}
    {next : β → EStateM ε σ α}
    (one : Ensures before first between failed)
    (other : Ensures before second between failed)
    (goesOn : ∀ answer, Ensures (between answer) (next answer) after failed) :
    Ensures before (if condition then first >>= next else second >>= next)
      after failed := by
  split
  · exact bind one goesOn
  · exact bind other goesOn

/-- An action that is only taken under a condition, and then what follows in any case. -/
theorem guarded
    {condition : Prop}
    [Decidable condition]
    {first : EStateM ε σ β}
    {rest : EStateM ε σ α}
    (begins : Ensures before first (fun _ => before) failed)
    (goesOn : Ensures before rest after failed) :
    Ensures before (if condition then first >>= fun _ => rest else rest) after failed := by
  split
  · exact begins.bind fun _ => goesOn
  · exact goesOn

theorem imp
    (ensures : Ensures before action after failed)
    (begins : ∀ state, before' state → before state)
    (succeeds : ∀ answer state, after answer state → after' answer state)
    (fails : ∀ error state, failed error state → failed' error state) :
    Ensures before' action after' failed' := by
  intro state holds
  have reached := ensures state (begins state holds)
  cases result : action state with
  | ok answer state' =>
      rw [result] at reached
      exact succeeds answer state' reached
  | error error state' =>
      rw [result] at reached
      exact fails error state' reached

theorem imp_failed
    (ensures : Ensures before action after failed)
    (fails : ∀ error state, failed error state → failed' error state) :
    Ensures before action after failed' :=
  ensures.imp (fun _ => id) (fun _ _ => id) fails

/-- A fact that is not about the state may be used about the action. -/
theorem of_fact
    {fact : Prop}
    (ensures : fact → Ensures before action after failed) :
    Ensures (fun state => before state ∧ fact) action after failed :=
  fun state holds => ensures holds.2 state holds.1

/-- Two facts about one action hold together. -/
theorem and
    (one : Ensures before action after failed)
    (other : Ensures before' action after' failed') :
    Ensures
      (fun state => before state ∧ before' state)
      action
      (fun answer state => after answer state ∧ after' answer state)
      (fun error state => failed error state ∧ failed' error state) := by
  intro state holds
  have reached := one state holds.1
  have reached' := other state holds.2
  cases result : action state with
  | ok answer state' =>
      rw [result] at reached reached'
      exact ⟨reached, reached'⟩
  | error error state' =>
      rw [result] at reached reached'
      exact ⟨reached, reached'⟩

theorem of_ok
    (ensures : Ensures before action after failed)
    {state state' : σ}
    {answer : α}
    (result : action state = .ok answer state')
    (holds : before state) :
    after answer state' := by
  have reached := ensures state holds
  rw [result] at reached
  exact reached

theorem of_error
    (ensures : Ensures before action after failed)
    {state state' : σ}
    {error : ε}
    (result : action state = .error error state')
    (holds : before state) :
    failed error state' := by
  have reached := ensures state holds
  rw [result] at reached
  exact reached

/-- What is ensured in either case holds in whatever state the action leaves behind. -/
theorem holds_leaves
    {property : σ → Prop}
    (ensures : Ensures before action (fun _ => property) fun _ => property)
    {state : σ}
    (holds : before state) :
    property (leaves action state) := by
  have reached := ensures state holds
  unfold leaves
  cases result : action state with
  | ok answer state' =>
      rw [result] at reached
      exact reached
  | error error state' =>
      rw [result] at reached
      exact reached

/-- What holds in the state that an action leaves behind is ensured in either case. -/
theorem of_leaves
    {property : σ → Prop}
    {state : σ}
    (holds : property (leaves action state)) :
    Ensures (· = state) action (fun _ => property) fun _ => property := by
  intro start same
  subst start
  unfold leaves at holds
  cases result : action state with
  | ok answer state' =>
      rw [result] at holds
      exact holds
  | error error state' =>
      rw [result] at holds
      exact holds

end Ensures

namespace Keeps

variable {invariant : σ → Prop}

/-- What is kept holds in whatever state the action leaves behind. -/
theorem holds_leaves
    {action : EStateM ε σ α}
    (keeps : Keeps invariant action)
    {state : σ}
    (holds : invariant state) :
    invariant (leaves action state) :=
  Ensures.holds_leaves keeps holds

/-- What is read of a state after an action is read after what goes on, if that keeps it. -/
theorem read_leaves_bind
    {γ : Type}
    {read : σ → γ}
    {first : EStateM ε σ β}
    {next : β → EStateM ε σ α}
    (goesOn : ∀ value answer, Keeps (fun state => read state = value) (next answer))
    (state : σ) :
    read (leaves (first >>= next) state) = read (leaves first state) := by
  cases result : first state with
  | ok answer middle =>
      rw [leaves_bind_of_ok result, leaves_of_ok result]
      exact (goesOn (read middle) answer).holds_leaves rfl
  | error error middle =>
      rw [leaves_bind_of_error result, leaves_of_error result]

theorem pure
    (answer : α) :
    Keeps invariant (Pure.pure answer : EStateM ε σ α) :=
  fun _ holds => holds

theorem throw
    (error : ε) :
    Keeps invariant (throwThe ε error : EStateM ε σ α) :=
  fun _ holds => holds

/-- A fact that is not about the state is kept by every action. -/
theorem fact
    (fact : Prop)
    (action : EStateM ε σ α) :
    Keeps (fun _ => fact) action := by
  intro state holds
  cases action state <;> exact holds

theorem bind
    {first : EStateM ε σ β}
    {next : β → EStateM ε σ α}
    (begins : Keeps invariant first)
    (goesOn : ∀ answer, Keeps invariant (next answer)) :
    Keeps invariant (first >>= next) :=
  Ensures.bind begins goesOn

/-- An action that is only taken under a condition, and then what follows in any case. -/
theorem guarded
    {condition : Prop}
    [Decidable condition]
    {first : EStateM ε σ β}
    {rest : EStateM ε σ α}
    (begins : Keeps invariant first)
    (goesOn : Keeps invariant rest) :
    Keeps invariant (if condition then first >>= fun _ => rest else rest) :=
  Ensures.guarded begins goesOn

theorem map
    {action : EStateM ε σ β}
    (change : β → α)
    (keeps : Keeps invariant action) :
    Keeps invariant (change <$> action) := by
  rw [map_eq_pure_bind]
  exact keeps.bind fun answer => Keeps.pure (change answer)

/-- A loop keeps what every round keeps. -/
theorem forM
    {items : List β}
    {action : β → EStateM ε σ PUnit}
    (keeps : ∀ item ∈ items, Keeps invariant (action item)) :
    Keeps invariant (items.forM action) := by
  induction items with
  | nil =>
      exact Keeps.pure _
  | cons item rest inductionHypothesis =>
      refine (keeps item (by simp)).bind fun _ => ?_
      exact inductionHypothesis fun other member =>
        keeps other (List.mem_cons_of_mem _ member)

theorem mapM
    {items : List β}
    {action : β → EStateM ε σ α}
    (keeps : ∀ item ∈ items, Keeps invariant (action item)) :
    Keeps invariant (items.mapM action) := by
  induction items with
  | nil =>
      exact Keeps.pure _
  | cons item rest inductionHypothesis =>
      rw [List.mapM_cons]
      refine (keeps item (by simp)).bind fun answer => ?_
      refine Keeps.bind ?_ fun answers => Keeps.pure _
      exact inductionHypothesis fun other member =>
        keeps other (List.mem_cons_of_mem _ member)

end Keeps

/-- The action keeps an invariant when it is begun with a fact, which it may use up. -/
def KeepsGiven
    (fact invariant : σ → Prop)
    (action : EStateM ε σ α) : Prop :=
  Ensures (fun state => invariant state ∧ fact state) action
    (fun _ => invariant) (fun _ => invariant)

namespace KeepsGiven

variable {fact invariant : σ → Prop}

theorem of_keeps
    {action : EStateM ε σ α}
    (keeps : Keeps invariant action) :
    KeepsGiven fact invariant action :=
  keeps.imp (fun _ holds => holds.1) (fun _ _ => id) (fun _ _ => id)

/-- A fact that is not about the state may be used to prove that the invariant is kept. -/
theorem of_fact
    {fact : Prop}
    {action : EStateM ε σ α}
    (keeps : fact → Keeps invariant action) :
    KeepsGiven (fun _ => fact) invariant action :=
  Ensures.of_fact keeps

/-- The fact lasts as long as the actions keep it. -/
theorem bind
    {first : EStateM ε σ β}
    {next : β → EStateM ε σ α}
    (begins : Keeps (fun state => invariant state ∧ fact state) first)
    (goesOn : ∀ answer, KeepsGiven fact invariant (next answer)) :
    KeepsGiven fact invariant (first >>= next) :=
  Ensures.bind (begins.imp (fun _ => id) (fun _ _ => id) (fun _ _ holds => holds.1)) goesOn

/-- The fact is used up by the first action. -/
theorem bind_used
    {first : EStateM ε σ β}
    {next : β → EStateM ε σ α}
    (begins : KeepsGiven fact invariant first)
    (goesOn : ∀ answer, Keeps invariant (next answer)) :
    KeepsGiven fact invariant (first >>= next) :=
  Ensures.bind begins goesOn

theorem guarded
    {condition : Prop}
    [Decidable condition]
    {first : EStateM ε σ β}
    {rest : EStateM ε σ α}
    (begins : Keeps (fun state => invariant state ∧ fact state) first)
    (goesOn : KeepsGiven fact invariant rest) :
    KeepsGiven fact invariant (if condition then first >>= fun _ => rest else rest) := by
  split
  · exact KeepsGiven.bind begins fun _ => goesOn
  · exact goesOn

end KeepsGiven

/-! ## Success only -/

/-- Begun in a state as described, the action ends as described if it succeeds. -/
def Yields
    (before : σ → Prop)
    (action : EStateM ε σ α)
    (after : α → σ → Prop) : Prop :=
  Ensures before action after fun _ _ => True

namespace Yields

variable
  {before : σ → Prop}
  {action : EStateM ε σ α}
  {after : α → σ → Prop}

theorem of_ensures
    {failed : ε → σ → Prop}
    (ensures : Ensures before action after failed) :
    Yields before action after :=
  ensures.imp_failed fun _ _ _ => trivial

theorem of_keeps
    {invariant : σ → Prop}
    (keeps : Keeps invariant action) :
    Yields invariant action fun _ => invariant :=
  of_ensures keeps

theorem imp
    {before' : σ → Prop}
    {after' : α → σ → Prop}
    (yields : Yields before action after)
    (begins : ∀ state, before' state → before state)
    (succeeds : ∀ answer state, after answer state → after' answer state) :
    Yields before' action after' :=
  Ensures.imp yields begins succeeds fun _ _ => id

theorem bind
    {between : β → σ → Prop}
    {first : EStateM ε σ β}
    {next : β → EStateM ε σ α}
    (begins : Yields before first between)
    (goesOn : ∀ answer, Yields (between answer) (next answer) after) :
    Yields before (first >>= next) after :=
  Ensures.bind begins goesOn

/-- An action that is only taken under a condition, and then what follows in any case. -/
theorem guarded
    {condition : Prop}
    [Decidable condition]
    {first : EStateM ε σ PUnit}
    {rest : EStateM ε σ α}
    (begins : Yields before first fun _ => before)
    (goesOn : Yields before rest after) :
    Yields before (if condition then first >>= fun _ => rest else rest) after := by
  split
  · exact begins.bind fun _ => goesOn
  · exact goesOn

/-- One of two actions is taken, and then what follows in any case. -/
theorem branch
    {condition : Prop}
    [Decidable condition]
    {between : β → σ → Prop}
    {first second : EStateM ε σ β}
    {next : β → EStateM ε σ α}
    (one : condition → Yields before first between)
    (other : ¬ condition → Yields before second between)
    (goesOn : ∀ answer, Yields (between answer) (next answer) after) :
    Yields before (if condition then first >>= next else second >>= next) after := by
  split
  · rename_i holds
    exact (one holds).bind goesOn
  · rename_i fails
    exact (other fails).bind goesOn

/-- Two things that are yielded are yielded together. -/
theorem and
    {before' : σ → Prop}
    {after' : α → σ → Prop}
    (one : Yields before action after)
    (other : Yields before' action after') :
    Yields (fun state => before state ∧ before' state) action
      fun answer state => after answer state ∧ after' answer state :=
  of_ensures (Ensures.and one other)

/-- An action that keeps what it began with, and then what follows. -/
theorem bind_kept
    {first : EStateM ε σ β}
    {next : β → EStateM ε σ α}
    (begins : Yields before first fun _ => before)
    (goesOn : ∀ answer, Yields before (next answer) after) :
    Yields before (first >>= next) after :=
  Ensures.bind begins goesOn

/-- What is yielded from all states as described is yielded from one of them. -/
theorem at_state
    (yields : Yields before action after)
    {state : σ}
    (holds : before state) :
    Yields (· = state) action after :=
  yields.imp (fun _ same => same ▸ holds) fun _ _ => id

/-- What is yielded from each state is yielded from all. -/
theorem of_each
    (yields : ∀ state, before state → Yields (· = state) action after) :
    Yields before action after :=
  fun state holds => yields state holds state rfl

/-- Nothing needs to be known of an action of which nothing is said. -/
theorem trivially
    (action : EStateM ε σ α) :
    Yields (fun _ => True) action fun _ _ => True := by
  intro state _
  cases action state <;> trivial

/-- A fact that is not about the state may be used about the action. -/
theorem of_fact
    {fact : Prop}
    (yields : fact → Yields (fun _ => True) action after) :
    Yields (fun _ => fact) action after :=
  fun state holds => yields holds state trivial

/-- What is yielded of each thing is yielded of all things. -/
theorem all
    {ι : Type}
    {after : ι → α → σ → Prop}
    (yields : ∀ index, Yields before action (after index)) :
    Yields before action fun answer state => ∀ index, after index answer state := by
  intro state holds
  cases result : action state with
  | ok answer state' => exact fun index => Ensures.of_ok (yields index) result holds
  | error error state' => trivial

/-- A loop, described by what holds while some items are left. -/
theorem forM
    (left : List β → σ → Prop)
    {step : β → EStateM ε σ PUnit}
    (round : ∀ item rest, Yields (left (item :: rest)) (step item) fun _ => left rest)
    (items : List β) :
    Yields (left items) (items.forM step) fun _ => left [] := by
  induction items with
  | nil =>
      exact Ensures.pure fun _ => id
  | cons item rest inductionHypothesis =>
      exact (round item rest).bind fun _ => inductionHypothesis

/-- A loop each of whose rounds ends as it begins, given that its item is among the items. -/
theorem forM_mem
    {items : List β}
    {step : β → EStateM ε σ PUnit}
    (round : ∀ item ∈ items, Yields before (step item) fun _ => before) :
    Yields before (items.forM step) fun _ => before := by
  induction items with
  | nil =>
      exact Ensures.pure fun _ => id
  | cons item rest inductionHypothesis =>
      refine (round item List.mem_cons_self).bind fun _ => ?_
      exact inductionHypothesis fun other member => round other (List.mem_cons_of_mem _ member)

/-- A loop each of whose rounds ends as it begins. -/
theorem forM_kept
    {step : β → EStateM ε σ PUnit}
    (round : ∀ item, Yields before (step item) fun _ => before)
    (items : List β) :
    Yields before (items.forM step) fun _ => before :=
  forM_mem fun item _ => round item

end Yields

/-- A loop whose rounds may change places with each other may be gone through in any order. -/
theorem forM_eq_ok_of_perm
    {invariant : σ → Prop}
    {apart : β → β → Prop}
    {step : β → EStateM ε σ PUnit}
    (keeps : ∀ item, Yields invariant (step item) fun _ => invariant)
    (symmetric : ∀ {one other}, apart one other → apart other one)
    (exchange :
      ∀ {one other state after},
        apart one other → invariant state →
          (step one >>= fun _ => step other) state = .ok ⟨⟩ after →
            (step other >>= fun _ => step one) state = .ok ⟨⟩ after)
    {items others : List β}
    (permuted : items.Perm others)
    (pairwise : items.Pairwise apart)
    {state after : σ}
    (holds : invariant state)
    (done : items.forM step state = .ok ⟨⟩ after) :
    others.forM step state = .ok ⟨⟩ after := by
  induction permuted generalizing state with
  | nil => exact done
  | cons item _ inductionHypothesis =>
      obtain ⟨_, middle, first, done⟩ := exists_of_run_eq_ok done
      have holds' := Ensures.of_ok (keeps item) first holds
      refine bind_eq_ok.mpr ⟨_, middle, first, ?_⟩
      exact inductionHypothesis (List.pairwise_cons.mp pairwise).2 holds' done
  | swap second first rest =>
      obtain ⟨_, _, one, done⟩ := exists_of_run_eq_ok done
      obtain ⟨_, _, other, done⟩ := exists_of_run_eq_ok done
      have different := (List.pairwise_cons.mp pairwise).1 second List.mem_cons_self
      have exchanged := exchange different holds (bind_eq_ok.mpr ⟨_, _, one, other⟩)
      obtain ⟨_, _, other, one⟩ := exists_of_run_eq_ok exchanged
      exact bind_eq_ok.mpr ⟨_, _, other, bind_eq_ok.mpr ⟨_, _, one, done⟩⟩
  | trans one _ inductionHypothesis inductionHypothesis' =>
      refine inductionHypothesis' ?_ holds (inductionHypothesis pairwise holds done)
      exact (one.pairwise_iff symmetric).mp pairwise

/-- If the action succeeds it leaves the state as it is and its answer is as described. -/
def Reads
    (state : σ)
    (action : EStateM ε σ α)
    (fact : α → Prop) : Prop :=
  Yields (· = state) action fun answer after => after = state ∧ fact answer

namespace Reads

variable
  {state : σ}
  {fact : β → Prop}

theorem of_keeps
    {action : EStateM ε σ α}
    (keeps : Keeps (· = state) action) :
    Reads state action fun _ => True :=
  Yields.of_ensures (keeps.imp (fun _ => id) (fun _ _ same => ⟨same, trivial⟩) fun _ _ => id)

theorem pure
    {answer : β}
    (holds : fact answer) :
    Reads state (Pure.pure answer : EStateM ε σ β) fact :=
  fun _ same => ⟨same, holds⟩

/-- What an action goes on from may be used about how it goes on. -/
theorem bind
    {first : EStateM ε σ β}
    {next : β → EStateM ε σ α}
    {after : α → σ → Prop}
    (reads : Reads state first fact)
    (goesOn : ∀ answer, fact answer → Yields (· = state) (next answer) after) :
    Yields (· = state) (first >>= next) after :=
  Yields.bind reads fun answer => Ensures.of_fact fun holds => goesOn answer holds

/-- A check that is only made under a condition, and then what follows in any case. -/
theorem guarded
    {condition : Prop}
    [Decidable condition]
    {first : EStateM ε σ PUnit}
    {rest : EStateM ε σ α}
    {checked : Prop}
    {after : α → σ → Prop}
    (reads : condition → Reads state first fun _ => checked)
    (goesOn : (condition → checked) → Yields (· = state) rest after) :
    Yields (· = state) (if condition then first >>= fun _ => rest else rest) after := by
  split
  · rename_i holds
    exact (reads holds).bind fun _ found => goesOn fun _ => found
  · rename_i fails
    exact goesOn fun holds => (fails holds).elim

/-- One of two actions is taken, from either of which the same is known. -/
theorem branch
    {condition : Prop}
    [Decidable condition]
    {first second : EStateM ε σ β}
    {next : β → EStateM ε σ α}
    {after : α → σ → Prop}
    (one : condition → Reads state first fact)
    (other : ¬ condition → Reads state second fact)
    (goesOn : ∀ answer, fact answer → Yields (· = state) (next answer) after) :
    Yields (· = state) (if condition then first >>= next else second >>= next) after := by
  split
  · rename_i holds
    exact (one holds).bind goesOn
  · rename_i fails
    exact (other fails).bind goesOn

/-- A loop of checks that succeeds has checked every item. -/
theorem forM
    {fact : β → Prop}
    {check : β → EStateM ε σ PUnit}
    {items : List β}
    (reads : ∀ item ∈ items, Reads state (check item) fun _ => fact item) :
    Reads state (items.forM check) fun _ => ∀ item ∈ items, fact item := by
  induction items with
  | nil =>
      exact Reads.pure fun _ member => by cases member
  | cons item rest inductionHypothesis =>
      refine (reads item (by simp)).bind fun _ first => ?_
      refine (inductionHypothesis fun other member =>
        reads other (List.mem_cons_of_mem _ member)).imp (fun _ => id) ?_
      intro _ _ ⟨same, others⟩
      exact ⟨same, List.forall_mem_cons.mpr ⟨first, others⟩⟩

/-- A loop of questions that succeeds answers every item in turn. -/
theorem mapM_forall₂
    {fact : β → α → Prop}
    {question : β → EStateM ε σ α}
    {items : List β}
    (reads : ∀ item ∈ items, Reads state (question item) (fact item)) :
    Reads state (items.mapM question) (List.Forall₂ fact items) := by
  induction items with
  | nil =>
      exact Reads.pure .nil
  | cons item rest inductionHypothesis =>
      rw [List.mapM_cons]
      refine (reads item (by simp)).bind fun answer first => ?_
      refine Reads.bind (inductionHypothesis fun other member =>
        reads other (List.mem_cons_of_mem _ member)) fun answers others => ?_
      exact Reads.pure (.cons first others)

/-- In a loop of questions that succeeds every answer is the answer to an item. -/
theorem mapM
    {fact : β → α → Prop}
    {question : β → EStateM ε σ α}
    {items : List β}
    (reads : ∀ item ∈ items, Reads state (question item) (fact item)) :
    Reads state (items.mapM question) fun answers =>
      ∀ answer ∈ answers, ∃ item ∈ items, fact item answer :=
  (mapM_forall₂ reads).imp (fun _ => id) fun _ _ ⟨same, answered⟩ =>
    ⟨same, fun _ member => exists_of_forall₂ answered member⟩

end Reads

end LedgerEvm
