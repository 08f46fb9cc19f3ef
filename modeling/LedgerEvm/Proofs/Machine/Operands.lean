import LedgerEvm.Proofs.Machine.FrameInvariants

namespace LedgerEvm

/-!
# Operands

The operands that an instruction takes are the words that were on top of the stack, and what
it leaves is on top of the others.
-/

namespace OperandStack

/-- The word that is taken from a stack was on top of the rest. -/
theorem words_eq_of_pop
    {stack rest : OperandStack}
    {word : Word}
    (taken : stack.pop = .ok (word, rest)) :
    stack.words = word :: rest.words := by
  obtain ⟨words, bound⟩ := stack
  cases words with
  | nil => cases taken
  | cons top words =>
      cases taken
      rfl

/-- The word that is pushed is on top of the others. -/
theorem words_eq_of_push
    {stack pushed : OperandStack}
    {word : Word}
    (done : stack.push word = .ok pushed) :
    pushed.words = word :: stack.words :=
  words_eq_of_pop (pop_of_push done)

end OperandStack

/-- The words on the stack of the frame have a property. -/
def Machine.StackHas (property : List Word → Prop) : Machine → Prop :=
  Machine.Has fun frame => property frame.stack.words

namespace Exec

variable
  {property : List Word → Prop}
  {machine after : Machine}

/-! ## What is taken and left -/

theorem of_pop_eq_ok
    {word : Word}
    (done : pop machine = .ok word after) :
    ∃ rest : OperandStack,
      machine.frame.stack.words = word :: rest.words ∧
        after = ⟨{ machine.frame with stack := rest }, machine.simulation⟩ := by
  obtain ⟨frame, simulation⟩ := machine
  cases popped : frame.stack.pop with
  | ok taken =>
      simp only [pop, popped] at done
      cases done
      exact ⟨taken.2, OperandStack.words_eq_of_pop popped, rfl⟩
  | error error =>
      simp only [pop, popped, reduceCtorEq] at done

theorem of_pop2_eq_ok
    {words : Word × Word}
    (done : pop2 machine = .ok words after) :
    ∃ rest : OperandStack,
      machine.frame.stack.words = words.1 :: words.2 :: rest.words ∧
        after = ⟨{ machine.frame with stack := rest }, machine.simulation⟩ := by
  obtain ⟨first, middle, pops, done⟩ := exists_of_run_eq_ok done
  obtain ⟨stack, shape, rfl⟩ := of_pop_eq_ok pops
  obtain ⟨second, last, pops, done⟩ := exists_of_run_eq_ok done
  obtain ⟨rest, shape', rfl⟩ := of_pop_eq_ok pops
  cases done
  exact ⟨rest, shape.trans (congrArg _ shape'), rfl⟩

theorem of_pop3_eq_ok
    {words : Word × Word × Word}
    (done : pop3 machine = .ok words after) :
    ∃ rest : OperandStack,
      machine.frame.stack.words = words.1 :: words.2.1 :: words.2.2 :: rest.words ∧
        after = ⟨{ machine.frame with stack := rest }, machine.simulation⟩ := by
  obtain ⟨first, middle, pops, done⟩ := exists_of_run_eq_ok done
  obtain ⟨stack, shape, rfl⟩ := of_pop_eq_ok pops
  obtain ⟨second, third, pops', done⟩ := exists_of_run_eq_ok done
  obtain ⟨stack', shape', rfl⟩ := of_pop_eq_ok pops'
  obtain ⟨last, middle, pops'', done⟩ := exists_of_run_eq_ok done
  obtain ⟨rest, shape'', rfl⟩ := of_pop_eq_ok pops''
  cases done
  exact ⟨rest, shape.trans (congrArg _ (shape'.trans (congrArg _ shape''))), rfl⟩

theorem of_popList_eq_ok
    {count : Nat}
    {words : List Word}
    (done : popList count machine = .ok words after) :
    words.length = count ∧
      ∃ rest : OperandStack,
        machine.frame.stack.words = words ++ rest.words ∧
          after = ⟨{ machine.frame with stack := rest }, machine.simulation⟩ := by
  induction count generalizing machine after words with
  | zero =>
      cases done
      exact ⟨rfl, _, rfl, rfl⟩
  | succ count inductionHypothesis =>
      obtain ⟨word, middle, pops, done⟩ := exists_of_run_eq_ok done
      obtain ⟨stack, shape, rfl⟩ := of_pop_eq_ok pops
      obtain ⟨others, last, pops, done⟩ := exists_of_run_eq_ok done
      obtain ⟨length, rest, shape', rfl⟩ := inductionHypothesis pops
      cases done
      exact ⟨congrArg (· + 1) length, rest, shape.trans (congrArg _ shape'), rfl⟩

theorem of_push_eq_ok
    {word : Word}
    (done : push word machine = .ok () after) :
    ∃ stack : OperandStack,
      stack.words = word :: machine.frame.stack.words ∧
        after = ⟨{ machine.frame with stack }, machine.simulation⟩ := by
  obtain ⟨frame, simulation⟩ := machine
  cases pushed : frame.stack.push word with
  | ok stack =>
      simp only [push, pushed] at done
      cases done
      exact ⟨stack, OperandStack.words_eq_of_push pushed, rfl⟩
  | error error =>
      simp only [push, pushed, reduceCtorEq] at done

/-! ## What is asked -/

theorem of_ask_eq_ok
    {α : Type}
    {question : World → Except StateError α}
    {answer : α}
    (done : ask question machine = .ok answer after) :
    question machine.simulation.world = .ok answer ∧ after = machine := by
  unfold ask at done
  cases answered : question machine.simulation.world with
  | ok found =>
      simp only [answered] at done
      cases done
      exact ⟨rfl, rfl⟩
  | error error => simp only [answered, reduceCtorEq] at done

/-! ## What is known of what is taken -/

/-- A word that is taken was on top. -/
theorem yields_pop
    (property : List Word → Prop) :
    Yields (Machine.StackHas property) pop fun word =>
      Machine.StackHas fun rest => property (word :: rest) := by
  intro machine holds
  cases done : pop machine with
  | ok word after =>
      obtain ⟨rest, words, rfl⟩ := of_pop_eq_ok done
      change property (word :: rest.words)
      rw [← words]
      exact holds
  | error error after => trivial

theorem yields_popAddress
    (property : List Word → Prop) :
    Yields (Machine.StackHas property) popAddress fun address =>
      Machine.StackHas fun rest =>
        ∃ word, address = Address.ofWord word ∧ property (word :: rest) :=
  (yields_pop property).bind fun word => Ensures.pure fun _ holds => ⟨word, rfl, holds⟩

theorem yields_pop2
    (property : List Word → Prop) :
    Yields (Machine.StackHas property) pop2 fun words =>
      Machine.StackHas fun rest => property (words.1 :: words.2 :: rest) :=
  (yields_pop _).bind fun _ => (yields_pop _).bind fun _ => Ensures.pure fun _ => id

theorem yields_pop3
    (property : List Word → Prop) :
    Yields (Machine.StackHas property) pop3 fun words =>
      Machine.StackHas fun rest => property (words.1 :: words.2.1 :: words.2.2 :: rest) :=
  (yields_pop _).bind fun _ => (yields_pop _).bind fun _ => (yields_pop _).bind fun _ =>
    Ensures.pure fun _ => id

/-- The words that a call finds, with a value only if its kind has one. -/
def callWords (kind : CallKind) (requested target value : Word) (rest : List Word) : List Word :=
  if kind.hasValue then requested :: target :: value :: rest else requested :: target :: rest

/-- The operands of a call are the words that it takes. -/
theorem yields_popCall
    (property : List Word → Prop)
    (kind : CallKind) :
    Yields (Machine.StackHas property) (popCall kind) fun operands =>
      Machine.StackHas fun rest =>
        ∃ requested target,
          property
            (callWords kind requested target operands.value
              (operands.input.1 :: operands.input.2 :: operands.output.1 ::
                operands.output.2 :: rest)) := by
  refine (yields_pop _).bind fun requested => ?_
  refine (yields_popAddress _).bind fun target => ?_
  dsimp only
  have withValue :
      kind.hasValue = true →
      Yields
        (Machine.StackHas fun rest =>
          ∃ word, target = Address.ofWord word ∧ property (requested :: word :: rest))
        pop fun value => Machine.StackHas fun rest =>
          ∃ word, property (callWords kind requested word value rest) := by
    intro hasValue
    refine (yields_pop _).imp (fun _ => id) ?_
    rintro value machine ⟨word, -, holds⟩
    refine ⟨word, ?_⟩
    rwa [callWords, if_pos hasValue]
  have without :
      ¬ kind.hasValue = true →
      Yields
        (Machine.StackHas fun rest =>
          ∃ word, target = Address.ofWord word ∧ property (requested :: word :: rest))
        (pure 0 : Exec Word) fun value => Machine.StackHas fun rest =>
          ∃ word, property (callWords kind requested word value rest) := by
    intro noValue
    refine Ensures.pure ?_
    rintro machine ⟨word, -, holds⟩
    refine ⟨word, ?_⟩
    rwa [callWords, if_neg noValue]
  refine Yields.branch withValue without fun value => ?_
  refine (yields_pop2 _).bind fun input => (yields_pop2 _).bind fun output => ?_
  refine Yields.bind_kept (Yields.of_keeps keeps_context) fun context => ?_
  refine Yields.guarded (Ensures.throw fun _ _ => trivial) (Ensures.pure ?_)
  rintro machine ⟨word, holds⟩
  exact ⟨requested, word, holds⟩

end Exec

end LedgerEvm
