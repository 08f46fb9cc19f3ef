import LedgerEvm.Proofs.Machine.FrameInvariants
import LedgerEvm.Proofs.Machine.MemoryGrowth
import LedgerEvm.Proofs.Machine.Operands

namespace LedgerEvm

/-!
# The expansions that instructions make

Only an expansion changes the size of a frame's memory, so what an action does to it is told
by the expansions that it makes, one after the other.  Each instruction makes some, and if it
succeeds they reach as far as the windows that its operands describe.
-/

namespace Window

/-- The last of the ends of some windows. -/
def furthest : List Window → Nat
  | [] => 0
  | window :: rest => max window.reach (furthest rest)

@[simp] theorem furthest_append
    (windows more : List Window) :
    furthest (windows ++ more) = max (furthest windows) (furthest more) := by
  induction windows with
  | nil => exact (Nat.max_eq_right (Nat.zero_le _)).symm
  | cons window rest inductionHypothesis =>
      simp only [List.cons_append, furthest, inductionHypothesis]
      omega

end Window

/-- A window that memory was made to hold, and the gas that the frame paid for it. -/
structure Expansion where
  window : Window
  cost : UInt64
  deriving Repr, DecidableEq

namespace Expansion

/-- The last of the ends of the windows that memory was made to hold. -/
def furthest (expansions : List Expansion) : Nat :=
  Window.furthest (expansions.map window)

/-- The gas that was paid for some expansions. -/
def totalCost (expansions : List Expansion) : Nat :=
  (expansions.map fun expansion => expansion.cost.toNat).sum

@[simp] theorem furthest_singleton
    (expansion : Expansion) :
    furthest [expansion] = expansion.window.reach :=
  Nat.max_eq_left (Nat.zero_le _)

@[simp] theorem furthest_append
    (expansions more : List Expansion) :
    furthest (expansions ++ more) = max (furthest expansions) (furthest more) := by
  rw [furthest, List.map_append, Window.furthest_append, furthest, furthest]

@[simp] theorem totalCost_append
    (expansions more : List Expansion) :
    totalCost (expansions ++ more) = totalCost expansions + totalCost more := by
  rw [totalCost, List.map_append, List.sum_append, totalCost, totalCost]

end Expansion

namespace Exec

open Window (reach)

variable
  {α β : Type}
  {property : List Word → Prop}

/-- The action leaves the size of the frame's memory as it is. -/
def KeepsMemorySize (action : Exec α) : Prop :=
  ∀ size, Keeps (Machine.Has fun frame => frame.memory.size = size) action

/--
An action, begun with some machine, makes these expansions, in this order.  Those that it
makes before it fails are among them, but one that fails itself is not.
-/
inductive Expands : {α : Type} → Exec α → Machine → List Expansion → Prop where
  | other
      {α : Type} {action : Exec α}
      (keeps : KeepsMemorySize action)
      (machine : Machine) :
      Expands action machine []
  | grow
      {offset size : Word} {machine after : Machine} {window : Nat × Nat}
      (grown : expand offset size machine = .ok window after) :
      Expands (expand offset size) machine
        [⟨⟨offset, size⟩, machine.frame.gas - after.frame.gas⟩]
  | refuse
      {offset size : Word} {machine after : Machine} {error : VmError}
      (failed : expand offset size machine = .error error after) :
      Expands (expand offset size) machine []
  | bind
      {α β : Type} {first : Exec β} {next : β → Exec α} {machine middle : Machine} {answer : β}
      {expansions more : List Expansion}
      (done : first machine = .ok answer middle)
      (begins : Expands first machine expansions)
      (goesOn : Expands (next answer) middle more) :
      Expands (first >>= next) machine (expansions ++ more)
  | fail
      {α β : Type} {first : Exec β} {next : β → Exec α} {machine middle : Machine}
      {error : VmError} {expansions : List Expansion}
      (failed : first machine = .error error middle)
      (begins : Expands first machine expansions) :
      Expands (first >>= next) machine expansions
  | amend
      {action : Exec Unit} {machine : Machine} {expansions : List Expansion}
      (place : Option Nat) (gasBefore : UInt64)
      (acts : Expands action machine expansions) :
      Expands (amending place gasBefore action) machine expansions

/-- Correcting the trace leaves the frame as it is. -/
theorem frame_leaves_amending
    (place : Option Nat)
    (gasBefore : UInt64)
    (action : Exec Unit)
    (machine : Machine) :
    (leaves (amending place gasBefore action) machine).frame =
      (leaves action machine).frame := by
  unfold leaves amending
  cases action machine <;> rfl

/--
What one expansion does to the size of memory, and what is done in turn, is what an action
does with the expansions that it makes.
-/
theorem Expands.ensures
    (relation : Nat → List Expansion → Nat → Prop)
    (nothing : ∀ size, relation size [] size)
    (grows :
      ∀ (machine : Machine) (offset size : Word),
        ¬ RefusesExpansion machine offset size →
        relation machine.frame.memory.size
          [⟨⟨offset, size⟩,
            machine.frame.memory.costUpTo (reach ⟨offset, size⟩)⟩]
          (grownUpTo machine (reach ⟨offset, size⟩)).frame.memory.size)
    (chains :
      ∀ {before middle after : Nat} {expansions more : List Expansion},
        relation before expansions middle →
        relation middle more after →
        relation before (expansions ++ more) after)
    {action : Exec α}
    {machine : Machine}
    {expansions : List Expansion}
    (expands : Expands action machine expansions) :
    relation machine.frame.memory.size expansions
      (leaves action machine).frame.memory.size := by
  induction expands with
  | other keeps machine =>
      have same : (leaves _ machine).frame.memory.size = machine.frame.memory.size :=
        (keeps _).holds_leaves rfl
      rw [same]
      exact nothing _
  | @grow offset size machine after window grown =>
      obtain ⟨granted, -, rfl⟩ := of_expand_eq_ok grown
      rw [leaves_of_ok grown, gas_sub_grownUpTo]
      exact grows machine offset size granted
  | refuse failed =>
      rw [leaves_of_error failed, (of_expand_eq_error failed).2.2]
      exact nothing _
  | bind done _ _ begun gone =>
      rw [leaves_of_ok done] at begun
      rw [leaves_bind_of_ok done]
      exact chains begun gone
  | fail failed _ begun =>
      rw [leaves_of_error failed] at begun
      rw [leaves_bind_of_error failed]
      exact begun
  | amend place gasBefore _ acted =>
      rw [frame_leaves_amending]
      exact acted

/-- Memory grows as far as the expansions reach, and no further. -/
theorem Expands.size_leaves
    {action : Exec α}
    {machine : Machine}
    {expansions : List Expansion}
    (expands : Expands action machine expansions) :
    (leaves action machine).frame.memory.size =
      max machine.frame.memory.size (Memory.wordsFor (Expansion.furthest expansions) * 32) := by
  refine expands.ensures
    (fun before expansions after =>
      after = max before (Memory.wordsFor (Expansion.furthest expansions) * 32)) ?_ ?_ ?_
  · exact fun size => (Nat.max_eq_left (Nat.zero_le _)).symm
  · intro machine offset size _
    rw [size_grownUpTo, Expansion.furthest_singleton]
  · rintro before middle after expansions more rfl rfl
    rw [Expansion.furthest_append]
    unfold Memory.wordsFor
    omega

/-- What is paid for the expansions is what the words of memory cost more than before. -/
theorem Expands.totalCost_eq
    {action : Exec α}
    {machine : Machine}
    {expansions : List Expansion}
    (expands : Expands action machine expansions) :
    Expansion.totalCost expansions + (Memory.totalCost machine.frame.memory.words).toNat =
      (Memory.totalCost (leaves action machine).frame.memory.words).toNat := by
  refine expands.ensures
    (fun before expansions after =>
      Expansion.totalCost expansions + (Memory.totalCost (before / 32)).toNat =
        (Memory.totalCost (after / 32)).toNat) ?_ ?_ ?_
  · exact fun size => Nat.zero_add _
  · intro machine offset size _
    have paid := machine.frame.memory.toNat_costUpTo (reach ⟨offset, size⟩)
    rw [← words_grownUpTo] at paid
    exact paid
  · intro before middle after expansions more begun gone
    rw [Expansion.totalCost_append]
    omega

/-- No expansion reaches beyond what two operands can say. -/
theorem Expands.furthest_lt
    {action : Exec α}
    {machine : Machine}
    {expansions : List Expansion}
    (expands : Expands action machine expansions) :
    Expansion.furthest expansions < 2 * UInt32.size := by
  refine expands.ensures
    (fun _ expansions _ => Expansion.furthest expansions < 2 * UInt32.size) ?_ ?_ ?_
  · exact fun size => by decide
  · intro machine offset size granted
    rw [Expansion.furthest_singleton]
    exact reach_lt_of_granted granted
  · intro before middle after expansions more begun gone
    rw [Expansion.furthest_append]
    omega

/-- No action makes memory larger than two operands can say, unless it was. -/
theorem Expands.words_le
    {action : Exec α}
    {machine : Machine}
    {expansions : List Expansion}
    (expands : Expands action machine expansions)
    (few : machine.frame.memory.words ≤ 2 ^ 28) :
    (leaves action machine).frame.memory.words ≤ 2 ^ 28 := by
  have size := expands.size_leaves
  have near := expands.furthest_lt
  unfold Memory.wordsFor at size
  unfold UInt32.size at near
  unfold Memory.words Memory.wordSize at few ⊢
  unfold Memory.size at size
  omega

/-! ## What an action opens -/

/--
From states as described, the action makes expansions that, if it succeeds, reach as far as
some windows.
-/
def Opens
    {α : Type}
    (before : Machine → Prop)
    (action : Exec α)
    (windows : List Window) : Prop :=
  ∀ machine, before machine →
    ∃ expansions,
      Expands action machine expansions ∧
        ∀ answer after,
          action machine = .ok answer after →
          Expansion.furthest expansions = Window.furthest windows

namespace Opens

variable
  {α β : Type}
  {before : Machine → Prop}
  {windows more : List Window}

theorem nothing
    {action : Exec α}
    (keeps : KeepsMemorySize action) :
    Opens before action [] :=
  fun machine _ => ⟨[], .other keeps machine, fun _ _ _ => rfl⟩

theorem window
    (offset size : Word) :
    Opens before (expand offset size) [⟨offset, size⟩] := by
  intro machine _
  cases result : expand offset size machine with
  | ok window after =>
      refine ⟨_, .grow result, fun _ _ _ => ?_⟩
      rw [Expansion.furthest, List.map_singleton]
  | error error after =>
      refine ⟨[], .refuse result, fun answer reached done => ?_⟩
      simp only [reduceCtorEq] at done

/-- Windows that reach equally far may stand for each other. -/
theorem of_furthest_eq
    {action : Exec α}
    (opens : Opens before action windows)
    (same : Window.furthest windows = Window.furthest more) :
    Opens before action more := by
  intro machine holds
  obtain ⟨expansions, expands, reached⟩ := opens machine holds
  exact ⟨expansions, expands, fun answer after done => (reached answer after done).trans same⟩

/-- What an action opens is opened by its parts, one after the other. -/
theorem bind
    {between : β → Machine → Prop}
    {first : Exec β}
    {next : β → Exec α}
    (begins : Opens before first windows)
    (yields : Yields before first between)
    (goesOn : ∀ answer, Opens (between answer) (next answer) more) :
    Opens before (first >>= next) (windows ++ more) := by
  intro machine holds
  obtain ⟨expansions, expands, reached⟩ := begins machine holds
  cases result : first machine with
  | error error middle =>
      refine ⟨expansions, .fail result expands, fun answer after done => ?_⟩
      cases (bind_eq_of_error result).symm.trans done
  | ok answer middle =>
      obtain ⟨others, continues, ended⟩ :=
        goesOn answer middle (Ensures.of_ok yields result holds)
      refine ⟨expansions ++ others, .bind result expands continues, fun value after done => ?_⟩
      rw [bind_eq_of_ok result] at done
      rw [Expansion.furthest_append, reached _ _ result, ended _ _ done, Window.furthest_append]

/-- An action that leaves memory as large as it is opens nothing before what follows. -/
theorem behind
    {between : β → Machine → Prop}
    {first : Exec β}
    {next : β → Exec α}
    (keeps : KeepsMemorySize first)
    (yields : Yields before first between)
    (goesOn : ∀ answer, Opens (between answer) (next answer) windows) :
    Opens before (first >>= next) windows :=
  (nothing keeps).bind yields goesOn

/-- Where nothing needs to be known of the first action. -/
theorem behind_any
    {first : Exec β}
    {next : β → Exec α}
    (keeps : KeepsMemorySize first)
    (goesOn : ∀ answer, Opens (fun _ => True) (next answer) windows) :
    Opens before (first >>= next) windows :=
  behind keeps ((Yields.trivially first).imp (fun _ _ => trivial) fun _ _ => id) goesOn

/-- A window is opened, and then what follows opens the rest. -/
theorem window_then
    {offset size : Word}
    {next : Nat × Nat → Exec α}
    (goesOn : ∀ window, Opens (fun _ => True) (next window) windows) :
    Opens before (expand offset size >>= next) (⟨offset, size⟩ :: windows) :=
  (window offset size).bind
    ((Yields.trivially (expand offset size)).imp (fun _ _ => trivial) fun _ _ => id) goesOn

/-- The last window is opened, and what follows leaves memory as large as it is. -/
theorem last_window
    {offset size : Word}
    {next : Nat × Nat → Exec α}
    (keeps : ∀ window, KeepsMemorySize (next window)) :
    Opens before (expand offset size >>= next) [⟨offset, size⟩] :=
  window_then fun window => nothing (keeps window)

/-- An action that is only taken under a condition, and then what follows in any case. -/
theorem guarded
    {condition : Prop}
    [Decidable condition]
    {first : Exec β}
    {rest : Exec α}
    (keeps : KeepsMemorySize first)
    (goesOn : Opens (fun _ => True) rest windows) :
    Opens (fun _ => True) (if condition then first >>= fun _ => rest else rest) windows := by
  split
  · exact behind_any keeps fun _ => goesOn
  · exact goesOn

/-- What follows leaves memory as large as it is. -/
theorem then_nothing
    {first : Exec β}
    {next : β → Exec α}
    (begins : Opens before first windows)
    (keeps : ∀ answer, KeepsMemorySize (next answer)) :
    Opens before (first >>= next) windows := by
  have opened : Opens before (first >>= next) (windows ++ []) :=
    begins.bind ((Yields.trivially first).imp (fun _ _ => trivial) fun _ _ => id)
      fun answer => nothing (keeps answer)
  rwa [List.append_nil] at opened

/-- What is known of the words of a stack may be used about the action. -/
theorem of_stack
    {action : Exec α}
    (opens : ∀ words, property words → Opens (fun _ => True) action windows) :
    Opens (Machine.StackHas property) action windows :=
  fun machine holds => opens _ holds machine trivial

/-- Correcting the trace opens nothing. -/
theorem amending
    {action : Exec Unit}
    (opens : Opens before action windows)
    (place : Option Nat)
    (gasBefore : UInt64) :
    Opens before (amending place gasBefore action) windows := by
  intro machine holds
  obtain ⟨expansions, expands, reached⟩ := opens machine holds
  refine ⟨expansions, .amend place gasBefore expands, fun answer after done => ?_⟩
  obtain ⟨acted, result, -⟩ := of_amending_eq_ok done
  exact reached () acted result

end Opens

end Exec

end LedgerEvm
