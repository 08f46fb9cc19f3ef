import Mathlib.Algebra.Ring.Nat
import LedgerEvm.Proofs.Actions
import LedgerEvm.Machine.Frame
import LedgerEvm.Proofs.Machine.GasBounds
import LedgerEvm.Proofs.Machine.Indices

namespace LedgerEvm

/-!
# How memory grows

A window of memory asks for everything up to its end, and an empty one for nothing.  What an
expansion costs and how far memory grows are functions of that end, and an expansion that
fails leaves memory as it is.
-/

namespace Memory

variable {memory : Memory}

/-! ## Ends of windows -/

/-- The end of a window; an empty one touches nothing and ends at zero. -/
def reach (offset size : Nat) : Nat :=
  if size = 0 then 0 else offset + size

/-- The number of words of a memory that has grown up to an end. -/
def wordsUpTo (memory : Memory) (last : Nat) : Nat :=
  max (wordsFor last) memory.words

/-- The gas of growing up to an end. -/
def costUpTo (memory : Memory) (last : Nat) : UInt64 :=
  expansionCost memory.words (memory.wordsUpTo last)

/-- A window within the limit needs the words up to its end. -/
theorem requiredWords_eq
    (memory : Memory)
    (offset size : Nat)
    (within : reach offset size ≤ memory.limit) :
    memory.requiredWords offset size = .ok (memory.wordsUpTo (reach offset size)) := by
  unfold requiredWords
  unfold reach at within ⊢
  split
  · exact congrArg Except.ok (Nat.max_eq_right (Nat.zero_le _)).symm
  · rename_i nonempty
    rw [if_neg nonempty] at within
    exact if_pos within

/-- A window beyond the limit needs more words than there may be. -/
theorem exists_requiredWords_eq_error
    (memory : Memory)
    (offset size : Nat)
    (beyond : memory.limit < reach offset size) :
    ∃ error, memory.requiredWords offset size = .error error := by
  unfold requiredWords
  unfold reach at beyond
  split
  · rename_i empty
    rw [if_pos empty] at beyond
    exact absurd beyond (Nat.not_lt_zero _)
  · rename_i nonempty
    rw [if_neg nonempty] at beyond
    exact ⟨_, if_neg (Nat.not_le.mpr beyond)⟩

/-- The words that a window needs are those up to its end. -/
theorem eq_of_requiredWords
    {offset size words : Nat}
    (needed : memory.requiredWords offset size = .ok words) :
    words = memory.wordsUpTo (reach offset size) := by
  rcases Nat.lt_or_ge memory.limit (reach offset size) with beyond | within
  · obtain ⟨error, refused⟩ := memory.exists_requiredWords_eq_error offset size beyond
    cases refused.symm.trans needed
  · exact Except.ok.inj (needed.symm.trans (memory.requiredWords_eq offset size within))

/-! ## Costs -/

/-- A window costs what it costs to grow up to its end. -/
theorem eq_of_windowCost
    {offset size : Nat}
    {cost : UInt64}
    (priced : memory.windowCost offset size = .ok cost) :
    cost = memory.costUpTo (reach offset size) := by
  obtain ⟨words, needed, done⟩ := exists_of_bind_eq_ok priced
  cases done
  rw [eq_of_requiredWords needed, costUpTo]

/-- What has been paid for memory is what its words cost, and growing pays the difference. -/
theorem toNat_costUpTo
    (memory : Memory)
    (last : Nat) :
    (memory.costUpTo last).toNat + (totalCost memory.words).toNat =
      (totalCost (memory.wordsUpTo last)).toNat :=
  toNat_expansionCost (Nat.le_max_right _ _)

/-- To grow further costs at least as much. -/
theorem costUpTo_le
    (memory : Memory)
    {nearer further : Nat}
    (ordered : nearer ≤ further) :
    memory.costUpTo nearer ≤ memory.costUpTo further := by
  have fewer : wordsFor nearer ≤ wordsFor further := by
    unfold wordsFor
    omega
  have more : memory.wordsUpTo nearer ≤ memory.wordsUpTo further := by
    unfold wordsUpTo
    omega
  have total := UInt64.le_iff_toNat_le.mp (totalCost_le more)
  have one := memory.toNat_costUpTo nearer
  have other := memory.toNat_costUpTo further
  rw [UInt64.le_iff_toNat_le]
  omega

/-- Growing up to zero takes no further word. -/
theorem wordsUpTo_zero
    (memory : Memory) :
    memory.wordsUpTo 0 = memory.words :=
  Nat.max_eq_right (Nat.zero_le _)

theorem costUpTo_zero
    (memory : Memory) :
    memory.costUpTo 0 = 0 := by
  rw [costUpTo, wordsUpTo_zero, expansionCost, if_pos (Nat.le_refl _)]

/-- So many words as operands can ask for cost exactly this much; nothing is clamped. -/
theorem toNat_totalCost
    {words : Nat}
    (few : words ≤ 2 ^ 28) :
    (totalCost words).toNat = 3 * words + words * words / 512 := by
  have squares : words * words ≤ 2 ^ 28 * 2 ^ 28 := Nat.mul_le_mul few few
  have third : (3 : UInt64).toNat = 3 := rfl
  have part : (512 : UInt64).toNat = 512 := rfl
  have count : (UInt64.ofNatClamp words).toNat = words := by
    rw [UInt64.toNat_ofNatClamp]
    unfold UInt64.size
    omega
  simp only [totalCost, UInt64.toNat_addClamp, UInt64.toNat_mulClamp, UInt64.toNat_div, count,
    third, part]
  unfold UInt64.size
  omega

end Memory

/-- A window of memory, as operands describe it. -/
structure Window where
  offset : Word
  size : Word
  deriving Repr, DecidableEq

namespace Window

/-- The end of a window; an empty one touches nothing and ends at zero. -/
def reach (window : Window) : Nat :=
  Memory.reach window.offset.toNat window.size.toNat

theorem reach_of_empty
    (offset : Word) :
    reach ⟨offset, 0⟩ = 0 :=
  rfl

end Window

namespace Exec

open Window (reach)

/-! ## Expansions -/

/-- The machine after an expansion up to an end, which is paid for. -/
def grownUpTo (machine : Machine) (last : Nat) : Machine :=
  let memory := machine.frame.memory
  ⟨{ machine.frame with
      gas := machine.frame.gas - memory.costUpTo last
      memory := memory.growTo (memory.wordsUpTo last) },
    machine.simulation⟩

/-- The reasons for which an expansion fails. -/
def RefusesExpansion (machine : Machine) (offset size : Word) : Prop :=
  let memory := machine.frame.memory
  let last := reach ⟨offset, size⟩
  size ≠ 0 ∧
    (UInt32.size ≤ offset.toNat ∨ UInt32.size ≤ size.toNat ∨ memory.limit < last ∨
      machine.frame.gas < memory.costUpTo last)

/-- An expansion that is not refused is of an empty window, or can be paid for. -/
theorem of_granted
    {machine : Machine}
    {offset size : Word}
    (granted : ¬ RefusesExpansion machine offset size) :
    size = 0 ∨
      offset.toNat < UInt32.size ∧ size.toNat < UInt32.size ∧
        reach ⟨offset, size⟩ ≤ machine.frame.memory.limit ∧
        machine.frame.memory.costUpTo (reach ⟨offset, size⟩) ≤ machine.frame.gas := by
  simp only [RefusesExpansion, not_and_or, not_or, not_not, Nat.not_le, Nat.not_lt,
    UInt64.not_lt, ne_eq] at granted
  exact granted

/-- An expansion that is granted reaches no further than two operands can say. -/
theorem reach_lt_of_granted
    {machine : Machine}
    {offset size : Word}
    (granted : ¬ RefusesExpansion machine offset size) :
    reach ⟨offset, size⟩ < 2 * UInt32.size := by
  rcases of_granted granted with rfl | ⟨nearby, short, -, -⟩
  · rw [Window.reach_of_empty]
    decide
  · unfold Window.reach Memory.reach
    dsimp only
    split <;> omega

/-- An expansion that is granted can be paid for. -/
theorem costUpTo_le_of_granted
    {machine : Machine}
    {offset size : Word}
    (granted : ¬ RefusesExpansion machine offset size) :
    machine.frame.memory.costUpTo (reach ⟨offset, size⟩) ≤ machine.frame.gas := by
  rcases of_granted granted with rfl | ⟨-, -, -, paid⟩
  · rw [Window.reach_of_empty, Memory.costUpTo_zero]
    exact UInt64.zero_le
  · exact paid

theorem memoryOperand_eq
    {word : Word}
    (small : word.toNat < UInt32.size) :
    memoryOperand word = pure word.toNat :=
  if_pos small

theorem memoryOperand_eq_throw
    {word : Word}
    (large : UInt32.size ≤ word.toNat) :
    memoryOperand word = throw .outOfGas :=
  if_neg (Nat.not_lt.mpr large)

theorem charge_eq_ok
    {gas : UInt64}
    {machine : Machine}
    (enough : gas ≤ machine.frame.gas) :
    charge gas machine =
      .ok () ⟨{ machine.frame with gas := machine.frame.gas - gas }, machine.simulation⟩ :=
  if_neg (UInt64.not_lt.mpr enough)

theorem charge_eq_error
    {gas : UInt64}
    {machine : Machine}
    (short : machine.frame.gas < gas) :
    charge gas machine =
      .error .outOfGas ⟨{ machine.frame with gas := 0 }, machine.simulation⟩ :=
  if_pos short

theorem of_charge_eq_ok
    {gas : UInt64}
    {machine after : Machine}
    (done : charge gas machine = .ok () after) :
    gas ≤ machine.frame.gas ∧
      after =
        ⟨{ machine.frame with gas := machine.frame.gas - gas }, machine.simulation⟩ := by
  rcases UInt64.lt_or_le machine.frame.gas gas with short | enough
  · cases (charge_eq_error short).symm.trans done
  · cases (charge_eq_ok enough).symm.trans done
    exact ⟨enough, rfl⟩

/-- Growing up to zero is free and changes nothing. -/
theorem grownUpTo_zero
    (machine : Machine) :
    grownUpTo machine 0 = machine := by
  have same : machine.frame.memory.growTo machine.frame.memory.words = machine.frame.memory :=
    if_neg (Nat.lt_irrefl _)
  simp only [grownUpTo, Memory.wordsUpTo_zero, Memory.costUpTo_zero, same, UInt64.sub_zero]

theorem size_grownUpTo
    (machine : Machine)
    (last : Nat) :
    (grownUpTo machine last).frame.memory.size =
      max machine.frame.memory.size (Memory.wordsFor last * 32) := by
  have grown :=
    machine.frame.memory.size_growTo (machine.frame.memory.wordsUpTo last)
  change (machine.frame.memory.growTo _).size = _
  unfold Memory.wordsUpTo Memory.words Memory.wordSize at *
  unfold Memory.size at *
  omega

theorem words_grownUpTo
    (machine : Machine)
    (last : Nat) :
    (grownUpTo machine last).frame.memory.words = machine.frame.memory.wordsUpTo last := by
  have size := size_grownUpTo machine last
  unfold Memory.size at size
  unfold Memory.wordsUpTo Memory.words Memory.wordSize
  omega

/-- What an expansion takes from the gas of the frame is what it costs. -/
theorem gas_sub_grownUpTo
    (machine : Machine)
    (last : Nat) :
    machine.frame.gas - (grownUpTo machine last).frame.gas =
      machine.frame.memory.costUpTo last := by
  change machine.frame.gas - (machine.frame.gas - _) = _
  grind

theorem neededWords_eq_ok
    {offset size : Nat}
    {machine : Machine}
    (within : Memory.reach offset size ≤ machine.frame.memory.limit) :
    neededWords offset size machine =
      .ok (machine.frame.memory.words, machine.frame.memory.wordsUpTo (Memory.reach offset size))
        machine := by
  simp only [neededWords, machine.frame.memory.requiredWords_eq offset size within]

theorem neededWords_eq_error
    {offset size : Nat}
    {machine : Machine}
    (beyond : machine.frame.memory.limit < Memory.reach offset size) :
    neededWords offset size machine = .error .outOfGas machine := by
  obtain ⟨error, refused⟩ :=
    machine.frame.memory.exists_requiredWords_eq_error offset size beyond
  simp only [neededWords, refused]

/-- An expansion grows memory up to the end of the window, and the frame pays for it. -/
theorem expand_eq_ok
    {offset size : Word}
    {machine : Machine}
    (granted : ¬ RefusesExpansion machine offset size) :
    expand offset size machine =
      .ok (if size = 0 then (0, 0) else (offset.toNat, size.toNat))
        (grownUpTo machine (reach ⟨offset, size⟩)) := by
  unfold expand
  dsimp only
  split
  · rename_i empty
    subst empty
    exact congrArg (EStateM.Result.ok _) (grownUpTo_zero machine).symm
  · rename_i nonempty
    obtain ⟨nearby, short, within, paid⟩ := (of_granted granted).resolve_left nonempty
    rw [memoryOperand_eq nearby, memoryOperand_eq short, pure_bind, pure_bind]
    rw [bind_eq_of_ok (neededWords_eq_ok within)]
    exact (bind_eq_of_ok (charge_eq_ok paid)).trans rfl

/-- An expansion that is refused leaves memory as it is. -/
theorem exists_expand_eq_error
    {offset size : Word}
    {machine : Machine}
    (refused : RefusesExpansion machine offset size) :
    ∃ after,
      expand offset size machine = .error .outOfGas after ∧
        after.frame.memory = machine.frame.memory := by
  obtain ⟨nonempty, reasons⟩ := refused
  unfold expand
  rw [if_neg nonempty]
  by_cases nearby : offset.toNat < UInt32.size
  · rw [memoryOperand_eq nearby, pure_bind]
    by_cases short : size.toNat < UInt32.size
    · rw [memoryOperand_eq short, pure_bind]
      rcases Nat.lt_or_ge machine.frame.memory.limit (reach ⟨offset, size⟩)
        with beyond | within
      · exact ⟨machine, bind_eq_of_error (neededWords_eq_error beyond), rfl⟩
      · rw [bind_eq_of_ok (neededWords_eq_ok within)]
        have poor := (reasons.resolve_left (Nat.not_le.mpr nearby)).resolve_left
          (Nat.not_le.mpr short) |>.resolve_left (Nat.not_lt.mpr within)
        exact ⟨_, bind_eq_of_error (charge_eq_error poor), rfl⟩
    · rw [memoryOperand_eq_throw (Nat.le_of_not_lt short)]
      exact ⟨machine, rfl, rfl⟩
  · rw [memoryOperand_eq_throw (Nat.le_of_not_lt nearby)]
    exact ⟨machine, rfl, rfl⟩

/-- An expansion that succeeds was not refused and has grown memory up to the end. -/
theorem of_expand_eq_ok
    {offset size : Word}
    {machine after : Machine}
    {window : Nat × Nat}
    (grown : expand offset size machine = .ok window after) :
    ¬ RefusesExpansion machine offset size ∧
      window = (if size = 0 then (0, 0) else (offset.toNat, size.toNat)) ∧
      after = grownUpTo machine (reach ⟨offset, size⟩) := by
  by_cases refused : RefusesExpansion machine offset size
  · obtain ⟨_, fails, _⟩ := exists_expand_eq_error refused
    cases fails.symm.trans grown
  · cases (expand_eq_ok refused).symm.trans grown
    exact ⟨refused, rfl, rfl⟩

/-- An expansion that fails was refused, and memory is as it was. -/
theorem of_expand_eq_error
    {offset size : Word}
    {machine after : Machine}
    {error : VmError}
    (failed : expand offset size machine = .error error after) :
    RefusesExpansion machine offset size ∧
      error = .outOfGas ∧ after.frame.memory = machine.frame.memory := by
  by_cases refused : RefusesExpansion machine offset size
  · obtain ⟨_, fails, same⟩ := exists_expand_eq_error refused
    cases fails.symm.trans failed
    exact ⟨refused, rfl, same⟩
  · cases (expand_eq_ok refused).symm.trans failed

/--
Memory holds the window that an expansion answers with, which is the one that was asked for,
unless that one is empty.
-/
theorem window_of_expand
    {offset size : Word}
    {machine after : Machine}
    {window : Nat × Nat}
    (grown : expand offset size machine = .ok window after) :
    window.1 + window.2 ≤ after.frame.memory.size ∧
      window.2 = size.toNat ∧
      (size ≠ 0 → window.1 = offset.toNat ∧ offset.toNat < UInt32.size) := by
  obtain ⟨granted, rfl, rfl⟩ := of_expand_eq_ok grown
  rw [size_grownUpTo]
  rcases of_granted granted with rfl | ⟨nearby, -, -, -⟩
  · exact ⟨Nat.zero_le _, rfl, fun nonempty => absurd rfl nonempty⟩
  · by_cases empty : size = 0
    · subst empty
      exact ⟨Nat.zero_le _, rfl, fun nonempty => absurd rfl nonempty⟩
    · have positive : size.toNat ≠ 0 := fun zero => empty (BitVec.eq_of_toNat_eq zero)
      have covered :
          offset.toNat + size.toNat ≤
            Memory.wordsFor (reach ⟨offset, size⟩) * 32 := by
        unfold reach Memory.reach Memory.wordsFor
        rw [if_neg positive]
        dsimp only
        omega
      rw [if_neg empty]
      exact ⟨Nat.le_trans covered (Nat.le_max_right _ _), rfl, fun _ => ⟨rfl, nearby⟩⟩

end Exec

end LedgerEvm
