import LedgerEvm.Address
import LedgerEvm.Error

namespace LedgerEvm

/-!
# The operand stack

Instructions take their operands from a stack of at most 1024 words and leave
their results on it.
-/

/-- Words, the top one first, never more than the machine allows. -/
structure OperandStack where
  words : List Word
  length_le : words.length ≤ 1024

namespace OperandStack

/-- The greatest number of words. -/
def capacity : Nat :=
  1024

/-- The stack without words. -/
def empty : OperandStack :=
  ⟨[], by decide⟩

instance : Inhabited OperandStack := ⟨empty⟩

/-- The number of words. -/
def size (stack : OperandStack) : Nat :=
  stack.words.length

/-- Put a word on top. -/
def push (stack : OperandStack) (word : Word) : Except VmError OperandStack :=
  if room : stack.words.length < 1024 then
    .ok ⟨word :: stack.words, by
      simp only [List.length_cons]
      omega⟩
  else
    .error .stackOverflow

/-- Put a word on top for each repetition; stop at the first that does not fit. -/
def pushTimes (word : Word) : Nat → OperandStack → Except VmError Unit × OperandStack
  | 0, stack => (.ok (), stack)
  | times + 1, stack =>
      match stack.push word with
      | .ok pushed => pushTimes word times pushed
      | .error error => (.error error, stack)

/-- Take the top word. -/
def pop (stack : OperandStack) : Except VmError (Word × OperandStack) :=
  match stack with
  | ⟨[], _⟩ => .error .stackUnderflow
  | ⟨word :: rest, length_le⟩ =>
      .ok (word, ⟨rest, by
        simp only [List.length_cons] at length_le
        omega⟩)

/-- Take several words, the top one first; nothing is taken when there are too few. -/
def popMany (stack : OperandStack) (count : Nat) : Except VmError (List Word × OperandStack) :=
  if stack.words.length < count then
    .error .stackUnderflow
  else
    .ok (stack.words.take count, ⟨stack.words.drop count, by
      have bound := stack.length_le
      simp only [List.length_drop]
      omega⟩)

/-- The word at a depth below the top one. -/
def peek (stack : OperandStack) (depth : Nat) : Except VmError Word :=
  match stack.words[depth]? with
  | some word => .ok word
  | none => .error .stackUnderflow

/-- Put a copy of the word at a depth on top. -/
def dup (stack : OperandStack) (depth : Nat) : Except VmError OperandStack := do
  stack.push (← stack.peek depth)

/-- Exchange the top word with the one so many places below it. -/
def swap (stack : OperandStack) (places : Nat) : Except VmError OperandStack :=
  match stack.words[0]?, stack.words[places]? with
  | some top, some lower =>
      if places = 0 then
        .error .stackUnderflow
      else
        .ok ⟨(stack.words.set 0 lower).set places top, by
          simpa using stack.length_le⟩
  | _, _ => .error .stackUnderflow

/-- The words from the bottom to the top. -/
def bottomFirst (stack : OperandStack) : List Word :=
  stack.words.reverse

/-- What was pushed is popped. -/
theorem pop_of_push
    {stack pushed : OperandStack}
    {word : Word}
    (fits : stack.push word = .ok pushed) :
    pushed.pop = .ok (word, stack) := by
  unfold push at fits
  split at fits
  · injection fits with shape
    subst shape
    rfl
  · injection fits

end OperandStack

end LedgerEvm
