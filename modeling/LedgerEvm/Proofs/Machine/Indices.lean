import LedgerEvm.Machine.Memory
import LedgerEvm.Machine.OperandStack
import LedgerEvm.Machine.Program

namespace LedgerEvm

/-!
# Accesses by index

A machine reads and writes byte strings through ranges of indices that have to lie
inside them.  Each access that an instruction makes is put together here from such ranges
and has no answer if one of them is out of range; where it has one, that is the answer
of the total operation.
-/

namespace Bytes

/-- The bytes in a range of indices. -/
def slice? (bytes : Bytes) (start stop : Nat) : Option Bytes :=
  if start ≤ stop ∧ stop ≤ bytes.length then
    some ((bytes.drop start).take (stop - start))
  else
    none

/-- The bytes with a range of indices overwritten by as many bytes. -/
def overwrite? (bytes : Bytes) (start stop : Nat) (source : Bytes) : Option Bytes :=
  if start ≤ stop ∧ stop ≤ bytes.length ∧ source.length = stop - start then
    some (bytes.take start ++ source ++ bytes.drop stop)
  else
    none

/-- What there is of a window is copied into as many zeros. -/
def windowByIndex? (bytes : Bytes) (offset size : Nat) : Option Bytes :=
  let blank := List.replicate size 0
  if offset < bytes.length then do
    let stop := min (offset + size) bytes.length
    let inside ← bytes.slice? offset stop
    overwrite? blank 0 (stop - offset) inside
  else
    some blank

variable {bytes source : Bytes} {start stop offset size : Nat}

theorem slice?_of_le
    (ordered : start ≤ stop)
    (inside : stop ≤ bytes.length) :
    bytes.slice? start stop = some ((bytes.drop start).take (stop - start)) :=
  if_pos ⟨ordered, inside⟩

theorem overwrite?_of_le
    (ordered : start ≤ stop)
    (inside : stop ≤ bytes.length)
    (fits : source.length = stop - start) :
    bytes.overwrite? start stop source =
      some (bytes.take start ++ source ++ bytes.drop stop) :=
  if_pos ⟨ordered, inside, fits⟩

/-- A window is always in range. -/
theorem windowByIndex?_eq
    (bytes : Bytes)
    (offset size : Nat) :
    bytes.windowByIndex? offset size = some (bytes.window offset size) := by
  unfold windowByIndex?
  dsimp only
  split
  · rename_i begins
    have ordered : offset ≤ min (offset + size) bytes.length := by omega
    have inside : min (offset + size) bytes.length ≤ bytes.length := Nat.min_le_right _ _
    have fits :
        min (offset + size) bytes.length - offset ≤
          (List.replicate size (0 : UInt8)).length := by
      rw [List.length_replicate]
      omega
    have same :
        (bytes.drop offset).take (min (offset + size) bytes.length - offset) =
          (bytes.drop offset).take size := by
      rw [List.take_eq_take_iff, List.length_drop]
      omega
    have length :
        ((bytes.drop offset).take size).length =
          min (offset + size) bytes.length - offset := by
      rw [List.length_take, List.length_drop]
      omega
    rw [slice?_of_le ordered inside, same]
    change overwrite? _ _ _ _ = _
    rw [overwrite?_of_le (Nat.zero_le _) fits (by rw [length, Nat.sub_zero])]
    simp only [window, List.take_zero, List.nil_append, List.drop_replicate, length]
  · rename_i ends
    have none : bytes.drop offset = [] := List.drop_eq_nil_of_le (Nat.le_of_not_lt ends)
    simp only [window, none, List.take_nil, List.nil_append, List.length_nil, Nat.sub_zero]

/-- Zeros in front do not change the number that bytes write. -/
theorem toNat_replicate_append
    (count : Nat)
    (bytes : Bytes) :
    toNat (List.replicate count 0 ++ bytes) = toNat bytes := by
  induction count with
  | zero => rfl
  | succ count inductionHypothesis => exact inductionHypothesis

end Bytes

namespace Memory

/-- The bytes of a memory. -/
def bytes (memory : Memory) : Bytes :=
  memory.data.toList

/-- Read a window of memory by indices. -/
def readByIndex? (memory : Memory) (offset size : Nat) : Option Bytes :=
  memory.bytes.windowByIndex? offset size

/-- Overwrite a range of memory. -/
def overwrite? (memory : Memory) (start stop : Nat) (source : Bytes) : Option Memory := do
  let data ← memory.bytes.overwrite? start stop source
  return { memory with data := data.toArray }

/-- Write the window of a source by indices. -/
def storeByIndex?
    (memory : Memory)
    (offset : Nat)
    (source : Bytes)
    (sourceOffset size : Nat) :
    Option Memory :=
  if size = 0 then
    some memory
  else do
    let bytes ← source.windowByIndex? sourceOffset size
    memory.overwrite? offset (offset + size) bytes

/-- Copy a range of memory to another one of the same size. -/
def copyByIndex? (memory : Memory) (destination source size : Nat) : Option Memory := do
  let bytes ← memory.bytes.slice? source (source + size)
  memory.overwrite? destination (destination + size) bytes

variable {memory : Memory}

@[simp] theorem length_bytes
    (memory : Memory) :
    memory.bytes.length = memory.size :=
  Array.length_toList

theorem read_eq_window
    (memory : Memory)
    (offset size : Nat) :
    memory.read offset size = memory.bytes.window offset size := by
  simp only [read, bytes, Bytes.window, Array.toList_extract, List.extract_eq_take_drop,
    Nat.add_sub_cancel_left]

theorem readByIndex?_eq
    (memory : Memory)
    (offset size : Nat) :
    memory.readByIndex? offset size = some (memory.read offset size) := by
  rw [readByIndex?, Bytes.windowByIndex?_eq, read_eq_window]

/-- Bytes that fit are put in place of those that were there. -/
theorem writeBytes_eq
    (data : Array UInt8)
    (offset : Nat)
    (bytes : Bytes)
    (fits : offset + bytes.length ≤ data.size) :
    writeBytes data offset bytes =
      (data.toList.take offset ++ bytes ++ data.toList.drop (offset + bytes.length)).toArray := by
  induction bytes generalizing data offset with
  | nil =>
      simp only [writeBytes, List.length_nil, Nat.add_zero, List.append_nil,
        List.take_append_drop, Array.toArray_toList]
  | cons byte rest inductionHypothesis =>
      rw [List.length_cons] at fits
      have inside : offset < data.toList.length := by
        rw [Array.length_toList]
        omega
      have length : (data.toList.take offset).length = offset :=
        List.length_take_of_le (Nat.le_of_lt inside)
      have shape :
          (data.setIfInBounds offset byte).toList =
            data.toList.take offset ++ byte :: data.toList.drop (offset + 1) := by
        rw [Array.toList_setIfInBounds, List.set_eq_take_append_cons_drop, if_pos inside]
      have taken :
          (data.setIfInBounds offset byte).toList.take (offset + 1) =
            data.toList.take offset ++ [byte] := by
        rw [shape, List.take_append, List.take_of_length_le (by omega), length,
          Nat.add_sub_cancel_left, List.take_succ_cons, List.take_zero]
      have dropped :
          (data.setIfInBounds offset byte).toList.drop (offset + 1 + rest.length) =
            data.toList.drop (offset + (byte :: rest).length) := by
        have behind : offset + 1 + rest.length - offset = rest.length + 1 := by omega
        rw [shape, List.drop_append, List.drop_eq_nil_of_le (by omega), length, behind,
          List.nil_append, List.drop_succ_cons, List.drop_drop, List.length_cons]
        congr 1
        omega
      rw [writeBytes, inductionHypothesis _ _ (by rw [Array.size_setIfInBounds]; omega), taken,
        dropped]
      simp only [List.append_assoc, List.cons_append, List.nil_append]

/-- A memory that grows to some words has them, and what it had before. -/
theorem size_growTo
    (memory : Memory)
    (words : Nat) :
    (memory.growTo words).size = max memory.size (words * 32) := by
  unfold growTo
  split
  · rename_i less
    simp only [Memory.words, wordSize] at less
    simp only [size, Array.size_append, Array.size_replicate, wordSize]
    omega
  · rename_i enough
    simp only [Memory.words, wordSize] at enough
    simp only [size]
    omega

/-- A write that fits is in range. -/
theorem overwrite?_eq
    {offset : Nat}
    {bytes : Bytes}
    (fits : offset + bytes.length ≤ memory.size) :
    memory.overwrite? offset (offset + bytes.length) bytes =
      some (memory.write offset bytes) := by
  have inside : offset + bytes.length ≤ memory.bytes.length := by
    rw [length_bytes]
    exact fits
  unfold overwrite?
  rw [Bytes.overwrite?_of_le (Nat.le_add_right _ _) inside (Nat.add_sub_cancel_left _ _).symm]
  simp only [write, writeBytes_eq _ _ _ fits]
  rfl

theorem storeByIndex?_eq
    {offset size : Nat}
    (fits : offset + size ≤ memory.size)
    (source : Bytes)
    (sourceOffset : Nat) :
    memory.storeByIndex? offset source sourceOffset size =
      some (memory.storeWindow offset source sourceOffset size) := by
  unfold storeByIndex?
  split
  · rename_i empty
    subst empty
    have none : source.window sourceOffset 0 = [] := by
      rw [← List.length_eq_zero_iff, Bytes.length_window]
    rw [storeWindow, none]
    rfl
  · have fits' : offset + (source.window sourceOffset size).length ≤ memory.size := by
      rw [Bytes.length_window]
      exact fits
    have written := overwrite?_eq fits'
    rw [Bytes.length_window] at written
    rw [Bytes.windowByIndex?_eq]
    exact written

theorem copyByIndex?_eq
    {destination source size : Nat}
    (reads : source + size ≤ memory.size)
    (writes : destination + size ≤ memory.size) :
    memory.copyByIndex? destination source size =
      some (memory.copy destination source size) := by
  have inside : source + size ≤ memory.bytes.length := by
    rw [length_bytes]
    exact reads
  have length : ((memory.bytes.drop source).take size).length = size := by
    rw [List.length_take, List.length_drop]
    omega
  have whole : memory.read source size = (memory.bytes.drop source).take size := by
    simp only [read_eq_window, Bytes.window, length, Nat.sub_self, List.replicate_zero,
      List.append_nil]
  have fits : destination + ((memory.bytes.drop source).take size).length ≤ memory.size := by
    rw [length]
    exact writes
  have written := overwrite?_eq fits
  rw [length] at written
  unfold copyByIndex?
  rw [Bytes.slice?_of_le (Nat.le_add_right _ _) inside, Nat.add_sub_cancel_left, copy, whole]
  exact written

end Memory

namespace Program

/-- The word of a push by indices: what is there of its bytes is copied into a blank word. -/
def immediateByIndex? (program : Program) (position size : Nat) : Option Word := do
  let start := min position program.size
  let stop := min (position + size) program.size
  let inside ← Bytes.slice? program.code.toList start stop
  let blank : Bytes := List.replicate 32 0
  let word ← blank.overwrite? (32 - size) (32 - size + (stop - start)) inside
  return Word.ofBytes word

/-- The bytes of a push of at most 32 bytes are always in range. -/
theorem immediateByIndex?_eq
    (program : Program)
    (position : Nat)
    {size : Nat}
    (short : size ≤ 32) :
    program.immediateByIndex? position size = some (program.immediate position size) := by
  have code : program.code.toList.length = program.size := Array.length_toList
  have ordered : min position program.size ≤ min (position + size) program.size := by omega
  have inside : min (position + size) program.size ≤ program.code.toList.length := by omega
  have same :
      (program.code.toList.drop (min position program.size)).take
          (min (position + size) program.size - min position program.size) =
        (program.code.extract position (position + size)).toList := by
    rw [Array.toList_extract, List.extract_eq_take_drop, Nat.add_sub_cancel_left]
    by_cases begins : position ≤ program.size
    · rw [Nat.min_eq_left begins, List.take_eq_take_iff, List.length_drop]
      omega
    · rw [List.drop_eq_nil_of_le (by omega), List.drop_eq_nil_of_le (by omega), List.take_nil,
        List.take_nil]
  have length :
      (program.code.extract position (position + size)).toList.length =
        min (position + size) program.size - min position program.size := by
    rw [← same, List.length_take, List.length_drop]
    omega
  unfold immediateByIndex?
  dsimp only
  rw [Bytes.slice?_of_le ordered inside, same]
  change (Bytes.overwrite? _ _ _ _ >>= _) = _
  rw [Bytes.overwrite?_of_le (Nat.le_add_right _ _) (by rw [List.length_replicate]; omega)
    (by rw [length, Nat.add_sub_cancel_left])]
  have rest :
      32 - (32 - size + (min (position + size) program.size - min position program.size)) =
        size - (min (position + size) program.size - min position program.size) := by
    omega
  change some (Word.ofBytes _) = some (Word.ofBytes _)
  rw [List.take_replicate, List.drop_replicate, List.append_assoc, length, rest,
    Nat.min_eq_left (Nat.sub_le 32 size)]
  simp only [Word.ofBytes, Bytes.toNat_replicate_append]

end Program

namespace OperandStack

/-- The word at a depth below the top one, by its index from the bottom. -/
def peekByIndex? (stack : OperandStack) (depth : Nat) : Option Word :=
  stack.bottomFirst[stack.size - (depth + 1)]?

theorem length_exchanged_le
    (stack : OperandStack)
    (places : Nat)
    (top lower : Word) :
    ((stack.words.set 0 lower).set places top).length ≤ 1024 := by
  rw [List.length_set, List.length_set]
  exact stack.length_le

/-- The stack with other words on top and so many places below. -/
def exchanged (stack : OperandStack) (places : Nat) (top lower : Word) : OperandStack :=
  ⟨(stack.words.set 0 lower).set places top, stack.length_exchanged_le places top lower⟩

theorem peekByIndex?_eq
    {stack : OperandStack}
    {depth : Nat}
    (deep : depth + 1 ≤ stack.size) :
    stack.peekByIndex? depth = stack.words[depth]? := by
  unfold peekByIndex? bottomFirst
  unfold size at deep ⊢
  rw [List.getElem?_reverse (by omega)]
  congr 1
  omega

end OperandStack

end LedgerEvm
