import LedgerEvm.Clamp
import LedgerEvm.Error
import LedgerEvm.Hash

namespace LedgerEvm

/-!
# Memory

A frame's memory is a byte array that grows in whole words up to a limit.  Reads
past its end give zeros; writes are made inside it.
-/

/-- The memory of a frame. -/
structure Memory where
  data : Array UInt8
  limit : Nat

namespace Memory

/-- The bytes of one word. -/
def wordSize : Nat :=
  32

/-- The limit of a memory for which none is given. -/
def standardLimit : Nat :=
  16 * 1024 * 1024

/-- The memory without bytes. -/
def withLimit (limit : Nat) : Memory :=
  ⟨#[], limit⟩

instance : Inhabited Memory := ⟨withLimit standardLimit⟩

/-- The number of bytes. -/
def size (memory : Memory) : Nat :=
  memory.data.size

/-- The number of whole words. -/
def words (memory : Memory) : Nat :=
  memory.data.size / wordSize

/-- The least number of words that holds so many bytes. -/
def wordsFor (bytes : Nat) : Nat :=
  (bytes + 31) / 32

/-- The number of words that a window needs, at least those there are. -/
def requiredWords (memory : Memory) (offset size : Nat) : Except VmError Nat :=
  if size = 0 then
    .ok memory.words
  else if offset + size ≤ memory.limit then
    .ok (Nat.max (wordsFor (offset + size)) memory.words)
  else
    .error (.memoryLimitExceeded (UInt64.ofNatClamp (offset + size)).toNat memory.limit)

/-- The gas that so many words cost in all. -/
def totalCost (words : Nat) : UInt64 :=
  let count := UInt64.ofNatClamp words
  (count.mulClamp 3).addClamp (count.mulClamp count / 512)

/-- The gas of growing from one number of words to another. -/
def expansionCost (oldWords newWords : Nat) : UInt64 :=
  if newWords ≤ oldWords then 0 else totalCost newWords - totalCost oldWords

/-- The gas of growing so that a window fits. -/
def windowCost (memory : Memory) (offset size : Nat) : Except VmError UInt64 := do
  return expansionCost memory.words (← memory.requiredWords offset size)

/-- Grow to so many words; a memory that has them stays as it is. -/
def growTo (memory : Memory) (words : Nat) : Memory :=
  if memory.words < words then
    { memory with
      data := memory.data ++ Array.replicate (words * wordSize - memory.data.size) 0 }
  else
    memory

/-- Grow so that a window fits. -/
def resize (memory : Memory) (offset size : Nat) : Except VmError Memory := do
  return memory.growTo (← memory.requiredWords offset size)

/-- The window of `size` bytes from `offset`, with zeros past the end. -/
def read (memory : Memory) (offset size : Nat) : Bytes :=
  let inside := (memory.data.extract offset (offset + size)).toList
  inside ++ List.replicate (size - inside.length) 0

/-- The word at an offset. -/
def load (memory : Memory) (offset : Nat) : Word :=
  Word.ofBytes (memory.read offset wordSize)

/-- Put bytes at an offset, one after the other. -/
def writeBytes (data : Array UInt8) : Nat → Bytes → Array UInt8
  | _, [] => data
  | offset, byte :: rest => writeBytes (data.setIfInBounds offset byte) (offset + 1) rest

/-- Write bytes at an offset. -/
def write (memory : Memory) (offset : Nat) (bytes : Bytes) : Memory :=
  { memory with data := writeBytes memory.data offset bytes }

/-- Write a word at an offset. -/
def store (memory : Memory) (offset : Nat) (word : Word) : Memory :=
  memory.write offset word.toBytes

/-- Write one byte. -/
def storeByte (memory : Memory) (offset : Nat) (byte : UInt8) : Memory :=
  memory.write offset [byte]

/-- Write the window of a source, with zeros past the source's end. -/
def storeWindow
    (memory : Memory)
    (offset : Nat)
    (source : Bytes)
    (sourceOffset size : Nat) :
    Memory :=
  memory.write offset (source.window sourceOffset size)

/-- Copy a window to another place, as if through a buffer. -/
def copy (memory : Memory) (destination source size : Nat) : Memory :=
  memory.write destination (memory.read source size)

/-- The whole words of the memory. -/
def toWords (memory : Memory) : List Hash :=
  (List.range memory.words).map fun index => ⟨memory.load (index * wordSize)⟩

@[simp] theorem size_writeBytes
    (data : Array UInt8)
    (offset : Nat)
    (bytes : Bytes) :
    (writeBytes data offset bytes).size = data.size := by
  induction bytes generalizing data offset with
  | nil =>
      rfl
  | cons byte rest inductionHypothesis =>
      simp [writeBytes, inductionHypothesis]

/-- Writing does not change the size. -/
@[simp] theorem size_write
    (memory : Memory)
    (offset : Nat)
    (bytes : Bytes) :
    (memory.write offset bytes).size = memory.size := by
  simp [write, size]

/-- A read has the length asked for. -/
@[simp] theorem length_read
    (memory : Memory)
    (offset size : Nat) :
    (memory.read offset size).length = size := by
  simp only [read, List.length_append, Array.length_toList, Array.size_extract,
    List.length_replicate]
  omega

end Memory

end LedgerEvm
