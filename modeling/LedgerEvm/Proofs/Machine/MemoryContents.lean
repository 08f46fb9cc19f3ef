import Mathlib.Algebra.BigOperators.Ring.List
import Mathlib.Algebra.Ring.Nat
import LedgerEvm.Proofs.Abi.RoundTrip
import LedgerEvm.Proofs.Machine.Indices
import LedgerEvm.Proofs.Machine.TouchedWindows

namespace LedgerEvm

/-!
# Memory as a byte at every number

A memory stands for a byte at every natural number, zero where nothing was written, and so do
the byte strings that are copied into it.  What memory reads, writes and copies is what is
read, overwritten and copied there, without ends.
-/

/-- A byte at every natural number. -/
abbrev Contents := Nat → UInt8

namespace Contents

/-- The bytes from an offset on. -/
def behind (contents : Contents) (offset : Nat) : Contents := fun index =>
  contents (offset + index)

/-- The first bytes. -/
def first (contents : Contents) (size : Nat) : Bytes :=
  (List.range size).map contents

/-- A range overwritten with the first bytes of other contents. -/
def overwrite (contents : Contents) (offset size : Nat) (source : Contents) : Contents :=
  fun index =>
    if offset ≤ index ∧ index < offset + size then source (index - offset) else contents index

/-- The word that the first 32 bytes write, the most significant one first. -/
def word (contents : Contents) : Word :=
  BitVec.ofNat 256
    ((List.range 32).map fun index => (contents index).toNat * 256 ^ (31 - index)).sum

/-- The 32 bytes of a word, the most significant one first. -/
def ofWord (word : Word) : Contents := fun index =>
  UInt8.ofNat (word.toNat / 256 ^ (31 - index))

variable {contents source source' : Contents} {offset size : Nat}

@[simp] theorem length_first
    (contents : Contents)
    (size : Nat) :
    (contents.first size).length = size := by
  rw [first, List.length_map, List.length_range]

theorem first_succ
    (contents : Contents)
    (size : Nat) :
    contents.first (size + 1) = contents.first size ++ [contents size] := by
  rw [first, List.range_succ, List.map_append, List.map_singleton, first]

/-- A range without bytes leaves everything as it is. -/
@[simp] theorem overwrite_zero
    (contents : Contents)
    (offset : Nat)
    (source : Contents) :
    contents.overwrite offset 0 source = contents := by
  funext index
  exact if_neg (by omega)

/-- Every byte outside the range is as it was. -/
theorem overwrite_outside
    {index : Nat}
    (outside : index < offset ∨ offset + size ≤ index) :
    contents.overwrite offset size source index = contents index :=
  if_neg (by omega)

/-- The bytes in the range are those of the source, in its order. -/
theorem overwrite_inside
    {index : Nat}
    (inside : index < size) :
    contents.overwrite offset size source (offset + index) = source index := by
  rw [overwrite, if_pos ⟨Nat.le_add_right _ _, Nat.add_lt_add_left inside _⟩,
    Nat.add_sub_cancel_left]

/-- Only the bytes that the range takes matter. -/
theorem overwrite_congr
    (same : ∀ index < size, source index = source' index) :
    contents.overwrite offset size source = contents.overwrite offset size source' := by
  funext index
  unfold overwrite
  split
  · rename_i inside
    exact same _ (by omega)
  · rfl

end Contents

namespace Bytes

/-- A byte string, with zeros past its end. -/
def extended (bytes : Bytes) : Contents := fun index =>
  (bytes[index]?).getD 0

/-- Before its end a byte string shows its own bytes. -/
theorem getElem?_eq_extended
    {bytes : Bytes}
    {index : Nat}
    (inside : index < bytes.length) :
    bytes[index]? = some (bytes.extended index) := by
  rw [extended, List.getElem?_eq_getElem inside, Option.getD_some]

/-- The first bytes of contents are those contents as far as they go. -/
theorem extended_first
    (contents : Contents)
    {size index : Nat}
    (inside : index < size) :
    (contents.first size).extended index = contents index := by
  simp only [extended, Contents.first, List.getElem?_map, List.getElem?_range inside,
    Option.map_some, Option.getD_some]

/-- A window shows what the string holds from its offset on, with zeros past the end. -/
theorem window_eq
    (bytes : Bytes)
    (offset size : Nat) :
    bytes.window offset size = (bytes.extended.behind offset).first size := by
  refine List.ext_getElem (by rw [length_window, Contents.length_first]) fun index inside _ => ?_
  rw [length_window] at inside
  have shown :
      ((bytes.extended.behind offset).first size)[index]? =
        some ((bytes[offset + index]?).getD 0) := by
    simp only [Contents.first, List.getElem?_map, List.getElem?_range inside, Option.map_some,
      Contents.behind, extended]
  have held :
      (bytes.window offset size)[index]? = some ((bytes[offset + index]?).getD 0) := by
    simp only [window, List.getElem?_append, List.length_take, List.length_drop,
      List.getElem?_take, List.getElem?_drop, List.getElem?_replicate]
    split
    · rename_i within
      have there : offset + index < bytes.length := by omega
      rw [List.getElem?_eq_getElem there, Option.getD_some]
    · rename_i beyond
      have gone : bytes.length ≤ offset + index := by omega
      rw [if_pos (by omega), List.getElem?_eq_none gone, Option.getD_none]
  exact Option.some.inj
    (by rw [← List.getElem?_eq_getElem, ← List.getElem?_eq_getElem, held, shown])

/-- An offset past the end shows zeros, as the end does. -/
theorem behind_min
    (bytes : Bytes)
    (offset : Nat) :
    bytes.extended.behind (min offset bytes.length) = bytes.extended.behind offset := by
  funext index
  rcases Nat.le_total offset bytes.length with within | beyond
  · rw [Nat.min_eq_left within]
  · simp only [Contents.behind, extended, Nat.min_eq_right beyond]
    rw [List.getElem?_eq_none (Nat.le_add_right _ _), List.getElem?_eq_none (by omega)]

/-- The number that the first bytes write, digit by digit. -/
theorem toNat_first
    (contents : Contents)
    (size : Nat) :
    toNat (contents.first size) =
      ((List.range size).map fun index =>
        (contents index).toNat * 256 ^ (size - 1 - index)).sum := by
  induction size with
  | zero => rfl
  | succ size inductionHypothesis =>
      have shifted :
          ((List.range size).map fun index =>
              (contents index).toNat * 256 ^ (size + 1 - 1 - index)) =
            (List.range size).map fun index =>
              (contents index).toNat * 256 ^ (size - 1 - index) * 256 := by
        refine List.map_congr_left fun index member => ?_
        have inside := List.mem_range.mp member
        rw [Nat.mul_assoc, ← Nat.pow_succ]
        congr 2
        omega
      rw [Contents.first_succ, toNat_append_singleton, inductionHypothesis, List.range_succ,
        List.map_append, List.sum_append, shifted, List.sum_map_mul_right, List.map_singleton,
        List.sum_singleton, Nat.add_sub_cancel, Nat.sub_self, Nat.pow_zero, Nat.mul_one]

/-- The digits of a number. -/
theorem ofNat_eq_first
    (size value : Nat) :
    ofNat size value =
      Contents.first (fun index => UInt8.ofNat (value / 256 ^ (size - 1 - index))) size := by
  induction size generalizing value with
  | zero => rfl
  | succ size inductionHypothesis =>
      rw [ofNat, Contents.first_succ, inductionHypothesis, Nat.add_sub_cancel, Nat.sub_self,
        Nat.pow_zero, Nat.div_one]
      congr 1
      refine List.map_congr_left fun index member => ?_
      have inside := List.mem_range.mp member
      rw [Nat.div_div_eq_div_mul, ← Nat.pow_succ']
      congr 3
      omega

end Bytes

namespace Word

/-- The word that the first bytes write. -/
theorem ofBytes_first
    (contents : Contents) :
    ofBytes (contents.first 32) = contents.word := by
  rw [ofBytes, Bytes.toNat_first, Contents.word]

theorem toBytes_eq_first
    (word : Word) :
    word.toBytes = (Contents.ofWord word).first 32 :=
  Bytes.ofNat_eq_first 32 word.toNat

end Word

namespace Memory

/-- The byte at each place of a memory, zero past its end. -/
def contents (memory : Memory) : Contents :=
  memory.bytes.extended

variable {memory : Memory}

/-- What is read is what memory contains. -/
theorem read_eq_first
    (memory : Memory)
    (offset size : Nat) :
    memory.read offset size = (memory.contents.behind offset).first size := by
  rw [read_eq_window, Bytes.window_eq]
  rfl

/-- The word that is loaded is the one that memory contains. -/
theorem load_eq
    (memory : Memory)
    (offset : Nat) :
    memory.load offset = (memory.contents.behind offset).word := by
  rw [load, read_eq_first]
  exact Word.ofBytes_first _

/-- Growing changes nothing of what memory contains. -/
@[simp] theorem contents_growTo
    (memory : Memory)
    (words : Nat) :
    (memory.growTo words).contents = memory.contents := by
  funext index
  unfold growTo
  split
  · simp only [contents, bytes, Bytes.extended, Array.toList_append, Array.toList_replicate,
      List.getElem?_append, List.getElem?_replicate]
    split
    · rfl
    · rename_i beyond
      rw [List.getElem?_eq_none (Nat.le_of_not_lt beyond)]
      split <;> rfl
  · rfl

/-- What is written within memory overwrites its range and nothing else. -/
theorem contents_write
    {offset : Nat}
    {written : Bytes}
    (fits : offset + written.length ≤ memory.size) :
    (memory.write offset written).contents =
      memory.contents.overwrite offset written.length written.extended := by
  have inside : offset ≤ memory.data.toList.length := by
    rw [Array.length_toList]
    unfold size at fits
    omega
  funext index
  simp only [contents, bytes, write, writeBytes_eq _ _ _ fits, Bytes.extended,
    Contents.overwrite, List.append_assoc, List.getElem?_append, List.length_take,
    List.getElem?_take, List.getElem?_drop, Nat.min_eq_left inside]
  rcases Nat.lt_or_ge index offset with before | after
  · rw [if_pos before, if_pos before, if_neg (by omega)]
  · rw [if_neg (by omega)]
    rcases Nat.lt_or_ge index (offset + written.length) with within | behind
    · rw [if_pos (by omega), if_pos ⟨after, within⟩]
    · have place : offset + written.length + (index - offset - written.length) = index := by
        omega
      rw [if_neg (by omega), if_neg (by omega), place]

/-- The first bytes of other contents are written as those contents. -/
theorem contents_write_first
    {offset size : Nat}
    (fits : offset + size ≤ memory.size)
    (source : Contents) :
    (memory.write offset (source.first size)).contents =
      memory.contents.overwrite offset size source := by
  have within : offset + (source.first size).length ≤ memory.size := by
    rwa [Contents.length_first]
  have written := contents_write within
  rw [Contents.length_first] at written
  exact written.trans (Contents.overwrite_congr fun index => Bytes.extended_first source)

theorem contents_store
    {offset : Nat}
    (fits : offset + 32 ≤ memory.size)
    (word : Word) :
    (memory.store offset word).contents =
      memory.contents.overwrite offset 32 (Contents.ofWord word) := by
  rw [store, Word.toBytes_eq_first, contents_write_first fits]

theorem contents_storeByte
    {offset : Nat}
    (fits : offset + 1 ≤ memory.size)
    (byte : UInt8) :
    (memory.storeByte offset byte).contents =
      memory.contents.overwrite offset 1 fun _ => byte :=
  contents_write_first fits fun _ => byte

/-- A window of a source is copied with the zeros past the end of the source. -/
theorem contents_storeWindow
    {offset size : Nat}
    (fits : offset + size ≤ memory.size)
    (source : Bytes)
    (sourceOffset : Nat) :
    (memory.storeWindow offset source sourceOffset size).contents =
      memory.contents.overwrite offset size (source.extended.behind sourceOffset) := by
  rw [storeWindow, Bytes.window_eq, contents_write_first fits]

/-- Windows that overlap are copied as if through a buffer. -/
theorem contents_copy
    {destination size : Nat}
    (fits : destination + size ≤ memory.size)
    (source : Nat) :
    (memory.copy destination source size).contents =
      memory.contents.overwrite destination size (memory.contents.behind source) := by
  rw [copy, read_eq_first, contents_write_first fits]

end Memory

/-!
## Memory without ends

The instructions that read, write and copy bytes do to the contents of memory, a byte at every
natural number, what their definition asks for there.  Where memory ends, and where a source
ends, does not show.
-/

/-- The code that an instruction is shown at an address; at one of the system's there is none. -/
def World.shownCode (world : World) (rule : AddressRule) (address : Address) : Bytes :=
  match world.judge rule address, world.code address with
  | .ok .regular, .ok code => code
  | _, _ => []

/-- The code at an address does not depend on what was accessed. -/
theorem World.code_warmAccount
    (world : World)
    (accessed address : Address) :
    (world.warmAccount accessed).code address = world.code address := by
  have get : (world.warmAccount accessed).get address = world.get address :=
    get_record world address (fun _ => rfl) fun _ => rfl
  simp only [code, get]

/-- What an instruction does to the stack, and the bytes that it puts in a range of memory. -/
structure ByteEffect where
  stack : List Word
  target : Nat := 0
  size : Nat := 0
  source : Contents := fun _ => 0

namespace Instruction

/-- Whether the instruction reads, writes or copies bytes. -/
def handlesBytes : Instruction → Bool
  | .keccak => true
  | .callDataLoad => true
  | .callDataCopy => true
  | .codeCopy => true
  | .extCodeCopy => true
  | .returnDataCopy => true
  | .memoryLoad => true
  | .memoryStore => true
  | .memoryStoreByte => true
  | .memoryCopy => true
  | _ => false

/-- What an instruction that handles bytes is to do, by the words that it finds. -/
def byteEffect?
    (rule : AddressRule)
    (world : World)
    (frame : Frame) :
    Instruction → List Word → Option ByteEffect
  | .keccak, offset :: size :: rest =>
      let bytes := (frame.memory.contents.behind offset.toNat).first size.toNat
      some { stack := (Keccak.keccak256 bytes).word :: rest }
  | .callDataLoad, offset :: rest =>
      some { stack := (frame.context.data.extended.behind offset.toNat).word :: rest }
  | .callDataCopy, target :: offset :: size :: rest =>
      some
        { stack := rest
          target := target.toNat
          size := size.toNat
          source := frame.context.data.extended.behind offset.toNat }
  | .codeCopy, target :: offset :: size :: rest =>
      some
        { stack := rest
          target := target.toNat
          size := size.toNat
          source := frame.program.bytes.extended.behind offset.toNat }
  | .extCodeCopy, place :: target :: offset :: size :: rest =>
      let code := world.shownCode rule (Address.ofWord place)
      some
        { stack := rest
          target := target.toNat
          size := size.toNat
          source := code.extended.behind offset.toNat }
  | .returnDataCopy, target :: offset :: size :: rest =>
      some
        { stack := rest
          target := target.toNat
          size := size.toNat
          source := frame.returnData.extended.behind offset.toNat }
  | .memoryLoad, offset :: rest =>
      some { stack := (frame.memory.contents.behind offset.toNat).word :: rest }
  | .memoryStore, target :: word :: rest =>
      some { stack := rest, target := target.toNat, size := 32, source := .ofWord word }
  | .memoryStoreByte, target :: word :: rest =>
      some
        { stack := rest
          target := target.toNat
          size := 1
          source := fun _ => UInt8.ofNat word.toNat }
  | .memoryCopy, target :: source :: size :: rest =>
      some
        { stack := rest
          target := target.toNat
          size := size.toNat
          source := frame.memory.contents.behind source.toNat }
  | _, _ => none

end Instruction

namespace Exec

variable {machine after : Machine}

/-! ### What the parts of instructions do when they succeed -/

/--
After an expansion memory holds the window and contains what it contained.  The window that
stands for an empty one is another one only if it does not matter.
-/
theorem contents_of_expand
    {offset size : Word}
    {window : Nat × Nat}
    (grown : expand offset size machine = .ok window after) :
    ∃ gas memory,
      after = ⟨{ machine.frame with gas, memory }, machine.simulation⟩ ∧
        memory.contents = machine.frame.memory.contents ∧
        window.1 + window.2 ≤ memory.size ∧
        window.2 = size.toNat ∧ (size ≠ 0 → window.1 = offset.toNat) := by
  obtain ⟨covered, length, begins⟩ := window_of_expand grown
  obtain ⟨-, -, rfl⟩ := of_expand_eq_ok grown
  exact
    ⟨_, _, rfl, Memory.contents_growTo _ _, covered, length,
      fun nonempty => (begins nonempty).1⟩

/-- A window that stands for an empty one is overwritten as that one is: not at all. -/
theorem overwrite_window
    {window : Nat × Nat}
    {offset size : Word}
    (same : window.2 = size.toNat)
    (begins : size ≠ 0 → window.1 = offset.toNat)
    (contents source : Contents) :
    contents.overwrite window.1 window.2 source =
      contents.overwrite offset.toNat size.toNat source := by
  rw [same]
  by_cases empty : size = 0
  · subst empty
    change contents.overwrite _ 0 _ = contents.overwrite _ 0 _
    rw [Contents.overwrite_zero, Contents.overwrite_zero]
  · rw [begins empty]

/-- A window that stands for an empty one shows what that one shows: nothing. -/
theorem first_window
    {window : Nat × Nat}
    {offset size : Word}
    (same : window.2 = size.toNat)
    (begins : size ≠ 0 → window.1 = offset.toNat)
    (contents : Contents) :
    (contents.behind window.1).first window.2 =
      (contents.behind offset.toNat).first size.toNat := by
  rw [same]
  by_cases empty : size = 0
  · subst empty
    rfl
  · rw [begins empty]

/-- A copy to memory overwrites its range with what the source shows, which ends nowhere. -/
theorem contents_of_copyToMemory
    {destination offset size : Word}
    {source : Bytes}
    (done : copyToMemory destination offset size source machine = .ok () after) :
    after.frame.stack = machine.frame.stack ∧
      after.frame.memory.contents =
        machine.frame.memory.contents.overwrite destination.toNat size.toNat
          (source.extended.behind offset.toNat) := by
  obtain ⟨window, grown, grows, done⟩ := exists_of_run_eq_ok done
  obtain ⟨gas, memory, rfl, same, fits, length, begins⟩ := contents_of_expand grows
  obtain ⟨_, paid, charges, done⟩ := exists_of_run_eq_ok done
  obtain ⟨-, rfl⟩ := of_charge_eq_ok charges
  cases done
  refine ⟨rfl, ?_⟩
  change (memory.storeWindow _ _ _ _).contents = _
  rw [Memory.contents_storeWindow fits, same, overwrite_window length begins,
    Bytes.behind_min]

/-- The code that is looked up is the code that is shown, and the frame only pays for it. -/
theorem of_lookUp_code
    {rule : AddressRule}
    {address : Address}
    {code : Bytes}
    (done : lookUp rule address [] (fun world => world.code address) machine = .ok code after) :
    code = machine.simulation.world.shownCode rule address ∧
      ∃ gas, after.frame = { machine.frame with gas } := by
  obtain ⟨regular, inspected, inspects, done⟩ := exists_of_run_eq_ok done
  obtain ⟨verdict, asked, asks, judged⟩ := exists_of_run_eq_ok inspects
  obtain ⟨judges, rfl⟩ := of_ask_eq_ok asks
  cases verdict with
  | systemAccount =>
      obtain ⟨_, paid, charges, rest⟩ := exists_of_run_eq_ok judged
      obtain ⟨-, rfl⟩ := of_charge_eq_ok charges
      cases rest
      cases done
      exact ⟨by simp only [World.shownCode, judges], _, rfl⟩
  | invalid => cases judged
  | regular =>
      obtain ⟨_, accessed, accesses, rest⟩ := exists_of_run_eq_ok judged
      cases rest
      obtain ⟨wasWarm, known, knows, warms⟩ := exists_of_run_eq_ok accesses
      obtain ⟨-, rfl⟩ := of_ask_eq_ok knows
      obtain ⟨_, warmed, warming, pays⟩ := exists_of_run_eq_ok warms
      cases warming
      obtain ⟨-, rfl⟩ := of_charge_eq_ok pays
      rw [if_pos rfl] at done
      obtain ⟨coded, rfl⟩ := of_ask_eq_ok done
      rw [World.code_warmAccount] at coded
      exact ⟨by simp only [World.shownCode, judges, coded], _, rfl⟩

/-! ### Instructions -/

/-- Between two machines an instruction has done to the bytes what it is to do. -/
def Does (rule : AddressRule) (instruction : Instruction) (before after : Machine) : Prop :=
  ∃ effect,
    instruction.byteEffect? rule before.simulation.world before.frame
        before.frame.stack.words = some effect ∧
      after.frame.stack.words = effect.stack ∧
      after.frame.memory.contents =
        before.frame.memory.contents.overwrite effect.target effect.size effect.source

theorem does_hashMemory
    (rule : AddressRule)
    (done : hashMemory machine = .ok () after) :
    Does rule .keccak machine after := by
  obtain ⟨⟨offset, size⟩, popped, pops, done⟩ := exists_of_run_eq_ok done
  obtain ⟨rest, words, rfl⟩ := of_pop2_eq_ok pops
  obtain ⟨window, grown, grows, done⟩ := exists_of_run_eq_ok done
  obtain ⟨gas, memory, rfl, same, fits, length, begins⟩ := contents_of_expand grows
  obtain ⟨_, paid, charges, done⟩ := exists_of_run_eq_ok done
  obtain ⟨-, rfl⟩ := of_charge_eq_ok charges
  obtain ⟨bytes, read, reads, done⟩ := exists_of_run_eq_ok done
  cases reads
  obtain ⟨stack, pushed, rfl⟩ := of_push_eq_ok done
  refine ⟨_, by rw [words]; rfl, ?_, ?_⟩
  · rw [pushed]
    change (Keccak.keccak256 (memory.read _ _)).word :: _ = _
    rw [Memory.read_eq_first, same, first_window length begins]
  · rw [Contents.overwrite_zero]
    exact same

theorem does_callDataLoad
    {rule : AddressRule}
    {environment : Environment}
    {runner : Runner}
    (done : execute environment runner .callDataLoad machine = .ok () after) :
    Does rule .callDataLoad machine after := by
  obtain ⟨offset, popped, pops, done⟩ := exists_of_run_eq_ok done
  obtain ⟨rest, words, rfl⟩ := of_pop_eq_ok pops
  obtain ⟨context, looked, looks, done⟩ := exists_of_run_eq_ok done
  cases looks
  obtain ⟨stack, pushed, rfl⟩ := of_push_eq_ok done
  refine ⟨_, by rw [words]; rfl, ?_, ?_⟩
  · rw [pushed]
    change wordAt _ _ :: _ = _
    rw [wordAt, Bytes.window_eq, Bytes.behind_min, Word.ofBytes_first]
  · rw [Contents.overwrite_zero]

theorem does_callDataCopy
    {rule : AddressRule}
    {environment : Environment}
    {runner : Runner}
    (done : execute environment runner .callDataCopy machine = .ok () after) :
    Does rule .callDataCopy machine after := by
  obtain ⟨⟨destination, offset, size⟩, popped, pops, done⟩ := exists_of_run_eq_ok done
  obtain ⟨rest, words, rfl⟩ := of_pop3_eq_ok pops
  obtain ⟨context, looked, looks, done⟩ := exists_of_run_eq_ok done
  cases looks
  obtain ⟨stack, contents⟩ := contents_of_copyToMemory done
  exact ⟨_, by rw [words]; rfl, congrArg _ stack, contents⟩

theorem does_codeCopy
    {rule : AddressRule}
    {environment : Environment}
    {runner : Runner}
    (done : execute environment runner .codeCopy machine = .ok () after) :
    Does rule .codeCopy machine after := by
  obtain ⟨⟨destination, offset, size⟩, popped, pops, done⟩ := exists_of_run_eq_ok done
  obtain ⟨rest, words, rfl⟩ := of_pop3_eq_ok pops
  obtain ⟨frame, looked, looks, done⟩ := exists_of_run_eq_ok done
  cases looks
  obtain ⟨stack, contents⟩ := contents_of_copyToMemory done
  exact ⟨_, by rw [words]; rfl, congrArg _ stack, contents⟩

theorem does_returnDataCopy
    (rule : AddressRule)
    (done : returnDataCopy machine = .ok () after) :
    Does rule .returnDataCopy machine after := by
  obtain ⟨⟨destination, offset, size⟩, popped, pops, done⟩ := exists_of_run_eq_ok done
  obtain ⟨rest, words, rfl⟩ := of_pop3_eq_ok pops
  obtain ⟨frame, looked, looks, done⟩ := exists_of_run_eq_ok done
  cases looks
  dsimp only at done
  split at done
  · cases done
  · obtain ⟨stack, contents⟩ := contents_of_copyToMemory done
    exact ⟨_, by rw [words]; rfl, congrArg _ stack, contents⟩

theorem does_extCodeCopy
    (rule : AddressRule)
    (done : extCodeCopy rule machine = .ok () after) :
    Does rule .extCodeCopy machine after := by
  obtain ⟨address, found, finds, done⟩ := exists_of_run_eq_ok done
  obtain ⟨word, taken, takes, named⟩ := exists_of_run_eq_ok finds
  obtain ⟨others, shape, rfl⟩ := of_pop_eq_ok takes
  cases named
  obtain ⟨⟨destination, offset, size⟩, popped, pops, done⟩ := exists_of_run_eq_ok done
  obtain ⟨rest, words, rfl⟩ := of_pop3_eq_ok pops
  obtain ⟨code, looked, looks, done⟩ := exists_of_run_eq_ok done
  obtain ⟨rfl, gas, paid⟩ := of_lookUp_code looks
  obtain ⟨stack, contents⟩ := contents_of_copyToMemory done
  rw [paid] at stack contents
  refine ⟨_, by rw [shape, words]; rfl, congrArg _ stack, contents⟩

theorem does_memoryLoad
    (rule : AddressRule)
    (done : memoryLoad machine = .ok () after) :
    Does rule .memoryLoad machine after := by
  obtain ⟨offset, popped, pops, done⟩ := exists_of_run_eq_ok done
  obtain ⟨rest, words, rfl⟩ := of_pop_eq_ok pops
  obtain ⟨window, grown, grows, done⟩ := exists_of_run_eq_ok done
  obtain ⟨gas, memory, rfl, same, fits, length, begins⟩ := contents_of_expand grows
  obtain ⟨frame, looked, looks, done⟩ := exists_of_run_eq_ok done
  cases looks
  obtain ⟨stack, pushed, rfl⟩ := of_push_eq_ok done
  refine ⟨_, by rw [words]; rfl, ?_, ?_⟩
  · rw [pushed]
    change memory.load _ :: _ = _
    rw [Memory.load_eq, same, begins (by decide)]
  · rw [Contents.overwrite_zero]
    exact same

theorem does_memoryStore
    (rule : AddressRule)
    (done : memoryStore machine = .ok () after) :
    Does rule .memoryStore machine after := by
  obtain ⟨⟨offset, word⟩, popped, pops, done⟩ := exists_of_run_eq_ok done
  obtain ⟨rest, words, rfl⟩ := of_pop2_eq_ok pops
  obtain ⟨window, grown, grows, done⟩ := exists_of_run_eq_ok done
  obtain ⟨gas, memory, rfl, same, fits, length, begins⟩ := contents_of_expand grows
  cases done
  refine ⟨_, by rw [words]; rfl, rfl, ?_⟩
  change (memory.store window.1 word).contents = _
  rw [length] at fits
  rw [Memory.contents_store fits, same, begins (by decide)]

theorem does_memoryStoreByte
    (rule : AddressRule)
    (done : memoryStoreByte machine = .ok () after) :
    Does rule .memoryStoreByte machine after := by
  obtain ⟨⟨offset, word⟩, popped, pops, done⟩ := exists_of_run_eq_ok done
  obtain ⟨rest, words, rfl⟩ := of_pop2_eq_ok pops
  obtain ⟨window, grown, grows, done⟩ := exists_of_run_eq_ok done
  obtain ⟨gas, memory, rfl, same, fits, length, begins⟩ := contents_of_expand grows
  cases done
  refine ⟨_, by rw [words]; rfl, rfl, ?_⟩
  change (memory.storeByte window.1 _).contents = _
  rw [length] at fits
  rw [Memory.contents_storeByte fits, same, begins (by decide)]

theorem does_memoryCopy
    (rule : AddressRule)
    (done : memoryCopy machine = .ok () after) :
    Does rule .memoryCopy machine after := by
  obtain ⟨⟨destination, source, size⟩, popped, pops, done⟩ := exists_of_run_eq_ok done
  obtain ⟨rest, words, rfl⟩ := of_pop3_eq_ok pops
  obtain ⟨window, grown, grows, done⟩ := exists_of_run_eq_ok done
  obtain ⟨gas, memory, rfl, same, fits, length, begins⟩ := contents_of_expand grows
  obtain ⟨_, paid, charges, done⟩ := exists_of_run_eq_ok done
  obtain ⟨-, rfl⟩ := of_charge_eq_ok charges
  dsimp only at done length begins fits
  rw [length] at done fits
  split at done
  · rename_i positive
    have nonempty : size ≠ 0 := fun empty => by
      subst empty
      exact absurd positive (Nat.lt_irrefl 0)
    have later : destination.toNat ≤ window.1 := by
      rw [begins nonempty]
      split
      · rename_i before
        exact Nat.le_of_lt (BitVec.lt_def.mp before)
      · exact Nat.le_refl _
    cases done
    refine ⟨_, by rw [words]; rfl, rfl, ?_⟩
    change (memory.copy _ _ _).contents = _
    rw [Memory.contents_copy (by omega), same]
  · rename_i none
    have empty : size.toNat = 0 := Nat.eq_zero_of_not_pos none
    cases done
    refine ⟨_, by rw [words]; rfl, rfl, ?_⟩
    rw [empty, Contents.overwrite_zero]
    exact same

/-- An instruction that handles bytes does to them what it is to do, whenever it succeeds. -/
theorem does_execute
    {environment : Environment}
    {runner : Runner}
    {instruction : Instruction}
    (handles : instruction.handlesBytes = true)
    (done : execute environment runner instruction machine = .ok () after) :
    Does environment.rules.addresses instruction machine after := by
  cases instruction with
  | keccak => exact does_hashMemory _ done
  | callDataLoad => exact does_callDataLoad done
  | callDataCopy => exact does_callDataCopy done
  | codeCopy => exact does_codeCopy done
  | extCodeCopy => exact does_extCodeCopy _ done
  | returnDataCopy => exact does_returnDataCopy _ done
  | memoryLoad => exact does_memoryLoad _ done
  | memoryStore => exact does_memoryStore _ done
  | memoryStoreByte => exact does_memoryStoreByte _ done
  | memoryCopy => exact does_memoryCopy _ done
  | _ => cases handles

/-- A step does what the instruction is to do that the frame is at. -/
theorem does_step
    {environment : Environment}
    {runner : Runner}
    {instruction : Instruction}
    (found : machine.frame.instruction? environment.rules = some instruction)
    (handles : instruction.handlesBytes = true)
    (steps : step environment runner machine = .ok () after) :
    Does environment.rules.addresses instruction machine after := by
  rw [step_eq] at steps
  obtain ⟨begun, ready, begins, acts⟩ := exists_of_run_eq_ok steps
  obtain ⟨fetched, moved, world⟩ := (yields_begin environment machine).of_ok begins rfl
  obtain ⟨acted, executes, same, -⟩ := of_amending_eq_ok acts
  cases found.symm.trans fetched
  obtain ⟨effect, does, stack, contents⟩ := does_execute handles executes
  rw [moved, world] at does
  rw [moved] at contents
  rw [← same] at stack contents
  exact ⟨effect, does, stack, contents⟩

end Exec

/--
An instruction that reads, writes or copies bytes, and does not fail, finds and leaves memory
as a byte at every natural number: its result is what is written there and in its source, both
with zeros past their ends, its range is overwritten, and every other byte is as it was.
Memory is then as large as the least number of whole words that holds what the frame has
touched so far.
-/
theorem memory_is_zero_extended
    {environment : Environment}
    {runner : Runner}
    {instruction : Instruction}
    {machine after : Machine}
    (found : machine.frame.instruction? environment.rules = some instruction)
    (handles : instruction.handlesBytes = true)
    (steps : Exec.step environment runner machine = .ok () after) :
    (∃ effect,
        instruction.byteEffect? environment.rules.addresses machine.simulation.world
            machine.frame machine.frame.stack.words = some effect ∧
          after.frame.stack.words = effect.stack ∧
          after.frame.memory.contents =
            machine.frame.memory.contents.overwrite effect.target effect.size effect.source ∧
          ∀ index,
            index < effect.target ∨ effect.target + effect.size ≤ index →
            after.frame.memory.contents index = machine.frame.memory.contents index) ∧
      ∀ {limits : Limits} {context : FrameContext} {code : Bytes} {simulation : Simulation}
          {windows : List Window},
        Machine.Touches environment ⟨Frame.start limits context code, simulation⟩ windows
          machine →
        IsLeastCover (windows ++ instruction.windows machine.frame.stack.words)
          after.frame.memory.size := by
  constructor
  · obtain ⟨effect, does, stack, contents⟩ := Exec.does_step found handles steps
    refine ⟨effect, does, stack, contents, fun index outside => ?_⟩
    rw [contents, Contents.overwrite_outside outside]
  · intro limits context code simulation windows touches
    have touched :
        machine.frame.windows environment.rules =
          instruction.windows machine.frame.stack.words := by
      rw [Frame.windows, found]
    rw [← touched]
    exact touches.isLeastCover_of_step steps

/-- A copy onto the byte behind its source takes that byte as it was before. -/
theorem overlapping_copy_is_buffered :
    let code : Bytes :=
      [0x60, 0x01, 0x60, 0x00, 0x53, 0x60, 0x03, 0x60, 0x00, 0x60, 0x01, 0x5e, 0x00]
    let environment : Environment :=
      { rules := ⟨⟨0, 50, 0⟩, .cancun, ⟨true, true⟩, ⟨true, true⟩⟩
        prices := ⟨.empty, .empty, fun _ _ => 1⟩ }
    let context :=
      FrameContext.ofTransaction (Address.ofNum 1001) (Address.ofNum 1002) 0 [] 100 1 { }
    let simulation : Simulation :=
      { world := World.ofSnapshot (Snapshot.ofContents { }) true ⟨0⟩ 5000
        trace := Trace.off }
    let next (machine : Machine) : Machine :=
      stateOf (Exec.step environment Runner.idle machine)
    let start : Machine := ⟨Frame.start { } context code, simulation⟩
    let stored := next (next (next start))
    let ready := next (next (next stored))
    let copied := next ready
    Instruction.memoryCopy.handlesBytes = true ∧
      ready.frame.instruction? environment.rules = some .memoryCopy ∧
      Exec.step environment Runner.idle ready = .ok () copied ∧
      ready.frame.memory.contents 0 = 1 ∧
      copied.frame.memory.contents 1 = 1 ∧
      copied.frame.memory.contents 2 = 0 ∧
      IsLeastCover [⟨0, 1⟩, ⟨1, 3⟩, ⟨0, 3⟩] copied.frame.memory.size := by
  intro code environment context simulation next start stored ready copied
  have handles : Instruction.memoryCopy.handlesBytes = true := rfl
  have found : ready.frame.instruction? environment.rules = some .memoryCopy := by
    decide +kernel
  have steps : Exec.step environment Runner.idle ready = .ok () copied :=
    eq_ok_of_answerOf (by decide +kernel)
  have goesOn {windows more : List Window} {machine : Machine}
      (touches : Machine.Touches environment start windows machine)
      (runs : machine.frame.isOver = false)
      (touching : machine.frame.windows environment.rules = more)
      (answers : answerOf (Exec.step environment Runner.idle machine) = .ok ()) :
      Machine.Touches environment start (windows ++ more) (next machine) :=
    touching ▸ touches.step runs Runner.idle (eq_ok_of_answerOf answers)
  have pushes {windows : List Window} {machine : Machine}
      (touches : Machine.Touches environment start windows machine)
      (runs : machine.frame.isOver = false)
      (touching : machine.frame.windows environment.rules = [])
      (answers : answerOf (Exec.step environment Runner.idle machine) = .ok ()) :
      Machine.Touches environment start windows (next machine) :=
    List.append_nil windows ▸ goesOn touches runs touching answers
  have storing : Machine.Touches environment start [] (next (next start)) :=
    pushes (pushes .start (by decide) (by decide +kernel) (by decide +kernel))
      (by decide +kernel) (by decide +kernel) (by decide +kernel)
  have stores : Machine.Touches environment start [⟨0, 1⟩] stored :=
    goesOn storing (by decide +kernel) (by decide +kernel) (by decide +kernel)
  have copying : Machine.Touches environment start [⟨0, 1⟩] (next (next stored)) :=
    pushes (pushes stores (by decide +kernel) (by decide +kernel) (by decide +kernel))
      (by decide +kernel) (by decide +kernel) (by decide +kernel)
  have touches : Machine.Touches environment start [⟨0, 1⟩] ready :=
    pushes copying (by decide +kernel) (by decide +kernel) (by decide +kernel)
  have words : ready.frame.stack.words = [1, 0, 3] := by decide +kernel
  have one : ready.frame.memory.contents 0 = 1 := by decide +kernel
  have zero : ready.frame.memory.contents 1 = 0 := by decide +kernel
  obtain ⟨⟨effect, does, -, contents, -⟩, covers⟩ :=
    memory_is_zero_extended found handles steps
  have cover := covers touches
  rw [words] at does cover
  cases does
  refine ⟨handles, found, steps, one, ?_, ?_, cover⟩
  -- the bytes before the copy are all that matters, and not the steps that have led to them
  all_goals
    rw [contents]
    generalize ready.frame.memory.contents = bytes at one zero ⊢
  · exact one
  · exact zero

end LedgerEvm
