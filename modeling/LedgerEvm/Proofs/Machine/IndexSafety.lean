import LedgerEvm.Proofs.Machine.CheckedInstructions
import LedgerEvm.Proofs.Machine.MemoryGrowth

namespace LedgerEvm

/-!
# No index is out of range

Wherever an instruction forms an index, it has been made sure before that there is
something at it: memory has been paid for and grown, an offset has been cut to the length
of its source, a depth has been compared with the stack.  So the checked instructions do
what the unchecked ones do, from every state of a frame that is not over.
-/

namespace Checked

/-- From states as described the checked action does what the unchecked one does. -/
def Agrees
    {α : Type}
    (before : Machine → Prop)
    (checked : Checked α)
    (action : Exec α) : Prop :=
  ∀ machine, before machine → checked machine = lift action machine

namespace Agrees

variable
  {α β : Type}
  {before : Machine → Prop}
  {checked checked' : Checked α}
  {action action' : Exec α}

theorem lift
    (action : Exec α) :
    Agrees before (Checked.lift action) action :=
  fun _ _ => rfl

theorem pure
    (answer : α) :
    Agrees before (Pure.pure answer) (Pure.pure answer) :=
  fun _ _ => rfl

theorem throw
    (error : VmError) :
    Agrees before (throwThe CheckFailure (.error error) : Checked α) (throwThe VmError error) :=
  fun _ _ => rfl

theorem imp
    {before' : Machine → Prop}
    (agrees : Agrees before checked action)
    (begins : ∀ machine, before' machine → before machine) :
    Agrees before' checked action :=
  fun machine holds => agrees machine (begins machine holds)

/-- What the first action is known to yield may be used about what follows. -/
theorem bind
    {between : α → Machine → Prop}
    {next : α → Checked β}
    {next' : α → Exec β}
    (agrees : Agrees before checked action)
    (yields : Yields before action between)
    (goesOn : ∀ answer, Agrees (between answer) (next answer) (next' answer)) :
    Agrees before (checked >>= next) (action >>= next') := by
  intro machine holds
  cases result : action machine with
  | ok answer middle =>
      have begun : checked machine = .ok answer middle := by
        rw [agrees machine holds, Checked.lift, result]
      rw [bind_eq_of_ok begun, goesOn answer middle (Ensures.of_ok yields result holds),
        Checked.lift, Checked.lift, bind_eq_of_ok result]
  | error error middle =>
      have begun : checked machine = .error (.error error) middle := by
        rw [agrees machine holds, Checked.lift, result]
      rw [bind_eq_of_error begun, Checked.lift, bind_eq_of_error result]

/-- Where nothing needs to be known. -/
theorem bind_any
    {next : α → Checked β}
    {next' : α → Exec β}
    (agrees : Agrees (fun _ => True) checked action)
    (goesOn : ∀ answer, Agrees (fun _ => True) (next answer) (next' answer)) :
    Agrees (fun _ => True) (checked >>= next) (action >>= next') :=
  agrees.bind (Yields.trivially action) goesOn

/-- What is known before is known after. -/
theorem bind_kept
    {next : α → Checked β}
    {next' : α → Exec β}
    (agrees : Agrees before checked action)
    (keeps : Keeps before action)
    (goesOn : ∀ answer, Agrees before (next answer) (next' answer)) :
    Agrees before (checked >>= next) (action >>= next') :=
  agrees.bind (Yields.of_keeps keeps) goesOn

theorem branch
    {condition : Prop}
    [Decidable condition]
    (one : condition → Agrees before checked action)
    (other : ¬condition → Agrees before checked' action') :
    Agrees before (if condition then checked else checked')
      (if condition then action else action') := by
  split
  · rename_i holds
    exact one holds
  · rename_i fails
    exact other fails

/-- What is known before is used up by the first action. -/
theorem bind_used
    {next : α → Checked β}
    {next' : α → Exec β}
    (agrees : Agrees before checked action)
    (goesOn : ∀ answer, Agrees (fun _ => True) (next answer) (next' answer)) :
    Agrees before (checked >>= next) (action >>= next') :=
  agrees.bind ((Yields.trivially action).imp (fun _ _ => trivial) fun _ _ => id) goesOn

/-- An action that is only taken under a condition, and then what follows in any case. -/
theorem guarded
    {condition : Prop}
    [Decidable condition]
    {rest : Checked β}
    {rest' : Exec β}
    (agrees : Agrees (fun _ => True) checked action)
    (goesOn : Agrees (fun _ => True) rest rest') :
    Agrees (fun _ => True) (if condition then checked >>= fun _ => rest else rest)
      (if condition then action >>= fun _ => rest' else rest') :=
  branch (fun _ => agrees.bind_any fun _ => goesOn) fun _ => goesOn

end Agrees

/-! ## Memory -/

theorem lift_frame
    (machine : Machine) :
    lift Exec.frame machine = .ok machine.frame machine :=
  rfl

theorem found_some
    {α : Type}
    (answer : α) :
    found (some answer) = pure answer :=
  rfl

theorem index_eq
    {length : Nat}
    {word : Word}
    (small : word.toNat < UInt64.size ∨ word.toNat ≤ length) :
    index length word = pure word.toNat := by
  rw [index, if_pos small, found_some]

theorem agrees_memoryOperand
    (word : Word) :
    Agrees (fun _ => True) (memoryOperand word) (Exec.memoryOperand word) := by
  refine Agrees.branch (fun small => ?_) fun _ => Agrees.throw _
  have short : UInt32.size < UInt64.size := by decide
  rw [index_eq (.inl (Nat.lt_trans small short))]
  exact Agrees.pure _

theorem agrees_expand
    (offset size : Word) :
    Agrees (fun _ => True) (expand offset size) (Exec.expand offset size) := by
  refine Agrees.branch (fun _ => Agrees.pure _) fun _ => ?_
  refine (agrees_memoryOperand offset).bind_any fun offset => ?_
  refine (agrees_memoryOperand size).bind_any fun size => ?_
  refine (Agrees.lift _).bind_any fun words => ?_
  refine (Agrees.lift _).bind_any fun _ => ?_
  exact (Agrees.lift _).bind_any fun _ => Agrees.pure _

theorem agrees_readMemory
    {before : Machine → Prop}
    (offset size : Nat) :
    Agrees before (readMemory offset size) (Exec.readMemory offset size) := by
  intro machine _
  have read := machine.frame.memory.readByIndex?_eq offset size
  unfold readMemory
  rw [bind_eq_of_ok (lift_frame machine), read]
  rfl

/-- The memory of the frame holds a window, given by its offset and size. -/
def Covers (window : Nat × Nat) (machine : Machine) : Prop :=
  window.1 + window.2 ≤ machine.frame.memory.size

theorem agrees_updateMemory
    {before : Machine → Prop}
    {update : Memory → Option Memory}
    {update' : Memory → Memory}
    (inRange :
      ∀ machine, before machine →
        update machine.frame.memory = some (update' machine.frame.memory)) :
    Agrees before (updateMemory update) (Exec.updateMemory update') := by
  intro machine holds
  unfold updateMemory
  rw [bind_eq_of_ok (lift_frame machine), inRange machine holds]
  rfl

theorem agrees_store
    {window : Nat × Nat}
    {size : Nat}
    (source : Bytes)
    (start : Nat)
    (within : size ≤ window.2) :
    Agrees (Covers window)
      (updateMemory fun memory => memory.storeByIndex? window.1 source start size)
      (Exec.updateMemory fun memory => memory.storeWindow window.1 source start size) := by
  refine agrees_updateMemory fun machine covers => ?_
  exact Memory.storeByIndex?_eq (Nat.le_trans (Nat.add_le_add_left within _) covers) _ _

theorem quiet_covers
    (window : Nat × Nat) :
    Quiet false (Covers window) where
  move {frame frame' _} move covers := by
    cases move with
    | grow _ offset size words fits =>
        have grown := frame.memory.size_growTo words
        change window.1 + window.2 ≤ (frame.memory.growTo words).size
        change window.1 + window.2 ≤ frame.memory.size at covers
        omega
    | write _ offset bytes =>
        change window.1 + window.2 ≤ (frame.memory.write offset bytes).size
        rw [Memory.size_write]
        exact covers
    | _ => exact covers
  trace _ covers := covers
  touch _ covers := covers

/-- What a window has become once it has been paid for. -/
structure Expanded (offset size : Word) (window : Nat × Nat) (machine : Machine) : Prop where
  covers : Covers window machine
  size_eq : window.2 = size.toNat
  offset_eq : window.2 ≠ 0 → window.1 = offset.toNat
  offset_lt : window.2 ≠ 0 → offset.toNat < UInt32.size

theorem quiet_expanded
    (offset size : Word)
    (window : Nat × Nat) :
    Quiet false (Expanded offset size window) where
  move move expanded :=
    { expanded with covers := (quiet_covers window).move move expanded.covers }
  trace _ expanded := { expanded with covers := expanded.covers }
  touch _ expanded := { expanded with covers := expanded.covers }

theorem yields_expand
    (offset size : Word) :
    Yields (fun _ => True) (Exec.expand offset size) (Expanded offset size) := by
  intro machine _
  cases grown : Exec.expand offset size machine with
  | error error after => trivial
  | ok window after =>
      obtain ⟨covers, length, begins⟩ := Exec.window_of_expand grown
      have nonempty (positive : window.2 ≠ 0) : size ≠ 0 := fun empty =>
        positive (length.trans (congrArg BitVec.toNat empty))
      exact
        ⟨covers, length, fun positive => (begins (nonempty positive)).1,
          fun positive => (begins (nonempty positive)).2⟩

/-- The offset in a source is the least of what is asked for and its end. -/
theorem sourceOffset_eq
    (source : Bytes)
    (offset : Word) :
    sourceOffset source offset = pure (Nat.min offset.toNat source.length) := by
  unfold sourceOffset
  split
  · rename_i beyond
    have least : Nat.min offset.toNat source.length = source.length :=
      Nat.min_eq_right (Nat.le_of_lt beyond)
    rw [least]
  · rename_i inside
    have least : Nat.min offset.toNat source.length = offset.toNat :=
      Nat.min_eq_left (Nat.le_of_not_lt inside)
    rw [least, index_eq (.inr (Nat.le_of_not_lt inside))]

theorem agrees_copyToMemory
    (destination offset size : Word)
    (source : Bytes) :
    Agrees (fun _ => True) (copyToMemory destination offset size source)
      (Exec.copyToMemory destination offset size source) := by
  refine (agrees_expand destination size).bind (yields_expand destination size)
    fun ⟨target, length⟩ => ?_
  refine Agrees.imp ?_ fun machine expanded => expanded.covers
  refine (Agrees.lift _).bind_kept ((quiet_covers _).charge _) fun _ => ?_
  rw [sourceOffset_eq, pure_bind]
  exact agrees_store source _ (Nat.le_refl _)

/-! ## Instructions -/

theorem agrees_hashMemory :
    Agrees (fun _ => True) hashMemory Exec.hashMemory := by
  refine (Agrees.lift _).bind_any fun ⟨offset, size⟩ => ?_
  refine (agrees_expand _ _).bind_any fun ⟨start, length⟩ => ?_
  refine (Agrees.lift _).bind_any fun _ => ?_
  exact (agrees_readMemory _ _).bind_any fun bytes => Agrees.lift _

/-- The word of call data is zero past the end, and in range before. -/
theorem wordAt_eq
    (bytes : Bytes)
    (offset : Word) :
    wordAt bytes offset = pure (Exec.wordAt bytes offset) := by
  unfold wordAt Exec.wordAt
  split
  · rename_i inside
    have least : Nat.min offset.toNat bytes.length = offset.toNat :=
      Nat.min_eq_left (Nat.le_of_lt inside)
    rw [least, index_eq (.inr (Nat.le_of_lt inside)), pure_bind, Bytes.windowByIndex?_eq,
      found_some, pure_bind]
  · rename_i beyond
    have least : Nat.min offset.toNat bytes.length = bytes.length :=
      Nat.min_eq_right (Nat.le_of_not_lt beyond)
    have none : bytes.drop bytes.length = [] := List.drop_length
    simp only [least, Bytes.window, none, List.take_nil, List.nil_append, List.length_nil,
      Nat.sub_zero]

theorem agrees_callDataLoad :
    Agrees (fun _ => True) callDataLoad
      (do
        let offset ← Exec.pop
        Exec.pushContext fun context => Exec.wordAt context.data offset) := by
  refine (Agrees.lift _).bind_any fun offset => ?_
  refine (Agrees.lift _).bind_any fun context => ?_
  rw [wordAt_eq, pure_bind]
  exact Agrees.lift _

theorem agrees_extCodeCopy
    (rule : AddressRule) :
    Agrees (fun _ => True) (extCodeCopy rule) (Exec.extCodeCopy rule) := by
  refine (Agrees.lift _).bind_any fun address => ?_
  refine (Agrees.lift _).bind_any fun ⟨destination, offset, size⟩ => ?_
  exact (Agrees.lift _).bind_any fun code => agrees_copyToMemory _ _ _ _

theorem agrees_returnDataCopy :
    Agrees (fun _ => True) returnDataCopy Exec.returnDataCopy := by
  refine (Agrees.lift _).bind_any fun ⟨destination, offset, size⟩ => ?_
  refine (Agrees.lift _).bind_any fun frame => ?_
  exact Agrees.guarded (Agrees.throw _) (agrees_copyToMemory _ _ _ _)

theorem agrees_memoryLoad :
    Agrees (fun _ => True) memoryLoad Exec.memoryLoad := by
  refine (Agrees.lift _).bind_any fun offset => ?_
  refine (agrees_expand _ _).bind_any fun ⟨start, _⟩ => ?_
  intro machine _
  dsimp only
  have read : Agrees (fun _ => True) (readMemory start 32) (Exec.readMemory start 32) :=
    agrees_readMemory start 32
  rw [bind_eq_of_ok (read machine trivial)]
  rfl

/-- Bytes that fill a window are in range there. -/
theorem agrees_overwrite
    {start : Nat}
    {bytes : Bytes}
    {size : Nat}
    (fills : bytes.length = size) :
    Agrees (Covers (start, size))
      (updateMemory fun memory => memory.overwrite? start (start + size) bytes)
      (Exec.updateMemory fun memory => memory.write start bytes) := by
  subst fills
  exact agrees_updateMemory fun machine covers => Memory.overwrite?_eq covers

theorem agrees_memoryStore :
    Agrees (fun _ => True) memoryStore Exec.memoryStore := by
  refine (Agrees.lift _).bind_any fun ⟨offset, word⟩ => ?_
  refine (agrees_expand _ _).bind (yields_expand _ _) fun ⟨start, size⟩ => ?_
  refine Agrees.imp (agrees_overwrite (Word.length_toBytes word)) fun machine expanded => ?_
  have covers := expanded.covers
  rw [show size = 32 from expanded.size_eq] at covers
  exact covers

theorem agrees_memoryStoreByte :
    Agrees (fun _ => True) memoryStoreByte Exec.memoryStoreByte := by
  refine (Agrees.lift _).bind_any fun ⟨offset, word⟩ => ?_
  refine (agrees_expand _ _).bind (yields_expand _ _) fun ⟨start, size⟩ => ?_
  refine Agrees.imp (agrees_overwrite rfl) fun machine expanded => ?_
  have covers := expanded.covers
  rw [show size = 1 from expanded.size_eq] at covers
  exact covers

/-- Where a window is held, so are those of its size that begin before it. -/
theorem agrees_copy
    {destination source start length : Nat}
    (writes : destination ≤ start)
    (reads : source ≤ start) :
    Agrees (Covers (start, length))
      (updateMemory fun memory => memory.copyByIndex? destination source length)
      (Exec.updateMemory fun memory => memory.copy destination source length) := by
  refine agrees_updateMemory fun machine covers => ?_
  change start + length ≤ machine.frame.memory.size at covers
  exact Memory.copyByIndex?_eq (Nat.le_trans (Nat.add_le_add_right reads _) covers)
    (Nat.le_trans (Nat.add_le_add_right writes _) covers)

theorem agrees_memoryCopy :
    Agrees (fun _ => True) memoryCopy Exec.memoryCopy := by
  refine (Agrees.lift _).bind_any fun ⟨destination, source, size⟩ => ?_
  refine (agrees_expand _ _).bind (yields_expand _ _) fun ⟨start, length⟩ => ?_
  refine (Agrees.lift _).bind_kept ((quiet_expanded _ _ _).charge _) fun _ => ?_
  refine Agrees.branch (fun positive => ?_) fun _ => Agrees.pure _
  intro machine expanded
  -- what has been paid for is the window that begins at the higher one of the offsets
  have nonempty : length ≠ 0 := Nat.ne_of_gt positive
  have begins := expanded.offset_eq nonempty
  have small := expanded.offset_lt nonempty
  have short : UInt32.size < UInt64.size := by decide
  have below : destination.toNat ≤ start ∧ source.toNat ≤ start := by
    dsimp only at begins
    rw [begins]
    split
    · rename_i less
      exact ⟨Nat.le_of_lt less, Nat.le_refl _⟩
    · rename_i notLess
      exact ⟨Nat.le_refl _, Nat.le_of_not_lt notLess⟩
  rw [← begins] at small
  have indexed : destination.toNat < UInt64.size ∧ source.toNat < UInt64.size := by
    dsimp only at small
    omega
  rw [index_eq (.inl indexed.1), pure_bind, index_eq (.inl indexed.2), pure_bind]
  exact agrees_copy below.1 below.2 machine expanded.covers

theorem agrees_pushImmediate
    {size : Nat}
    (short : size ≤ 32) :
    Agrees (fun _ => True) (pushImmediate size) (Exec.pushImmediate size) := by
  refine (Agrees.lift _).bind_any fun frame => ?_
  rw [Program.immediateByIndex?_eq _ _ short, found_some, pure_bind]
  exact (Agrees.lift _).bind_any fun _ => Agrees.lift _

theorem agrees_finishWith
    (ending : FrameEnding) :
    Agrees (fun _ => True) (finishWith ending) (Exec.finishWith ending) := by
  refine (Agrees.lift _).bind_any fun ⟨offset, size⟩ => ?_
  refine (agrees_expand _ _).bind_any fun ⟨start, length⟩ => ?_
  refine (agrees_readMemory _ _).bind_any fun output => ?_
  exact (Agrees.lift _).bind_any fun _ => Agrees.lift _

theorem agrees_log
    (prices : PriceSource)
    (count : Nat) :
    Agrees (fun _ => True) (log prices count) (Exec.log prices count) := by
  refine (Agrees.lift _).bind_any fun ⟨offset, size⟩ => ?_
  refine (Agrees.lift _).bind_any fun topics => ?_
  refine (agrees_expand _ _).bind_any fun ⟨start, length⟩ => ?_
  refine (Agrees.lift _).bind_any fun context => ?_
  dsimp only
  generalize Gas.log prices _ length count = priced
  cases priced with
  | ok cost =>
      refine (Agrees.lift _).bind_any fun _ => ?_
      exact (agrees_readMemory _ _).bind_any fun data => Agrees.lift _
  | error error =>
      refine (Agrees.throw _).bind_any fun _ => ?_
      exact (agrees_readMemory _ _).bind_any fun data => Agrees.lift _

/-! ## The stack and the position -/

/-- A stack has a word at every depth that it has. -/
theorem exists_word
    {stack : OperandStack}
    {depth : Nat}
    (deep : depth + 1 ≤ stack.size) :
    ∃ word, stack.words[depth]? = some word :=
  ⟨_, List.getElem?_eq_getElem deep⟩

theorem agrees_dup
    (depth : Nat) :
    Agrees (fun _ => True) (dup depth)
      (Exec.updateStack fun stack => stack.dup depth) := by
  intro ⟨frame, simulation⟩ _
  unfold dup
  rw [bind_eq_of_ok (lift_frame _)]
  by_cases deep : depth + 1 ≤ frame.stack.size
  · obtain ⟨word, found⟩ := exists_word deep
    have copied : frame.stack.dup depth = frame.stack.push word := by
      simp only [OperandStack.dup, OperandStack.peek, found]
      rfl
    have same :
        Exec.push word ⟨frame, simulation⟩ =
          Exec.updateStack (fun stack => stack.dup depth) ⟨frame, simulation⟩ := by
      simp only [Exec.push, Exec.updateStack, copied]
    rw [if_pos deep, OperandStack.peekByIndex?_eq deep, found, found_some, pure_bind]
    simp only [lift, same]
  · have missing : frame.stack.words[depth]? = none :=
      List.getElem?_eq_none (Nat.le_of_not_lt deep)
    have refused : frame.stack.dup depth = .error .stackUnderflow := by
      simp only [OperandStack.dup, OperandStack.peek, missing]
      rfl
    rw [if_neg deep]
    simp only [lift, Exec.updateStack, refused]
    rfl

theorem agrees_swap
    (places : Nat) :
    Agrees (fun _ => True) (swap places)
      (Exec.updateStack fun stack => stack.swap places) := by
  intro ⟨frame, simulation⟩ _
  unfold swap
  rw [bind_eq_of_ok (lift_frame _)]
  by_cases shallow : places = 0 ∨ frame.stack.size ≤ places
  · have refused : frame.stack.swap places = .error .stackUnderflow := by
      unfold OperandStack.swap
      split
      · rename_i top lower _ found
        have deep : places < frame.stack.size := (List.getElem?_eq_some_iff.mp found).1
        rw [if_pos (shallow.resolve_right (Nat.not_le_of_lt deep))]
      · rfl
    rw [if_pos shallow]
    simp only [lift, Exec.updateStack, refused]
    rfl
  · obtain ⟨positive, deep⟩ := not_or.mp shallow
    have deep : places + 1 ≤ frame.stack.size := Nat.lt_of_not_le deep
    have nonempty : 0 + 1 ≤ frame.stack.size := Nat.le_trans (Nat.le_add_left _ _) deep
    obtain ⟨top, first⟩ := exists_word nonempty
    obtain ⟨lower, found⟩ := exists_word deep
    have exchanged :
        frame.stack.swap places = .ok (frame.stack.exchanged places top lower) := by
      simp only [OperandStack.swap, first, found, if_neg positive]
      rfl
    rw [if_neg shallow, OperandStack.peekByIndex?_eq nonempty,
      OperandStack.peekByIndex?_eq deep, first, found]
    simp only [found_some, pure_bind, lift, Exec.updateStack, exchanged]
    rfl

/-- An instruction acts behind its own place. -/
theorem agrees_position :
    Agrees (fun machine => 1 ≤ machine.frame.position) position
      (do Exec.pushNat ((← Exec.frame).position - 1)) := by
  intro machine behind
  unfold position
  rw [bind_eq_of_ok (lift_frame _), if_pos behind, found_some, pure_bind]
  rfl

/-! ## Instructions that call -/

theorem agrees_takeOutcome
    (outcome : Outcome)
    (window : Nat × Nat) :
    Agrees (Covers window) (takeOutcome outcome window.1 window.2)
      (Exec.takeOutcome outcome window.1 window.2) := by
  have gives : Keeps (Covers window) (Exec.giveBack outcome.gas) :=
    fun machine covers => covers
  refine (Agrees.lift _).bind_kept gives fun _ => ?_
  refine (agrees_store _ 0 (Nat.min_le_left _ _)).bind_used fun _ => ?_
  refine Agrees.guarded (Agrees.lift _) ?_
  exact (Agrees.lift _).bind_any fun _ => Agrees.lift _

theorem agrees_launchCall
    (limits : Limits)
    (kind : CallKind)
    (operands : Exec.CallOperands)
    (input output : Nat × Nat) :
    Agrees (fun _ => True) (launchCall limits kind operands input output)
      (Exec.launchCall limits kind operands input output) := by
  refine (Agrees.lift _).bind_any fun frame => ?_
  refine (Agrees.lift _).bind_any fun _ => ?_
  refine (Agrees.lift _).bind_any fun starts => ?_
  refine Agrees.branch (fun _ => ?_) fun _ => ?_
  · refine (agrees_readMemory _ _).bind_any fun data => ?_
    exact (Agrees.lift _).bind_any fun context => Agrees.pure _
  · exact (Agrees.lift _).bind_any fun _ => Agrees.pure _

theorem agrees_prepareCall
    (environment : Environment)
    (kind : CallKind) :
    Agrees (fun _ => True) (prepareCall environment kind)
      (Exec.prepareCall environment kind) := by
  refine (Agrees.lift _).bind_any fun operands => ?_
  refine (agrees_expand _ _).bind_any fun input => ?_
  refine (agrees_expand _ _).bind_any fun output => ?_
  refine (Agrees.lift _).bind_any fun _ => ?_
  refine (Agrees.lift _).bind_any fun goesOn => ?_
  refine Agrees.branch (fun _ => ?_) fun _ => Agrees.pure _
  exact Agrees.guarded (Agrees.lift _) (agrees_launchCall _ _ _ _ _)

/-- The window for the output of a call is held, if there is to be one. -/
def CoversLaunch : Option Exec.CallLaunch → Machine → Prop
  | some launch => Covers launch.output
  | none => fun _ => True

theorem yields_launchCall
    (limits : Limits)
    (kind : CallKind)
    (operands : Exec.CallOperands)
    (input output : Nat × Nat) :
    Yields (Covers output) (Exec.launchCall limits kind operands input output)
      CoversLaunch := by
  have quiet := quiet_covers output
  refine Yields.bind_kept (Yields.of_keeps Exec.keeps_frame) fun frame => ?_
  refine Yields.bind_kept (Yields.of_keeps (quiet.charge _)) fun _ => ?_
  refine Yields.bind_kept (Yields.of_keeps (Quiet.canStart _ _ _)) fun starts => ?_
  split
  · refine Yields.bind_kept (Yields.of_keeps (Exec.keeps_readMemory _ _)) fun data => ?_
    refine Yields.bind_kept (Yields.of_keeps Exec.keeps_context) fun context => ?_
    exact Ensures.pure fun _ => id
  · exact Ensures.bind (Yields.of_keeps fun machine covers => covers) fun _ =>
      Ensures.pure fun _ _ => trivial

theorem yields_prepareCall
    (environment : Environment)
    (kind : CallKind) :
    Yields (fun _ => True) (Exec.prepareCall environment kind) CoversLaunch := by
  refine (Yields.trivially _).bind fun operands => ?_
  refine (Yields.trivially _).bind fun input => ?_
  refine (yields_expand _ _).bind fun output => ?_
  have quiet := quiet_covers output
  refine Ensures.imp ?_ (fun _ expanded => expanded.covers) (fun _ _ => id) fun _ _ => id
  have returned := quiet.updateFrame fun frame => .setReturnData frame []
  refine Yields.bind_kept (Yields.of_keeps returned) fun _ => ?_
  refine Yields.bind_kept (Yields.of_keeps (quiet.inspectCallee _ _ _)) fun goesOn => ?_
  split
  · dsimp only
    split
    · refine Yields.bind_kept (Yields.of_keeps (quiet.chargeValue _ _)) fun _ => ?_
      exact yields_launchCall _ _ _ _ _
    · exact yields_launchCall _ _ _ _ _
  · exact Ensures.pure fun _ _ => trivial

theorem agrees_call
    (environment : Environment)
    (runner : Runner)
    (kind : CallKind) :
    Agrees (fun _ => True) (call environment runner kind)
      (Exec.call environment runner kind) := by
  refine (agrees_prepareCall _ _).bind (yields_prepareCall _ _) fun launch? => ?_
  cases launch? with
  | none => exact Agrees.lift _
  | some launch =>
      have waits :
          Keeps (Covers launch.output)
            (Exec.onSimulation
              (SimAction.messageCall environment runner kind launch.context)) :=
        Exec.keeps_onSimulation fun frame =>
          Keeps.fact (launch.output.1 + launch.output.2 ≤ frame.memory.size) _
      refine (Agrees.lift _).bind_kept waits fun outcome => ?_
      exact agrees_takeOutcome outcome launch.output

theorem agrees_launchCreation
    (limits : Limits)
    (value : Word)
    (start length : Nat) :
    Agrees (fun _ => True) (launchCreation limits value start length)
      (Exec.launchCreation limits value start length) := by
  refine (Agrees.lift _).bind_any fun starts => ?_
  refine Agrees.branch (fun _ => ?_) fun _ => Agrees.pure _
  refine (Agrees.lift _).bind_any fun frame => ?_
  refine (Agrees.lift _).bind_any fun _ => ?_
  refine (agrees_readMemory _ _).bind_any fun initCode => ?_
  exact (Agrees.lift _).bind_any fun context => Agrees.pure _

theorem agrees_prepareCreation
    (environment : Environment)
    (salted : Bool) :
    Agrees (fun _ => True) (prepareCreation environment salted)
      (Exec.prepareCreation environment salted) := by
  refine (Agrees.lift _).bind_any fun ⟨value, offset, size⟩ => ?_
  dsimp only
  cases salted with
  | true =>
      refine (Agrees.lift _).bind_any fun salt => ?_
      refine (agrees_expand _ _).bind_any fun ⟨start, length⟩ => ?_
      refine (Agrees.lift _).bind_any fun _ => ?_
      refine (Agrees.lift _).bind_any fun _ => ?_
      exact (Agrees.lift _).bind_any fun _ => agrees_launchCreation _ _ _ _
  | false =>
      refine (agrees_expand _ _).bind_any fun ⟨start, length⟩ => ?_
      refine (Agrees.lift _).bind_any fun _ => ?_
      exact (Agrees.lift _).bind_any fun _ => agrees_launchCreation _ _ _ _

theorem agrees_create
    (environment : Environment)
    (runner : Runner)
    (salted : Bool) :
    Agrees (fun _ => True) (create environment runner salted)
      (Exec.create environment runner salted) := by
  refine (agrees_prepareCreation _ _).bind_any fun launch? => ?_
  cases launch? with
  | none => exact Agrees.lift _
  | some launch =>
      refine (Agrees.lift _).bind_any fun context => ?_
      exact (Agrees.lift _).bind_any fun outcome => Agrees.lift _

/-! ## Steps -/

/-- No instruction forms an index out of range. -/
theorem agrees_execute
    (environment : Environment)
    (runner : Runner)
    (instruction : Instruction) :
    Agrees (fun machine => 1 ≤ machine.frame.position)
      (execute environment runner instruction)
      (Exec.execute environment runner instruction) := by
  have anywhere
      {checked : Checked Unit}
      {action : Exec Unit}
      (agrees : Agrees (fun _ => True) checked action) :
      Agrees (fun machine => 1 ≤ machine.frame.position) checked action :=
    agrees.imp fun _ _ => trivial
  cases instruction with
  | keccak => exact anywhere agrees_hashMemory
  | callDataLoad => exact anywhere agrees_callDataLoad
  | callDataCopy =>
      exact anywhere <| (Agrees.lift _).bind_any fun ⟨destination, offset, size⟩ =>
        (Agrees.lift _).bind_any fun context => agrees_copyToMemory _ _ _ _
  | codeCopy =>
      exact anywhere <| (Agrees.lift _).bind_any fun ⟨destination, offset, size⟩ =>
        (Agrees.lift _).bind_any fun frame => agrees_copyToMemory _ _ _ _
  | extCodeCopy => exact anywhere (agrees_extCodeCopy _)
  | returnDataCopy => exact anywhere agrees_returnDataCopy
  | memoryLoad => exact anywhere agrees_memoryLoad
  | memoryStore => exact anywhere agrees_memoryStore
  | memoryStoreByte => exact anywhere agrees_memoryStoreByte
  | memoryCopy => exact anywhere agrees_memoryCopy
  | position => exact agrees_position
  | push size => exact anywhere (agrees_pushImmediate (Nat.le_of_lt_succ size.isLt))
  | dup depth => exact anywhere (agrees_dup _)
  | swap depth => exact anywhere (agrees_swap _)
  | log topics => exact anywhere (agrees_log _ _)
  | create | create2 => exact anywhere (agrees_create _ _ _)
  | call | callCode | delegateCall | staticCall => exact anywhere (agrees_call _ _ _)
  | output | revert => exact anywhere (agrees_finishWith _)
  | _ => exact fun _ _ => rfl

/-- A frame that is not over has a byte at its position. -/
theorem agrees_fetch
    (environment : Environment) :
    Agrees (fun machine => machine.frame.isOver = false) (fetch environment)
      (Exec.fetch environment) := by
  intro machine running
  have inside : machine.frame.position < machine.frame.program.code.size := by
    simp only [Frame.isOver, Bool.or_eq_false_iff, decide_eq_false_iff_not,
      Nat.not_le] at running
    exact running.2
  have present :
      machine.frame.program.code[machine.frame.position]? =
        some (machine.frame.program.code.getD machine.frame.position 0) := by
    rw [Array.getD_eq_getD_getElem?, Array.getElem?_eq_getElem inside, Option.getD_some]
  have looked : Exec.frame machine = .ok machine.frame machine := rfl
  unfold fetch
  rw [bind_eq_of_ok (lift_frame _)]
  dsimp only
  rw [present, found_some, pure_bind]
  simp only [lift, Exec.fetch]
  rw [bind_eq_of_ok looked]
  generalize environment.rules.instruction? _ = allowed
  cases allowed with
  | none => rfl
  | some instruction =>
      by_cases refused :
          machine.frame.context.isStatic = true ∧ instruction.modifiesState = true
      · simp only [if_pos refused]
        rfl
      · simp only [if_neg refused]
        rfl

theorem agrees_amending
    {before : Machine → Prop}
    {checked : Checked Unit}
    {action : Exec Unit}
    (agrees : Agrees before checked action)
    (place : Option Nat)
    (gasBefore : UInt64) :
    Agrees before (amending place gasBefore checked)
      (Exec.amending place gasBefore action) := by
  intro machine holds
  simp only [amending, Exec.amending, agrees machine holds, lift]
  cases action machine <;> rfl

/-- A step of a frame that is not over forms no index out of range. -/
theorem agrees_step
    (environment : Environment)
    (runner : Runner) :
    Agrees (fun machine => machine.frame.isOver = false) (step environment runner)
      (Exec.step environment runner) := by
  have counts :
      Keeps (fun machine => machine.frame.isOver = false) (Exec.countStep environment) :=
    Exec.keeps_countStep (fun running => running) environment
  refine (Agrees.lift _).bind_kept counts fun _ => ?_
  refine (agrees_fetch environment).bind_used fun instruction => ?_
  refine (Agrees.lift _).bind_any fun frame => ?_
  refine (Agrees.lift _).bind_any fun place => ?_
  refine (Agrees.lift _).bind_any fun _ => ?_
  have advances :
      Yields (fun _ => True) Exec.advance fun _ machine => 1 ≤ machine.frame.position :=
    fun machine _ => Nat.le_add_left 1 _
  refine (Agrees.lift _).bind advances fun _ => ?_
  exact agrees_amending (agrees_execute environment runner instruction) place frame.gas

end Checked

end LedgerEvm
