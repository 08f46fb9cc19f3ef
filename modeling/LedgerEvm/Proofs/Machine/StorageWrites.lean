import Mathlib.Algebra.BigOperators.Group.List.Basic
import Mathlib.Algebra.Ring.Int.Defs
import LedgerEvm.Proofs.Machine.GasBounds
import LedgerEvm.Proofs.Ledger.Slots
import LedgerEvm.Proofs.Machine.StartedFrames
import LedgerEvm.Proofs.Machine.FrameInvariants
import LedgerEvm.Proofs.Machine.MemoryGrowth
import LedgerEvm.Proofs.Machine.Operands
import LedgerEvm.Proofs.Machine.StaticEntries
import LedgerEvm.Proofs.TokenService.Effects

namespace LedgerEvm

/-!
# The writes to a slot along a run

The price of a write and its refund depend on what the slot held before the simulation, on what
it holds and on what it is given.  Less its refund a write costs a read of a warm slot, and what
the change adds to a sum that is due for the slot, less a sum that is granted for it.  Both sums
depend on the value of the slot only, so of many writes it is the last one that counts.

A slot may be written by any frame of a run that works on its account.  As long as the frames
that end are kept, each write finds the value that the one before has left, and none but the
first finds the slot unmarked.  So what the writes cost and are refunded, as it is seen in the
gas and the refund counter of the frames, is what their values are priced at.
-/

/-! ## What writes cost together -/

namespace Gas

/-- One write to a slot: the value it gives, and what it is charged and refunded. -/
structure StorageWrite where
  value : Word
  wasWarm : Bool
  cost : Int
  refund : Int
  deriving Repr, DecidableEq

/-- The write of a value as it is priced. -/
def pricedWrite (initial current value : Word) (wasWarm : Bool) : StorageWrite where
  value
  wasWarm
  cost := (storageStore initial current value wasWarm).1.toNat
  refund := (storageStore initial current value wasWarm).2.toInt

/-- The writes of several values to one slot, each to what the one before has left. -/
def pricedWrites (initial : Word) : Word → Bool → List Word → List StorageWrite
  | _, _, [] => []
  | current, wasWarm, value :: values =>
      pricedWrite initial current value wasWarm :: pricedWrites initial value true values

/-- What is due for a slot that holds another value than before the simulation. -/
def changeDue (initial current : Word) : Int :=
  if current = initial then 0 else if initial = 0 then 19900 else 2800

/-- What is granted for a slot that has been emptied. -/
def clearingGrant (initial current : Word) : Int :=
  if initial ≠ 0 ∧ current = 0 then 4800 else 0

/-- What the first access to a slot adds. -/
def coldShare (wasWarm : Bool) : Int :=
  if wasWarm then 0 else 2100

/--
Together the writes cost, less their refunds, what they cost as reads of a warm slot, with the
share of the first access, and what is due for the last value, less what is granted for it; and
at no moment has more been taken back of the refunds than was given.
-/
structure NetOut (initial : Word) (writes : List StorageWrite) : Prop where
  total :
    ∀ first ∈ writes.head?, ∀ last ∈ writes.getLast?,
      (writes.map StorageWrite.cost).sum - (writes.map StorageWrite.refund).sum =
        coldShare first.wasWarm + 100 * writes.length + changeDue initial last.value -
          clearingGrant initial last.value
  refunded :
    ∀ earlier, earlier <+: writes → 0 ≤ (earlier.map StorageWrite.refund).sum

theorem changeDue_self
    (initial : Word) :
    changeDue initial initial = 0 :=
  if_pos rfl

theorem clearingGrant_self
    (initial : Word) :
    clearingGrant initial initial = 0 :=
  if_neg fun cleared => cleared.1 cleared.2

theorem clearingGrant_nonneg
    (initial current : Word) :
    0 ≤ clearingGrant initial current := by
  unfold clearingGrant
  split <;> decide

/-! ## One write -/

/--
What a write costs beyond a warm read and a first access, and what it is refunded beyond a
change of the grant, is due to the change of the value, or goes back when the value is restored.
-/
structure IsBalanced (initial current value : Word) (wasWarm : Bool) (restored : Int) : Prop where
  nonneg : 0 ≤ restored
  cost :
    (pricedWrite initial current value wasWarm).cost =
      coldShare wasWarm + 100 + (changeDue initial value - changeDue initial current) + restored
  refund :
    (pricedWrite initial current value wasWarm).refund =
      clearingGrant initial value - clearingGrant initial current + restored

/-- The share of the first access is added exactly. -/
theorem toNat_cold_add
    (wasWarm : Bool) :
    (((if wasWarm then 0 else coldSlot) + warmRead).toNat : Int) = coldShare wasWarm + 100 ∧
      (((if wasWarm then 0 else coldSlot) + storageSet).toNat : Int) =
        coldShare wasWarm + 20000 ∧
      (((if wasWarm then 0 else coldSlot) + storageReset).toNat : Int) =
        coldShare wasWarm + 2900 := by
  cases wasWarm <;> decide

variable
  {initial current value : Word}
  (wasWarm : Bool)

/-- A write that changes nothing is a read. -/
theorem isBalanced_of_same
    (same : current = value) :
    IsBalanced initial current value wasWarm 0 where
  nonneg := Int.le_refl 0
  cost := by
    simp only [pricedWrite, storageStore, same, Int.sub_self, Int.add_zero]
    exact (toNat_cold_add wasWarm).1
  refund := by
    simp only [pricedWrite, storageStore, same, Int.sub_self, Int.add_zero]
    rfl

/-- The first change of a slot pays in full. -/
theorem isBalanced_of_first
    (changed : initial ≠ value) :
    IsBalanced initial initial value wasWarm 0 where
  nonneg := Int.le_refl 0
  cost := by
    obtain ⟨-, set, reset⟩ := toNat_cold_add wasWarm
    by_cases empty : initial = 0
    · simp only [pricedWrite, storageStore, changeDue, if_neg changed, if_neg changed.symm,
        if_pos empty, if_true, set]
      omega
    · simp only [pricedWrite, storageStore, changeDue, if_neg changed, if_neg changed.symm,
        if_neg empty, if_true, reset]
      omega
  refund := by
    rw [clearingGrant_self]
    by_cases empty : initial = 0
    · subst empty
      simp only [pricedWrite, storageStore, clearingGrant, if_neg changed, if_true, ne_eq,
        not_true_eq_false, false_and, if_false]
      rfl
    · by_cases cleared : value = 0
      · subst cleared
        simp only [pricedWrite, storageStore, clearingGrant, if_true, ne_eq, empty, if_false,
          not_false_eq_true, and_self]
        rfl
      · simp only [pricedWrite, storageStore, clearingGrant, if_neg changed, if_true, empty,
          cleared, and_false, if_false]
        rfl

/-- A later change of a slot that has been changed pays for a read, and corrects the refund. -/
theorem isBalanced_of_later
    (changed : current ≠ value)
    (late : initial ≠ current) :
    IsBalanced initial current value wasWarm
      (if initial = value then if initial = 0 then 19900 else 2800 else 0) where
  nonneg := by
    split
    · split <;> decide
    · decide
  cost := by
    simp only [pricedWrite, storageStore, changeDue, if_neg changed, if_neg late,
      if_neg late.symm, (toNat_cold_add wasWarm).1, @eq_comm _ value]
    split <;> omega
  refund := by
    by_cases empty : initial = 0
    · subst empty
      simp only [pricedWrite, storageStore, clearingGrant, if_neg changed, if_neg late, if_true,
        ne_eq, not_true_eq_false, false_and, if_false]
      split <;> rfl
    · by_cases gone : current = 0
      · subst gone
        simp only [pricedWrite, storageStore, clearingGrant, if_neg changed, ne_eq, empty,
          changed.symm, if_true, if_false, not_false_eq_true, and_self, and_false]
        split <;> rfl
      · by_cases cleared : value = 0
        · subst cleared
          simp only [pricedWrite, storageStore, clearingGrant, if_neg late, ne_eq, empty, gone,
            if_true, if_false, not_false_eq_true, and_self, and_false]
          rfl
        · simp only [pricedWrite, storageStore, clearingGrant, if_neg changed, if_neg late,
            empty, gone, cleared, if_false, and_false]
          split <;> rfl

theorem exists_isBalanced
    (initial current value : Word)
    (wasWarm : Bool) :
    ∃ restored, IsBalanced initial current value wasWarm restored := by
  by_cases same : current = value
  · exact ⟨_, isBalanced_of_same wasWarm same⟩
  · by_cases first : initial = current
    · subst first
      exact ⟨_, isBalanced_of_first wasWarm same⟩
    · exact ⟨_, isBalanced_of_later wasWarm same first⟩

/-! ## Many writes -/

theorem map_value_pricedWrites
    (initial current : Word)
    (wasWarm : Bool)
    (values : List Word) :
    (pricedWrites initial current wasWarm values).map StorageWrite.value = values := by
  induction values generalizing current wasWarm with
  | nil => rfl
  | cons value values inductionHypothesis =>
      exact congrArg _ (inductionHypothesis value true)

theorem length_pricedWrites
    (initial current : Word)
    (wasWarm : Bool)
    (values : List Word) :
    (pricedWrites initial current wasWarm values).length = values.length := by
  rw [← List.length_map StorageWrite.value, map_value_pricedWrites]

/-- What is due and granted in between cancels out. -/
theorem total_pricedWrites
    (initial current : Word)
    (wasWarm : Bool)
    (value : Word)
    (values : List Word) :
    ((pricedWrites initial current wasWarm (value :: values)).map StorageWrite.cost).sum -
        ((pricedWrites initial current wasWarm (value :: values)).map StorageWrite.refund).sum =
      coldShare wasWarm + 100 * (values.length + 1) +
          (changeDue initial (values.getLastD value) - changeDue initial current) -
        (clearingGrant initial (values.getLastD value) - clearingGrant initial current) := by
  -- only the first write can find the slot cold
  induction values generalizing current wasWarm value with
  | nil =>
      obtain ⟨restored, write⟩ := exists_isBalanced initial current value wasWarm
      simp only [pricedWrites, List.map_cons, List.map_nil, List.sum_cons, List.sum_nil,
        write.cost, write.refund, List.getLastD_nil, List.length_nil]
      omega
  | cons next values inductionHypothesis =>
      obtain ⟨restored, write⟩ := exists_isBalanced initial current value wasWarm
      have rest := inductionHypothesis value true next
      have warm : coldShare true = 0 := rfl
      rw [pricedWrites]
      simp only [List.map_cons, List.sum_cons, write.cost, write.refund, List.getLastD_cons,
        List.length_cons] at rest ⊢
      push_cast
      omega

/-- The refunds of many writes are at least what they change the grant by. -/
theorem clearingGrant_sub_le
    (initial current : Word)
    (wasWarm : Bool)
    (values : List Word) :
    clearingGrant initial (values.getLastD current) - clearingGrant initial current ≤
      ((pricedWrites initial current wasWarm values).map StorageWrite.refund).sum := by
  induction values generalizing current wasWarm with
  | nil => exact Int.le_of_eq (Int.sub_self _)
  | cons value values inductionHypothesis =>
      obtain ⟨restored, write⟩ := exists_isBalanced initial current value wasWarm
      have rest := inductionHypothesis value true
      have nonneg := write.nonneg
      simp only [pricedWrites, List.map_cons, List.sum_cons, write.refund, List.getLastD_cons]
        at rest ⊢
      omega

/-- The first of the writes are those of the first values. -/
theorem eq_pricedWrites_of_leading
    {initial current : Word}
    {wasWarm : Bool}
    {values : List Word}
    {earlier : List StorageWrite}
    (first : earlier <+: pricedWrites initial current wasWarm values) :
    earlier =
      pricedWrites initial current wasWarm (earlier.map StorageWrite.value) := by
  induction values generalizing current wasWarm earlier with
  | nil =>
      obtain rfl := List.prefix_nil.mp first
      rfl
  | cons value values inductionHypothesis =>
      cases earlier with
      | nil => rfl
      | cons write earlier =>
          obtain ⟨rfl, others⟩ := List.cons_prefix_cons.mp first
          exact congrArg _ (inductionHypothesis others)

/-- Writes to a slot that still holds what it held before the simulation net out. -/
theorem netOut_pricedWrites
    (initial : Word)
    (wasWarm : Bool)
    (values : List Word) :
    NetOut initial (pricedWrites initial initial wasWarm values) where
  total first isFirst last isLast := by
    cases values with
    | nil => cases isFirst
    | cons value values =>
        obtain rfl : pricedWrite initial initial value wasWarm = first := Option.some.inj isFirst
        have lastValue : values.getLastD value = last.value := by
          have ends := congrArg (Option.map StorageWrite.value) isLast
          rw [← List.getLast?_map, map_value_pricedWrites, List.getLast?_cons,
            ← List.getLastD_eq_getLast?] at ends
          exact Option.some.inj ends
        rw [total_pricedWrites, length_pricedWrites, lastValue, changeDue_self,
          clearingGrant_self, Int.sub_zero, Int.sub_zero]
        rfl
  refunded earlier isFirst := by
    rw [eq_pricedWrites_of_leading isFirst]
    have granted := clearingGrant_sub_le initial initial wasWarm (earlier.map StorageWrite.value)
    rw [clearingGrant_self, Int.sub_zero] at granted
    exact Int.le_trans (clearingGrant_nonneg _ _) granted

end Gas

open World (SlotStands AtEachLevel SameBelow)
open Gas (StorageWrite)

namespace World

/-! ## Invariants -/

/-- In a run there is always an open frame. -/
theorem isOpen_keptByRuns
    (rule : SelfDestructRule) :
    KeptByRuns rule (fun _ => True) IsOpen where
  isOpen isOpen := isOpen
  congr isOpen _ _ _ := isOpen
  transfer isOpen moved := (SameBelow.transfer moved).isOpen isOpen
  destroy isOpen _ _ swept _ deleted :=
    ((SameBelow.transfer swept).trans (.deleteAccount deleted)).isOpen isOpen
  touch move isOpen := (SameBelow.of_move move).isOpen isOpen
  setTransient _ _ _ isOpen := (SameBelow.record _ _).isOpen isOpen
  countNonce counted isOpen := (SameBelow.updateAccount counted).isOpen isOpen
  mayFound_of_isFree _ _ := trivial
  newContract _ isOpen := (SameBelow.record _ _).isOpen isOpen
  deploy _ deployed isOpen := (SameBelow.updateAccount deployed).isOpen isOpen
  setStorage _ _ _ isOpen := (SameBelow.record _ _).isOpen isOpen
  answer dispatched := by
    refine DispatchedCall.keeps_answer ?_ ⟨id, fun isOpen _ _ _ => isOpen⟩ dispatched
    exact
      { count := fun _ counted isOpen => (SameBelow.updateAccount counted).isOpen isOpen
        putRelationship := fun _ _ _ isOpen => (SameBelow.record _ _).isOpen isOpen
        putNft := fun _ _ _ isOpen => (SameBelow.record _ _).isOpen isOpen
        setAllowance := fun _ _ _ _ isOpen => (SameBelow.record _ _).isOpen isOpen
        draw := fun isOpen => isOpen
        changeSupply := fun _ _ _ isOpen => (SameBelow.record _ _).isOpen isOpen
        newToken := fun _ isOpen => (SameBelow.record _ _).isOpen isOpen }

namespace SlotStands

variable
  (slot : Slot)
  (initial current : Word)
  (isMarked : Bool)

/-- Operations on tokens write no storage. -/
theorem keptByTokens :
    TokenAction.KeptByTokens (SlotStands slot initial current isMarked) where
  count _ counted holds := holds.updateAccount counted
  putRelationship _ _ _ holds := holds.record (fun _ => rfl) fun _ => id
  putNft _ _ _ holds := holds.record (fun _ => rfl) fun _ => id
  setAllowance _ _ _ _ holds := holds.record (fun _ => rfl) fun _ => id
  draw holds := (isAboutAnswers slot initial current isMarked).draw _ holds
  changeSupply _ _ _ holds := holds.record (fun _ => rfl) fun _ => id
  newToken _ holds := holds.record (fun _ => rfl) fun _ => id

/-- Only writes to storage change what stands in a slot. -/
theorem keptBesideStorage
    (rule : SelfDestructRule) :
    KeptBesideStorage rule (fun _ => True) (SlotStands slot initial current isMarked) where
  toIsAboutAnswers := isAboutAnswers slot initial current isMarked
  transfer holds moved := holds.transfer moved
  destroy holds _ _ swept _ deleted :=
    (holds.transfer swept).updateAccount (updateAccount_of_deleteAccount deleted)
  touch move holds := by
    cases move with
    | warmAccount => exact holds.record (fun _ => rfl) fun _ => id
    | warmSlot => exact holds.warmSlot _ _
  setTransient _ _ _ holds := holds.record (fun _ => rfl) fun _ => id
  countNonce counted holds := holds.updateAccount counted
  mayFound_of_isFree _ _ := trivial
  newContract _ holds := holds.record (fun _ => rfl) fun _ => id
  deploy _ deployed holds := holds.updateAccount deployed

end SlotStands

end World

/-! ## One write -/

/--
The write to a slot as it is seen when it has been made: whether the slot was marked before, and
how the gas and the refund counter of the frame have changed.
-/
def Machine.seenWrite (slot : Slot) (value : Word) (machine acted : Machine) : StorageWrite where
  value
  wasWarm := machine.simulation.world.isWarmSlot slot.account slot.key
  cost := machine.frame.gas.toNat - acted.frame.gas.toNat
  refund := (acted.frame.refund - machine.frame.refund).toInt

namespace Exec

variable {machine acted : Machine}

/-- What a write to storage finds on the stack and in its slot, and what it leaves. -/
structure HasStored
    (key value initial current : Word)
    (machine acted : Machine) : Prop where
  words : ∃ rest, machine.frame.stack.words = key :: value :: rest
  initially :
    machine.simulation.world.initialStorage machine.frame.context.address key = .ok initial
  stands : machine.simulation.world.storage machine.frame.context.address key = .ok current
  priced :
    machine.seenWrite ⟨machine.frame.context.address, key⟩ value acted =
      Gas.pricedWrite initial current value
        (machine.simulation.world.isWarmSlot machine.frame.context.address key)
  world :
    acted.simulation.world =
      (machine.simulation.world.warmSlot machine.frame.context.address key).setStorage
        machine.frame.context.address key value
  logs : acted.frame.logs = machine.frame.logs

theorem hasStored_of_storageStore
    (done : storageStore machine = .ok () acted) :
    ∃ key value initial current, HasStored key value initial current machine acted := by
  obtain ⟨frame, _, frames, done⟩ := exists_of_run_eq_ok done
  cases frames
  dsimp only at done
  split at done
  · cases done
  obtain ⟨⟨key, value⟩, popped, pops, done⟩ := exists_of_run_eq_ok done
  obtain ⟨rest, words, rfl⟩ := of_pop2_eq_ok pops
  obtain ⟨context, _, contexts, done⟩ := exists_of_run_eq_ok done
  cases contexts
  obtain ⟨initial, _, asks, done⟩ := exists_of_run_eq_ok done
  obtain ⟨initially, rfl⟩ := of_ask_eq_ok asks
  obtain ⟨current, _, asks, done⟩ := exists_of_run_eq_ok done
  obtain ⟨stands, rfl⟩ := of_ask_eq_ok asks
  obtain ⟨wasWarm, _, asks, done⟩ := exists_of_run_eq_ok done
  obtain ⟨marked, rfl⟩ := of_ask_eq_ok asks
  cases marked
  obtain ⟨_, warmed, warms, done⟩ := exists_of_run_eq_ok done
  cases warms
  obtain ⟨_, paid, charges, done⟩ := exists_of_run_eq_ok done
  obtain ⟨enough, rfl⟩ := of_charge_eq_ok charges
  cases done
  have left := UInt64.toNat_sub_add_cancel enough
  refine ⟨key, value, initial, current, ⟨rest.words, words⟩, initially, stands, ?_, rfl, rfl⟩
  simp only [Machine.seenWrite, Gas.pricedWrite, Gas.StorageWrite.mk.injEq, true_and]
  constructor
  · dsimp only at left ⊢
    omega
  · rw [Int64.add_comm, Int64.add_sub_cancel]

/-- Where the write of a slot is next, no frame is started. -/
theorem launch?_of_storageStore
    {environment : Environment}
    (found : machine.frame.instruction? environment.rules = some .storageStore) :
    launch? environment machine = none := by
  cases launched : launch? environment machine with
  | none => rfl
  | some launch =>
      obtain ⟨instruction, place, gasBefore, ready, begun, launches⟩ := exists_of_launch? launched
      obtain ⟨fetched, -⟩ := (yields_begin environment machine).of_ok begun rfl
      cases found.symm.trans fetched
      cases launches

/-- A step at the write of a slot that succeeds has made the write. -/
theorem hasStored_of_step
    {environment : Environment}
    {runner : Runner}
    (found : machine.frame.instruction? environment.rules = some .storageStore)
    (steps : step environment runner machine = .ok () acted) :
    ∃ key value initial current, HasStored key value initial current machine acted := by
  rw [step_eq] at steps
  obtain ⟨⟨instruction, place, gasBefore⟩, ready, begins, acts⟩ := exists_of_run_eq_ok steps
  obtain ⟨fetched, moved, world⟩ := (yields_begin environment machine).of_ok begins rfl
  obtain ⟨stored, stores, sameFrame, sameWorld⟩ := of_amending_eq_ok acts
  cases found.symm.trans fetched
  obtain ⟨key, value, initial, current, has⟩ := hasStored_of_storageStore stores
  have free : machine.frame.gas - Instruction.storageStore.staticCost = machine.frame.gas :=
    UInt64.sub_zero _
  obtain ⟨words, initially, stands, priced, leaves, logs⟩ := has
  rw [moved] at words initially stands priced leaves logs
  rw [world] at initially stands priced leaves
  refine ⟨key, value, initial, current, words, initially, stands, ?_, sameWorld.trans leaves, ?_⟩
  · rw [← priced]
    simp only [Machine.seenWrite, sameFrame, world, moved, free]
  · rw [sameFrame, logs]

section

variable
  {environment : Environment}
  {slot : Slot}
  {initial current : Word}
  {isMarked : Bool}

/-- A step leaves what stands in a slot if its instruction does. -/
theorem ensures_step_of_execute
    {stored : World → Prop}
    (acts :
      ∀ instruction, machine.frame.instruction? environment.rules = some instruction →
        Ensures
          (fun machine => SlotStands slot initial current isMarked machine.simulation.world)
          (execute environment Runner.idle instruction)
          (fun _ machine => stored machine.simulation.world)
          fun _ machine => SlotStands slot initial current isMarked machine.simulation.world)
    (stands : SlotStands slot initial current isMarked machine.simulation.world) :
    Ensures (· = machine) (step environment Runner.idle)
      (fun _ machine => stored machine.simulation.world)
      fun _ machine => SlotStands slot initial current isMarked machine.simulation.world := by
  have kept :=
    SlotStands.keptBesideStorage slot initial current isMarked environment.rules.selfDestruct
  have begins :=
    (ensures_begin_of_quiet kept.quiet nofun fun stands => stands).and
      (yields_begin environment machine)
  rw [step_eq]
  refine Ensures.bind
    (begins.imp (fun _ same => ⟨same ▸ stands, same⟩) (fun _ _ => id) fun _ _ holds => holds.1)
    fun begun => ?_
  rintro ready ⟨⟨reached, -⟩, found, -⟩
  exact ensures_amending _ _ (acts begun.1 found) (fun _ holds => holds) (fun _ holds => holds)
    ready reached

/-- An instruction that acts and stores no word leaves what stands in a slot. -/
theorem slotStands_of_step
    (stands : SlotStands slot initial current isMarked machine.simulation.world)
    (noStore : machine.frame.instruction? environment.rules ≠ some .storageStore) :
    SlotStands slot initial current isMarked
      (ActiveFrame.ofResult (step environment Runner.idle machine)).simulation.world := by
  have kept :=
    SlotStands.keptBesideStorage slot initial current isMarked environment.rules.selfDestruct
  have answer :=
    DispatchedCall.keeps_answer (SlotStands.keptByTokens slot initial current isMarked)
      (SlotStands.isAboutAnswers slot initial current isMarked)
  refine CallStack.holds_ofResult (ensures_step_of_execute (fun instruction found => ?_) stands) rfl
  refine kept.execute answer (Runner.idle_keepsWorld _) ?_
  rintro rfl
  exact noStore found

/-- A write that fails leaves what stands in a slot. -/
theorem slotStands_of_failed_store
    (stands : SlotStands slot initial current isMarked machine.simulation.world)
    (found : machine.frame.instruction? environment.rules = some .storageStore)
    {error : VmError}
    {failed : Machine}
    (fails : step environment Runner.idle machine = .error error failed) :
    SlotStands slot initial current isMarked failed.simulation.world := by
  have kept :=
    SlotStands.keptBesideStorage slot initial current isMarked environment.rules.selfDestruct
  have stores :
      Ensures
        (fun machine => SlotStands slot initial current isMarked machine.simulation.world)
        storageStore (fun _ _ => True)
        fun _ machine => SlotStands slot initial current isMarked machine.simulation.world :=
    kept.quiet.ensures_storageStore rfl (fun _ _ _ _ _ => trivial) fun _ _ _ _ => trivial
  have steps :=
    @ensures_step_of_execute machine environment slot initial current isMarked (fun _ => True)
      (fun instruction found' => by cases found.symm.trans found'; exact stores) stands
  exact steps.of_error fails rfl

end

end Exec

namespace CallStack

variable
  {environment : Environment}
  {slot : Slot}

/-- The write to the slot that a move has made, when it has made one. -/
def slotWrite? (environment : Environment) (slot : Slot) :
    CallStack → CallStack → Option StorageWrite
  | ⟨.running machine, _⟩, ⟨.running acted, _⟩ =>
      match machine.frame.stack.words with
      | key :: value :: _ =>
          if machine.frame.instruction? environment.rules = some .storageStore ∧
              slot = ⟨machine.frame.context.address, key⟩ then
            some (machine.seenWrite slot value acted)
          else
            none
      | _ => none
  | _, _ => none

/-- The move that comes next drops no writes of a frame. -/
def keepsWrites (environment : Environment) : CallStack → Bool
  | ⟨.ended result, frame :: _⟩ =>
      match frame.awaited.settle environment.limits result with
      | .ok outcome _ => outcome.isSuccess
      | .error _ _ => false
  | _ => true

/-- Moves that drop no writes, with the writes that they make to a slot. -/
inductive Writes (environment : Environment) (slot : Slot) :
    List StorageWrite → CallStack → CallStack → Prop where
  | stay (stack : CallStack) : Writes environment slot [] stack stack
  | go
      {writes : List StorageWrite} {before middle after : CallStack}
      (move : Moves environment before middle)
      (kept : before.keepsWrites environment = true)
      (goesOn : Writes environment slot writes middle after) :
      Writes environment slot
        ((slotWrite? environment slot before middle).toList ++ writes) before after

/-- What is left in a slot by a move that has made the write, or none. -/
def LeavesSlot
    (slot : Slot)
    (initial current : Word)
    (isMarked : Bool)
    (world : World) :
    Option StorageWrite → Prop
  | none => SlotStands slot initial current isMarked world
  | some write =>
      SlotStands slot initial write.value true world ∧
        ∃ wasWarm, (isMarked = true → wasWarm = true) ∧
          write = Gas.pricedWrite initial current write.value wasWarm

theorem slotWrite?_of_no_store
    {machine : Machine}
    {waiting : List WaitingFrame}
    (noStore : machine.frame.instruction? environment.rules ≠ some .storageStore)
    (after : CallStack) :
    slotWrite? environment slot ⟨.running machine, waiting⟩ after = none := by
  obtain ⟨active, others⟩ := after
  cases active with
  | ended result => rfl
  | running acted =>
      simp only [slotWrite?]
      split
      · exact if_neg fun both => noStore both.1
      · rfl

/-- A step at a write to storage leaves its value in the slot, if it is the slot that is written. -/
theorem leavesSlot_of_store
    {machine : Machine}
    {waiting : List WaitingFrame}
    {initial current : Word}
    {isMarked : Bool}
    (found : machine.frame.instruction? environment.rules = some .storageStore)
    (stands : SlotStands slot initial current isMarked machine.simulation.world) :
    LeavesSlot slot initial current isMarked
      (ActiveFrame.ofResult (Exec.step environment Runner.idle machine)).simulation.world
      (slotWrite? environment slot ⟨.running machine, waiting⟩
        ⟨.ofResult (Exec.step environment Runner.idle machine), waiting⟩) := by
  cases steps : Exec.step environment Runner.idle machine with
  | error error failed =>
      have left := Exec.slotStands_of_failed_store stands found steps
      change SlotStands slot initial current isMarked
        (ActiveFrame.ended (Frame.failWith error _ _)).simulation.world
      rwa [world_failWith]
  | ok answer acted =>
      obtain ⟨key, value, before, held, stored⟩ := Exec.hasStored_of_step found steps
      obtain ⟨rest, words⟩ := stored.words
      change LeavesSlot slot initial current isMarked acted.simulation.world
        (slotWrite? environment slot ⟨.running machine, waiting⟩ ⟨.running acted, waiting⟩)
      simp only [slotWrite?, words, found, true_and]
      rw [stored.world]
      by_cases mine : slot = ⟨machine.frame.context.address, key⟩
      · subst mine
        cases stands.initially.symm.trans stored.initially
        cases stands.stands.symm.trans stored.stands
        rw [if_pos rfl]
        exact ⟨stands.mark.setStorage_self value, _, stands.marked, stored.priced⟩
      · rw [if_neg mine]
        exact (stands.warmSlot _ _).setStorage_of_ne mine value

/-- A move that drops no writes leaves what stood in a slot, or what it has written. -/
theorem leavesSlot_of_moves
    {before after : CallStack}
    {initial current : Word}
    {isMarked : Bool}
    (move : Moves environment before after)
    (keeps : before.keepsWrites environment = true)
    (opened : before.Holds (fun _ => True) World.IsOpen)
    (stands : SlotStands slot initial current isMarked before.active.simulation.world) :
    LeavesSlot slot initial current isMarked after.active.simulation.world
      (slotWrite? environment slot before after) := by
  have kept :=
    SlotStands.keptBesideStorage slot initial current isMarked environment.rules.selfDestruct
  cases move.moved with
  | close finished => exact stands
  | @launch machine waiting launch runs found =>
      have noStore : machine.frame.instruction? environment.rules ≠ some .storageStore := by
        intro here
        cases (Exec.launch?_of_storageStore here).symm.trans found
      rw [slotWrite?_of_no_store noStore]
      exact (kept.launch? (.outermost stands) found).1.holds
  | @act machine waiting runs =>
      by_cases found : machine.frame.instruction? environment.rules = some .storageStore
      · exact leavesSlot_of_store found stands
      · rw [slotWrite?_of_no_store found]
        exact Exec.slotStands_of_step stands found
  | @handOn result frame waiting =>
      change SlotStands slot initial current isMarked _
      simp only [keepsWrites] at keeps
      cases settles : frame.awaited.settle environment.limits result with
      | error error settled =>
          rw [settles] at keeps
          cases keeps
      | ok outcome settled =>
          rw [settles] at keeps
          cases opened.levels with
          | inside levels inside _ =>
              exact kept.resume_of_success environment.limits frame.awaited.mayFound_trivial
                levels.holds inside stands settles keeps

/-- Along moves that drop no writes, the writes to a slot are priced one after the other. -/
theorem Writes.exists_eq_pricedWrites
    {writes : List StorageWrite}
    {before after : CallStack}
    {initial current : Word}
    {isMarked : Bool}
    (made : Writes environment slot writes before after)
    (opened : before.Holds (fun _ => True) World.IsOpen)
    (stands : SlotStands slot initial current isMarked before.active.simulation.world) :
    ∃ wasWarm, (isMarked = true → wasWarm = true) ∧
      writes =
        Gas.pricedWrites initial current wasWarm (writes.map StorageWrite.value) := by
  -- the first write tells whether the slot was marked; after it the slot is marked
  induction made generalizing current isMarked with
  | stay stack => exact ⟨true, fun _ => rfl, rfl⟩
  | @go writes before middle after move keeps goesOn inductionHypothesis =>
      have openedNext :=
        (World.isOpen_keptByRuns environment.rules.selfDestruct).moves move opened
      have left := leavesSlot_of_moves move keeps opened stands
      cases written : slotWrite? environment slot before middle with
      | none =>
          rw [written] at left
          exact inductionHypothesis openedNext left
      | some write =>
          rw [written] at left
          obtain ⟨standsNext, wasWarm, marked, priced⟩ := left
          obtain ⟨_, isWarm, rest⟩ := inductionHypothesis openedNext standsNext
          obtain rfl := isWarm rfl
          refine ⟨wasWarm, marked, ?_⟩
          exact congrArg₂ List.cons priced rest

/-- The writes to a slot in a number of moves that drop no writes, and the stack they lead to. -/
def advanceWriting (environment : Environment) (slot : Slot) :
    Nat → CallStack → Option (List StorageWrite × CallStack)
  | 0, stack => some ([], stack)
  | count + 1, stack =>
      if stack.keepsWrites environment then do
        let middle ← stack.next environment
        let (writes, after) ← advanceWriting environment slot count middle
        return ((slotWrite? environment slot stack middle).toList ++ writes, after)
      else
        none

theorem writes_of_advanceWriting
    {count : Nat}
    {writes : List StorageWrite}
    {before after : CallStack}
    (reached : advanceWriting environment slot count before = some (writes, after)) :
    Writes environment slot writes before after := by
  induction count generalizing before writes with
  | zero =>
      cases reached
      exact .stay _
  | succ count inductionHypothesis =>
      rw [advanceWriting] at reached
      split at reached
      · rename_i keeps
        obtain ⟨middle, move, reached⟩ := Option.bind_eq_some_iff.mp reached
        obtain ⟨⟨later, last⟩, goesOn, reached⟩ := Option.bind_eq_some_iff.mp reached
        cases reached
        exact .go move keeps (inductionHypothesis goesOn)
      · cases reached

end CallStack

/--
Writes to one slot net out.  Whatever the slot held before the simulation and whatever values are
written to it, as long as it still holds the initial value before the first of the writes and no
frame is dropped between them, the sum of their costs less the sum of their refunds depends on
the number of the writes, on the last value and on the first access only; and at no moment has
more been taken back of the refunds than was given.  The costs and refunds are those that the
frames of a run pay and are credited.
-/
theorem storage_writes_net_out
    (environment : Environment)
    (slot : Slot)
    (initial : Word) :
    (∀ (wasWarm : Bool) (values : List Word),
      Gas.NetOut initial (Gas.pricedWrites initial initial wasWarm values)) ∧
    ∀ {context : FrameContext} {world : World} {trace : Trace}
      {start before after : CallStack} {count : Nat} {writes : List StorageWrite},
      start.Begins environment context world trace →
      CallStack.Leads (CallStack.Moves environment) count start before →
      before.active.simulation.world.initialStorage slot.account slot.key = .ok initial →
      before.active.simulation.world.storage slot.account slot.key = .ok initial →
      before.Writes environment slot writes after →
      (∃ wasWarm,
        writes =
          Gas.pricedWrites initial initial wasWarm (writes.map StorageWrite.value)) ∧
        Gas.NetOut initial writes := by
  refine ⟨Gas.netOut_pricedWrites initial, ?_⟩
  intro context world trace start before after count writes begins leads initially stands made
  have kept := World.isOpen_keptByRuns environment.rules.selfDestruct
  have opened : before.Holds (fun _ => True) World.IsOpen :=
    kept.leads leads (kept.begins begins fun isCreation => Environment.isOpen_warmed _ _ _)
  have slotStands : SlotStands slot initial initial false before.active.simulation.world :=
    ⟨opened.levels.holds, initially, stands, nofun⟩
  obtain ⟨wasWarm, -, priced⟩ := made.exists_eq_pricedWrites opened slotStands
  refine ⟨⟨wasWarm, priced⟩, ?_⟩
  rw [priced]
  exact Gas.netOut_pricedWrites initial wasWarm _

/--
A contract fills an empty slot and empties it again.  Of the 22200 that it pays 19900 are
refunded, which leaves the price of the first access and of two reads.
-/
theorem restored_slot_costs_two_reads :
    let environment : Environment :=
      { rules := ⟨⟨0, 50, 0⟩, .cancun, ⟨true, true⟩, ⟨true, true⟩⟩
        prices := ⟨.empty, .empty, fun _ _ => 1⟩ }
    let contract := Address.ofNum 1001
    -- store one at zero, then zero
    let code : Bytes := [0x60, 0x01, 0x60, 0x00, 0x55, 0x60, 0x00, 0x60, 0x00, 0x55]
    let contents : Snapshot.Contents :=
      { accounts := Table.ofList [(contract, Account.newContract contract code)] }
    let world := World.ofSnapshot (.ofContents contents) true ⟨0⟩ 5000
    let context := FrameContext.ofTransaction (Address.ofNum 1002) contract 0 [] 100000 1 { }
    ∃ start after : CallStack, ∃ writes,
      start.Begins environment context world Trace.off ∧
        start.Writes environment ⟨contract, 0⟩ writes after ∧
        writes = [⟨1, false, 22100, 0⟩, ⟨0, true, 100, 19900⟩] ∧
        (writes.map StorageWrite.cost).sum - (writes.map StorageWrite.refund).sum = 2300 := by
  intro environment contract code contents world context
  have runs :
      (SimAction.callLaunch? .call context
          { world := Environment.warmed context false world }).any (fun launch =>
        decide (launch.2.world.initialStorage contract 0 = .ok 0 ∧
          launch.2.world.storage contract 0 = .ok 0) &&
        (CallStack.advanceWriting environment ⟨contract, 0⟩ 6
          (.first environment.limits context launch.1 launch.2)).any fun reached =>
            decide (reached.1 = [⟨1, false, 22100, 0⟩, ⟨0, true, 100, 19900⟩])) = true := by
    decide +kernel
  obtain ⟨⟨called, opened⟩, launches, runs⟩ := (Option.any_eq_true _ _).mp runs
  obtain ⟨holds, runs⟩ := Bool.and_eq_true_iff.mp runs
  obtain ⟨initially, stands⟩ := of_decide_eq_true holds
  obtain ⟨⟨writes, after⟩, reached, seen⟩ := (Option.any_eq_true _ _).mp runs
  obtain rfl : writes = _ := of_decide_eq_true seen
  have made := CallStack.writes_of_advanceWriting reached
  have begins : CallStack.Begins environment context world Trace.off _ := .call launches
  obtain ⟨-, law⟩ := storage_writes_net_out environment ⟨contract, 0⟩ 0
  obtain ⟨-, net⟩ := law begins (.stay _) initially stands made
  exact ⟨_, after, _, begins, made, rfl, net.total _ rfl _ rfl⟩

end LedgerEvm
