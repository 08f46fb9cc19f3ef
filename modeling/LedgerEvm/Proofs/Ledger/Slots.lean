import LedgerEvm.Proofs.Ledger.Evolution

namespace LedgerEvm

/-!
# Storage slots and marks of access

A static frame only marks accounts and slots as accessed.  Whatever frames are opened, kept
and dropped on the way, the ledger then answers every other question as before, and no
number for a new address has been drawn.
-/

/-- An entry more does not remove another. -/
theorem Table.contains_insert
    {κ ν : Type}
    [Numbered κ]
    {table : Table κ ν}
    {key : κ}
    (present : table.contains key = true)
    (other : κ)
    (value : ν) :
    (table.insert other value).contains key = true := by
  simp only [contains, insert, get?, Std.ExtTreeMap.getElem?_insert] at present ⊢
  split
  · rfl
  · exact present

theorem Table.contains_insert_self
    {κ ν : Type}
    [Numbered κ]
    (table : Table κ ν)
    (key : κ)
    (value : ν) :
    (table.insert key value).contains key = true := by
  rw [contains, get?_insert_self, Option.isSome_some]

namespace World

/-- From one world to the other nothing has changed, except that more may be marked as accessed. -/
structure OnlyWarmed (before after : World) : Prop where
  nextNum : after.nextNum = before.nextNum
  answers :
    { after.view with
        isWarmAccount := before.isWarmAccount
        isWarmSlot := before.isWarmSlot } = before.view
  accounts :
    ∀ address, before.isWarmAccount address = true → after.isWarmAccount address = true
  slots :
    ∀ address key,
      before.isWarmSlot address key = true → after.isWarmSlot address key = true

namespace OnlyWarmed

variable {before middle after : World}

theorem refl
    (world : World) :
    OnlyWarmed world world :=
  ⟨rfl, rfl, fun _ => id, fun _ _ => id⟩

theorem trans
    (first : OnlyWarmed before middle)
    (second : OnlyWarmed middle after) :
    OnlyWarmed before after where
  nextNum := second.nextNum.trans first.nextNum
  answers := by
    rw [← first.answers, ← second.answers]
  accounts address := second.accounts address ∘ first.accounts address
  slots address key := second.slots address key ∘ first.slots address key

/-- What answers alike has been marked alike. -/
theorem of_view
    (nextNum : after.nextNum = before.nextNum)
    (same : after.view = before.view) :
    OnlyWarmed before after where
  nextNum := nextNum
  answers := by
    rw [same]
    rfl
  accounts address marked := by
    rwa [show after.isWarmAccount = before.isWarmAccount from
      congrArg LedgerView.isWarmAccount same]
  slots address key marked := by
    rwa [show after.isWarmSlot = before.isWarmSlot from congrArg LedgerView.isWarmSlot same]

/-! ## Readings -/

theorem get_eq
    (warmed : OnlyWarmed before after) :
    after.get = before.get := by
  have same : after.view.get = before.view.get := by
    rw [← warmed.answers]
  exact same

theorem isFree_eq
    (warmed : OnlyWarmed before after)
    (address : Address) :
    after.isFree address = before.isFree address := by
  have entries : after.view.accountEntry = before.view.accountEntry := by
    rw [← warmed.answers]
  have tokens : after.view.token = before.view.token := by
    rw [← warmed.answers]
  simp only [view] at entries tokens
  simp only [isFree, entries, tokens]

/-! ## Marks -/

theorem push
    (world : World) :
    OnlyWarmed world world.push :=
  of_view rfl (view_push world)

theorem warmAccount
    (world : World)
    (address : Address) :
    OnlyWarmed world (world.warmAccount address) := by
  obtain ⟨snapshot, redirects, timestamp, nextNum, layers⟩ := world
  cases layers with
  | nil => exact refl _
  | cons journal outer =>
      refine ⟨rfl, rfl, fun other marked => ?_, fun _ _ => id⟩
      simp only [isWarmAccount, World.warmAccount, record, List.any_cons, Bool.or_eq_true]
        at marked ⊢
      exact marked.imp_left (Table.contains_insert · _ _)

theorem warmSlot
    (world : World)
    (address : Address)
    (key : Word) :
    OnlyWarmed world (world.warmSlot address key) := by
  obtain ⟨snapshot, redirects, timestamp, nextNum, layers⟩ := world
  cases layers with
  | nil => exact refl _
  | cons journal outer =>
      refine ⟨rfl, rfl, fun _ => id, fun other otherKey marked => ?_⟩
      simp only [isWarmSlot, World.warmSlot, record, List.any_cons, Bool.or_eq_true]
        at marked ⊢
      exact marked.imp_left (Table.contains_insert · _ _)

/-! ## Frames -/

/-- A frame that is dropped leaves nothing. -/
theorem of_revert
    (opened : SameBelow before.push after)
    (nextNum : after.nextNum = before.nextNum) :
    OnlyWarmed before after.revert :=
  of_view nextNum (view_revert opened)

/-- A frame that is kept inside another one shows as it was. -/
theorem of_commit
    (isOpen : before.IsOpen)
    (opened : SameBelow before.push after) :
    OnlyWarmed after after.commit := by
  refine of_view ?_ (view_commit isOpen opened)
  unfold World.commit
  split <;> rfl

/-- Where nothing has changed, nothing has changed when a frame ends. -/
theorem keptByEnds
    (start : World) :
    KeptByEnds (OnlyWarmed start) := by
  have revert
      {below world : World}
      (outside : OnlyWarmed start below)
      (opened : SameBelow below.push world)
      (inside : OnlyWarmed start world) :
      OnlyWarmed start world.revert :=
    outside.trans (of_revert opened (inside.nextNum.trans outside.nextNum.symm))
  refine ⟨fun {below world} outside opened inside => ?_, revert⟩
  by_cases isOpen : below.IsOpen
  · exact inside.trans (of_commit isOpen opened)
  · rw [commit_eq_revert_of_bare isOpen opened]
    exact revert outside opened inside

/-- Whatever a static frame does, it only marks what it accesses. -/
theorem of_evolves
    (evolves : Evolves true before after) :
    OnlyWarmed before after := by
  induction evolves with
  | refl world =>
      exact refl world
  | move _ move reached =>
      cases move with
      | warmAccount => exact reached.trans (warmAccount _ _)
      | warmSlot => exact reached.trans (warmSlot _ _ _)
  | @kept start middle inner _ within reached inside =>
      exact (keptByEnds start).commit reached (.of_evolves within)
        ((reached.trans (push middle)).trans inside)
  | @dropped start middle inner _ within reached inside =>
      exact (keptByEnds start).revert reached (.of_evolves within)
        ((reached.trans (push middle)).trans inside)

end OnlyWarmed

end World

/-!
## Storage slots

What a slot held before the simulation never changes, and what it holds changes only when it is
written.  Once it has been accessed it stays marked.
-/

namespace World

/--
In a world with an open frame the slot holds a value, and had one before the simulation; it has
been accessed if that is asked for.
-/
structure SlotStands
    (slot : Slot)
    (initial current : Word)
    (isMarked : Bool)
    (world : World) : Prop where
  isOpen : world.IsOpen
  initially : world.initialStorage slot.account slot.key = .ok initial
  stands : world.storage slot.account slot.key = .ok current
  marked : isMarked = true → world.isWarmSlot slot.account slot.key = true

variable
  {world after : World}
  {slot : Slot}

/-- The slot holds what has been written to it. -/
theorem storage_setStorage_self
    (isOpen : world.IsOpen)
    (address : Address)
    (key value : Word) :
    (world.setStorage address key value).storage address key = .ok value := by
  cases shape : world.layers with
  | nil => exact (isOpen shape).elim
  | cons journal outer =>
      simp [storage, setStorage, record, latest?, shape, Table.get?_insert_self]

/-- An accessed slot is marked. -/
theorem isWarmSlot_warmSlot_self
    (isOpen : world.IsOpen)
    (address : Address)
    (key : Word) :
    (world.warmSlot address key).isWarmSlot address key = true := by
  cases shape : world.layers with
  | nil => exact (isOpen shape).elim
  | cons journal outer =>
      simp [isWarmSlot, warmSlot, record, shape, Table.contains_insert_self]

namespace SlotStands

variable
  {initial current : Word}
  {isMarked : Bool}

/-- What stands in a slot depends on the answers of a world. -/
theorem isAboutAnswers
    (slot : Slot)
    (initial current : Word)
    (isMarked : Bool) :
    IsAboutAnswers (SlotStands slot initial current isMarked) where
  isOpen stands := stands.isOpen
  congr {world after} isOpen _ same stands := by
    have initials : after.initialStorage = world.initialStorage :=
      congrArg LedgerView.initialStorage same
    have values : after.storage = world.storage := congrArg LedgerView.storage same
    have marks : after.isWarmSlot = world.isWarmSlot := congrArg LedgerView.isWarmSlot same
    exact
      { isOpen
        initially := initials ▸ stands.initially
        stands := values ▸ stands.stands
        marked := fun isMarked => marks ▸ stands.marked isMarked }

/-- A write that is not to the slot leaves what stands there. -/
theorem record
    (holds : world.SlotStands slot initial current isMarked)
    {change : Journal → Journal}
    (sameStorage : ∀ journal, (change journal).storage.get? slot = journal.storage.get? slot)
    (marks :
      ∀ journal,
        journal.warmSlots.contains slot = true → (change journal).warmSlots.contains slot = true) :
    (world.record change).SlotStands slot initial current isMarked where
  isOpen := (SameBelow.record world change).isOpen holds.isOpen
  initially := (initialStorage_record world change _ _).trans holds.initially
  stands := by
    have same : (world.record change).latest? (fun journal => journal.storage.get? slot) =
        world.latest? fun journal => journal.storage.get? slot :=
      latest?_record world sameStorage
    have before := holds.stands
    simp only [storage, snapshot_record] at before ⊢
    rwa [same]
  marked isMarked := by
    have before := holds.marked isMarked
    cases shape : world.layers with
    | nil => exact (holds.isOpen shape).elim
    | cons journal outer =>
        simp only [isWarmSlot, World.record, shape, List.any_cons, Bool.or_eq_true]
          at before ⊢
        exact before.imp_left (marks journal)

variable (holds : world.SlotStands slot initial current isMarked)
include holds

theorem updateAccount
    {address : Address}
    {change : Account → Account}
    {reached : Bool}
    (result : world.updateAccount address change = .ok (reached, after)) :
    after.SlotStands slot initial current isMarked := by
  rcases updateAccount_cases result with ⟨_, _, rfl⟩ | ⟨account, _, _, rfl⟩
  · exact holds
  · exact holds.record (fun _ => rfl) fun _ => id

theorem transfer
    {source target : Address}
    {value : Word}
    (moved : world.transfer source target value = .ok after) :
    after.SlotStands slot initial current isMarked := by
  rcases transfer_cases moved with
    ⟨_, rfl⟩ | ⟨_, _, _, _, _, _, _, _, _, debit, credit, ends⟩
  · exact holds
  · have received := (holds.updateAccount debit).updateAccount credit
    rcases ends with ⟨_, rfl⟩ | ⟨_, _, rfl⟩
    · exact received
    · exact received.record (fun _ => rfl) fun _ => id

/-- Access to a slot leaves its value, and marks it. -/
theorem warmSlot
    (address : Address)
    (key : Word) :
    (world.warmSlot address key).SlotStands slot initial current isMarked :=
  holds.record (fun _ => rfl) fun _ marked => Table.contains_insert marked _ _

/-- A write to another slot leaves what stands there. -/
theorem setStorage_of_ne
    {address : Address}
    {key : Word}
    (different : slot ≠ ⟨address, key⟩)
    (value : Word) :
    (world.setStorage address key value).SlotStands slot initial current isMarked :=
  holds.record (fun _ => Table.get?_insert_of_ne _ different _) fun _ => id

/-- After a write to the slot its value is the one that was written. -/
theorem setStorage_self
    (value : Word) :
    (world.setStorage slot.account slot.key value).SlotStands slot initial value isMarked where
  isOpen := (SameBelow.record world _).isOpen holds.isOpen
  initially := (initialStorage_record world _ _ _).trans holds.initially
  stands := storage_setStorage_self holds.isOpen _ _ _
  marked isMarked := by
    have before := holds.marked isMarked
    cases shape : world.layers with
    | nil => exact (holds.isOpen shape).elim
    | cons journal outer =>
        simp only [isWarmSlot, setStorage, World.record, shape, List.any_cons] at before ⊢
        exact before

/-- An accessed slot is one that is marked from now on. -/
theorem mark :
    (world.warmSlot slot.account slot.key).SlotStands slot initial current true where
  isOpen := (SameBelow.record world _).isOpen holds.isOpen
  initially := (initialStorage_record world _ _ _).trans holds.initially
  stands := (holds.warmSlot slot.account slot.key).stands
  marked _ := isWarmSlot_warmSlot_self holds.isOpen _ _

end SlotStands

end World

end LedgerEvm
