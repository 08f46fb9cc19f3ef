import LedgerEvm.Ledger.World

namespace LedgerEvm

/-!
# The journals of a world as one

Laying every journal over the ones outside it gives a single journal that answers each
question as the stack of journals does.  Writes, ends of frames and reads are described
here by what they do to that one journal.
-/

namespace Table

variable {κ ν : Type} [Numbered κ]

/-- Two tables with the same rows are one table. -/
theorem ext_rows
    {left right : Table κ ν}
    (same : ∀ number : Nat, left.rows[number]? = right.rows[number]?) :
    left = right := by
  cases left
  cases right
  exact congrArg Table.mk (Std.ExtTreeMap.ext_getElem? same)

@[simp] theorem overlay_empty
    (table : Table κ ν) :
    table.overlay empty = table := by
  apply ext_rows
  intro number
  simp [overlay, empty, Std.ExtTreeMap.getElem?_union]

theorem overlay_assoc
    (low middle high : Table κ ν) :
    (low.overlay middle).overlay high = low.overlay (middle.overlay high) := by
  apply ext_rows
  intro number
  simp [overlay, Std.ExtTreeMap.getElem?_union, Option.or_assoc]

/-- An entry put into the upper table counts. -/
theorem overlay_insert
    (base upper : Table κ ν)
    (key : κ)
    (value : ν) :
    base.overlay (upper.insert key value) = (base.overlay upper).insert key value := by
  apply ext_rows
  intro number
  simp only [overlay, insert, Std.ExtTreeMap.getElem?_union, Std.ExtTreeMap.getElem?_insert]
  split <;> simp

@[simp] theorem contains_empty
    (key : κ) :
    (empty : Table κ ν).contains key = false := by
  simp [contains]

theorem contains_overlay
    (base upper : Table κ ν)
    (key : κ) :
    (base.overlay upper).contains key = (upper.contains key || base.contains key) := by
  simp [contains, get?_overlay]

end Table

namespace Journal

theorem absorb_empty
    (journal : Journal) :
    journal.absorb .empty = journal := by
  simp [absorb, empty]

/-- It does not matter which of two frames ends first. -/
theorem absorb_assoc
    (outer middle inner : Journal) :
    (outer.absorb middle).absorb inner = outer.absorb (middle.absorb inner) := by
  simp [absorb, Table.overlay_assoc]

/-- Journals from the innermost outward as one journal. -/
def merged : List Journal → Journal
  | [] => empty
  | inner :: outer => (merged outer).absorb inner

/--
A question whose answer for merged journals is the inner journal's, or else the outer
one's.
-/
structure IsLayered {α : Type} (look : Journal → Option α) : Prop where
  nothing : look empty = none
  absorb : ∀ outer inner, look (outer.absorb inner) = (look inner).or (look outer)

/-- Asking journal by journal is asking all of them as one. -/
theorem IsLayered.findSome?_eq
    {α : Type}
    {look : Journal → Option α}
    (layered : IsLayered look)
    (layers : List Journal) :
    layers.findSome? look = look (merged layers) := by
  induction layers with
  | nil =>
      simp [merged, layered.nothing]
  | cons inner outer inductionHypothesis =>
      rw [merged, layered.absorb, ← inductionHypothesis, List.findSome?_cons]
      cases look inner <;> rfl

/-- A mark that merged journals carry when one of them does. -/
structure IsMark (mark : Journal → Bool) : Prop where
  nothing : mark empty = false
  absorb : ∀ outer inner, mark (outer.absorb inner) = (mark inner || mark outer)

/-- Looking for a mark journal by journal is looking at all of them as one. -/
theorem IsMark.any_eq
    {mark : Journal → Bool}
    (isMark : IsMark mark)
    (layers : List Journal) :
    layers.any mark = mark (merged layers) := by
  induction layers with
  | nil =>
      simp [merged, isMark.nothing]
  | cons inner outer inductionHypothesis =>
      rw [merged, isMark.absorb, ← inductionHypothesis, List.any_cons]

/-- A change that is seen alike through outer journals. -/
def IsLocal (change : Journal → Journal) : Prop :=
  ∀ outer inner : Journal, outer.absorb (change inner) = change (outer.absorb inner)

/-! ### The tables of a journal -/

theorem isLayered_accounts
    (address : Address) :
    IsLayered fun journal => journal.accounts.get? address :=
  ⟨Table.get?_empty _, fun _ _ => Table.get?_overlay _ _ _⟩

theorem isLayered_storage
    (slot : Slot) :
    IsLayered fun journal => journal.storage.get? slot :=
  ⟨Table.get?_empty _, fun _ _ => Table.get?_overlay _ _ _⟩

theorem isLayered_transient
    (slot : Slot) :
    IsLayered fun journal => journal.transient.get? slot :=
  ⟨Table.get?_empty _, fun _ _ => Table.get?_overlay _ _ _⟩

theorem isLayered_tokens
    (address : Address) :
    IsLayered fun journal => journal.tokens.get? address :=
  ⟨Table.get?_empty _, fun _ _ => Table.get?_overlay _ _ _⟩

theorem isLayered_relationships
    (holding : Holding) :
    IsLayered fun journal => journal.relationships.get? holding :=
  ⟨Table.get?_empty _, fun _ _ => Table.get?_overlay _ _ _⟩

theorem isLayered_nfts
    (piece : NftId) :
    IsLayered fun journal => journal.nfts.get? piece :=
  ⟨Table.get?_empty _, fun _ _ => Table.get?_overlay _ _ _⟩

theorem isLayered_allowances
    (grant : Grant) :
    IsLayered fun journal => journal.allowances.get? grant :=
  ⟨Table.get?_empty _, fun _ _ => Table.get?_overlay _ _ _⟩

theorem isMark_created
    (address : Address) :
    IsMark fun journal => journal.created.contains address :=
  ⟨Table.contains_empty _, fun _ _ => Table.contains_overlay _ _ _⟩

theorem isMark_warmAccounts
    (address : Address) :
    IsMark fun journal => journal.warmAccounts.contains address :=
  ⟨Table.contains_empty _, fun _ _ => Table.contains_overlay _ _ _⟩

theorem isMark_warmSlots
    (slot : Slot) :
    IsMark fun journal => journal.warmSlots.contains slot :=
  ⟨Table.contains_empty _, fun _ _ => Table.contains_overlay _ _ _⟩

end Journal

namespace World

/-- All journals of a world as one. -/
def overlay (world : World) : Journal :=
  Journal.merged world.layers

/-! ## Reading -/

/-- What is known, or else the answer from below. -/
def readThrough {α : Type} (known : Option α) (below : Except StateError α) :
    Except StateError α :=
  match known with
  | some answer => .ok answer
  | none => below

variable (world : World)

theorem latest?_eq
    {α : Type}
    {look : Journal → Option α}
    (layered : Journal.IsLayered look) :
    world.latest? look = look world.overlay :=
  layered.findSome?_eq world.layers

theorem accountEntry_eq
    (address : Address) :
    world.accountEntry address =
      readThrough ((world.overlay.accounts.get? address).map some)
        (world.snapshot.account address) := by
  rw [accountEntry, latest?_eq _ (Journal.isLayered_accounts address)]
  cases world.overlay.accounts.get? address <;> rfl

theorem storage_eq
    (address : Address)
    (key : Word) :
    world.storage address key =
      readThrough (world.overlay.storage.get? ⟨address, key⟩)
        (world.snapshot.storage address key) := by
  rw [storage, latest?_eq _ (Journal.isLayered_storage ⟨address, key⟩)]
  cases world.overlay.storage.get? ⟨address, key⟩ <;> rfl

theorem transient_eq
    (address : Address)
    (key : Word) :
    world.transient address key =
      (world.overlay.transient.get? ⟨address, key⟩).getD 0 := by
  rw [transient, latest?_eq _ (Journal.isLayered_transient ⟨address, key⟩)]

theorem token_eq
    (address : Address) :
    world.token address =
      readThrough ((world.overlay.tokens.get? address).map some)
        (world.snapshot.token address) := by
  rw [token, latest?_eq _ (Journal.isLayered_tokens address)]
  cases world.overlay.tokens.get? address <;> rfl

theorem relationship_eq
    (account token : Address) :
    world.relationship account token =
      readThrough (world.overlay.relationships.get? ⟨account, token⟩)
        (world.snapshot.relationship account token) := by
  rw [relationship, latest?_eq _ (Journal.isLayered_relationships ⟨account, token⟩)]
  cases world.overlay.relationships.get? ⟨account, token⟩ <;> rfl

theorem nft_eq
    (token : Address)
    (serial : Int64) :
    world.nft token serial =
      readThrough (world.overlay.nfts.get? ⟨token, serial⟩)
        (world.snapshot.nft token serial) := by
  rw [nft, latest?_eq _ (Journal.isLayered_nfts ⟨token, serial⟩)]
  cases world.overlay.nfts.get? ⟨token, serial⟩ <;> rfl

theorem allowance_eq
    (owner token spender : Address) :
    world.allowance owner token spender =
      readThrough (world.overlay.allowances.get? ⟨owner, token, spender⟩)
        (world.snapshot.allowance owner token spender) := by
  rw [allowance, latest?_eq _ (Journal.isLayered_allowances ⟨owner, token, spender⟩)]
  cases world.overlay.allowances.get? ⟨owner, token, spender⟩ <;> rfl

theorem isCreated_eq
    (address : Address) :
    world.isCreated address = world.overlay.created.contains address :=
  (Journal.isMark_created address).any_eq world.layers

theorem isWarmAccount_eq
    (address : Address) :
    world.isWarmAccount address = world.overlay.warmAccounts.contains address :=
  (Journal.isMark_warmAccounts address).any_eq world.layers

theorem isWarmSlot_eq
    (address : Address)
    (key : Word) :
    world.isWarmSlot address key = world.overlay.warmSlots.contains ⟨address, key⟩ :=
  (Journal.isMark_warmSlots ⟨address, key⟩).any_eq world.layers

/-! ## Frames -/

/-- Opening a frame changes no answer. -/
@[simp] theorem overlay_push :
    world.push.overlay = world.overlay := by
  simp [overlay, push, Journal.merged, Journal.absorb_empty]

@[simp] theorem accountEntry_push
    (address : Address) :
    world.push.accountEntry address = world.accountEntry address := by
  rw [accountEntry_eq, accountEntry_eq, overlay_push]
  rfl

@[simp] theorem token_push
    (address : Address) :
    world.push.token address = world.token address := by
  rw [token_eq, token_eq, overlay_push]
  rfl

/-- Keeping the writes of a frame inside another changes no answer. -/
theorem overlay_commit
    {world : World}
    {child parent : Journal}
    {outer : List Journal}
    (layers : world.layers = child :: parent :: outer) :
    world.commit.overlay = world.overlay := by
  simp [overlay, commit, layers, Journal.merged, Journal.absorb_assoc]

/-! ## Writing -/

/-- A frame is open, so that there is a journal to write to. -/
def IsOpen (world : World) : Prop :=
  world.layers ≠ []

theorem isOpen_push
    (world : World) :
    world.push.IsOpen :=
  List.cons_ne_nil _ _

/-- What is recorded is seen through the journals outside. -/
theorem overlay_record
    {world : World}
    (isOpen : world.IsOpen)
    {change : Journal → Journal}
    (isLocal : Journal.IsLocal change) :
    (world.record change).overlay = change world.overlay := by
  cases shape : world.layers with
  | nil =>
      exact (isOpen shape).elim
  | cons inner outer =>
      simp only [overlay, record, shape, Journal.merged]
      exact isLocal _ _

/-! ## What a write leaves alone -/

@[simp] theorem snapshot_record
    (world : World)
    (change : Journal → Journal) :
    (world.record change).snapshot = world.snapshot := by
  cases shape : world.layers <;> simp [record, shape]

@[simp] theorem redirectsTokenCalls_record
    (world : World)
    (change : Journal → Journal) :
    (world.record change).redirectsTokenCalls = world.redirectsTokenCalls := by
  cases shape : world.layers <;> simp [record, shape]

theorem latest?_record
    {α : Type}
    {look : Journal → Option α}
    {change : Journal → Journal}
    (same : ∀ journal, look (change journal) = look journal) :
    (world.record change).latest? look = world.latest? look := by
  cases shape : world.layers <;> simp [latest?, record, shape, same, List.findSome?_cons]

theorem accountEntry_record
    {change : Journal → Journal}
    (address : Address)
    (same : ∀ journal, (change journal).accounts = journal.accounts) :
    (world.record change).accountEntry address = world.accountEntry address := by
  simp only [accountEntry, snapshot_record]
  rw [latest?_record world fun journal => by rw [same]]

theorem token_record
    {change : Journal → Journal}
    (address : Address)
    (same : ∀ journal, (change journal).tokens = journal.tokens) :
    (world.record change).token address = world.token address := by
  simp only [token, snapshot_record]
  rw [latest?_record world fun journal => by rw [same]]

theorem isCreated_record
    {change : Journal → Journal}
    (address : Address)
    (same : ∀ journal, (change journal).created = journal.created) :
    (world.record change).isCreated address = world.isCreated address := by
  cases shape : world.layers <;> simp [isCreated, record, shape, same]

/-- What calls reach depends on accounts and tokens only. -/
theorem get_record
    {change : Journal → Journal}
    (address : Address)
    (sameAccounts : ∀ journal, (change journal).accounts = journal.accounts)
    (sameTokens : ∀ journal, (change journal).tokens = journal.tokens) :
    (world.record change).get address = world.get address := by
  simp only [get, redirectsTokenCalls_record, token_record world _ sameTokens,
    accountEntry_record world _ sameAccounts]

end World

/-- The answers to every question about the ledger. -/
structure LedgerView where
  accountEntry : Address → Except StateError (Option Account)
  get : Address → Except StateError (Option Account)
  storage : Address → Word → Except StateError Word
  initialStorage : Address → Word → Except StateError Word
  transient : Address → Word → Word
  token : Address → Except StateError (Option Token)
  relationship : Address → Address → Except StateError (Option Relationship)
  nft : Address → Int64 → Except StateError (Option Nft)
  allowance : Address → Address → Address → Except StateError UInt64
  isCreated : Address → Bool
  isWarmAccount : Address → Bool
  isWarmSlot : Address → Word → Bool

namespace World

/-- The answers of a world. -/
def view (world : World) : LedgerView where
  accountEntry := world.accountEntry
  get := world.get
  storage := world.storage
  initialStorage := world.initialStorage
  transient := world.transient
  token := world.token
  relationship := world.relationship
  nft := world.nft
  allowance := world.allowance
  isCreated := world.isCreated
  isWarmAccount := world.isWarmAccount
  isWarmSlot := world.isWarmSlot

/-- The answers depend on the snapshot and on what the journals say. -/
theorem view_congr
    {before after : World}
    (snapshot : after.snapshot = before.snapshot)
    (redirects : after.redirectsTokenCalls = before.redirectsTokenCalls)
    (overlay : after.overlay = before.overlay) :
    after.view = before.view := by
  have entries : after.accountEntry = before.accountEntry := by
    funext address
    rw [accountEntry_eq, accountEntry_eq, snapshot, overlay]
  have tokens : after.token = before.token := by
    funext address
    rw [token_eq, token_eq, snapshot, overlay]
  simp only [view, LedgerView.mk.injEq]
  refine ⟨entries, ?_, ?_, ?_, ?_, tokens, ?_, ?_, ?_, ?_, ?_, ?_⟩
  · funext address
    simp only [get, redirects, tokens, entries]
  · funext address key
    rw [storage_eq, storage_eq, snapshot, overlay]
  · funext address key
    simp only [initialStorage, snapshot]
  · funext address key
    rw [transient_eq, transient_eq, overlay]
  · funext account token
    rw [relationship_eq, relationship_eq, snapshot, overlay]
  · funext token serial
    rw [nft_eq, nft_eq, snapshot, overlay]
  · funext owner token spender
    rw [allowance_eq, allowance_eq, snapshot, overlay]
  · funext address
    rw [isCreated_eq, isCreated_eq, overlay]
  · funext address
    rw [isWarmAccount_eq, isWarmAccount_eq, overlay]
  · funext address key
    rw [isWarmSlot_eq, isWarmSlot_eq, overlay]

/-- Opening a frame changes no answer. -/
theorem view_push
    (world : World) :
    world.push.view = world.view :=
  view_congr rfl rfl (overlay_push world)

end World

end LedgerEvm
