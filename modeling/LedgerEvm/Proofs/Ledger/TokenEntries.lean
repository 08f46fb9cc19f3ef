import Mathlib.Algebra.BigOperators.Group.Finset.Piecewise
import LedgerEvm.Proofs.Ledger.Holdings

namespace LedgerEvm

/-!
# Entries about tokens

What a world answers about tokens, relationships and numbered pieces, after each write
and at both ends of a frame.  The units that an account holds of a token are counted here,
and the units that are held by all accounts.
-/

namespace World

variable {world middle after : World}

/-! ## Reading what was written -/

theorem relationship_record
    (world : World)
    {change : Journal → Journal}
    (account token : Address)
    (same : ∀ journal, (change journal).relationships = journal.relationships) :
    (world.record change).relationship account token =
      world.relationship account token := by
  simp only [relationship, snapshot_record]
  rw [latest?_record world fun journal => by rw [same]]

theorem nft_record
    (world : World)
    {change : Journal → Journal}
    (token : Address)
    (serial : Int64)
    (same : ∀ journal, (change journal).nfts = journal.nfts) :
    (world.record change).nft token serial = world.nft token serial := by
  simp only [nft, snapshot_record]
  rw [latest?_record world fun journal => by rw [same]]

/-- The relationship that has been written is read. -/
theorem relationship_putRelationship_self
    (isOpen : world.IsOpen)
    (account token : Address)
    (entry : Option Relationship) :
    (world.putRelationship account token entry).relationship account token = .ok entry := by
  have written :
      (world.putRelationship account token entry).overlay.relationships =
        world.overlay.relationships.insert ⟨account, token⟩ entry := by
    rw [putRelationship, overlay_record isOpen fun outer inner => by
      simp [Journal.absorb, Table.overlay_insert]]
  rw [relationship_eq, written, Table.get?_insert_self]
  rfl

/-- Writing a relationship leaves the others. -/
theorem relationship_putRelationship_of_ne
    {account token account' token' : Address}
    (different : ¬ (account' = account ∧ token' = token))
    (entry : Option Relationship) :
    (world.putRelationship account token entry).relationship account' token' =
      world.relationship account' token' := by
  have keys : (⟨account', token'⟩ : Holding) ≠ ⟨account, token⟩ := by
    simpa using different
  simp only [World.relationship, putRelationship, snapshot_record]
  rw [latest?_record world fun journal => Table.get?_insert_of_ne _ keys _]

/-- The piece that has been written is read. -/
theorem nft_putNft_self
    (isOpen : world.IsOpen)
    (token : Address)
    (serial : Int64)
    (entry : Option Nft) :
    (world.putNft token serial entry).nft token serial = .ok entry := by
  have written :
      (world.putNft token serial entry).overlay.nfts =
        world.overlay.nfts.insert ⟨token, serial⟩ entry := by
    rw [putNft, overlay_record isOpen fun outer inner => by
      simp [Journal.absorb, Table.overlay_insert]]
  rw [nft_eq, written, Table.get?_insert_self]
  rfl

/-- Writing a piece leaves the others. -/
theorem nft_putNft_of_ne
    {token token' : Address}
    {serial serial' : Int64}
    (different : ¬ (token' = token ∧ serial' = serial))
    (entry : Option Nft) :
    (world.putNft token serial entry).nft token' serial' = world.nft token' serial' := by
  have keys : (⟨token', serial'⟩ : NftId) ≠ ⟨token, serial⟩ := by
    simpa using different
  simp only [World.nft, putNft, snapshot_record]
  rw [latest?_record world fun journal => Table.get?_insert_of_ne _ keys _]

theorem token_putRelationship
    (world : World)
    (account token : Address)
    (entry : Option Relationship)
    (address : Address) :
    (world.putRelationship account token entry).token address = world.token address :=
  token_record world address fun _ => rfl

theorem nft_putRelationship
    (world : World)
    (account token : Address)
    (entry : Option Relationship)
    (token' : Address)
    (serial : Int64) :
    (world.putRelationship account token entry).nft token' serial =
      world.nft token' serial :=
  nft_record world token' serial fun _ => rfl

theorem relationship_putToken
    (world : World)
    (token : Token)
    (account address : Address) :
    (world.putToken token).relationship account address =
      world.relationship account address :=
  relationship_record world account address fun _ => rfl

theorem nft_putToken
    (world : World)
    (token : Token)
    (address : Address)
    (serial : Int64) :
    (world.putToken token).nft address serial = world.nft address serial :=
  nft_record world address serial fun _ => rfl

/-! ## Worlds that answer alike -/

/-- Two worlds with the same tokens and relationships. -/
structure SameHoldings (before after : World) : Prop where
  isOpen : before.IsOpen → after.IsOpen
  token : ∀ address, after.token address = before.token address
  relationship : ∀ account token,
    after.relationship account token = before.relationship account token

/-- Two worlds with the same tokens, relationships and numbered pieces. -/
structure SameEntries (before after : World) : Prop extends SameHoldings before after where
  nft : ∀ token serial, after.nft token serial = before.nft token serial

theorem sameHoldings_record
    (world : World)
    {change : Journal → Journal}
    (sameTokens : ∀ journal, (change journal).tokens = journal.tokens)
    (sameRelationships :
      ∀ journal, (change journal).relationships = journal.relationships) :
    SameHoldings world (world.record change) where
  isOpen isOpen := isOpen.record change
  token address := token_record world address sameTokens
  relationship account token := relationship_record world account token sameRelationships

/-- Writing a piece changes no holding. -/
theorem sameHoldings_putNft
    (world : World)
    (token : Address)
    (serial : Int64)
    (entry : Option Nft) :
    SameHoldings world (world.putNft token serial entry) :=
  sameHoldings_record world (fun _ => rfl) fun _ => rfl

namespace SameEntries

theorem refl
    (world : World) :
    SameEntries world world :=
  ⟨⟨id, fun _ => rfl, fun _ _ => rfl⟩, fun _ _ => rfl⟩

theorem trans
    (first : SameEntries world middle)
    (second : SameEntries middle after) :
    SameEntries world after where
  isOpen := second.isOpen ∘ first.isOpen
  token address := (second.token address).trans (first.token address)
  relationship account token :=
    (second.relationship account token).trans (first.relationship account token)
  nft token serial := (second.nft token serial).trans (first.nft token serial)

theorem symm_of_isOpen
    (same : SameEntries world after)
    (isOpen : world.IsOpen) :
    SameEntries after world where
  isOpen _ := isOpen
  token address := (same.token address).symm
  relationship account token := (same.relationship account token).symm
  nft token serial := (same.nft token serial).symm

theorem record
    (world : World)
    {change : Journal → Journal}
    (sameTokens : ∀ journal, (change journal).tokens = journal.tokens)
    (sameRelationships :
      ∀ journal, (change journal).relationships = journal.relationships)
    (sameNfts : ∀ journal, (change journal).nfts = journal.nfts) :
    SameEntries world (world.record change) :=
  ⟨sameHoldings_record world sameTokens sameRelationships,
    fun token serial => nft_record world token serial sameNfts⟩

/-- Changing an account changes no entry about tokens. -/
theorem updateAccount
    {address : Address}
    {change : Account → Account}
    {reached : Bool}
    (result : world.updateAccount address change = .ok (reached, after)) :
    SameEntries world after := by
  rcases updateAccount_cases result with ⟨_, _, rfl⟩ | ⟨_, _, _, rfl⟩
  · exact refl _
  · exact record world (fun _ => rfl) (fun _ => rfl) fun _ => rfl

/-- Moving currency changes no entry about tokens. -/
theorem transfer
    {source target : Address}
    {value : Word}
    (moved : world.transfer source target value = .ok after) :
    SameEntries world after := by
  rcases transfer_cases moved with
    ⟨_, rfl⟩ | ⟨_, _, _, _, debited, _, credited, _, _, debit, credit, ends⟩
  · exact refl _
  · have paid : SameEntries world credited := (updateAccount debit).trans (updateAccount credit)
    rcases ends with ⟨_, rfl⟩ | ⟨_, _, rfl⟩
    · exact paid
    · exact paid.trans (record _ (fun _ => rfl) (fun _ => rfl) fun _ => rfl)

/-- The entries are among the answers of a world. -/
theorem of_view
    (isOpen : world.IsOpen → after.IsOpen)
    (same : after.view = world.view) :
    SameEntries world after where
  isOpen := isOpen
  token := congrFun (congrArg LedgerView.token same)
  relationship account token :=
    congrFun (congrFun (congrArg LedgerView.relationship same) account) token
  nft token serial := congrFun (congrFun (congrArg LedgerView.nft same) token) serial

theorem push
    (world : World) :
    SameEntries world world.push :=
  of_view (fun _ => isOpen_push world) (view_push world)

/-- A number that has been drawn shows in no entry. -/
theorem nextNum
    (world : World)
    (number : UInt64) :
    SameEntries world { world with nextNum := number } :=
  ⟨⟨id, fun _ => rfl, fun _ _ => rfl⟩, fun _ _ => rfl⟩

/-- Dropping a frame restores all entries. -/
theorem revert
    (inside : SameBelow world.push after) :
    SameEntries world after.revert := by
  rw [inside.revert_eq]
  exact nextNum world after.nextNum

/-- Keeping a frame inside another keeps all entries. -/
theorem commit
    (isOpen : world.IsOpen)
    (inside : SameBelow world.push after) :
    SameEntries after after.commit :=
  of_view (fun _ => inside.commit.isOpen isOpen) (view_commit isOpen inside)

/-- A frame over the bare view has no caller to keep its writes. -/
theorem commit_of_bare
    (bare : ¬ world.IsOpen)
    (inside : SameBelow world.push after) :
    SameEntries world after.commit := by
  rw [commit_eq_revert_of_bare bare inside]
  exact revert inside

end SameEntries

/-- The property depends on tokens, relationships and numbered pieces only. -/
def IsAboutEntries (property : World → Prop) : Prop :=
  ∀ ⦃before after : World⦄, SameEntries before after → property before → property after

/-- What holds before a frame and inside it holds after it, whether it has a caller or not. -/
theorem IsAboutEntries.commit
    {property : World → Prop}
    (about : IsAboutEntries property)
    (inside : SameBelow world.push after)
    (holds : property world)
    (reached : property after) :
    property after.commit := by
  by_cases isOpen : world.IsOpen
  · exact about (.commit isOpen inside) reached
  · exact about (.commit_of_bare isOpen inside) holds

/-- The property depends on tokens and relationships only. -/
def IsAboutHoldings (property : World → Prop) : Prop :=
  ∀ ⦃before after : World⦄, SameHoldings before after → property before → property after

namespace IsAboutHoldings

theorem isAboutEntries
    {property : World → Prop}
    (about : IsAboutHoldings property) :
    IsAboutEntries property :=
  fun _ _ same holds => about same.toSameHoldings holds

theorem and
    {one other : World → Prop}
    (first : IsAboutHoldings one)
    (second : IsAboutHoldings other) :
    IsAboutHoldings fun world => one world ∧ other world :=
  fun _ _ same holds => ⟨first same holds.1, second same holds.2⟩

theorem token
    (address : Address)
    (answer : Except StateError (Option Token)) :
    IsAboutHoldings fun world => world.token address = answer :=
  fun _ _ same known => (same.token address).trans known

theorem relationship
    (account token : Address)
    (answer : Except StateError (Option Relationship)) :
    IsAboutHoldings fun world => world.relationship account token = answer :=
  fun _ _ same known => (same.relationship account token).trans known

end IsAboutHoldings

/-! ## Entries under their own names -/

/--
Tokens and relationships are found under the names that they carry themselves, under which they
are also written back.
-/
structure IsFiled (world : World) : Prop where
  token :
    ∀ {address : Address} {token : Token},
      world.token address = .ok (some token) → token.address = address
  relationship :
    ∀ {account token : Address} {holding : Relationship},
      world.relationship account token = .ok (some holding) →
      holding.account = account ∧ holding.token = token

/-- A relationship that is there carries its own names. -/
theorem own_of_mem_some
    (holding : Relationship) :
    ∀ other ∈ some holding,
      other.account = holding.account ∧ other.token = holding.token := by
  intro other member
  obtain rfl := Option.mem_some_iff.mp member
  exact ⟨rfl, rfl⟩

namespace IsFiled

theorem congr
    (filed : world.IsFiled)
    (same : SameHoldings world after) :
    after.IsFiled where
  token found := filed.token ((same.token _).symm.trans found)
  relationship found := filed.relationship ((same.relationship _ _).symm.trans found)

theorem putToken
    (filed : world.IsFiled)
    (isOpen : world.IsOpen)
    (token : Token) :
    (world.putToken token).IsFiled where
  token {address found} read := by
    by_cases same : address = token.address
    · subst same
      rw [token_putToken_self isOpen] at read
      cases read
      rfl
    · rw [token_putToken_of_ne same] at read
      exact filed.token read
  relationship read := by
    rw [relationship_putToken] at read
    exact filed.relationship read

theorem putRelationship
    (filed : world.IsFiled)
    (isOpen : world.IsOpen)
    {account token : Address}
    {entry : Option Relationship}
    (own : ∀ holding ∈ entry, holding.account = account ∧ holding.token = token) :
    (world.putRelationship account token entry).IsFiled where
  token read := by
    rw [token_putRelationship] at read
    exact filed.token read
  relationship {account' token' holding} read := by
    by_cases same : account' = account ∧ token' = token
    · obtain ⟨rfl, rfl⟩ := same
      rw [relationship_putRelationship_self isOpen] at read
      exact own holding (Except.ok.inj read)
    · rw [relationship_putRelationship_of_ne same] at read
      exact filed.relationship read

/-- A store that enters tokens and relationships under their own names. -/
theorem ofContents
    (contents : Snapshot.Contents)
    (tokens : List Token)
    (relationships : List Relationship)
    (keepsTokens :
      contents.tokens = Table.ofList (tokens.map fun token => (token.address, token)))
    (keepsRelationships :
      contents.relationships =
        Table.ofList
          (relationships.map fun holding => (⟨holding.account, holding.token⟩, holding)))
    (redirectsTokenCalls : Bool)
    (timestamp : Timestamp)
    (firstNum : UInt64) :
    (World.ofSnapshot (.ofContents contents) redirectsTokenCalls timestamp
      firstNum).IsFiled where
  token read := by
    have found := Except.ok.inj read
    rw [keepsTokens] at found
    exact (Table.key_eq_of_get?_ofList Token.address tokens found).2
  relationship read := by
    have found := Except.ok.inj read
    rw [keepsRelationships] at found
    have key :=
      (Table.key_eq_of_get?_ofList (fun holding : Relationship =>
        (⟨holding.account, holding.token⟩ : Holding)) relationships found).2
    exact ⟨congrArg Holding.account key, congrArg Holding.token key⟩

end IsFiled

/-! ## Units -/

/-- The units of an entry, none where there is no relationship. -/
def unitsOf (entry : Option Relationship) : Nat :=
  (entry.map fun holding => holding.balance.toNat).getD 0

/-- The units of a token that are read for an account; none where the reading fails. -/
def units (world : World) (account token : Address) : Nat :=
  match world.relationship account token with
  | .ok entry => unitsOf entry
  | .error _ => 0

/-- The units of a token that all accounts hold. -/
noncomputable def circulation (world : World) (token : Address) : Nat :=
  ∑ account, world.units account token

@[simp] theorem unitsOf_none :
    unitsOf none = 0 :=
  rfl

@[simp] theorem unitsOf_some
    (holding : Relationship) :
    unitsOf (some holding) = holding.balance.toNat :=
  rfl

theorem units_of_relationship
    {account token : Address}
    {entry : Option Relationship}
    (found : world.relationship account token = .ok entry) :
    world.units account token = unitsOf entry := by
  simp only [units, found]

/-- No account holds more units than a balance can say. -/
theorem units_lt
    (world : World)
    (account token : Address) :
    world.units account token < 2 ^ 64 := by
  unfold units
  cases world.relationship account token with
  | error error => exact Nat.two_pow_pos 64
  | ok entry =>
      cases entry with
      | none => exact Nat.two_pow_pos 64
      | some holding => exact holding.balance.toNat_lt

theorem units_le_circulation
    (world : World)
    (account token : Address) :
    world.units account token ≤ world.circulation token :=
  Finset.single_le_sum (f := fun account => world.units account token)
    (fun _ _ => Nat.zero_le _) (Finset.mem_univ account)

theorem units_congr
    (same : SameHoldings world after)
    (account token : Address) :
    after.units account token = world.units account token := by
  simp only [units, same.relationship]

theorem circulation_congr
    (same : SameHoldings world after)
    (token : Address) :
    after.circulation token = world.circulation token :=
  Finset.sum_congr rfl fun account _ => units_congr same account token

/-- Writing a relationship leaves the units of the others. -/
theorem units_putRelationship_of_ne
    {account token account' token' : Address}
    (different : ¬ (account' = account ∧ token' = token))
    (entry : Option Relationship) :
    (world.putRelationship account token entry).units account' token' =
      world.units account' token' := by
  simp only [units, relationship_putRelationship_of_ne different]

theorem units_putRelationship_self
    (isOpen : world.IsOpen)
    (account token : Address)
    (entry : Option Relationship) :
    (world.putRelationship account token entry).units account token = unitsOf entry :=
  units_of_relationship (relationship_putRelationship_self isOpen account token entry)

/-- Writing a relationship exchanges its units in the circulation of its token. -/
theorem circulation_putRelationship_self
    (isOpen : world.IsOpen)
    (account token : Address)
    (entry : Option Relationship) :
    (world.putRelationship account token entry).circulation token +
        world.units account token =
      world.circulation token + unitsOf entry := by
  rw [← units_putRelationship_self isOpen account token entry]
  exact sum_add_of_ne account fun other different =>
    units_putRelationship_of_ne (fun same => different same.1) entry

theorem circulation_putRelationship_of_ne
    {account token token' : Address}
    (different : token' ≠ token)
    (entry : Option Relationship) :
    (world.putRelationship account token entry).circulation token' =
      world.circulation token' :=
  Finset.sum_congr rfl fun _ _ =>
    units_putRelationship_of_ne (fun same => different same.2) entry

/-- An invariant that does not notice relationships written with the units they had. -/
structure KeptByAlikeRelationships (invariant : World → Prop) : Prop where
  about : IsAboutEntries invariant
  isOpen : ∀ {world : World}, invariant world → world.IsOpen
  put :
    ∀ {world : World} {account token : Address} {entry : Option Relationship},
      invariant world →
      (∀ holding ∈ entry, holding.account = account ∧ holding.token = token) →
      world.token token ≠ .ok none →
      (∀ {found : Token},
        world.token token = .ok (some found) →
        found.deleted = false →
        world.units account token = unitsOf entry) →
      invariant (world.putRelationship account token entry)

end World

/-!
## Numbered pieces and their owners

The pieces of a token that exist, and those that an account owns, are counted over all
serial numbers.  Writing one piece exchanges its old owner for its new one.
-/

/-- There are finitely many serial numbers. -/
noncomputable instance Serial.instFintype : Fintype Int64 :=
  Fintype.ofInjective (fun serial => serial.toBitVec.toFin) fun _ _ same =>
    Int64.toBitVec_inj.mp (BitVec.toFin_inj.mp same)

namespace World

variable {world after : World}

/-- The owner of a piece; none where there is no piece or the reading fails. -/
def ownerOf? (world : World) (token : Address) (serial : Int64) : Option Address :=
  match world.nft token serial with
  | .ok entry => entry.map Nft.owner
  | .error _ => none

/-- The number of pieces of a token that an account owns. -/
noncomputable def owned (world : World) (token account : Address) : Nat :=
  ∑ serial, if world.ownerOf? token serial = some account then 1 else 0

/-- The number of pieces of a token that exist. -/
noncomputable def existing (world : World) (token : Address) : Nat :=
  ∑ serial, if (world.ownerOf? token serial).isSome then 1 else 0

theorem ownerOf?_of_nft
    {token : Address}
    {serial : Int64}
    {entry : Option Nft}
    (found : world.nft token serial = .ok entry) :
    world.ownerOf? token serial = entry.map Nft.owner := by
  simp only [ownerOf?, found]

theorem ownerOf?_congr
    {token : Address}
    {serial : Int64}
    (same : after.nft token serial = world.nft token serial) :
    after.ownerOf? token serial = world.ownerOf? token serial := by
  simp only [ownerOf?, same]

/-- The number of pieces depends on the entries of the token's pieces only. -/
theorem owned_congr
    {token : Address}
    (same : ∀ serial, after.nft token serial = world.nft token serial)
    (account : Address) :
    after.owned token account = world.owned token account := by
  simp only [owned, fun serial => ownerOf?_congr (same serial)]

theorem existing_congr
    {token : Address}
    (same : ∀ serial, after.nft token serial = world.nft token serial) :
    after.existing token = world.existing token := by
  simp only [existing, fun serial => ownerOf?_congr (same serial)]

/-- Different pieces of one owner are at most as many as the account owns. -/
theorem length_le_owned
    {token account : Address}
    {serials : List Int64}
    (nodup : serials.Nodup)
    (own : ∀ serial ∈ serials, world.ownerOf? token serial = some account) :
    serials.length ≤ world.owned token account := by
  rw [← List.toFinset_card_of_nodup nodup, owned, ← Finset.card_filter]
  refine Finset.card_le_card fun serial member => ?_
  exact Finset.mem_filter.mpr
    ⟨Finset.mem_univ serial, own serial (List.mem_toFinset.mp member)⟩

/-- An account owns no more pieces than exist. -/
theorem owned_le_existing
    (world : World)
    (token account : Address) :
    world.owned token account ≤ world.existing token := by
  refine Finset.sum_le_sum fun serial _ => ?_
  split
  · rename_i own
    simp [own]
  · exact Nat.zero_le _

/-! ### Writing pieces -/

variable (isOpen : world.IsOpen)
include isOpen

theorem ownerOf?_putNft_self
    (token : Address)
    (serial : Int64)
    (entry : Option Nft) :
    (world.putNft token serial entry).ownerOf? token serial = entry.map Nft.owner :=
  ownerOf?_of_nft (nft_putNft_self isOpen token serial entry)

omit isOpen in
theorem ownerOf?_putNft_of_ne
    {token token' : Address}
    {serial serial' : Int64}
    (different : ¬ (token' = token ∧ serial' = serial))
    (entry : Option Nft) :
    (world.putNft token serial entry).ownerOf? token' serial' =
      world.ownerOf? token' serial' := by
  exact ownerOf?_congr (nft_putNft_of_ne different entry)

/-- Writing a piece exchanges its old owner for its new one. -/
theorem owned_putNft
    (token : Address)
    (serial : Int64)
    (entry : Option Nft)
    (account : Address) :
    (world.putNft token serial entry).owned token account +
        (if world.ownerOf? token serial = some account then 1 else 0) =
      world.owned token account +
        (if entry.map Nft.owner = some account then 1 else 0) := by
  rw [← ownerOf?_putNft_self isOpen token serial entry]
  apply sum_add_of_ne serial
  intro other different
  rw [ownerOf?_putNft_of_ne fun same => different same.2]

theorem existing_putNft
    (token : Address)
    (serial : Int64)
    (entry : Option Nft) :
    (world.putNft token serial entry).existing token +
        (if (world.ownerOf? token serial).isSome then 1 else 0) =
      world.existing token + (if entry.isSome then 1 else 0) := by
  have written := ownerOf?_putNft_self isOpen token serial entry
  rw [← Option.isSome_map (f := Nft.owner), ← written]
  apply sum_add_of_ne serial
  intro other different
  rw [ownerOf?_putNft_of_ne fun same => different same.2]

end World

end LedgerEvm
