import LedgerEvm.Proofs.TokenService.EntryWrites
import LedgerEvm.Proofs.TokenService.PieceSupply

namespace LedgerEvm

/-!
# Serial numbers are used once

A token counts the serial numbers that it has used, and only a mint counts them up.  Pieces
are numbered within the count, so that the numbers that a mint adds are those of no piece, and
since the count never goes down, of none that was ever removed.

Hence through any transactions the serial numbers of pieces stay in order, and every mint gives
numbers that no piece has had at any time before, be it still there or removed.
-/

/-- A token is the one it was, and has used no fewer serial numbers. -/
structure Token.CountsOn (before after : Token) : Prop where
  address : after.address = before.address
  kind : after.kind = before.kind
  last : before.lastUsedSerial ≤ after.lastUsedSerial

namespace Token.CountsOn

variable {before middle after : Token}

theorem refl
    (token : Token) :
    token.CountsOn token :=
  ⟨rfl, rfl, Int64.le_refl _⟩

theorem trans
    (first : before.CountsOn middle)
    (second : middle.CountsOn after) :
    before.CountsOn after where
  address := second.address.trans first.address
  kind := second.kind.trans first.kind
  last := Int64.le_trans first.last second.last

theorem isNonFungible
    (counts : before.CountsOn after) :
    after.isNonFungible = before.isNonFungible := by
  unfold Token.isNonFungible
  rw [counts.kind]

end Token.CountsOn

namespace World

/--
Every piece is one of a token, and those of a token held as numbered pieces are numbered from
one up to the last number used.  Tokens are found under their own names, since a token is
written back under the name that it carries: at any other address the last number used would
stay as it was, and the next mint would use it again.
-/
structure SerialsInOrder (world : World) : Prop where
  filed :
    ∀ {address : Address} {token : Token},
      world.token address = .ok (some token) → token.address = address
  known :
    ∀ {address : Address} {serial : Int64} {piece : Nft},
      world.nft address serial = .ok (some piece) → world.token address ≠ .ok none
  counted :
    ∀ {address : Address} {token : Token},
      world.token address = .ok (some token) →
      token.isNonFungible = true →
      0 ≤ token.lastUsedSerial
  within :
    ∀ {address : Address} {token : Token} {serial : Int64} {piece : Nft},
      world.token address = .ok (some token) →
      token.isNonFungible = true →
      world.nft address serial = .ok (some piece) →
      1 ≤ serial ∧ serial ≤ token.lastUsedSerial

/--
A frame is open, serial numbers are in order, and the tokens of the start have counted on.
Where no token could be read there is still none to be read.
-/
structure NumbersOn (start world : World) : Prop extends SerialsInOrder world where
  isOpen : world.IsOpen
  later :
    ∀ {address : Address} {token : Token},
      start.token address = .ok (some token) →
      ∃ after, world.token address = .ok (some after) ∧ token.CountsOn after
  unread :
    ∀ {address : Address} {error : StateError},
      start.token address = .error error → world.token address = .error error

namespace SerialsInOrder

variable {world after : World}

theorem congr
    (inOrder : world.SerialsInOrder)
    (same : SameEntries world after) :
    after.SerialsInOrder where
  filed found := inOrder.filed ((same.token _).symm.trans found)
  known piece none :=
    inOrder.known ((same.nft _ _).symm.trans piece) ((same.token _).symm.trans none)
  counted found := inOrder.counted ((same.token _).symm.trans found)
  within found nonFungible piece :=
    inOrder.within ((same.token _).symm.trans found) nonFungible ((same.nft _ _).symm.trans piece)

/-- Entries of pieces are written in order if they stand where pieces stood. -/
theorem putNft
    (inOrder : world.SerialsInOrder)
    (isOpen : world.IsOpen)
    {token : Address}
    {serial : Int64}
    {entry : Option Nft}
    (stood : entry.isSome → ∃ piece, world.nft token serial = .ok (some piece)) :
    (world.putNft token serial entry).SerialsInOrder := by
  have tokens := (sameHoldings_putNft world token serial entry).token
  -- whatever piece is there now, there was one before
  have before {address : Address} {number : Int64} {piece : Nft}
      (read : (world.putNft token serial entry).nft address number = .ok (some piece)) :
      ∃ old, world.nft address number = .ok (some old) := by
    by_cases here : address = token ∧ number = serial
    · obtain ⟨rfl, rfl⟩ := here
      rw [nft_putNft_self isOpen] at read
      cases read
      exact stood rfl
    · rw [nft_putNft_of_ne here] at read
      exact ⟨piece, read⟩
  refine ⟨fun found => ?_, fun read none => ?_, fun found => ?_, fun found nonFungible read => ?_⟩
  · exact inOrder.filed ((tokens _).symm.trans found)
  · obtain ⟨old, stood⟩ := before read
    exact inOrder.known stood ((tokens _).symm.trans none)
  · exact inOrder.counted ((tokens _).symm.trans found)
  · obtain ⟨old, stood⟩ := before read
    exact inOrder.within ((tokens _).symm.trans found) nonFungible stood

/-- A token is written in order if its pieces are within its count. -/
theorem putToken
    (inOrder : world.SerialsInOrder)
    (isOpen : world.IsOpen)
    {token : Token}
    (counted : token.isNonFungible = true → 0 ≤ token.lastUsedSerial)
    (within :
      token.isNonFungible = true →
      ∀ {serial : Int64} {piece : Nft},
        world.nft token.address serial = .ok (some piece) →
        1 ≤ serial ∧ serial ≤ token.lastUsedSerial) :
    (world.putToken token).SerialsInOrder := by
  -- what is found is the token that was written or one that was there
  have cases_of {address : Address} {found : Token}
      (read : (world.putToken token).token address = .ok (some found)) :
      address = token.address ∧ found = token ∨
        address ≠ token.address ∧ world.token address = .ok (some found) := by
    by_cases here : address = token.address
    · subst here
      rw [token_putToken_self isOpen] at read
      cases read
      exact .inl ⟨rfl, rfl⟩
    · rw [token_putToken_of_ne here] at read
      exact .inr ⟨here, read⟩
  refine ⟨fun read => ?_, fun piece none => ?_, fun read => ?_, fun read nonFungible piece => ?_⟩
  · obtain ⟨rfl, rfl⟩ | ⟨_, read⟩ := cases_of read
    · rfl
    · exact inOrder.filed read
  · rename_i address _ _
    rw [nft_putToken] at piece
    by_cases here : address = token.address
    · subst here
      rw [token_putToken_self isOpen] at none
      cases none
    · rw [token_putToken_of_ne here] at none
      exact inOrder.known piece none
  · obtain ⟨rfl, rfl⟩ | ⟨_, read⟩ := cases_of read
    · exact counted
    · exact inOrder.counted read
  · rw [nft_putToken] at piece
    obtain ⟨rfl, rfl⟩ | ⟨_, read⟩ := cases_of read
    · exact within nonFungible piece
    · exact inOrder.within read nonFungible piece

end SerialsInOrder

namespace NumbersOn

variable {start world after : World}

theorem refl
    (inOrder : world.SerialsInOrder)
    (isOpen : world.IsOpen) :
    NumbersOn world world :=
  ⟨inOrder, isOpen, fun found => ⟨_, found, .refl _⟩, id⟩

theorem isAboutEntries
    (start : World) :
    IsAboutEntries (NumbersOn start) := fun _ _ same numbers => by
  refine ⟨numbers.toSerialsInOrder.congr same, same.isOpen numbers.isOpen, fun found => ?_,
    fun failed => (same.token _).trans (numbers.unread failed)⟩
  obtain ⟨later, read, counts⟩ := numbers.later found
  exact ⟨later, (same.token _).trans read, counts⟩

/-- Writing about pieces that stood before leaves the tokens. -/
theorem putNft
    (numbers : NumbersOn start world)
    {token : Address}
    {serial : Int64}
    {entry : Option Nft}
    (stood : entry.isSome → ∃ piece, world.nft token serial = .ok (some piece)) :
    NumbersOn start (world.putNft token serial entry) := by
  have tokens := (sameHoldings_putNft world token serial entry).token
  refine ⟨numbers.toSerialsInOrder.putNft numbers.isOpen stood, numbers.isOpen.record _,
    fun found => ?_, fun failed => (tokens _).trans (numbers.unread failed)⟩
  rw [tokens]
  exact numbers.later found

theorem putRelationship
    (numbers : NumbersOn start world)
    (account token : Address)
    (entry : Option Relationship) :
    NumbersOn start (world.putRelationship account token entry) where
  isOpen := numbers.isOpen.record _
  filed found := by
    rw [token_putRelationship] at found
    exact numbers.filed found
  known piece := by
    rw [nft_putRelationship] at piece
    rw [token_putRelationship]
    exact numbers.known piece
  counted found := by
    rw [token_putRelationship] at found
    exact numbers.counted found
  within found nonFungible piece := by
    rw [token_putRelationship] at found
    rw [nft_putRelationship] at piece
    exact numbers.within found nonFungible piece
  later found := by
    rw [token_putRelationship]
    exact numbers.later found
  unread failed := (token_putRelationship ..).trans (numbers.unread failed)

/-- A token that counts on from the one that was there is written in order. -/
theorem putToken
    (numbers : NumbersOn start world)
    {address : Address}
    {token entry : Token}
    (found : world.token address = .ok (some token))
    (counts : token.CountsOn entry) :
    NumbersOn start (world.putToken entry) := by
  obtain rfl : token.address = address := numbers.filed found
  rw [← counts.address] at found
  refine ⟨numbers.toSerialsInOrder.putToken numbers.isOpen ?_ ?_, numbers.isOpen.record _, ?_,
    ?_⟩
  · intro nonFungible
    rw [counts.isNonFungible] at nonFungible
    exact Int64.le_trans (numbers.counted found nonFungible) counts.last
  · intro nonFungible serial piece stands
    rw [counts.isNonFungible] at nonFungible
    obtain ⟨low, high⟩ := numbers.within found nonFungible stands
    exact ⟨low, Int64.le_trans high counts.last⟩
  · intro address former begun
    obtain ⟨later, read, earlier⟩ := numbers.later begun
    by_cases here : address = entry.address
    · subst here
      cases found.symm.trans read
      exact ⟨entry, token_putToken_self numbers.isOpen entry, earlier.trans counts⟩
    · rw [token_putToken_of_ne here]
      exact ⟨later, read, earlier⟩
  · intro address error failed
    have failed := numbers.unread failed
    have elsewhere : address ≠ entry.address := by
      rintro rfl
      cases found.symm.trans failed
    exact (token_putToken_of_ne elsewhere).trans failed

/-- A new token comes where none was, and so where no piece was. -/
theorem putNew
    (numbers : NumbersOn start world)
    {token : Token}
    (free : world.isFree token.address = .ok true)
    (unused : token.lastUsedSerial = 0) :
    NumbersOn start (world.putToken token) := by
  have none := (isFree_iff.mp free).2
  refine ⟨numbers.toSerialsInOrder.putToken numbers.isOpen (fun _ => ?_) (fun _ _ _ piece => ?_),
    numbers.isOpen.record _, fun {address _} begun => ?_, fun {address _} failed => ?_⟩
  · rw [unused]
    exact Int64.le_refl _
  · exact (numbers.known piece none).elim
  · obtain ⟨later, read, counts⟩ := numbers.later begun
    have elsewhere : address ≠ token.address := by
      rintro rfl
      cases none.symm.trans read
    rw [token_putToken_of_ne elsewhere]
    exact ⟨later, read, counts⟩
  · have failed := numbers.unread failed
    have elsewhere : address ≠ token.address := by
      rintro rfl
      cases none.symm.trans failed
    exact (token_putToken_of_ne elsewhere).trans failed

/-- Everything but a mint keeps serial numbers in order. -/
theorem keptByPieceWrites
    (start : World) :
    KeptByPieceWrites (NumbersOn start) where
  about := isAboutEntries start
  isOpen := isOpen
  putRelationship account token entry numbers := numbers.putRelationship account token entry
  putSupply _ numbers found := numbers.putToken found ⟨rfl, rfl, Int64.le_refl _⟩
  putNew numbers free unused := numbers.putNew free unused
  approvePiece _ numbers found := numbers.putNft fun _ => ⟨_, found⟩
  removePiece _ _ numbers := numbers.putNft fun impossible => by cases impossible
  movePiece _ _ numbers found := numbers.putNft fun _ => ⟨_, found⟩

end NumbersOn

/-! ## New pieces -/

/-- Pieces with serial numbers and metadata have been put for an owner, and no others. -/
structure HasPut
    (address owner : Address)
    (pieces : List (Int64 × Bytes))
    (before after : World) : Prop where
  put :
    ∀ {serial : Int64} {metadata : Bytes},
      (serial, metadata) ∈ pieces →
      after.nft address serial =
        .ok (some { token := address, serial, owner, spender := Address.zero, metadata })
  others :
    ∀ {address' : Address} {serial : Int64},
      ¬ (address' = address ∧ serial ∈ pieces.map Prod.fst) →
      after.nft address' serial = before.nft address' serial

namespace HasPut

variable
  {address owner : Address}
  {pieces : List (Int64 × Bytes)}
  {before before' after after' : World}

theorem congr
    (has : HasPut address owner pieces before after)
    (begins : ∀ token serial, before'.nft token serial = before.nft token serial)
    (ends : ∀ token serial, after'.nft token serial = after.nft token serial) :
    HasPut address owner pieces before' after' where
  put member := (ends _ _).trans (has.put member)
  others elsewhere := (ends _ _).trans ((has.others elsewhere).trans (begins _ _).symm)

end HasPut

/--
A mint has numbered new pieces on from the last serial number that the token had used, and the
token has counted them.
-/
structure HasMinted
    (token : Token)
    (mint : TokenMint)
    (change : SupplyChange)
    (before after : World) : Prop where
  isOpen : after.IsOpen
  found : before.token mint.token = .ok (some token)
  serials :
    TokenAction.serialsAfter? token.lastUsedSerial mint.metadata.length = some change.serials
  plain : ¬ token.isNonFungible → mint.metadata = []
  pieces :
    HasPut mint.token token.treasury (change.serials.zip mint.metadata) before after
  counted :
    after.token mint.token =
      .ok (some
        { token with
          lastUsedSerial := change.serials.getLast?.getD token.lastUsedSerial
          totalSupply := change.totalSupply })
  tokens :
    ∀ {address : Address}, address ≠ mint.token → after.token address = before.token address

namespace HasMinted

variable
  {token : Token}
  {mint : TokenMint}
  {change : SupplyChange}
  {before before' after after' : World}

theorem congr
    (minted : HasMinted token mint change before after)
    (begins : SameEntries before before')
    (ends : SameEntries after after') :
    HasMinted token mint change before' after' where
  isOpen := ends.isOpen minted.isOpen
  found := (begins.token _).trans minted.found
  serials := minted.serials
  plain := minted.plain
  pieces := minted.pieces.congr begins.nft ends.nft
  counted := (ends.token _).trans minted.counted
  tokens elsewhere :=
    (ends.token _).trans ((minted.tokens elsewhere).trans (begins.token _).symm)

/-- A mint leaves every piece whose serial number is not a new one. -/
theorem others
    (minted : HasMinted token mint change before after)
    {address : Address}
    {serial : Int64}
    (elsewhere : ¬ (address = mint.token ∧ serial ∈ change.serials)) :
    after.nft address serial = before.nft address serial := by
  obtain ⟨length, _⟩ := TokenAction.of_serialsAfter? minted.serials
  refine minted.pieces.others ?_
  rwa [List.map_fst_zip length.le]

/-- A mint keeps serial numbers in order, since the new ones come after all others. -/
theorem numbersOn
    {start : World}
    (minted : HasMinted token mint change before after)
    (numbers : NumbersOn start before) :
    NumbersOn start after := by
  obtain ⟨last, between⟩ := TokenAction.bounds_of_serialsAfter? minted.serials
  -- a token that is there now was there before, and has counted on
  have former {address : Address} {entry : Token}
      (found : after.token address = .ok (some entry)) :
      ∃ old, before.token address = .ok (some old) ∧ old.CountsOn entry ∧
        (address = mint.token →
          entry.lastUsedSerial = change.serials.getLast?.getD old.lastUsedSerial ∧
            old = token) := by
    by_cases here : address = mint.token
    · subst here
      cases minted.counted.symm.trans found
      exact ⟨token, minted.found, ⟨rfl, rfl, last⟩, fun _ => ⟨rfl, rfl⟩⟩
    · rw [minted.tokens here] at found
      exact ⟨entry, found, .refl _, fun same => (here same).elim⟩
  refine ⟨⟨fun found => ?_, fun {address _ _} piece none => ?_, fun found nonFungible => ?_,
    fun {address _ serial _} found nonFungible piece => ?_⟩, minted.isOpen, fun {address _} begun => ?_,
    fun {address _} failed => ?_⟩
  · obtain ⟨old, found, counts, _⟩ := former found
    exact counts.address.trans (numbers.filed found)
  · have elsewhere : address ≠ mint.token := by
      rintro rfl
      cases minted.counted.symm.trans none
    rw [minted.others fun here => elsewhere here.1] at piece
    exact numbers.known piece ((minted.tokens elsewhere).symm.trans none)
  · obtain ⟨old, found, counts, _⟩ := former found
    rw [counts.isNonFungible] at nonFungible
    exact Int64.le_trans (numbers.counted found nonFungible) counts.last
  · obtain ⟨old, found, counts, counted⟩ := former found
    rw [counts.isNonFungible] at nonFungible
    by_cases new : address = mint.token ∧ serial ∈ change.serials
    · obtain ⟨greatest, rfl⟩ := counted new.1
      obtain ⟨above, below⟩ := between serial new.2
      have used := Int64.le_iff_toInt_le.mp (numbers.counted found nonFungible)
      have next := Int64.lt_iff_toInt_lt.mp above
      refine ⟨Int64.le_iff_toInt_le.mpr ?_, greatest ▸ below⟩
      rw [Int64.toInt_zero] at used
      rw [Int64.toInt_one]
      omega
    · rw [minted.others new] at piece
      obtain ⟨low, high⟩ := numbers.within found nonFungible piece
      exact ⟨low, Int64.le_trans high counts.last⟩
  · obtain ⟨middle, read, counts⟩ := numbers.later begun
    by_cases here : address = mint.token
    · subst here
      cases minted.found.symm.trans read
      exact ⟨_, minted.counted, counts.trans ⟨rfl, rfl, last⟩⟩
    · exact ⟨middle, (minted.tokens here).trans read, counts⟩
  · have failed := numbers.unread failed
    have elsewhere : address ≠ mint.token := by
      rintro rfl
      cases minted.found.symm.trans failed
    exact (minted.tokens elsewhere).trans failed

end HasMinted

end World

namespace TokenAction

open World (HasPut HasMinted NumbersOn SameEntries IsAboutEntries IsAboutHoldings)

variable {world : World}

/-- Pieces with different serial numbers are all put. -/
theorem yields_putPieces_hasPut
    (address owner : Address)
    (pieces : List (Int64 × Bytes))
    (nodup : (pieces.map Prod.fst).Nodup)
    (isOpen : world.IsOpen) :
    Yields (· = world) (putPieces address owner pieces) fun _ =>
      HasPut address owner pieces world := by
  induction pieces generalizing world with
  | nil =>
      refine Ensures.pure fun after same => ?_
      subst same
      exact ⟨fun member => (List.not_mem_nil member).elim, fun _ => rfl⟩
  | cons piece rest inductionHypothesis =>
      obtain ⟨serial, metadata⟩ := piece
      obtain ⟨fresh, nodup⟩ := List.nodup_cons.mp nodup
      let entry : Nft := { token := address, serial, owner, spender := Address.zero, metadata }
      let first := world.putNft address serial (some entry)
      have firstOpen : first.IsOpen := isOpen.record _
      have written :
          Yields (· = world) (change fun world => world.putNft address serial (some entry))
            fun _ => (· = first) :=
        yields_change fun _ same => same ▸ rfl
      refine written.bind fun _ => (inductionHypothesis nodup firstOpen).imp (fun _ => id) ?_
      intro _ after has
      refine ⟨fun {other _} member => ?_, fun {address' other} elsewhere => ?_⟩
      · rcases List.mem_cons.mp member with same | among
        · cases same
          rw [has.others fun here => fresh here.2]
          exact World.nft_putNft_self isOpen address serial (some entry)
        · exact has.put among
      · rw [List.map_cons, List.mem_cons] at elsewhere
        rw [has.others fun here => elsewhere ⟨here.1, .inr here.2⟩]
        exact World.nft_putNft_of_ne (fun here => elsewhere ⟨here.1, .inl here.2⟩) _

/-- A mint numbers its metadata on from the last number used; an amount has no metadata. -/
theorem reads_mintedAmount_serials
    (token : Token)
    (mint : TokenMint) :
    Reads world (mintedAmount token mint) fun minted =>
      serialsAfter? token.lastUsedSerial mint.metadata.length = some minted.2 ∧
        (¬ token.isNonFungible → mint.metadata = []) := by
  unfold mintedAmount
  split
  · rename_i pieces
    refine (reads_ensure _ _).bind fun _ _ => ?_
    exact (reads_require _ _).bind fun serials found =>
      Reads.pure ⟨found, fun fungible => (fungible pieces).elim⟩
  · refine (reads_ensure _ _).bind fun _ plain => Reads.pure ?_
    have nothing : mint.metadata = [] := by
      simpa using (Bool.and_eq_true_iff.mp plain).2
    have high : token.lastUsedSerial.toInt < 2 ^ 63 := token.lastUsedSerial.toInt_lt
    have inRange : token.lastUsedSerial.toInt + (0 : Nat) ≤ Int64.maxValue.toInt := by
      change token.lastUsedSerial.toInt + 0 ≤ 2 ^ 63 - 1
      omega
    refine ⟨?_, fun _ => nothing⟩
    rw [nothing, List.length_nil, serialsAfter?, if_pos inRange]
    rfl

/-- New pieces have been put beside the entries of a world, and its tokens are as they were. -/
structure PutBeside
    (world : World)
    (address owner : Address)
    (pieces : List (Int64 × Bytes))
    (after : World) : Prop where
  isOpen : after.IsOpen
  pieces : HasPut address owner pieces world after
  tokens : ∀ address, after.token address = world.token address

/-- New pieces have been put and counted by their token. -/
structure CountedBeside
    (world : World)
    (entry : Token)
    (pieces : List (Int64 × Bytes))
    (after : World) : Prop where
  isOpen : after.IsOpen
  pieces : HasPut entry.address entry.treasury pieces world after
  counted : after.token entry.address = .ok (some entry)
  tokens :
    ∀ {address : Address}, address ≠ entry.address → after.token address = world.token address

theorem isAboutEntries_putBeside
    (world : World)
    (address owner : Address)
    (pieces : List (Int64 × Bytes)) :
    IsAboutEntries (PutBeside world address owner pieces) := fun _ _ same put =>
  ⟨same.isOpen put.isOpen, put.pieces.congr (fun _ _ => rfl) same.nft,
    fun address => (same.token address).trans (put.tokens address)⟩

theorem isAboutEntries_countedBeside
    (world : World)
    (entry : Token)
    (pieces : List (Int64 × Bytes)) :
    IsAboutEntries (CountedBeside world entry pieces) := fun _ _ same put =>
  ⟨same.isOpen put.isOpen, put.pieces.congr (fun _ _ => rfl) same.nft,
    (same.token _).trans put.counted,
    fun elsewhere => (same.token _).trans (put.tokens elsewhere)⟩

/-- The token counts its new pieces, and then the treasury's balance is written. -/
theorem yields_writeCounted
    {entry : Token}
    {pieces : List (Int64 × Bytes)}
    (holding : Relationship)
    (balance : UInt64)
    (answer : SupplyChange) :
    Yields (PutBeside world entry.address entry.treasury pieces)
      (do
        change fun world => world.putToken entry
        setBalance holding balance
        pure answer)
      fun result after => result = answer ∧ CountedBeside world entry pieces after := by
  have written :
      Yields (PutBeside world entry.address entry.treasury pieces)
        (change fun world => world.putToken entry)
        fun _ => CountedBeside world entry pieces := by
    refine yields_change fun before put => ?_
    refine ⟨put.isOpen.record _,
      put.pieces.congr (fun _ _ => rfl) (World.nft_putToken before entry),
      World.token_putToken_self put.isOpen entry, fun elsewhere => ?_⟩
    rw [World.token_putToken_of_ne elsewhere]
    exact put.tokens _
  have balanced :
      Yields (CountedBeside world entry pieces) (setBalance holding balance)
        fun _ => CountedBeside world entry pieces := by
    refine yields_setBalance (isAboutEntries_countedBeside world entry pieces) ?_
    intro before put
    refine ⟨put.isOpen.record _,
      put.pieces.congr (fun _ _ => rfl) (World.nft_putRelationship before _ _ _), ?_, ?_⟩
    · exact (World.token_putRelationship ..).trans put.counted
    · exact fun elsewhere => (World.token_putRelationship ..).trans (put.tokens elsewhere)
  exact written.bind fun _ => balanced.bind fun _ => Ensures.pure fun _ put => ⟨rfl, put⟩

/-- A mint that succeeds has put its new pieces and counted them. -/
theorem yields_mint_hasMinted
    (mint : TokenMint)
    (isOpen : world.IsOpen)
    (filed :
      ∀ {address : Address} {token : Token},
        world.token address = .ok (some token) → token.address = address) :
    Yields (· = world) (TokenAction.mint mint) fun change after =>
      ∃ token, HasMinted token mint change world after := by
  refine (reads_liveToken mint.token).bind fun token ⟨found, _⟩ => ?_
  refine (reads_ensure _ _).bind fun _ _ => ?_
  refine (reads_relationship _ _).bind fun holding _ => ?_
  refine (reads_mintedAmount_serials token mint).bind fun ⟨minted, serials⟩ ⟨numbered, plain⟩ => ?_
  refine (reads_require _ _).bind fun totalSupply _ => ?_
  refine (reads_ensure _ _).bind fun _ _ => ?_
  refine (reads_shifted _ _ _).bind fun balance _ => ?_
  have own : token.address = mint.token := filed found
  obtain ⟨length, nodup, _⟩ := of_serialsAfter? numbered
  have names : (serials.zip mint.metadata).map Prod.fst = serials := List.map_fst_zip length.le
  have tokens : IsAboutHoldings fun after => after.IsOpen ∧ ∀ address,
      after.token address = world.token address :=
    fun _ _ same ⟨isOpen, read⟩ =>
      ⟨same.isOpen isOpen, fun address => (same.token address).trans (read address)⟩
  have put :
      Yields (· = world) (putPieces mint.token token.treasury (serials.zip mint.metadata))
        fun _ => PutBeside world mint.token token.treasury (serials.zip mint.metadata) := by
    have has := yields_putPieces_hasPut mint.token token.treasury (serials.zip mint.metadata)
      (names.symm ▸ nodup) isOpen
    have alike := yields_putPieces tokens mint.token token.treasury (serials.zip mint.metadata)
    refine (has.and alike).imp (fun after same => ?_) fun _ _ ⟨pieces, isOpen, tokens⟩ =>
      ⟨isOpen, pieces, tokens⟩
    subst same
    exact ⟨rfl, isOpen, fun _ => rfl⟩
  refine put.bind fun _ => ?_
  refine Yields.guarded
    (yields_adjust (isAboutEntries_putBeside world _ _ _) _ _) ?_
  rw [← own]
  refine (yields_writeCounted holding balance _).imp (fun _ => id) ?_
  rintro _ after ⟨rfl, put⟩
  refine ⟨token, put.isOpen, found, numbered, plain, ?_, ?_, fun {address} elsewhere => ?_⟩
  · exact own ▸ put.pieces
  · exact own ▸ put.counted
  · exact put.tokens (own ▸ elsewhere)

end TokenAction

/-! ## Histories of serial numbers -/

namespace TransactionBody

/-- The pieces that the transaction asks to remove, by their tokens and serial numbers. -/
def removals : TransactionBody → List (Address × Int64)
  | .tokenBurn burn => burn.serials.map fun serial => (burn.token, serial)
  | .tokenAccountWipe wipe => wipe.serials.map fun serial => (wipe.token, serial)
  | _ => []

end TransactionBody

namespace World

/-- There is a piece of the token with the serial number. -/
def HasPiece (world : World) (token : Address) (serial : Int64) : Prop :=
  ∃ piece, world.nft token serial = .ok (some piece)

theorem HasPiece.congr
    {world after : World}
    {token : Address}
    {serial : Int64}
    (has : world.HasPiece token serial)
    (same : SameEntries world after) :
    after.HasPiece token serial :=
  has.imp fun _ found => (same.nft token serial).trans found

end World

namespace TokenAction

open World (NumbersOn HasMinted SameEntries)

variable {world : World}

/-! ## Removed pieces -/

theorem reads_checkOwned
    (token owner : Address)
    (serial : Int64) :
    Reads world (checkOwned token owner serial) fun _ => world.HasPiece token serial :=
  (reads_piece token serial).bind fun piece found =>
    (reads_ensure _ _).imp (fun _ => id) fun _ _ ⟨same, _⟩ => ⟨same, piece, found⟩

/-- Pieces that are removed were there. -/
theorem yields_removePieces_hasPiece
    (token owner : Address)
    (serials : List Int64)
    (whenEmpty : ResponseCode) :
    Yields (· = world) (removePieces token serials owner whenEmpty) fun _ _ =>
      ∀ serial ∈ serials, world.HasPiece token serial := by
  refine (Reads.of_keeps (keeps_ensure _ _)).bind fun _ _ => ?_
  refine (Reads.of_keeps (keeps_ensure _ _)).bind fun _ _ => ?_
  have checked :
      Reads world (serials.forM (checkOwned token owner)) fun _ =>
        ∀ serial ∈ serials, world.HasPiece token serial :=
    Reads.forM fun serial _ => reads_checkOwned token owner serial
  exact checked.bind fun _ were => (Yields.trivially _).imp (fun _ _ => trivial) fun _ _ _ => were

/-- Numbered pieces are taken from an account that had them; an amount has no numbers. -/
theorem yields_takeAway_hasPiece
    {address account : Address}
    {token : Token}
    {holding : Relationship}
    (amount : UInt64)
    (serials : List Int64)
    (plain : ¬ token.isNonFungible → serials = [])
    (code whenEmpty : ResponseCode) :
    Yields (· = world)
      (do
        let balance ← reduced holding.balance amount code
        if token.isNonFungible then
          removePieces address serials account whenEmpty
        shrink token holding amount balance serials)
      fun _ _ => ∀ serial ∈ serials, world.HasPiece address serial := by
  refine (Reads.of_keeps (keeps_reduced _ _ _)).bind fun balance _ => ?_
  dsimp only
  split
  · exact (yields_removePieces_hasPiece address account serials whenEmpty).bind fun _ =>
      Yields.of_keeps (Keeps.fact _ _)
  · rename_i fungible
    rw [plain fungible]
    exact (Yields.trivially _).imp (fun _ _ => trivial) fun _ _ _ _ member => by cases member

/-- A transaction that succeeds has removed pieces that were there. -/
theorem yields_run_hasPiece
    (body : TransactionBody)
    (sender : Address) :
    Yields (· = world) (run body sender) fun _ _ =>
      ∀ piece ∈ body.removals, world.HasPiece piece.1 piece.2 := by
  have nothing {α : Type} {action : TokenAction α} :
      Yields (· = world) action fun _ _ =>
        ∀ piece ∈ ([] : List (Address × Int64)), world.HasPiece piece.1 piece.2 :=
    (Yields.trivially action).imp (fun _ _ => trivial) fun _ _ _ _ member => by cases member
  have named {token : Address} {serials : List Int64}
      (had : ∀ serial ∈ serials, world.HasPiece token serial) :
      ∀ piece ∈ serials.map fun serial => (token, serial), world.HasPiece piece.1 piece.2 :=
    List.forall_mem_map.mpr had
  cases body with
  | tokenBurn burn =>
      refine Yields.bind ?_ fun _ => Ensures.pure fun _ => named
      refine (reads_liveToken burn.token).bind fun token _ => ?_
      refine (Reads.of_keeps (keeps_ensure _ _)).bind fun _ _ => ?_
      refine (Reads.of_keeps (keeps_relationship _ _)).bind fun holding _ => ?_
      have plain (fungible : ¬ token.isNonFungible) :
          Reads world (ensure (burn.amount > 0 && burn.serials.isEmpty) .invalidTokenBurnAmount)
            fun _ => ¬ token.isNonFungible → burn.serials = [] := by
        refine (reads_ensure _ _).imp (fun _ => id) fun _ _ ⟨same, asked⟩ => ⟨same, fun _ => ?_⟩
        simpa using (Bool.and_eq_true_iff.mp asked).2
      refine Reads.branch (fun pieces => ?_) plain fun _ plain => ?_
      · exact (Reads.of_keeps (keeps_ensure _ _)).imp (fun _ => id)
          fun _ _ ⟨same, _⟩ => ⟨same, fun fungible => (fungible pieces).elim⟩
      · exact yields_takeAway_hasPiece _ _ plain _ _
  | tokenAccountWipe wipe =>
      refine Yields.bind ?_ fun _ => Ensures.pure fun _ => named
      refine (reads_liveToken wipe.token).bind fun token _ => ?_
      refine (Reads.of_keeps (keeps_ensure _ _)).bind fun _ _ => ?_
      refine (Reads.of_keeps (keeps_ensureSubject _)).bind fun _ _ => ?_
      refine (Reads.of_keeps (keeps_ensure _ _)).bind fun _ _ => ?_
      refine (Reads.of_keeps (keeps_relationship _ _)).bind fun holding _ => ?_
      refine Reads.guarded (fun _ => reads_ensure _ _) fun asked => ?_
      refine yields_takeAway_hasPiece _ _ (fun fungible => ?_) _ _
      have asked := asked (by simpa using fungible)
      simpa using (Bool.and_eq_true_iff.mp asked).2
  | _ => exact nothing

/-! ## Transactions in frames of their own -/

/-- Every transaction keeps serial numbers in order, and tokens count on. -/
theorem yields_run_numbersOn
    (start : World)
    (body : TransactionBody)
    (sender : Address) :
    Yields (NumbersOn start) (run body sender) fun _ => NumbersOn start := by
  refine (NumbersOn.keptByPieceWrites start).yields_run (fun mint => ?_) body sender
  refine Yields.of_each fun world numbers => ?_
  refine (yields_mint_hasMinted mint numbers.isOpen numbers.filed).imp (fun _ => id) ?_
  exact fun _ _ ⟨_, minted⟩ => minted.numbersOn numbers

/-- What a transaction that succeeds in a frame yields there, it yields in the end. -/
theorem exists_of_run_framed
    {body : TransactionBody}
    {sender : Address}
    {result : TokenResult}
    (isOpen : world.IsOpen)
    (succeeds : answerOf ((run body sender).framed world) = .ok result) :
    ∃ inner,
      run body sender world.push = .ok result inner ∧
        SameEntries inner (leaves (run body sender).framed world) := by
  obtain ⟨after, ran⟩ := exists_of_answerOf_eq_ok succeeds
  obtain ⟨inner, done, rfl⟩ := exists_of_framed ran
  have below := keeps_run_sameBelow world.push body sender
  obtain ⟨framed, same⟩ := framed_of_ok below isOpen done
  refine ⟨inner, done, ?_⟩
  unfold leaves
  rw [framed]
  exact same

end TokenAction

namespace World

variable
  {start world : World}
  {requests : List (TransactionBody × Address)}

/-- One transaction in a frame of its own keeps serial numbers in order. -/
theorem NumbersOn.framed
    (numbers : NumbersOn start world)
    (body : TransactionBody)
    (sender : Address) :
    NumbersOn start (leaves (TokenAction.run body sender).framed world) := by
  have below := TokenAction.keeps_run_sameBelow world.push body sender
  refine TokenAction.leaves_framed below (isAboutEntries start) numbers ?_
  exact (TokenAction.yields_run_numbersOn start body sender).at_state
    (isAboutEntries start (.push world) numbers)

/-- All transactions together keep serial numbers in order, and tokens count on. -/
theorem NumbersOn.carryOut
    (numbers : NumbersOn start world)
    (requests : List (TransactionBody × Address)) :
    NumbersOn start (world.carryOut requests) := by
  induction requests generalizing world with
  | nil => exact numbers
  | cons request rest inductionHypothesis =>
      exact inductionHypothesis (numbers.framed request.1 request.2)

/-- A transaction among others is carried out with success. -/
structure Accepts
    (world : World)
    (requests : List (TransactionBody × Address))
    (place : Nat)
    (body : TransactionBody)
    (sender : Address)
    (result : TokenResult) : Prop where
  asked : requests[place]? = some (body, sender)
  answered :
    answerOf ((TokenAction.run body sender).framed (world.carryOut (requests.take place))) =
      .ok result

/--
New pieces have come for the treasury of a token, one for each metadata and numbered on from
the last serial number used, where no piece was, and all other pieces are as they were.
-/
structure MintsAfresh
    (token : Token)
    (mint : TokenMint)
    (serials : List Int64)
    (before after : World) : Prop where
  found : before.token mint.token = .ok (some token)
  numbered :
    serials.map Int64.toInt =
      (List.range mint.metadata.length).map fun (index : Nat) =>
        token.lastUsedSerial.toInt + 1 + index
  counted :
    ∃ entry,
      after.token mint.token = .ok (some entry) ∧
        entry.lastUsedSerial.toInt = token.lastUsedSerial.toInt + mint.metadata.length
  vacant : ∀ serial ∈ serials, ¬ before.HasPiece mint.token serial
  created :
    ∀ {serial : Int64} {metadata : Bytes},
      (serial, metadata) ∈ serials.zip mint.metadata →
      after.nft mint.token serial =
        .ok (some
          { token := mint.token, serial, owner := token.treasury, spender := Address.zero
            metadata })
  others :
    ∀ {address : Address} {serial : Int64},
      ¬ (address = mint.token ∧ serial ∈ serials) →
      after.nft address serial = before.nft address serial

namespace HasMinted

variable
  {token : Token}
  {mint : TokenMint}
  {change : SupplyChange}
  {before after : World}

/-- Numbers that come after all that were used are those of no piece there has ever been. -/
theorem not_hasPiece
    (minted : HasMinted token mint change before after)
    (numbers : NumbersOn start before)
    (inOrder : start.SerialsInOrder)
    {serial : Int64}
    (new : serial ∈ change.serials) :
    ¬ start.HasPiece mint.token serial := by
  rintro ⟨piece, read⟩
  have nonFungible : token.isNonFungible := by
    by_contra fungible
    obtain ⟨length, _⟩ := TokenAction.of_serialsAfter? minted.serials
    rw [minted.plain fungible, List.length_nil, List.length_eq_zero_iff] at length
    rw [length] at new
    cases new
  cases former : start.token mint.token with
  | error error =>
      cases minted.found.symm.trans (numbers.unread former)
  | ok entry =>
      cases entry with
      | none =>
          exact inOrder.known read former
      | some old =>
          obtain ⟨latter, found, counts⟩ := numbers.later former
          cases minted.found.symm.trans found
          rw [counts.isNonFungible] at nonFungible
          have used := Int64.le_trans (inOrder.within former nonFungible read).2 counts.last
          obtain ⟨_, between⟩ := TokenAction.bounds_of_serialsAfter? minted.serials
          have next := Int64.lt_iff_toInt_lt.mp (between serial new).1
          exact absurd next (Int.not_lt.mpr (Int64.le_iff_toInt_le.mp used))

theorem mintsAfresh
    (minted : HasMinted token mint change before after)
    (inOrder : before.SerialsInOrder)
    (isOpen : before.IsOpen) :
    MintsAfresh token mint change.serials before after where
  found := minted.found
  numbered := TokenAction.toInt_of_serialsAfter? minted.serials
  counted := ⟨_, minted.counted, TokenAction.toInt_getLast_of_serialsAfter? minted.serials⟩
  vacant _ new := minted.not_hasPiece (.refl inOrder isOpen) inOrder new
  created := minted.pieces.put
  others := minted.others

end HasMinted

/-- A mint among other transactions has put its pieces and counted them. -/
theorem Accepts.hasMinted
    {place : Nat}
    {mint : TokenMint}
    {sender : Address}
    {change : SupplyChange}
    (accepts : world.Accepts requests place (.tokenMint mint) sender (.mint change))
    (numbers : NumbersOn start (world.carryOut (requests.take place))) :
    ∃ token,
      HasMinted token mint change (world.carryOut (requests.take place))
        (world.carryOut (requests.take (place + 1))) := by
  obtain ⟨inner, ran, same⟩ := TokenAction.exists_of_run_framed numbers.isOpen accepts.answered
  obtain ⟨made, middle, minting, answered⟩ := bind_eq_ok.mp ran
  cases answered
  have pushed := SameEntries.push (world.carryOut (requests.take place))
  have opened := NumbersOn.isAboutEntries start pushed numbers
  obtain ⟨token, minted⟩ :=
    (TokenAction.yields_mint_hasMinted mint opened.isOpen opened.filed).of_ok minting rfl
  rw [world.carryOut_take_succ accepts.asked]
  exact ⟨token, minted.congr (pushed.symm_of_isOpen numbers.isOpen) same⟩

/-- Pieces that are removed among other transactions were there. -/
theorem Accepts.hasPiece_of_removals
    {place : Nat}
    {body : TransactionBody}
    {sender : Address}
    {result : TokenResult}
    (accepts : world.Accepts requests place body sender result)
    (isOpen : (world.carryOut (requests.take place)).IsOpen)
    {token : Address}
    {serial : Int64}
    (removed : (token, serial) ∈ body.removals) :
    (world.carryOut (requests.take place)).HasPiece token serial := by
  obtain ⟨inner, ran, _⟩ := TokenAction.exists_of_run_framed isOpen accepts.answered
  have were := (TokenAction.yields_run_hasPiece body sender).of_ok ran rfl
  exact (were _ removed).congr ((SameEntries.push _).symm_of_isOpen isOpen)

/--
Through transactions that are carried out one after the other serial numbers are used once:
they stay in order; every mint that is accepted mints its pieces afresh, under numbers that
no piece of the token has had before at any time; and so under none of a piece that has been
burned or wiped before.
-/
structure UsesSerialsOnce
    (world : World)
    (requests : List (TransactionBody × Address)) : Prop where
  inOrder : ∀ count, (world.carryOut (requests.take count)).SerialsInOrder
  afresh :
    ∀ {place : Nat} {mint : TokenMint} {sender : Address} {change : SupplyChange},
      world.Accepts requests place (.tokenMint mint) sender (.mint change) →
      ∃ token,
        MintsAfresh token mint change.serials (world.carryOut (requests.take place))
          (world.carryOut (requests.take (place + 1)))
  unheard :
    ∀ {earlier place : Nat} {mint : TokenMint} {sender : Address} {change : SupplyChange},
      earlier ≤ place →
      world.Accepts requests place (.tokenMint mint) sender (.mint change) →
      ∀ serial ∈ change.serials,
        ¬ (world.carryOut (requests.take earlier)).HasPiece mint.token serial
  unremoved :
    ∀ {earlier place : Nat} {body : TransactionBody} {mint : TokenMint}
        {remover sender : Address} {result : TokenResult} {change : SupplyChange},
      earlier < place →
      world.Accepts requests earlier body remover result →
      world.Accepts requests place (.tokenMint mint) sender (.mint change) →
      ∀ serial ∈ change.serials, (mint.token, serial) ∉ body.removals

/--
From a state in which serial numbers are in order, whatever transactions are carried out, each
in a frame that is kept when it succeeds and dropped when it fails, serial numbers are used
once.
-/
theorem carryOut_uses_serials_once
    (requests : List (TransactionBody × Address))
    (isOpen : world.IsOpen)
    (inOrder : world.SerialsInOrder) :
    world.UsesSerialsOnce requests := by
  have reached (count : Nat) : NumbersOn world (world.carryOut (requests.take count)) :=
    (NumbersOn.refl inOrder isOpen).carryOut _
  have since {earlier later : Nat} (ordered : earlier ≤ later) :
      NumbersOn (world.carryOut (requests.take earlier))
        (world.carryOut (requests.take later)) := by
    rw [world.carryOut_take_of_le requests ordered]
    exact (NumbersOn.refl (reached earlier).toSerialsInOrder (reached earlier).isOpen).carryOut _
  have unheard {earlier place : Nat} {mint : TokenMint} {sender : Address} {change : SupplyChange}
      (ordered : earlier ≤ place)
      (accepts : world.Accepts requests place (.tokenMint mint) sender (.mint change))
      (serial : Int64) (new : serial ∈ change.serials) :
      ¬ (world.carryOut (requests.take earlier)).HasPiece mint.token serial := by
    obtain ⟨token, minted⟩ := accepts.hasMinted (reached place)
    exact minted.not_hasPiece (since ordered) (reached earlier).toSerialsInOrder new
  refine ⟨fun count => (reached count).toSerialsInOrder, fun {place _ _ _} accepts => ?_, unheard,
    fun {earlier _ _ _ _ _ _ _} ordered removes accepts serial new removed => ?_⟩
  · obtain ⟨token, minted⟩ := accepts.hasMinted (reached place)
    exact ⟨token, minted.mintsAfresh (reached place).toSerialsInOrder (reached place).isOpen⟩
  · exact unheard (Nat.le_of_lt ordered) accepts serial new
      (removes.hasPiece_of_removals (reached earlier).isOpen removed)

/-- Serial numbers are in order where there are neither tokens nor pieces. -/
theorem serialsInOrder_of_none
    (tokens : ∀ address, world.token address = .ok none)
    (pieces : ∀ token serial, world.nft token serial = .ok none) :
    world.SerialsInOrder := by
  refine ⟨fun read => ?_, fun read => ?_, fun read => ?_, fun read => ?_⟩
  · cases (tokens _).symm.trans read
  · cases (pieces _ _).symm.trans read
  · cases (tokens _).symm.trans read
  · cases (tokens _).symm.trans read

/--
After three pieces have been minted and the last one burned, two more get the next numbers,
and the number of the burned piece is not used again.
-/
theorem minting_after_burning_skips_serial :
    let treasury : Account := { address := Address.ofNum 1001 }
    let contents : Snapshot.Contents :=
      { accounts :=
          Table.ofList ([treasury].map fun account => (account.address, account)) }
    let world := (World.ofSnapshot (.ofContents contents) false ⟨0⟩ 5000).push
    let token := Address.ofNum 5000
    let requests : List (TransactionBody × Address) :=
      [(.tokenCreate
          { name := "Seats", symbol := "SEAT", treasury := treasury.address, initialSupply := 0
            decimals := 0, kind := .nonFungible, supplyKey := true }, treasury.address),
        (.tokenMint ⟨token, 0, [[1], [2], [3]]⟩, treasury.address),
        (.tokenBurn ⟨token, 0, [3]⟩, treasury.address),
        (.tokenMint ⟨token, 0, [[4], [5]]⟩, treasury.address)]
    world.IsOpen ∧ world.SerialsInOrder ∧ world.UsesSerialsOnce requests ∧
      world.Accepts requests 2 (.tokenBurn ⟨token, 0, [3]⟩) treasury.address (.burn ⟨2, [3]⟩) ∧
      world.Accepts requests 3 (.tokenMint ⟨token, 0, [[4], [5]]⟩) treasury.address
        (.mint ⟨4, [4, 5]⟩) ∧
      (world.carryOut requests).nft token 3 = .ok none := by
  intro treasury contents world token requests
  have isOpen : world.IsOpen := isOpen_push _
  have inOrder : world.SerialsInOrder :=
    serialsInOrder_of_none (fun _ => congrArg Except.ok (Table.get?_empty _))
      fun _ _ => congrArg Except.ok (Table.get?_empty _)
  refine ⟨isOpen, inOrder, carryOut_uses_serials_once requests isOpen inOrder, ⟨rfl, ?_⟩,
    ⟨rfl, ?_⟩, ?_⟩
  · decide +kernel
  · decide +kernel
  · decide +kernel

end World

end LedgerEvm
