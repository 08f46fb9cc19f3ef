import LedgerEvm.Proofs.TokenService.PieceBooks

namespace LedgerEvm

/-!
# The supply of numbered pieces

Pieces come and go together with the units that their owners hold of them and with the
supply.  A mint is in order unless a serial number after the last one used is taken.
-/

namespace TokenMint

/-- One of the serial numbers that the mint gives to pieces is taken already. -/
def Overwrites (mint : TokenMint) (world : World) : Prop :=
  ∃ token,
    world.token mint.token = .ok (some token) ∧
      token.IsLiveNonFungible ∧
      ∃ serials ∈ TokenAction.serialsAfter? token.lastUsedSerial mint.metadata.length,
        ∃ serial ∈ serials, (world.ownerOf? mint.token serial).isSome

end TokenMint

namespace TokenAction

open World (PiecesOffBy IsAboutHoldings)

variable
  {world : World}
  {surplus : Address → Address → Int}
  {excess : Address → Int}

/-! ## New pieces -/

/-- The numbers after one are exactly those that follow it, in order. -/
theorem toInt_of_serialsAfter?
    {last : Int64}
    {count : Nat}
    {serials : List Int64}
    (found : serialsAfter? last count = some serials) :
    serials.map Int64.toInt =
      (List.range count).map fun (index : Nat) => last.toInt + 1 + index := by
  unfold serialsAfter? at found
  split at found
  · rename_i inRange
    cases found
    have low : -2 ^ 63 ≤ last.toInt := last.le_toInt
    have high : last.toInt + count ≤ 2 ^ 63 - 1 := inRange
    rw [List.map_map]
    refine List.map_congr_left fun index member => ?_
    have below := List.mem_range.mp member
    rw [Function.comp_apply, Int64.toInt_ofInt_of_le (by omega) (by omega)]
    omega
  · cases found

/-- The serial numbers after one are as many as asked for, different, and few enough. -/
theorem of_serialsAfter?
    {last : Int64}
    {count : Nat}
    {serials : List Int64}
    (found : serialsAfter? last count = some serials) :
    serials.length = count ∧ serials.Nodup ∧ count < 2 ^ 64 := by
  have numbers := toInt_of_serialsAfter? found
  refine ⟨by simpa using congrArg List.length numbers, ?_, ?_⟩
  · refine List.Nodup.of_map Int64.toInt (numbers ▸ List.nodup_range.map fun one other same => ?_)
    exact Int.ofNat.inj (Int.add_left_cancel same)
  · unfold serialsAfter? at found
    split at found
    · rename_i inRange
      have low : -2 ^ 63 ≤ last.toInt := last.le_toInt
      have high : last.toInt + count ≤ 2 ^ 63 - 1 := inRange
      omega
    · cases found

/-- The last of the serial numbers after one, or that one itself, is as many further on. -/
theorem toInt_getLast_of_serialsAfter?
    {last : Int64}
    {count : Nat}
    {serials : List Int64}
    (found : serialsAfter? last count = some serials) :
    (serials.getLast?.getD last).toInt = last.toInt + count := by
  have numbers := congrArg List.getLast? (toInt_of_serialsAfter? found)
  rw [List.getLast?_map, List.getLast?_map] at numbers
  cases count with
  | zero =>
      rw [List.range_zero, List.getLast?_nil, Option.map_none, Option.map_eq_none_iff] at numbers
      simp [numbers]
  | succ count =>
      rw [List.range_succ, List.getLast?_concat, Option.map_some, Option.map_eq_some_iff]
        at numbers
      obtain ⟨greatest, final, number⟩ := numbers
      rw [final, Option.getD_some, number]
      omega

/-- The serial numbers after one lie between it and the last of them. -/
theorem bounds_of_serialsAfter?
    {last : Int64}
    {count : Nat}
    {serials : List Int64}
    (found : serialsAfter? last count = some serials) :
    last ≤ serials.getLast?.getD last ∧
      ∀ serial ∈ serials, last < serial ∧ serial ≤ serials.getLast?.getD last := by
  have greatest := toInt_getLast_of_serialsAfter? found
  refine ⟨Int64.le_iff_toInt_le.mpr (by omega), fun serial member => ?_⟩
  have number := List.mem_map_of_mem (f := Int64.toInt) member
  rw [toInt_of_serialsAfter? found] at number
  obtain ⟨index, inList, number⟩ := List.mem_map.mp number
  have below := List.mem_range.mp inList
  rw [Int64.lt_iff_toInt_lt, Int64.le_iff_toInt_le, greatest, ← number]
  omega

/-- How many of the serial numbers of a token were those of an account's pieces. -/
def takenFrom
    (address : Address)
    (former : Int64 → Option Address)
    (serials : List Int64) :
    Address → Address → Int := fun address' account =>
  if address' = address then
    ((serials.countP fun serial => former serial = some account : Nat) : Int)
  else
    0

/-- How many of the serial numbers of a token were those of pieces. -/
def taken
    (address : Address)
    (former : Int64 → Option Address)
    (serials : List Int64) :
    Address → Int := fun address' =>
  if address' = address then
    ((serials.countP fun serial => (former serial).isSome : Nat) : Int)
  else
    0

/-- Putting pieces takes the ones that exist from their owners and adds the others. -/
theorem yields_putPieces_pieces
    (address owner : Address)
    (former : Int64 → Option Address)
    (pieces : List (Int64 × Bytes))
    {serials : List Int64}
    (names : pieces.map Prod.fst = serials)
    (nodup : serials.Nodup)
    (surplus : Address → Address → Int)
    (excess : Address → Int) :
    Yields
      (fun world =>
        world.PiecesOffBy surplus excess ∧
          ∀ serial ∈ serials, world.ownerOf? address serial = former serial)
      (putPieces address owner pieces)
      fun _ =>
        PiecesOffBy
          (fun address' account =>
            surplus address' account + takenFrom address former serials address' account -
              if address' = address ∧ account = owner then serials.length else 0)
          fun address' =>
            excess address' + taken address former serials address' -
              if address' = address then serials.length else 0 := by
  induction pieces generalizing serials surplus excess with
  | nil =>
      subst names
      refine Ensures.pure fun world ⟨books, _⟩ => ?_
      refine books.alike fun _ _ => ⟨fun account => ?_, ?_⟩
      · simp [takenFrom]
      · simp [taken]
  | cons piece rest inductionHypothesis =>
      obtain ⟨serial, metadata⟩ := piece
      subst names
      obtain ⟨fresh, nodup⟩ := List.nodup_cons.mp nodup
      have first :
          Yields
            (fun world =>
              world.PiecesOffBy surplus excess ∧
                ∀ other ∈ serial :: rest.map Prod.fst,
                  world.ownerOf? address other = former other)
            (change fun world =>
              world.putNft address serial
                (some { token := address, serial, owner, spender := Address.zero, metadata }))
            fun _ world =>
              world.PiecesOffBy
                  (fun address' account =>
                    surplus address' account + takenFrom address former [serial] address' account -
                      if address' = address ∧ account = owner then 1 else 0)
                  (fun address' =>
                    excess address' + taken address former [serial] address' -
                      if address' = address then 1 else 0) ∧
                ∀ other ∈ rest.map Prod.fst, world.ownerOf? address other = former other := by
        refine yields_change fun world ⟨books, owners⟩ => ⟨?_, fun other member => ?_⟩
        · have old := owners _ List.mem_cons_self
          have written := books.putNft address serial
            (some { token := address, serial, owner, spender := Address.zero, metadata })
          rw [old] at written
          refine written.alike fun {address' _} _ _ => ⟨fun account => ?_, ?_⟩
          · simp only [takenFrom, List.countP_cons, List.countP_nil, Option.map_some,
              Option.some.injEq]
            grind
          · simp only [taken, List.countP_cons, List.countP_nil, Option.isSome_some]
            grind
        · have different : other ≠ serial := fun same => fresh (same ▸ member)
          rw [World.ownerOf?_putNft_of_ne fun same => different same.2]
          exact owners other (List.mem_cons_of_mem _ member)
      refine first.bind fun _ => (inductionHypothesis rfl nodup _ _).imp (fun _ => id) ?_
      intro _ world books
      refine books.alike fun {address' _} _ _ => ⟨fun account => ?_, ?_⟩
      · simp only [takenFrom, List.countP_cons, List.countP_nil, List.map_cons,
          List.length_cons]
        grind
      · simp only [taken, List.countP_cons, List.countP_nil, List.map_cons,
          List.length_cons]
        grind

/-- A supply and a balance that are written put the books off by their differences. -/
theorem yields_writeSupply_pieces
    {α : Type}
    {address account : Address}
    {token : Token}
    {holding : Relationship}
    {totalSupply balance : UInt64}
    (lastUsedSerial : Int64)
    (result : α) :
    Yields
      (fun world =>
        world.PiecesOffBy surplus excess ∧
          world.token address = .ok (some token) ∧
          world.relationship account address = .ok (some holding))
      (do
        change fun world => world.putToken { token with totalSupply, lastUsedSerial }
        setBalance holding balance
        pure result)
      fun _ world =>
        world.PiecesOffBy
            (fun address' account' =>
              surplus address' account' +
                if address' = address ∧ account' = account then
                  (balance.toNat : Int) - holding.balance.toNat
                else
                  0)
            (fun address' =>
              excess address' +
                if address' = address then
                  (totalSupply.toNat : Int) - token.totalSupply.toNat
                else
                  0) ∧
          world.token address = .ok (some { token with totalSupply, lastUsedSerial }) := by
  let changed : Token := { token with totalSupply, lastUsedSerial }
  have supplied :
      Yields
        (fun world =>
          world.PiecesOffBy surplus excess ∧
            world.token address = .ok (some token) ∧
            world.relationship account address = .ok (some holding))
        (change fun world => world.putToken { token with totalSupply, lastUsedSerial })
        fun _ world =>
          world.PiecesOffBy surplus
              (fun address' =>
                excess address' +
                  if address' = address then
                    (totalSupply.toNat : Int) - token.totalSupply.toNat
                  else
                    0) ∧
            world.token address = .ok (some changed) ∧
            world.relationship account address = .ok (some holding) := by
    refine yields_change ?_
    rintro world ⟨books, found, held⟩
    refine ⟨books.putSupply found _ _, ?_, ?_⟩
    · obtain rfl := books.filed.token found
      exact World.token_putToken_self books.isOpen changed
    · rw [World.relationship_putToken]
      exact held
  refine supplied.bind fun _ => ?_
  refine Yields.bind (yields_setBalance ?_ ?_) fun _ => Ensures.pure fun _ => id
  · intro _ _ same ⟨books, known⟩
    exact ⟨books.congr same, (same.token address).trans known⟩
  · rintro world ⟨books, known, held⟩
    obtain ⟨rfl, rfl⟩ := books.filed.relationship held
    have units := World.units_of_relationship held
    have written := books.putRelationship (World.own_of_mem_some { holding with balance })
    rw [units] at written
    refine ⟨written, ?_⟩
    rw [World.token_putRelationship]
    exact known

/-! ## Minting -/

/--
How much is minted: of pieces, one for each serial number after the last one used, of an
amount, what is asked for.
-/
theorem reads_mintedAmount
    (token : Token)
    (mint : TokenMint) :
    Reads world (mintedAmount token mint) fun minted =>
      if token.isNonFungible then
        serialsAfter? token.lastUsedSerial mint.metadata.length = some minted.2 ∧
          minted.1 = UInt64.ofNat mint.metadata.length
      else
        minted.2 = [] ∧ minted.1 = mint.amount := by
  unfold mintedAmount
  split
  · refine (reads_ensure _ _).bind fun _ _ => ?_
    exact (reads_require _ _).bind fun serials found => Reads.pure ⟨found, rfl⟩
  · exact (reads_ensure _ _).bind fun _ _ => Reads.pure ⟨rfl, rfl⟩

/-- Different serial numbers after the last one used, no more than there is metadata. -/
structure AreAnew (token : Token) (mint : TokenMint) (serials : List Int64) : Prop where
  nodup : serials.Nodup
  within : serials.length ≤ mint.metadata.length
  few : serials.length < 2 ^ 64
  last : token.lastUsedSerial ≤ serials.getLast?.getD token.lastUsedSerial
  between :
    ∀ serial ∈ serials,
      token.lastUsedSerial < serial ∧ serial ≤ serials.getLast?.getD token.lastUsedSerial

namespace AreAnew

/-- The serial numbers that a mint gives to pieces are new. -/
theorem of_mintedAmount
    {token : Token}
    {mint : TokenMint}
    {minted : UInt64}
    {serials : List Int64}
    (amount :
      if token.isNonFungible then
        serialsAfter? token.lastUsedSerial mint.metadata.length = some serials ∧
          minted = UInt64.ofNat mint.metadata.length
      else
        serials = [] ∧ minted = mint.amount) :
    AreAnew token mint serials := by
  split at amount
  · obtain ⟨length, nodup, few⟩ := of_serialsAfter? amount.1
    obtain ⟨last, between⟩ := bounds_of_serialsAfter? amount.1
    exact ⟨nodup, length.le, length ▸ few, last, between⟩
  · obtain ⟨rfl, _⟩ := amount
    exact ⟨List.nodup_nil, Nat.zero_le _, by decide, Int64.le_refl _, fun _ member => by
      cases member⟩

/-- Every serial number gets its metadata. -/
theorem map_fst_zip
    {token : Token}
    {mint : TokenMint}
    {serials : List Int64}
    (anew : AreAnew token mint serials) :
    (serials.zip mint.metadata).map Prod.fst = serials :=
  List.map_fst_zip anew.within

end AreAnew

theorem isAboutHoldings_supplied
    (address account : Address)
    (token : Token)
    (holding : Relationship) :
    IsAboutHoldings fun world =>
      world.token address = .ok (some token) ∧
        world.relationship account address = .ok (some holding) :=
  .and (.token address _) (.relationship account address _)

/-- What is off by the serial numbers that were taken is in order when none was. -/
theorem pieceBooks_iff_of_taken
    {address : Address}
    {token : Token}
    (found : world.token address = .ok (some token))
    (live : token.IsLiveNonFungible)
    {former : Int64 → Option Address}
    {serials : List Int64}
    (books :
      world.PiecesOffBy (takenFrom address former serials) (taken address former serials)) :
    world.PieceBooks ↔ ¬ ∃ serial ∈ serials, (former serial).isSome := by
  rw [books.pieceBooks_iff]
  constructor
  · rintro nothing ⟨serial, member, occupied⟩
    have none := (nothing found live).2
    rw [taken, if_pos rfl, Int.natCast_eq_zero, List.countP_eq_zero] at none
    exact none serial member (by simpa using occupied)
  · intro free address' token' _ _
    have free : ∀ serial ∈ serials, former serial = none := by
      intro serial member
      by_contra occupied
      exact free ⟨serial, member, Option.isSome_iff_ne_none.mpr occupied⟩
    constructor
    · intro account
      rw [takenFrom, ite_eq_right_iff, Int.natCast_eq_zero, List.countP_eq_zero]
      intro _ serial member
      simp [free serial member]
    · rw [taken, ite_eq_right_iff, Int.natCast_eq_zero, List.countP_eq_zero]
      intro _ serial member
      simp [free serial member]

/--
Pieces with serial numbers have been put for the treasury of a token; neither its balance
nor the supply counts them yet.
-/
structure ArePut
    (address : Address)
    (token : Token)
    (holding : Relationship)
    (former : Int64 → Option Address)
    (serials : List Int64)
    (world : World) : Prop where
  books :
    world.PiecesOffBy
      (fun address' account =>
        0 + takenFrom address former serials address' account -
          if address' = address ∧ account = token.treasury then serials.length else 0)
      fun address' =>
        0 + taken address former serials address' -
          if address' = address then serials.length else 0
  known : world.token address = .ok (some token)
  held : world.relationship token.treasury address = .ok (some holding)

/-- When the balance and the supply count them too, only taken serial numbers are off. -/
theorem yields_countPieces
    {address : Address}
    {token : Token}
    {holding : Relationship}
    {former : Int64 → Option Address}
    {serials : List Int64}
    {totalSupply balance : UInt64}
    (lastUsedSerial : Int64)
    (counted :
      token.IsLiveNonFungible →
      totalSupply.toNat = token.totalSupply.toNat + serials.length ∧
        balance.toNat = holding.balance.toNat + serials.length)
    {spoiled : Prop}
    (occupied :
      token.IsLiveNonFungible → (spoiled ↔ ∃ serial ∈ serials, (former serial).isSome))
    (notHeld : ¬ token.IsLiveNonFungible → ¬ spoiled)
    (result : SupplyChange) :
    Yields (ArePut address token holding former serials)
      (do
        change fun world => world.putToken { token with totalSupply, lastUsedSerial }
        setBalance holding balance
        pure result)
      fun _ => World.PieceBooksUnless spoiled := by
  refine (yields_writeSupply_pieces lastUsedSerial result).imp
    (fun _ put => ⟨put.books, put.known, put.held⟩) ?_
  intro _ after ⟨books, known⟩
  refine ⟨books.isOpen, books.filed, ?_⟩
  by_cases live : token.IsLiveNonFungible
  · obtain ⟨supply, units⟩ := counted live
    rw [occupied live]
    refine pieceBooks_iff_of_taken known live (books.alike fun _ _ => ⟨fun account => ?_, ?_⟩)
    · rw [units]
      grind
    · rw [supply]
      grind
  · have nothing : after.PiecesOffBy (fun _ _ => 0) fun _ => 0 := by
      refine books.alike fun {address' found} read held => ?_
      have elsewhere : address' ≠ address := by
        rintro rfl
        rw [known] at read
        cases read
        exact live held
      simp [takenFrom, taken, elsewhere]
    exact iff_of_true (PiecesOffBy.nothing_iff.mp nothing).2.2 (notHeld live)

/-- A mint puts the books off by the pieces whose serial numbers were taken. -/
theorem yields_mint_pieces
    (mint : TokenMint)
    (isOpen : world.IsOpen)
    (filed : world.IsFiled)
    (books : world.PieceBooks) :
    Yields (· = world) (TokenAction.mint mint)
      fun _ => World.PieceBooksUnless (mint.Overwrites world) := by
  refine (reads_liveToken mint.token).bind fun token ⟨found, alive⟩ => ?_
  refine (reads_ensure _ _).bind fun _ _ => ?_
  refine (reads_relationship _ _).bind fun holding held => ?_
  refine (reads_mintedAmount token mint).bind fun ⟨minted, serials⟩ amount => ?_
  refine (reads_require _ _).bind fun totalSupply inRange => ?_
  refine (reads_ensure _ _).bind fun _ _ => ?_
  refine (reads_shifted _ _ _).bind fun balance exactly => ?_
  obtain ⟨sum, fits⟩ := toNat_of_ofNat? inRange
  have balanced := PiecesOffBy.nothing_iff.mpr ⟨isOpen, filed, books⟩
  have anew : AreAnew token mint serials := .of_mintedAmount amount
  have about := isAboutHoldings_supplied mint.token token.treasury token holding
  have put :=
    (yields_putPieces_pieces mint.token token.treasury (world.ownerOf? mint.token)
      (serials.zip mint.metadata) anew.map_fst_zip anew.nodup (fun _ _ => 0) fun _ => 0).and
      (yields_putPieces about mint.token token.treasury (serials.zip mint.metadata))
  refine ((put.imp (fun _ => id) fun _ _ ⟨books, known, held⟩ =>
    (⟨books, known, held⟩ : ArePut mint.token token holding _ serials _)).at_state
      ⟨⟨balanced, fun _ _ => rfl⟩, found, held⟩).bind fun _ => ?_
  have aboutPut : World.IsAboutEntries
      (ArePut mint.token token holding (world.ownerOf? mint.token) serials) := by
    intro _ _ same put
    obtain ⟨known, held⟩ := about same.toSameHoldings ⟨put.known, put.held⟩
    exact ⟨put.books.congr same, known, held⟩
  have settled (lastUsedSerial : Int64) :
      Yields (ArePut mint.token token holding (world.ownerOf? mint.token) serials)
        (do
          change fun world => world.putToken { token with lastUsedSerial, totalSupply }
          setBalance holding balance
          pure (SupplyChange.mk totalSupply serials))
        fun _ => World.PieceBooksUnless (mint.Overwrites world) := by
    refine yields_countPieces lastUsedSerial ?_ ?_ ?_ _
    · intro live
      obtain ⟨serialsFound, mintedIs⟩ : _ ∧ _ := by simpa only [live.1, if_true] using amount
      obtain ⟨length, _, few⟩ := of_serialsAfter? serialsFound
      have units := books.holdings found live token.treasury
      have supply := books.supply found live
      have part := World.owned_le_existing world mint.token token.treasury
      rw [World.units_of_relationship held, World.unitsOf_some] at units
      have credited := toNat_shifted (by omega) fits exactly
      have mintedIs : minted.toNat = serials.length := by
        rw [mintedIs, length, UInt64.toNat_ofNat_of_lt' few]
      omega
    · intro live
      obtain ⟨serialsFound, _⟩ : _ ∧ _ := by simpa only [live.1, if_true] using amount
      constructor
      · rintro ⟨other, foundOther, _, others, member, overwrites⟩
        cases found.symm.trans foundOther
        cases serialsFound.symm.trans member
        exact overwrites
      · exact fun overwrites => ⟨token, found, live, serials, serialsFound, overwrites⟩
    · rintro dead ⟨other, foundOther, live, _⟩
      cases found.symm.trans foundOther
      exact dead live
  dsimp only
  split
  · exact (yields_adjust aboutPut _ _).bind fun _ => settled _
  · exact settled _

/-! ## Burning and wiping -/

/-- Dropping pieces leaves what their owner held of them, and the supply, too large. -/
theorem yields_dropPieces
    (address owner : Address)
    (serials : List Int64)
    (nodup : serials.Nodup)
    (surplus : Address → Address → Int)
    (excess : Address → Int) :
    Yields
      (fun world =>
        world.PiecesOffBy surplus excess ∧
          ∀ serial ∈ serials, world.ownerOf? address serial = some owner)
      (serials.forM fun serial => change fun world => world.putNft address serial none)
      fun _ =>
        PiecesOffBy
          (fun address' account =>
            surplus address' account +
              if address' = address ∧ account = owner then serials.length else 0)
          fun address' =>
            excess address' + if address' = address then serials.length else 0 := by
  induction serials generalizing surplus excess with
  | nil =>
      refine Ensures.pure fun world ⟨books, _⟩ => ?_
      exact books.alike fun _ _ => ⟨fun account => by simp, by simp⟩
  | cons serial rest inductionHypothesis =>
      obtain ⟨fresh, nodup⟩ := List.nodup_cons.mp nodup
      have first :
          Yields
            (fun world =>
              world.PiecesOffBy surplus excess ∧
                ∀ other ∈ serial :: rest, world.ownerOf? address other = some owner)
            (change fun world => world.putNft address serial none)
            fun _ world =>
              world.PiecesOffBy
                  (fun address' account =>
                    surplus address' account +
                      if address' = address ∧ account = owner then 1 else 0)
                  (fun address' => excess address' + if address' = address then 1 else 0) ∧
                ∀ other ∈ rest, world.ownerOf? address other = some owner := by
        refine yields_change fun world ⟨books, owners⟩ => ⟨?_, fun other member => ?_⟩
        · have written := books.putNft address serial none
          rw [owners _ List.mem_cons_self] at written
          refine written.alike fun _ _ => ⟨fun account => ?_, by simp⟩
          simp only [Option.map_none, Option.some.injEq]
          grind
        · have different : other ≠ serial := fun same => fresh (same ▸ member)
          rw [World.ownerOf?_putNft_of_ne fun same => different same.2]
          exact owners other (List.mem_cons_of_mem _ member)
      refine first.bind fun _ => (inductionHypothesis nodup _ _).imp (fun _ => id) ?_
      intro _ world books
      refine books.alike fun _ _ => ⟨fun account => ?_, ?_⟩
      · rw [List.length_cons]
        grind
      · rw [List.length_cons]
        grind

/-- The pieces of an owner belong to it. -/
theorem reads_checkAllOwned
    (address owner : Address)
    (serials : List Int64) :
    Reads world (serials.forM (checkOwned address owner)) fun _ =>
      ∀ serial ∈ serials, world.ownerOf? address serial = some owner := by
  refine Reads.forM fun serial _ => ?_
  refine (reads_piece address serial).bind fun found asked => ?_
  refine (reads_ensure _ _).imp (fun _ => id) ?_
  intro _ _ ⟨same, owns⟩
  refine ⟨same, ?_⟩
  rw [World.ownerOf?_of_nft asked]
  simpa using owns

/-- Only pieces that the owner has, and each of them once, are removed. -/
theorem yields_removePieces_pieces
    (address owner : Address)
    (serials : List Int64)
    (whenEmpty : ResponseCode)
    (books : world.PiecesOffBy surplus excess) :
    Yields (· = world) (removePieces address serials owner whenEmpty) fun _ after =>
      after.PiecesOffBy
          (fun address' account =>
            surplus address' account +
              if address' = address ∧ account = owner then serials.length else 0)
          (fun address' =>
            excess address' + if address' = address then serials.length else 0) ∧
        serials.length ≤ world.owned address owner := by
  refine (reads_ensure _ _).bind fun _ _ => ?_
  refine (reads_ensure _ _).bind fun _ nodup => ?_
  have nodup : serials.Nodup := by simpa using nodup
  refine (reads_checkAllOwned address owner serials).bind fun _ own => ?_
  refine ((yields_dropPieces address owner serials nodup surplus excess).at_state
    ⟨books, own⟩).bind fun _ => ?_
  refine (yields_adjust (PiecesOffBy.keptByAlike _ _).about _ _).imp (fun _ => id) ?_
  exact fun _ _ books => ⟨books, World.length_le_owned nodup own⟩

/-- Shrinking the balance and the supply by the pieces that were dropped sets them right. -/
theorem yields_shrink_pieces
    {address account : Address}
    {token : Token}
    {holding : Relationship}
    {amount balance : UInt64}
    (dropped : Nat)
    (counted :
      token.IsLiveNonFungible →
      amount.toNat = dropped ∧ dropped ≤ token.totalSupply.toNat)
    (reduced : balance.toNat + amount.toNat = holding.balance.toNat)
    (serials : List Int64) :
    Yields
      (fun world =>
        world.PiecesOffBy
            (fun address' account' =>
              0 + if address' = address ∧ account' = account then dropped else 0)
            (fun address' => 0 + if address' = address then dropped else 0) ∧
          world.token address = .ok (some token) ∧
          world.relationship account address = .ok (some holding))
      (shrink token holding amount balance serials)
      fun _ => PiecesOffBy (fun _ _ => 0) fun _ => 0 := by
  refine (yields_writeSupply_pieces token.lastUsedSerial _).imp (fun _ => id) ?_
  intro _ after ⟨books, known⟩
  refine books.alike fun {address' found} read live => ?_
  by_cases here : address' = address
  · subst here
    rw [known] at read
    cases read
    obtain ⟨exactly, enough⟩ := counted live
    rw [UInt64.toNat_subClamp]
    constructor
    · intro account'
      grind
    · grind
  · simp [here]

/-- Pieces that are removed are counted out of the balance and of the supply. -/
theorem yields_takePieces
    {address account : Address}
    {token : Token}
    {holding : Relationship}
    {balance : UInt64}
    {serials : List Int64}
    (found : world.token address = .ok (some token))
    (held : world.relationship account address = .ok (some holding))
    (live : token.IsLiveNonFungible)
    (reduced :
      balance.toNat + (UInt64.ofNat serials.length).toNat = holding.balance.toNat)
    (whenEmpty : ResponseCode)
    (books : world.PiecesOffBy (fun _ _ => 0) fun _ => 0) :
    Yields (· = world)
      (do
        removePieces address serials account whenEmpty
        shrink token holding (UInt64.ofNat serials.length) balance serials)
      fun _ => PiecesOffBy (fun _ _ => 0) fun _ => 0 := by
  have inOrder := (PiecesOffBy.nothing_iff.mp books).2.2
  have units := inOrder.holdings found live account
  have supply := inOrder.supply found live
  have part := World.owned_le_existing world address account
  have few := World.units_lt world account address
  have removed :=
    (yields_removePieces_pieces address account serials whenEmpty books).and
      (yields_removePieces (isAboutHoldings_supplied address account token holding)
        address serials account whenEmpty)
  refine (removed.at_state ⟨rfl, found, held⟩).bind fun _ => ?_
  refine Yields.of_each fun after ⟨⟨books, own⟩, known⟩ => ?_
  refine (yields_shrink_pieces serials.length (fun _ => ?_) reduced serials).at_state
    ⟨books, known⟩
  have fits : serials.length < 2 ^ 64 := by omega
  exact ⟨UInt64.toNat_ofNat_of_lt' fits, by omega⟩

/-- The amounts of a token without pieces do not matter. -/
theorem yields_takeAmount
    {address account : Address}
    {token : Token}
    {holding : Relationship}
    {amount balance : UInt64}
    {serials : List Int64}
    (found : world.token address = .ok (some token))
    (held : world.relationship account address = .ok (some holding))
    (fungible : ¬ token.isNonFungible = true)
    (reduced : balance.toNat + amount.toNat = holding.balance.toNat)
    (books : world.PiecesOffBy (fun _ _ => 0) fun _ => 0) :
    Yields (· = world) (shrink token holding amount balance serials)
      fun _ => PiecesOffBy (fun _ _ => 0) fun _ => 0 := by
  have nothing :
      world.PiecesOffBy
        (fun address' account' =>
          0 + if address' = address ∧ account' = account then (0 : Nat) else 0)
        (fun address' => 0 + if address' = address then (0 : Nat) else 0) :=
    books.alike fun _ _ => ⟨fun _ => by simp, by simp⟩
  exact (yields_shrink_pieces 0 (fun live => (fungible live.1).elim) reduced serials).at_state
    ⟨nothing, found, held⟩

theorem yields_burn_pieces
    (body : TokenBurn) :
    Yields (PiecesOffBy (fun _ _ => 0) fun _ => 0) (burn body)
      fun _ => PiecesOffBy (fun _ _ => 0) fun _ => 0 := by
  refine Yields.of_each fun world books => ?_
  refine (reads_liveToken body.token).bind fun token ⟨found, alive⟩ => ?_
  refine (reads_ensure _ _).bind fun _ _ => ?_
  refine (reads_relationship _ _).bind fun holding held => ?_
  have alive : token.deleted = false := by simpa using alive
  dsimp only
  split
  · rename_i nonFungible
    refine (reads_ensure _ _).bind fun _ _ => ?_
    refine (reads_reduced _ _ _).bind fun balance reduced => ?_
    exact yields_takePieces found held ⟨nonFungible, alive⟩ reduced _ books
  · rename_i fungible
    refine (reads_ensure _ _).bind fun _ _ => ?_
    refine (reads_reduced _ _ _).bind fun balance reduced => ?_
    exact yields_takeAmount found held fungible reduced books

theorem yields_wipe_pieces
    (body : TokenWipe) :
    Yields (PiecesOffBy (fun _ _ => 0) fun _ => 0) (wipe body)
      fun _ => PiecesOffBy (fun _ _ => 0) fun _ => 0 := by
  refine Yields.of_each fun world books => ?_
  refine (reads_liveToken body.token).bind fun token ⟨found, alive⟩ => ?_
  refine (reads_ensure _ _).bind fun _ _ => ?_
  refine (Reads.of_keeps (keeps_ensureSubject _)).bind fun _ _ => ?_
  refine (reads_ensure _ _).bind fun _ _ => ?_
  refine (reads_relationship _ _).bind fun holding held => ?_
  dsimp only
  refine Reads.guarded (fun _ => reads_ensure _ _) fun _ => ?_
  refine (reads_reduced _ _ _).bind fun balance reduced => ?_
  split
  · rename_i nonFungible
    rw [if_pos nonFungible] at reduced
    exact yields_takePieces found held ⟨nonFungible, alive⟩ reduced _ books
  · rename_i fungible
    rw [if_neg fungible] at reduced
    exact yields_takeAmount found held fungible reduced books

end TokenAction

end LedgerEvm
