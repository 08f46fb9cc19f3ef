import LedgerEvm.Proofs.TokenService.Ties

namespace LedgerEvm

/-!
# Calls and what an account has counted

Supply that comes in or goes out is tied to the account that holds it, and a new token to
its treasury.  Where the account had counted all its ties before it has so afterwards.

A call that is dispatched to the token service or to a token leaves what an account has
counted in order, with exceptions: a piece that the account hands to itself, a credit to an
account that is not there, and counts that are at their end.
-/

namespace TokenAction

open World (TiesOffBy SameTies IsAboutEntries)

variable
  {world : World}
  {address : Address}
  {needed : Prop}
  {room room' : Nat}
  {owed : TokenTie → Int}

/-! ## Minting -/

/-- A supply and a balance that are written are counted, where the account has the former one. -/
theorem yields_writeSupply_ties
    {α : Type}
    {other account : Address}
    {token : Token}
    {holding : Relationship}
    {totalSupply balance : UInt64}
    (lastUsedSerial : Int64)
    (needs : account = address → holding.balance = 0 → 0 < balance → needed)
    (enough :
      room' + (if account = address ∧ holding.balance = 0 ∧ 0 < balance then 1 else 0) ≤ room)
    (result : α) :
    Yields
      (fun world =>
        world.TiesOffBy address needed room 0 ∧
          world.token other = .ok (some token) ∧
          world.relationship account other = .ok (some holding))
      (do
        change fun world => world.putToken { token with totalSupply, lastUsedSerial }
        setBalance holding balance
        pure result)
      fun _ => TiesOffBy address needed room' 0 := by
  refine Yields.of_each fun world ⟨books, found, held⟩ => ?_
  obtain ⟨rfl, rfl⟩ := books.filed.relationship held
  have supplied :
      Yields (· = world)
        (change fun world => world.putToken { token with totalSupply, lastUsedSerial })
        fun _ after =>
          after.TiesOffBy address needed room 0 ∧ after.IsCurrent address holding := by
    refine yields_change fun after same => ?_
    subst after
    exact ⟨books.putSupply found _ _,
      .of_relationship ⟨rfl, rfl⟩ ((World.relationship_putToken _ _ _ _).trans held)⟩
  refine supplied.bind fun _ => ?_
  exact (yields_setBalance_ties needs enough).bind fun _ => Ensures.pure fun _ => id

/-- Pieces that are put are owed to their owner. -/
theorem yields_putPieces_ties
    (token owner : Address)
    (pieces : List (Int64 × Bytes))
    (amount : Int) :
    Yields (TiesOffBy address needed room (owing .piece amount)) (putPieces token owner pieces)
      fun _ =>
        TiesOffBy address needed room
          (owing .piece (amount + if owner = address then pieces.length else 0)) := by
  induction pieces generalizing amount with
  | nil =>
      simp only [List.length_nil, Int.natCast_zero, ite_self, Int.add_zero]
      exact Ensures.pure fun _ => id
  | cons piece rest inductionHypothesis =>
      obtain ⟨serial, metadata⟩ := piece
      have first :
          Yields (TiesOffBy address needed room (owing .piece amount))
            (change fun world =>
              world.putNft token serial
                (some { token, serial, owner, spender := Address.zero, metadata }))
            fun _ =>
              TiesOffBy address needed room
                (owing .piece (amount + if owner = address then 1 else 0)) := by
        refine yields_change fun world books => books.putNft fun tie => ?_
        by_cases isPiece : tie = .piece
        · simp only [isPiece, owing_self, true_and, Option.map_some, Option.some.injEq]
          split <;> split <;> simp
        · simp [isPiece, owing]
      refine first.bind fun _ => (inductionHypothesis _).imp (fun _ => id) fun _ _ books => ?_
      refine of_owing books ?_
      rw [List.length_cons]
      by_cases own : owner = address
      · simp only [own, if_true, Int.natCast_succ]
        omega
      · simp [own]

theorem yields_mint_ties
    (mint : TokenMint)
    (needs :
      ∀ {token : Token},
        world.token mint.token = .ok (some token) → token.treasury = address → needed)
    (books : world.TiesOffBy address needed (room + (mint.metadata.length + 1)) 0) :
    Yields (· = world) (TokenAction.mint mint) fun _ => TiesOffBy address needed room 0 := by
  refine (reads_liveToken mint.token).bind fun token ⟨found, alive⟩ => ?_
  refine (reads_ensure _ _).bind fun _ _ => ?_
  refine (reads_relationship _ _).bind fun holding held => ?_
  refine (reads_mintedAmount token mint).bind fun ⟨minted, serials⟩ amount => ?_
  refine (reads_require _ _).bind fun totalSupply inRange => ?_
  refine (reads_ensure _ _).bind fun _ _ => ?_
  refine (reads_shifted _ _ _).bind fun balance exactly => ?_
  have anew : AreAnew token mint serials := .of_mintedAmount amount
  have few := anew.within
  have names : (serials.zip mint.metadata).length = serials.length := by
    rw [List.length_zip]
    omega
  let supplied (world : World) : Prop :=
    world.token mint.token = .ok (some token) ∧
      world.relationship token.treasury mint.token = .ok (some holding)
  have about : World.IsAboutHoldings supplied :=
    isAboutHoldings_supplied mint.token token.treasury token holding
  let pieces : Int := if token.treasury = address then serials.length else 0
  have put :
      Yields
        (fun world =>
          world.TiesOffBy address needed (room + (mint.metadata.length + 1)) (owing .piece 0) ∧
            supplied world)
        (putPieces mint.token token.treasury (serials.zip mint.metadata))
        fun _ world =>
          world.TiesOffBy address needed (room + (mint.metadata.length + 1))
              (owing .piece pieces) ∧
            supplied world := by
    refine Yields.and ?_ (yields_putPieces about _ _ _)
    refine (yields_putPieces_ties _ _ _ 0).imp (fun _ => id) fun _ _ books => ?_
    refine of_owing books ?_
    simp only [pieces, names]
    split <;> simp
  have written (lastUsedSerial : Int64) :
      Yields (fun world => world.TiesOffBy address needed (room + 1) 0 ∧ supplied world)
        (do
          change fun world => world.putToken { token with lastUsedSerial, totalSupply }
          setBalance holding balance
          pure (SupplyChange.mk totalSupply serials))
        fun _ => TiesOffBy address needed room 0 := by
    refine yields_writeSupply_ties lastUsedSerial (fun here _ _ => needs found here) ?_ _
    split <;> omega
  refine (put.at_state ⟨?_, found, held⟩).bind fun _ => ?_
  · rw [owing_zero]
    exact books
  have counted :
      Yields
        (fun world =>
          world.TiesOffBy address needed (room + (mint.metadata.length + 1))
              (owing .piece pieces) ∧
            supplied world)
        (adjust token.treasury fun account =>
          { account with ownedNfts := account.ownedNfts + UInt64.ofNat serials.length })
        fun _ world => world.TiesOffBy address needed (room + 1) 0 ∧ supplied world := by
    refine Yields.and ?_ (yields_adjust about.isAboutEntries _ _)
    by_cases own : token.treasury = address
    · simp only [pieces, own, if_true]
      refine yields_settle_owing (fun _ => ⟨_, _, _, _, rfl⟩) (fun account _ fits => ?_)
        (fun account _ => account.counted_withOwnedNfts_of_ne _) (fun _ => needs found own)
        (by simp; omega)
      have length : (UInt64.ofNat serials.length).toNat = serials.length :=
        UInt64.toNat_ofNat_of_lt' anew.few
      have fits : account.ownedNfts.toNat + (UInt64.ofNat serials.length).toNat < 2 ^ 64 := by
        rw [length]
        exact_mod_cast fits
      have sum := UInt64.toNat_add_of_lt fits
      rw [length] at sum
      exact congrArg Int.ofNat sum
    · simp only [pieces, own, if_false, owing_zero]
      exact (yields_adjust_ties (Ne.symm own) _).imp (fun _ => id) fun _ _ books =>
        books.imp id (by omega) fun _ => Int.le_refl _
  dsimp only
  split
  · exact counted.bind fun _ => written _
  · rename_i none
    refine (written _).imp (fun world ⟨books, known⟩ => ⟨?_, known⟩) fun _ _ => id
    have none : serials = [] := by simpa using none
    refine books.imp id (by omega) fun tie => ?_
    simp [pieces, none]

/-! ## Burning and wiping -/

/-- Pieces that are dropped are no longer owed to their owner. -/
theorem yields_dropPieces_ties
    (token owner : Address)
    (serials : List Int64)
    (nodup : serials.Nodup)
    (amount : Int) :
    Yields
      (fun world =>
        world.TiesOffBy address needed room (owing .piece amount) ∧
          ∀ serial ∈ serials, world.ownerOf? token serial = some owner)
      (serials.forM fun serial => change fun world => world.putNft token serial none)
      fun _ =>
        TiesOffBy address needed room
          (owing .piece (amount - if owner = address then serials.length else 0)) := by
  induction serials generalizing amount with
  | nil =>
      simp only [List.length_nil, Int.natCast_zero, ite_self, Int.sub_zero]
      exact Ensures.pure fun _ holds => holds.1
  | cons serial rest inductionHypothesis =>
      obtain ⟨fresh, nodup⟩ := List.nodup_cons.mp nodup
      have first :
          Yields
            (fun world =>
              world.TiesOffBy address needed room (owing .piece amount) ∧
                ∀ other ∈ serial :: rest, world.ownerOf? token other = some owner)
            (change fun world => world.putNft token serial none)
            fun _ world =>
              world.TiesOffBy address needed room
                  (owing .piece (amount - if owner = address then 1 else 0)) ∧
                ∀ other ∈ rest, world.ownerOf? token other = some owner := by
        refine yields_change fun world ⟨books, owners⟩ => ⟨?_, fun other member => ?_⟩
        · refine books.putNft fun tie => ?_
          rw [owners _ List.mem_cons_self]
          by_cases isPiece : tie = .piece
          · simp only [isPiece, owing_self, true_and, Option.map_none, Option.some.injEq]
            by_cases own : owner = address <;> simp [own]
          · simp [isPiece, owing]
        · have different : other ≠ serial := fun same => fresh (same ▸ member)
          rw [World.ownerOf?_putNft_of_ne fun same => different same.2]
          exact owners other (List.mem_cons_of_mem _ member)
      refine first.bind fun _ => (inductionHypothesis nodup _).imp (fun _ => id) ?_
      intro _ world books
      refine of_owing books ?_
      by_cases own : owner = address
      · simp only [own, if_true, List.length_cons, Int.natCast_succ]
        omega
      · simp [own]

/-- Pieces that are removed are counted out of what their owner has. -/
theorem yields_removePieces_ties
    (token owner : Address)
    (serials : List Int64)
    (whenEmpty : ResponseCode) :
    Yields (TiesOffBy address needed room 0) (removePieces token serials owner whenEmpty)
      fun _ => TiesOffBy address needed room 0 := by
  refine Yields.of_each fun world books => ?_
  refine (reads_ensure _ _).bind fun _ _ => ?_
  refine (reads_ensure _ _).bind fun _ nodup => ?_
  have nodup : serials.Nodup := by simpa using nodup
  refine (reads_checkAllOwned token owner serials).bind fun _ own => ?_
  have dropped :=
    @yields_dropPieces_ties address needed room token owner serials nodup 0
  refine (dropped.at_state ⟨by rwa [owing_zero], own⟩).bind fun _ => ?_
  by_cases here : owner = address
  · simp only [here, if_true, Int.zero_sub]
    refine yields_settle_owing (fun _ => ⟨_, _, _, _, rfl⟩) (fun account enough _ => ?_)
      (fun account _ => account.counted_withOwnedNfts_of_ne _) (fun owes => by omega) (by simp)
    have few : serials.length ≤ account.ownedNfts.toNat := by
      simp only [Account.counted] at enough
      omega
    have length : (UInt64.ofNat serials.length).toNat = serials.length :=
      UInt64.toNat_ofNat_of_lt' (few.trans_lt account.ownedNfts.toNat_lt)
    simp only [Account.counted, UInt64.toNat_subClamp, length]
    omega
  · simp only [here, if_false, Int.natCast_zero, Int.sub_zero, owing_zero]
    exact yields_adjust_ties (Ne.symm here) _

/-- A balance that gets smaller ties nobody to the token who was not tied to it. -/
theorem yields_shrink_ties
    {other account : Address}
    {token : Token}
    {holding : Relationship}
    {amount balance : UInt64}
    (reduced : balance.toNat + amount.toNat = holding.balance.toNat)
    (serials : List Int64) :
    Yields
      (fun world =>
        world.TiesOffBy address needed room 0 ∧
          world.token other = .ok (some token) ∧
          world.relationship account other = .ok (some holding))
      (shrink token holding amount balance serials)
      fun _ => TiesOffBy address needed room 0 := by
  have noGain : ¬ (holding.balance = 0 ∧ 0 < balance) := by
    rintro ⟨empty, positive⟩
    have positive := UInt64.lt_iff_toNat_lt.mp positive
    have empty := UInt64.toNat_inj.mpr empty
    have zero : (0 : UInt64).toNat = 0 := rfl
    omega
  refine yields_writeSupply_ties token.lastUsedSerial
    (fun _ empty positive => (noGain ⟨empty, positive⟩).elim) ?_ _
  rw [if_neg fun gains => noGain gains.2]
  rfl

/-- Pieces that are removed, and the smaller balance and supply that are written. -/
theorem yields_takePieces_ties
    {other account : Address}
    {token : Token}
    {holding : Relationship}
    {amount balance : UInt64}
    {serials : List Int64}
    (found : world.token other = .ok (some token))
    (held : world.relationship account other = .ok (some holding))
    (reduced : balance.toNat + amount.toNat = holding.balance.toNat)
    (whenEmpty : ResponseCode)
    (books : world.TiesOffBy address needed room 0) :
    Yields (· = world)
      (do
        removePieces other serials account whenEmpty
        shrink token holding amount balance serials)
      fun _ => TiesOffBy address needed room 0 := by
  have removed :=
    (@yields_removePieces_ties address needed room other account serials whenEmpty).and
      (yields_removePieces (isAboutHoldings_supplied other account token holding)
        other serials account whenEmpty)
  refine (removed.at_state ⟨books, found, held⟩).bind fun _ => ?_
  exact yields_shrink_ties reduced serials

theorem yields_burn_ties
    (body : TokenBurn) :
    Yields (TiesOffBy address needed room 0) (burn body)
      fun _ => TiesOffBy address needed room 0 := by
  refine Yields.of_each fun world books => ?_
  refine (reads_liveToken body.token).bind fun token ⟨found, alive⟩ => ?_
  refine (reads_ensure _ _).bind fun _ _ => ?_
  refine (reads_relationship _ _).bind fun holding held => ?_
  dsimp only
  split
  · refine (reads_ensure _ _).bind fun _ _ => ?_
    refine (reads_reduced _ _ _).bind fun balance reduced => ?_
    exact yields_takePieces_ties found held reduced _ books
  · refine (reads_ensure _ _).bind fun _ _ => ?_
    refine (reads_reduced _ _ _).bind fun balance reduced => ?_
    exact (yields_shrink_ties reduced _).at_state ⟨books, found, held⟩

theorem yields_wipe_ties
    (body : TokenWipe) :
    Yields (TiesOffBy address needed room 0) (wipe body)
      fun _ => TiesOffBy address needed room 0 := by
  refine Yields.of_each fun world books => ?_
  refine (reads_liveToken body.token).bind fun token ⟨found, alive⟩ => ?_
  refine (reads_ensure _ _).bind fun _ _ => ?_
  refine (Reads.of_keeps (keeps_ensureSubject _)).bind fun _ _ => ?_
  refine (reads_ensure _ _).bind fun _ _ => ?_
  refine (reads_relationship _ _).bind fun holding held => ?_
  dsimp only
  refine Reads.guarded (fun _ => reads_ensure _ _) fun _ => ?_
  refine (reads_reduced _ _ _).bind fun balance reduced => ?_
  split
  · rename_i nonFungible
    rw [if_pos nonFungible] at reduced
    exact yields_takePieces_ties found held reduced _ books
  · rename_i fungible
    rw [if_neg fungible] at reduced
    exact (yields_shrink_ties reduced _).at_state ⟨books, found, held⟩

/-! ## Creations -/

/-- What the ledger owes to the treasury of a new token. -/
def owedToTreasury (creation : TokenCreate) : TokenTie → Int
  | .balance => if 0 < creation.initialSupply then 1 else 0
  | .piece => 0
  | .title => 1

/-- A new token is counted for its treasury, and so is what that holds of it. -/
theorem yields_create_ties
    (creation : TokenCreate)
    (sponsor : Address) :
    Yields (TiesOffBy address needed (room + 1) 0) (create creation sponsor)
      fun _ => TiesOffBy address needed room 0 := by
  refine Yields.of_each fun world books => ?_
  refine (reads_ensureAccount _ _).bind fun _ hasTreasury => ?_
  refine (reads_ensure _ _).bind fun _ _ => ?_
  let Known := needed ∨ creation.treasury = address
  have hasTreasury (known : Known) : world.HasAccount address := by
    rcases known with needs | rfl
    · exact books.there needs
    · exact hasTreasury
  have drawn :
      Yields (TiesOffBy address Known (room + 1) 0) (freshAddress sponsor) fun fresh world =>
        world.TiesOffBy address Known (room + 1) 0 ∧ world.isFree fresh = .ok true :=
    yields_freshAddress (fun _ books => books.congr (.draw _ _) rfl) sponsor
  refine (drawn.at_state { books with there := hasTreasury }).bind fun fresh => ?_
  have issued (token : Token)
      (own : token.address = fresh ∧ token.deleted = false ∧ token.treasury = creation.treasury) :
      Yields
        (fun world =>
          world.TiesOffBy address Known (room + 1) 0 ∧ world.isFree fresh = .ok true)
        (change fun world => world.putToken token)
        fun _ =>
          TiesOffBy address Known (room + 1)
            (owing .title (if creation.treasury = address then 1 else 0)) := by
    obtain ⟨rfl, alive, isTreasury⟩ := own
    refine yields_change fun world ⟨books, free⟩ => ?_
    obtain ⟨noEntry, noToken⟩ := World.isFree_iff.mp free
    refine books.putToken (fun known _ => ?_) fun tie => ?_
    · rintro rfl
      obtain ⟨account, reached, isAccount⟩ := books.there known
      cases noEntry.symm.trans (World.of_get_of_not_isToken reached isAccount).2.1
    · rw [World.hasTitle_of_token noToken]
      by_cases isTitle : tie = .title
      · by_cases own : creation.treasury = address <;> simp [isTitle, alive, isTreasury, own]
      · simp [isTitle, owing]
  have held :
      Yields
        (TiesOffBy address Known (room + 1)
          (owing .title (if creation.treasury = address then 1 else 0)))
        (change fun world =>
          world.putRelationship creation.treasury fresh
            (some
              { account := creation.treasury
                token := fresh
                balance := creation.initialSupply
                kycGranted := true }))
        fun _ =>
          TiesOffBy address Known (room + 1)
            (if creation.treasury = address then owedToTreasury creation else 0) := by
    refine yields_change fun world books => books.putRelationship (World.own_of_mem_some _) ?_
    intro tie
    have positive : 0 < creation.initialSupply ↔ 0 < creation.initialSupply.toNat :=
      UInt64.lt_iff_toNat_lt
    rw [World.unitsOf_some]
    by_cases own : creation.treasury = address
    · cases tie <;> simp [own, owing, owedToTreasury, positive]
      split <;> simp
    · simp [own]
  refine (issued _ ⟨rfl, rfl, rfl⟩).bind fun _ => held.bind fun _ => ?_
  have counted :
      Yields
        (TiesOffBy address Known (room + 1)
          (if creation.treasury = address then owedToTreasury creation else 0))
        (adjust creation.treasury fun account =>
          { account with
            numTreasuryTitles := account.numTreasuryTitles + 1
            numAssociations := account.numAssociations + 1
            numPositiveBalances :=
              if creation.initialSupply > 0 then
                account.numPositiveBalances + 1
              else
                account.numPositiveBalances })
        fun _ => TiesOffBy address Known room 0 := by
    by_cases own : creation.treasury = address
    · rw [if_pos own, own]
      refine yields_settle (fun _ => ⟨_, _, _, _, rfl⟩) (fun account tie _ fits => ?_)
        (fun _ _ => .inr own) fun tie => ?_
      · cases tie with
        | balance =>
            by_cases positive : 0 < creation.initialSupply
            · simp only [owedToTreasury, positive, if_true] at fits
              simp only [Account.counted, owedToTreasury, positive, if_true]
              exact congrArg _ (UInt32.toNat_add_of_lt (by exact_mod_cast fits))
            · simp [Account.counted, owedToTreasury, positive]
        | piece => simp [Account.counted, owedToTreasury]
        | title =>
            simp only [owedToTreasury] at fits
            exact congrArg _ (UInt32.toNat_add_of_lt (by exact_mod_cast fits))
      · cases tie with
        | balance =>
            simp only [owedToTreasury]
            split <;> simp
        | piece => exact Nat.le_succ _
        | title => exact Nat.le_refl _
    · rw [if_neg own]
      refine (yields_adjust_ties (Ne.symm own) _).imp (fun _ => id) fun _ _ books => ?_
      exact books.imp id (Nat.le_succ _) fun _ => Int.le_refl _
  refine counted.bind fun _ => Ensures.pure fun world books => ?_
  exact books.imp .inl (Nat.le_refl _) fun _ => Int.le_refl _

end TokenAction

/-! ## What calls leave in order -/

namespace TokenTie

/-- What holds of each kind of ties holds of all. -/
theorem forall_iff
    {property : TokenTie → Prop} :
    (∀ tie, property tie) ↔ property .balance ∧ property .piece ∧ property .title := by
  refine ⟨fun holds => ⟨holds _, holds _, holds _⟩, ?_⟩
  rintro ⟨ofBalance, ofPiece, ofTitle⟩ tie
  cases tie with
  | balance => exact ofBalance
  | piece => exact ofPiece
  | title => exact ofTitle

instance (property : TokenTie → Prop) [DecidablePred property] :
    Decidable (∀ tie, property tie) :=
  decidable_of_iff' _ forall_iff

end TokenTie

instance (list : TokenTransfers) (address : Address) : Decidable (list.Credits address) :=
  inferInstanceAs (Decidable (∃ leg ∈ list.transfers, leg.account = address ∧ 0 < leg.amount))

instance (world : World) (address : Address) : Decidable (world.HasAccount address) :=
  decidable_of_iff
    (∃ account ∈ (world.get address).toOption.join, account.isToken = false) <| by
      simp only [World.HasAccount]
      cases world.get address <;> simp [Except.toOption]

namespace TransactionBody

/-- The movements of tokens that the transaction asks for. -/
def tokenTransfers : TransactionBody → List TokenTransfers
  | .cryptoTransfer transfer => transfer.tokenTransfers
  | _ => []

/-- The account that new supply goes to, if the transaction mints. -/
def supplied? (world : World) : TransactionBody → Option Address
  | .tokenMint mint => (world.token mint.token).toOption.join.map Token.treasury
  | _ => none

/-- The most that the transaction adds to what an account has counted. -/
def countings : TransactionBody → Nat
  | .cryptoTransfer transfer => (transfer.tokenTransfers.map TokenTransfers.countings).sum
  | .tokenMint mint => mint.metadata.length + 1
  | .tokenCreate _ => 1
  | _ => 0

/-- The transaction hands a piece from an account to the same account. -/
def HandsInPlace (address : Address) (body : TransactionBody) : Prop :=
  ∃ list ∈ body.tokenTransfers, ∃ leg ∈ list.nftTransfers,
    leg.sender = address ∧ leg.receiver = address

/-- The transaction credits an account with amounts of a token, or with new supply. -/
def Credits (address : Address) (world : World) (body : TransactionBody) : Prop :=
  (∃ list ∈ body.tokenTransfers, list.Credits address) ∨ body.supplied? world = some address

/--
The transaction hands no piece from an account to the same account, credits the account only
if it is there, and does not bring its counts to their end.
-/
structure IsCareful (address : Address) (world : World) (body : TransactionBody) : Prop where
  moves : ¬ body.HandsInPlace address
  there : body.Credits address world → world.HasAccount address
  fits :
    ∀ counted ∈ (world.counted address).toOption,
      ∀ tie, counted tie + body.countings < tie.capacity

instance (address : Address) (body : TransactionBody) : Decidable (body.HandsInPlace address) :=
  inferInstanceAs
    (Decidable
      (∃ list ∈ body.tokenTransfers, ∃ leg ∈ list.nftTransfers,
        leg.sender = address ∧ leg.receiver = address))

instance (address : Address) (world : World) (body : TransactionBody) :
    Decidable (body.Credits address world) :=
  inferInstanceAs (Decidable (_ ∨ _))

instance (address : Address) (world : World) (body : TransactionBody) :
    Decidable (body.IsCareful address world) :=
  decidable_of_iff
    (¬ body.HandsInPlace address ∧ (body.Credits address world → world.HasAccount address) ∧
      ∀ counted ∈ (world.counted address).toOption,
        ∀ tie, counted tie + body.countings < tie.capacity)
    ⟨fun ⟨moves, there, fits⟩ => ⟨moves, there, fits⟩,
      fun careful => ⟨careful.moves, careful.there, careful.fits⟩⟩

theorem credits_congr
    {world after : World}
    (same : ∀ address, after.token address = world.token address)
    (address : Address)
    (body : TransactionBody) :
    body.Credits address after ↔ body.Credits address world := by
  have supplied : body.supplied? after = body.supplied? world := by
    cases body <;> simp only [supplied?, same]
  simp only [Credits, supplied]

end TransactionBody

namespace TokenAction

open World (TiesOffBy SameTies IsAboutEntries unitsOf)

variable
  {world : World}
  {address : Address}
  {needed : Prop}
  {room : Nat}

/-! ## Associations -/

/-- What is changed of an account beside its ties leaves them counted. -/
theorem yields_adjust_counted
    {other : Address}
    {update : Account → Account}
    (isCounting : Account.IsCounting update)
    (alike : ∀ account, (update account).counted = account.counted) :
    Yields (TiesOffBy address needed room 0) (adjust other update)
      fun _ => TiesOffBy address needed room 0 := by
  by_cases own : other = address
  · subst own
    refine yields_settle isCounting (fun account tie _ _ => ?_) (fun tie positive => ?_)
      fun tie => ?_
    · simp [alike]
    · simp at positive
    · simp
  · exact yields_adjust_ties (Ne.symm own) update

/-- New associations come without a balance. -/
theorem yields_associate_ties
    (relations : TokenRelations) :
    Yields (TiesOffBy address needed room 0) (associate relations)
      fun _ => TiesOffBy address needed room 0 := by
  refine Yields.of_each fun world books => ?_
  refine (Reads.of_keeps (keeps_checkRelations relations)).bind fun _ _ => ?_
  refine (Reads.of_keeps (keeps_ensureSubject _)).bind fun _ _ => ?_
  refine (Reads.mapM fun token _ =>
    reads_newRelationship relations.account token).bind fun created news => ?_
  have opened :
      Keeps (TiesOffBy address needed room 0)
        (created.forM fun holding =>
          change fun world =>
            world.putRelationship holding.account holding.token (some holding)) := by
    refine Keeps.forM fun holding member => keeps_change fun world books => ?_
    obtain ⟨_, _, _, _, empty, _⟩ := news holding member
    refine books.putRelationship (World.own_of_mem_some holding) fun tie => ?_
    rw [World.unitsOf_some, empty]
    refine Int.add_le_add_left (Int.ofNat_le.mpr ?_) _
    simp
  refine ((Yields.of_keeps opened).at_state books).bind fun _ => ?_
  exact yields_adjust_counted (fun _ => ⟨_, _, _, _, rfl⟩) fun _ =>
    Account.counted_eq rfl rfl rfl

/-- Associations that end are no longer owed to their account. -/
theorem yields_removeRelationships_ties
    (account : Address)
    (tokens : List Address)
    (amount : Int) :
    Yields (TiesOffBy address needed room (owing .balance amount))
      (tokens.mapM (removeRelationship account))
      fun removed =>
        TiesOffBy address needed room
          (owing .balance (amount - if account = address then removed.count true else 0)) := by
  induction tokens generalizing amount with
  | nil =>
      rw [List.mapM_nil]
      refine Ensures.pure fun world books => ?_
      simpa using books
  | cons token rest inductionHypothesis =>
      have first :
          Yields (TiesOffBy address needed room (owing .balance amount))
            (removeRelationship account token)
            fun held =>
              TiesOffBy address needed room
                (owing .balance
                  (amount - if account = address ∧ held = true then 1 else 0)) := by
        refine Yields.of_each fun world books => ?_
        refine (reads_ask _).bind fun holding asked => ?_
        refine Yields.bind (yields_change fun after same => ?_) fun _ => Ensures.pure fun _ => id
        subst after
        refine books.putRelationship (fun _ impossible => by cases impossible) fun tie => ?_
        rw [World.units_of_relationship asked, World.unitsOf_none]
        by_cases isBalance : tie = .balance
        · have positive :
              holding.any (fun found => found.balance > 0) = true ↔ 0 < unitsOf holding := by
            cases holding with
            | none => simp
            | some holding =>
                simp [World.unitsOf_some, UInt64.lt_iff_toNat_lt]
          simp only [isBalance, owing_self, true_and, Nat.lt_irrefl, and_false, if_false,
            positive]
          split <;> simp
        · simp [isBalance, owing]
      rw [List.mapM_cons]
      refine first.bind fun held => (inductionHypothesis _).bind fun removed => ?_
      refine Ensures.pure fun world books => of_owing books ?_
      rw [List.count_cons]
      by_cases own : account = address <;> cases held <;> simp [own]
      omega

theorem yields_dissociate_ties
    (relations : TokenRelations) :
    Yields (TiesOffBy address needed room 0) (dissociate relations)
      fun _ => TiesOffBy address needed room 0 := by
  refine (Yields.of_keeps (keeps_checkRelations relations)).bind fun _ => ?_
  refine (Yields.of_keeps (keeps_ensureSubject _)).bind fun _ => ?_
  refine (Yields.of_keeps (Keeps.forM fun _ _ => keeps_checkDissociation _ _)).bind fun _ => ?_
  have removed :=
    @yields_removeRelationships_ties address needed room relations.account relations.tokens 0
  rw [owing_zero] at removed
  refine removed.bind fun removed => ?_
  by_cases own : relations.account = address
  · simp only [own, if_true, Int.zero_sub]
    refine yields_settle_owing (fun _ => ⟨_, _, _, _, rfl⟩) (fun account enough _ => ?_)
      (fun account _ => account.counted_withPositiveBalances_of_ne _) (fun owes => by omega)
      (by simp)
    have few : removed.count true ≤ account.numPositiveBalances.toNat := by
      simp only [Account.counted] at enough
      omega
    have count : (UInt32.ofNat (removed.count true)).toNat = removed.count true :=
      UInt32.toNat_ofNat_of_lt' (few.trans_lt account.numPositiveBalances.toNat_lt)
    simp only [Account.counted, UInt32.toNat_subClamp, count]
    omega
  · simp only [own, if_false, Int.natCast_zero, Int.sub_zero, owing_zero]
    exact yields_adjust_ties (Ne.symm own) _

/-! ## Approvals -/

/-- An approved piece stays with its owner. -/
theorem yields_approvePiece_ties
    (allowance : NftAllowance)
    (serial : Int64) :
    Yields (TiesOffBy address needed room 0) (approvePiece allowance serial)
      fun _ => TiesOffBy address needed room 0 := by
  refine Yields.of_each fun world books => ?_
  refine (reads_piece _ _).bind fun found piece => ?_
  refine (reads_ensure _ _).bind fun _ _ => ?_
  refine yields_change fun after same => ?_
  subst after
  refine books.putNft fun tie => ?_
  rw [World.ownerOf?_of_nft piece]
  exact Int.le_refl _

theorem yields_approve_ties
    (approval : ApproveAllowance) :
    Yields (TiesOffBy address needed room 0) (approve approval)
      fun _ => TiesOffBy address needed room 0 := by
  refine Yields.bind (Yields.forM_kept (fun allowance => ?_) _) fun _ =>
    Yields.forM_kept (fun allowance => ?_) _
  · refine Yields.of_keeps ?_
    refine (keeps_ensureAccount _ _).bind fun _ => ?_
    refine (keeps_ensureAccount _ _).bind fun _ => ?_
    refine (keeps_liveToken _).bind fun token => ?_
    refine (keeps_ensure _ _).bind fun _ => ?_
    refine (keeps_relationship _ _).bind fun _ => ?_
    exact keeps_record_ties (fun _ => rfl) (fun _ => rfl) (fun _ => rfl) fun _ => rfl
  · refine (Yields.of_keeps (keeps_ensureAccount _ _)).bind fun _ => ?_
    dsimp only
    have granted (token : Token) :
        Yields (TiesOffBy address needed room 0)
          (do
            ensure token.isNonFungible .invalidTokenId
            allowance.serials.forM (approvePiece allowance))
          fun _ => TiesOffBy address needed room 0 := by
      refine (Yields.of_keeps (keeps_ensure _ _)).bind fun _ => ?_
      exact Yields.forM_kept (yields_approvePiece_ties allowance) allowance.serials
    split
    · refine (Yields.of_keeps (keeps_ensureAccount _ _)).bind fun _ => ?_
      exact (Yields.of_keeps (keeps_liveToken _)).bind granted
    · exact (Yields.of_keeps (keeps_liveToken _)).bind granted

/-! ## Transactions -/

/-- A careful transaction leaves the ties of the account counted. -/
theorem yields_run_ties
    {body : TransactionBody}
    (noCurrency : body.MovesNoCurrency)
    (sender : Address)
    (moves : ¬ body.HandsInPlace address)
    (needs : body.Credits address world → needed)
    (books : world.TiesOffBy address needed body.countings 0) :
    Yields (· = world) (run body sender) fun _ => TiesOffBy address needed 0 0 := by
  have answered {α : Type} {action : TokenAction α} {answer : α → TokenResult}
      (yields : Yields (· = world) action fun _ => TiesOffBy address needed 0 0) :
      Yields (· = world) (action >>= fun result => pure (answer result))
        fun _ => TiesOffBy address needed 0 0 :=
    yields.bind fun _ => Ensures.pure fun _ => id
  cases body with
  | tokenAssociateToAccount relations =>
      exact answered ((yields_associate_ties relations).at_state books)
  | tokenDissociateFromAccount relations =>
      exact answered ((yields_dissociate_ties relations).at_state books)
  | tokenMint mint =>
      refine answered (yields_mint_ties mint (fun found own => needs (.inr ?_)) ?_)
      · simp [TransactionBody.supplied?, found, own, Except.toOption]
      · rw [Nat.zero_add]
        exact books
  | tokenBurn burn =>
      exact answered ((yields_burn_ties burn).at_state books)
  | tokenAccountWipe wipe =>
      exact answered ((yields_wipe_ties wipe).at_state books)
  | cryptoTransfer transfer =>
      have moved :=
        @yields_transfer_ties address needed transfer noCurrency sender
          (fun list member credits => needs (.inl ⟨list, member, credits⟩))
          (fun list member leg legMember inPlace =>
            moves ⟨list, member, leg, legMember, inPlace⟩) 0
      refine answered (moved.at_state ?_)
      rw [Nat.zero_add]
      exact books
  | cryptoApproveAllowance approval =>
      exact answered ((yields_approve_ties approval).at_state books)
  | tokenCreate creation =>
      refine answered ((yields_create_ties creation sender).at_state ?_)
      exact books
  | _ =>
      exact fun _ _ => trivial

/-- A careful transaction in a frame of its own leaves the ties of the account counted. -/
theorem settled_of_framed
    {body : TransactionBody}
    (noCurrency : body.MovesNoCurrency)
    {sender : Address}
    {after : World}
    {result : TokenResult}
    (settled : world.Settled address)
    (careful : body.IsCareful address world)
    (succeeds : (run body sender).framed world = .ok result after) :
    after.Settled address := by
  obtain ⟨inner, ran, rfl⟩ := exists_of_framed succeeds
  have pushed := SameTies.push world
  have credits := TransactionBody.credits_congr pushed.token address body
  have books : world.push.TiesOffBy address (body.Credits address world) body.countings 0 := by
    refine ⟨world.isOpen_push, settled.filed.congr pushed.toSameHoldings, fun credited => ?_,
      fun read tie => ?_, fun read => ?_⟩
    · exact (careful.there credited).congr
        (congrFun (congrArg LedgerView.get (World.view_push world)) address)
    · have counts := (settled.congr pushed).covers read tie
      simpa using counts
    · rw [pushed.counted] at read
      exact careful.fits _ (by simp [read, Except.toOption])
  have inside : inner.TiesOffBy address (body.Credits address world) 0 0 :=
    (yields_run_ties noCurrency sender careful.moves credits.mp books).of_ok ran rfl
  have below : World.SameBelow world.push inner :=
    (keeps_run_sameBelow world.push body sender).of_ok ran (.refl _)
  have counts : inner.Settled address := by
    refine ⟨⟨inside.filed, fun read tie => ?_⟩, inside.isOpen⟩
    have covers := inside.covers read tie
    simpa using covers
  exact counts.congr (.commit settled.isOpen below)

end TokenAction

namespace DispatchedCall

variable
  {world after : World}
  {address : Address}
  {dispatched : DispatchedCall}

/-- Whether the call is answered, and does not fail. -/
def isAnswered (world : World) (dispatched : DispatchedCall) : Bool :=
  match dispatched.answer world with
  | .ok _ _ => true
  | .error _ _ => false

/-- The transaction that the call is read into is careful, if the call is answered. -/
def IsCareful (address : Address) (world : World) (dispatched : DispatchedCall) : Prop :=
  dispatched.isAnswered world = true →
  ∀ body ∈ dispatched.body? world, body.IsCareful address world

instance (address : Address) (world : World) (dispatched : DispatchedCall) :
    Decidable (dispatched.IsCareful address world) :=
  inferInstanceAs (Decidable (_ → _))

/-- A careful call that is answered leaves the ties of the account counted. -/
theorem settled_of_answer
    {answer : SystemAnswer}
    (settled : world.Settled address)
    (careful : dispatched.IsCareful address world)
    (answered : dispatched.answer world = .ok answer after) :
    after.Settled address := by
  obtain ⟨function, setting, read, result, called, found, performed⟩ :=
    exists_of_answer answered
  cases read with
  | query query =>
      have asked : Keeps (· = world) (dispatched.call.perform (.query query)) :=
        (TokenAction.keeps_approvedSpender query).bind fun _ => Keeps.pure _
      obtain rfl := asked.of_ok performed rfl
      exact settled
  | write body kind =>
      have written : body ∈ dispatched.body? world := (mem_body?_iff called).mpr ⟨kind, found⟩
      obtain ⟨result, framed⟩ := exists_of_body? answered written
      exact TokenAction.settled_of_framed (TokenFunction.reads_of_readCall found).2 settled
        (careful (by simp only [isAnswered, answered]) body written) framed

end DispatchedCall

end LedgerEvm
