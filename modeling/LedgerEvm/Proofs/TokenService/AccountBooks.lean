import LedgerEvm.Proofs.TokenService.PieceSupply
import LedgerEvm.Proofs.TokenService.Tallies
import LedgerEvm.Proofs.TokenService.CallTies

namespace LedgerEvm

/-!
# The counts of accounts stay exact

Minted pieces are counted for the treasury and removed ones counted out for their owner, by
how many serial numbers there are: they are different, unused before a mint, and those of
the owner's pieces before a removal.  A new token is counted for its treasury.

Transactions that are carried out one after the other, each in a frame of its own, therefore
leave the counts of all accounts exact, as long as there is not more to count than a count
can hold.  What a transaction does to the counts is of no matter otherwise: a piece may also
be handed from an account to the same account.
-/

namespace TokenAction

open World (TalliesOffBy NoSerial)

variable
  {world : World}
  {address : Address}
  {exempt exempt' : Address → Int64 → Prop}
  {most owed : Tally → Int}

/-! ## Supply -/

/-- A supply and a balance are written, and the last serial number that was used. -/
theorem yields_writeSupply_tallies
    {α : Type}
    {other account : Address}
    {token : Token}
    {holding : Relationship}
    {totalSupply balance : UInt64}
    {lastUsedSerial : Int64}
    (used :
      ∀ serial,
        exempt other serial ∨ serial ≤ token.lastUsedSerial →
        ¬ exempt' other serial → serial ≤ lastUsedSerial)
    (others :
      ∀ {address : Address}, address ≠ other →
        ∀ serial, exempt address serial → exempt' address serial)
    (result : α) :
    Yields
      (fun world =>
        world.TalliesOffBy address exempt most owed ∧
          world.token other = .ok (some token) ∧
          world.relationship account other = .ok (some holding))
      (do
        change fun world => world.putToken { token with lastUsedSerial, totalSupply }
        setBalance holding balance
        pure result)
      fun _ => TalliesOffBy address exempt' most owed := by
  have supplied :
      Yields
        (fun world =>
          world.TalliesOffBy address exempt most owed ∧
            world.token other = .ok (some token) ∧
            world.relationship account other = .ok (some holding))
        (change fun world => world.putToken { token with lastUsedSerial, totalSupply })
        fun _ world =>
          world.TalliesOffBy address exempt' most owed ∧
            world.hasRelationship holding.account holding.token = true := by
    refine yields_change fun world ⟨books, found, held⟩ => ⟨?_, ?_⟩
    · refine books.putSupply found totalSupply (fun serial _ read counts => ?_) others
      by_cases holds : exempt other serial
      · exact used _ (.inl holds) counts
      · exact used _ (.inr (books.serials read found holds)) counts
    · rw [World.hasRelationship_congr (World.relationship_putToken _ _ _ _)]
      exact books.filed.hasRelationship held
  refine supplied.bind fun _ => ?_
  exact yields_setBalance_tallies.bind fun _ => Ensures.pure fun _ => id

/-! ## Minting -/

/-- The pieces with the serial numbers are not there yet, and may be put. -/
structure AreUnused
    (exempt : Address → Int64 → Prop)
    (token : Address)
    (serials : List Int64)
    (world : World) : Prop where
  nodup : serials.Nodup
  exempted : ∀ serial ∈ serials, exempt token serial
  known : world.token token ≠ .ok none
  unowned : ∀ serial ∈ serials, world.ownerOf? token serial = none

/-- Each piece that is put is owed to its owner. -/
theorem yields_putPieces_tallies
    (token owner : Address)
    (pieces : List (Int64 × Bytes)) :
    Yields
      (fun world =>
        world.TalliesOffBy address exempt most 0 ∧
          AreUnused exempt token (pieces.map Prod.fst) world)
      (putPieces token owner pieces)
      fun _ => TalliesOffBy address exempt most (due .piece owner address pieces.length) := by
  rw [← nsmul_due, ← zero_add (pieces.length • _)]
  refine yields_forM_owed _ (fun pieces => AreUnused exempt token (pieces.map Prod.fst))
    (fun ⟨serial, metadata⟩ rest owed => yields_change ?_) pieces
  rintro world ⟨books, unused⟩
  obtain ⟨fresh, nodup⟩ := List.nodup_cons.mp unused.nodup
  have later {other : Int64} (member : other ∈ rest.map Prod.fst) :
      other ∈ ((serial, metadata) :: rest).map Prod.fst :=
    List.mem_cons_of_mem _ member
  have first := unused.unowned serial List.mem_cons_self
  refine ⟨books.putNft (books.toOrderlyBut.putNft (fun _ => unused.known) fun _ _ _ counts =>
    (counts (unused.exempted serial List.mem_cons_self)).elim) fun tally => ?_, ?_⟩
  · simp only [first, Option.map_some, Option.some.injEq, reduceCtorEq, and_false, if_false,
      Pi.add_apply, due]
    split <;> push_cast <;> omega
  · refine ⟨nodup, fun other member => unused.exempted other (later member), ?_,
      fun other member => ?_⟩
    · rw [(World.sameHoldings_putNft world token serial _).token]
      exact unused.known
    · have different : other ≠ serial := fun same => fresh (same ▸ member)
      rw [World.ownerOf?_putNft_of_ne fun same => different same.2]
      exact unused.unowned other (later member)

/-- The pieces that were minted are counted for the treasury. -/
theorem yields_mint_tallies
    (mint : TokenMint) :
    Yields (TalliesOffBy address NoSerial most 0) (TokenAction.mint mint)
      fun _ =>
        TalliesOffBy address NoSerial (most + Tally.only .piece mint.metadata.length) 0 := by
  refine Yields.of_each fun world books => ?_
  refine (reads_liveToken mint.token).bind fun token ⟨found, _⟩ => ?_
  refine (reads_ensure _ _).bind fun _ _ => ?_
  refine (reads_relationship _ _).bind fun holding held => ?_
  refine (reads_mintedAmount token mint).bind fun ⟨minted, serials⟩ amount => ?_
  refine (reads_require _ _).bind fun totalSupply _ => ?_
  refine (reads_ensure _ _).bind fun _ _ => ?_
  refine (reads_shifted _ _ _).bind fun balance _ => ?_
  have anew : AreAnew token mint serials := .of_mintedAmount amount
  have length : (serials.zip mint.metadata).length = serials.length := by
    rw [← List.length_map (f := Prod.fst), anew.map_fst_zip]
  -- until the token has used their serial numbers the new pieces are beyond the last one
  let taken (other : Address) (serial : Int64) : Prop := other = mint.token ∧ serial ∈ serials
  have unused : AreUnused taken mint.token ((serials.zip mint.metadata).map Prod.fst) world := by
    rw [anew.map_fst_zip]
    refine ⟨anew.nodup, fun serial member => ⟨rfl, member⟩, by rw [found]; simp, ?_⟩
    exact fun serial member =>
      books.ownerOf?_eq_none_of_lt found (anew.between serial member).1 id
  have about := isAboutHoldings_supplied mint.token token.treasury token holding
  have put :=
    (@yields_putPieces_tallies address taken most mint.token token.treasury
      (serials.zip mint.metadata)).and
      (yields_putPieces about mint.token token.treasury (serials.zip mint.metadata))
  have excepted : world.TalliesOffBy address taken most 0 :=
    ⟨books.toOrderlyBut.imp fun _ _ impossible => impossible.elim, books.counts⟩
  refine (put.at_state ⟨⟨excepted, unused⟩, found, held⟩).bind fun _ => ?_
  rw [length]
  have counted :=
    (@yields_countMore address taken most .piece token.treasury serials.length
      (fun account => { account with ownedNfts := account.ownedNfts + UInt64.ofNat serials.length })
      (fun _ => ⟨rfl, rfl⟩) (fun account => by simp [Account.tally, Tally.capacity])
      fun account other different => by cases other <;> simp [Account.tally] at different ⊢).and
      (yields_adjust about.isAboutEntries token.treasury _)
  have enough (tally : Tally) :
      (most + Tally.only .piece serials.length) tally ≤
        (most + Tally.only .piece mint.metadata.length) tally :=
    Int.add_le_add_left (Tally.only_mono _ anew.within tally) _
  have written (most : Tally → Int) :
      Yields
        (fun world =>
          world.TalliesOffBy address taken most 0 ∧
            world.token mint.token = .ok (some token) ∧
            world.relationship token.treasury mint.token = .ok (some holding))
        (do
          change fun world =>
            world.putToken
              { token with
                lastUsedSerial := serials.getLast?.getD token.lastUsedSerial
                totalSupply }
          setBalance holding balance
          pure (SupplyChange.mk totalSupply serials))
        fun _ => TalliesOffBy address NoSerial most 0 := by
    refine yields_writeSupply_tallies (fun serial new _ => ?_) ?_ _
    · rcases new with ⟨_, member⟩ | old
      · exact (anew.between serial member).2
      · exact Int64.le_trans old anew.last
    · exact fun elsewhere _ new => elsewhere new.1
  dsimp only
  split
  · refine counted.bind fun _ => ?_
    exact (written _).imp (fun _ => id) fun _ _ books => books.mono enough
  · rename_i none
    obtain rfl : serials = [] := by simpa using none
    refine (written most).imp ?_ fun _ _ books => books.mono (Tally.le_add_only most .piece _)
    rintro world ⟨books, known⟩
    rw [List.length_nil, due_zero] at books
    exact ⟨books, known⟩

/-! ## Burning and wiping -/

/-- The account owns the pieces, which are different ones. -/
structure AreOwned (token owner : Address) (serials : List Int64) (world : World) : Prop where
  nodup : serials.Nodup
  owned : ∀ serial ∈ serials, world.ownerOf? token serial = some owner

/-- Each piece that is dropped is taken back from its owner. -/
theorem yields_dropPieces_tallies
    (token owner : Address)
    (serials : List Int64) :
    Yields
      (fun world =>
        world.TalliesOffBy address exempt most 0 ∧ AreOwned token owner serials world)
      (serials.forM fun serial => change fun world => world.putNft token serial none)
      fun _ => TalliesOffBy address exempt most (0 - due .piece owner address serials.length) := by
  rw [← nsmul_due, sub_eq_add_neg, ← neg_nsmul]
  refine yields_forM_owed _ (AreOwned token owner) (fun serial rest owed => yields_change ?_)
    serials
  rintro world ⟨books, nodup, owned⟩
  obtain ⟨fresh, nodup⟩ := List.nodup_cons.mp nodup
  refine ⟨books.putNft (books.toOrderlyBut.putNft (fun impossible => by cases impossible)
    fun impossible => by cases impossible) fun tally => ?_, nodup, fun other member => ?_⟩
  · simp only [owned serial List.mem_cons_self, Option.some.injEq, Option.map_none,
      reduceCtorEq, and_false, if_false, Pi.add_apply, Pi.neg_apply, due]
    split <;> push_cast <;> omega
  · have different : other ≠ serial := fun same => fresh (same ▸ member)
    rw [World.ownerOf?_putNft_of_ne fun same => different same.2]
    exact owned other (List.mem_cons_of_mem _ member)

/-- The pieces that are removed are counted out of what their owner has. -/
theorem yields_removePieces_tallies
    (token owner : Address)
    (serials : List Int64)
    (whenEmpty : ResponseCode)
    (few : most .piece < Tally.piece.capacity) :
    Yields (TalliesOffBy address exempt most 0) (removePieces token serials owner whenEmpty)
      fun _ => TalliesOffBy address exempt most 0 := by
  refine Yields.of_each fun world books => ?_
  refine (reads_ensure _ _).bind fun _ _ => ?_
  refine (reads_ensure _ _).bind fun _ nodup => ?_
  have nodup : serials.Nodup := by simpa using nodup
  refine (reads_checkAllOwned token owner serials).bind fun _ own => ?_
  refine ((yields_dropPieces_tallies token owner serials).at_state ⟨books, nodup, own⟩).bind
    fun _ => ?_
  refine Yields.of_each fun world books => ?_
  refine yields_countLess (fun _ => ⟨rfl, rfl⟩) (fun account enough => ?_)
    (fun account other different => ?_) few books fun _ => by simp
  · have fits := enough.trans_lt account.ownedNfts.toNat_lt
    simp only [Account.tally, UInt64.toNat_subClamp, UInt64.toNat_ofNat_of_lt' fits]
  · cases other <;> simp [Account.tally] at different ⊢

/-- A smaller supply and balance are written of a token that keeps its pieces. -/
theorem yields_shrink_tallies
    {other account : Address}
    {token : Token}
    {holding : Relationship}
    {amount balance : UInt64}
    (serials : List Int64) :
    Yields
      (fun world =>
        world.TalliesOffBy address exempt most owed ∧
          world.token other = .ok (some token) ∧
          world.relationship account other = .ok (some holding))
      (shrink token holding amount balance serials)
      fun _ => TalliesOffBy address exempt most owed :=
  yields_writeSupply_tallies (fun _ old counts => old.resolve_left counts) (fun _ _ => id) _

/-- Pieces that are removed, and the smaller balance and supply that are written. -/
theorem yields_takePieces_tallies
    {other account : Address}
    {token : Token}
    {holding : Relationship}
    {amount balance : UInt64}
    {serials : List Int64}
    (found : world.token other = .ok (some token))
    (held : world.relationship account other = .ok (some holding))
    (whenEmpty : ResponseCode)
    (few : most .piece < Tally.piece.capacity)
    (books : world.TalliesOffBy address exempt most 0) :
    Yields (· = world)
      (do
        removePieces other serials account whenEmpty
        shrink token holding amount balance serials)
      fun _ => TalliesOffBy address exempt most 0 := by
  have removed :=
    (@yields_removePieces_tallies address exempt most other account serials whenEmpty few).and
      (yields_removePieces (isAboutHoldings_supplied other account token holding)
        other serials account whenEmpty)
  refine (removed.at_state ⟨books, found, held⟩).bind fun _ => ?_
  exact yields_shrink_tallies serials

theorem yields_burn_tallies
    (body : TokenBurn)
    (few : most .piece < Tally.piece.capacity) :
    Yields (TalliesOffBy address exempt most 0) (burn body)
      fun _ => TalliesOffBy address exempt most 0 := by
  refine Yields.of_each fun world books => ?_
  refine (reads_liveToken body.token).bind fun token ⟨found, _⟩ => ?_
  refine (reads_ensure _ _).bind fun _ _ => ?_
  refine (reads_relationship _ _).bind fun holding held => ?_
  dsimp only
  split
  · refine (reads_ensure _ _).bind fun _ _ => ?_
    refine (reads_reduced _ _ _).bind fun balance _ => ?_
    exact yields_takePieces_tallies found held _ few books
  · refine (reads_ensure _ _).bind fun _ _ => ?_
    refine (reads_reduced _ _ _).bind fun balance _ => ?_
    exact (yields_shrink_tallies _).at_state ⟨books, found, held⟩

theorem yields_wipe_tallies
    (body : TokenWipe)
    (few : most .piece < Tally.piece.capacity) :
    Yields (TalliesOffBy address exempt most 0) (wipe body)
      fun _ => TalliesOffBy address exempt most 0 := by
  refine Yields.of_each fun world books => ?_
  refine (reads_liveToken body.token).bind fun token ⟨found, _⟩ => ?_
  refine (reads_ensure _ _).bind fun _ _ => ?_
  refine (Reads.of_keeps (keeps_ensureSubject _)).bind fun _ _ => ?_
  refine (reads_ensure _ _).bind fun _ _ => ?_
  refine (reads_relationship _ _).bind fun holding held => ?_
  dsimp only
  refine Reads.guarded (fun _ => reads_ensure _ _) fun _ => ?_
  refine (reads_reduced _ _ _).bind fun balance _ => ?_
  split
  · exact yields_takePieces_tallies found held _ few books
  · exact (yields_shrink_tallies _).at_state ⟨books, found, held⟩

/-! ## Creations -/

/-- A new token is counted for its treasury, and so is the relationship with it. -/
theorem yields_create_tallies
    (creation : TokenCreate)
    (sponsor : Address) :
    Yields (TalliesOffBy address exempt most 0) (create creation sponsor)
      fun _ =>
        TalliesOffBy address exempt (most + (Tally.only .association 1 + Tally.only .title 1))
          0 := by
  let treasury := creation.treasury
  have drawn :
      Yields (TalliesOffBy address exempt most 0) (freshAddress sponsor) fun fresh world =>
        world.TalliesOffBy address exempt most 0 ∧ world.isFree fresh = .ok true :=
    yields_freshAddress (fun _ books => books.congr (.nextNum _ _) rfl) sponsor
  refine (Yields.of_keeps (keeps_ensureAccount _ _)).bind fun _ => ?_
  refine (Yields.of_keeps (keeps_ensure _ _)).bind fun _ => ?_
  refine drawn.bind fun fresh => ?_
  have issued (token : Token)
      (own : token.address = fresh ∧ token.treasury = treasury) :
      Yields
        (fun world =>
          world.TalliesOffBy address exempt most 0 ∧ world.isFree fresh = .ok true)
        (change fun world => world.putToken token)
        fun _ world =>
          world.TalliesOffBy address exempt most (due .title treasury address 1) ∧
            world.token fresh ≠ .ok none ∧ world.hasRelationship treasury fresh = false := by
    obtain ⟨rfl, isTreasury⟩ := own
    refine yields_change fun world ⟨books, free⟩ => ⟨?_, ?_, ?_⟩
    · have unknown := (World.isFree_iff.mp free).2
      refine books.putToken (books.toOrderlyBut.putToken
        (fun read => (books.pieces read unknown).elim) fun _ _ => id) fun tally => ?_
      simp only [World.hasTreasury_of_token unknown, Option.any_none, Bool.false_eq_true,
        and_false, if_false, isTreasury, due, Pi.zero_apply]
      push_cast
      omega
    · rw [World.token_putToken_self books.isOpen]
      simp
    · rw [World.hasRelationship_congr (World.relationship_putToken _ _ _ _)]
      exact books.hasRelationship_eq_false (World.isFree_iff.mp free).2 treasury
  let holding : Relationship :=
    { account := treasury
      token := fresh
      balance := creation.initialSupply
      kycGranted := true }
  have held :
      Yields
        (fun world =>
          world.TalliesOffBy address exempt most (due .title treasury address 1) ∧
            world.token fresh ≠ .ok none ∧ world.hasRelationship treasury fresh = false)
        (change fun world => world.putRelationship treasury fresh (some holding))
        fun _ =>
          TalliesOffBy address exempt most
            (due .title treasury address 1 + due .association treasury address 1) := by
    refine yields_change ?_
    rintro world ⟨books, known, absent⟩
    exact @talliesOffBy_opened address exempt most _ world holding books known absent
  refine (issued _ ⟨rfl, rfl⟩).bind fun _ => held.bind fun _ => ?_
  refine Yields.bind ?_ fun _ => Ensures.pure fun _ => id
  refine Yields.of_each fun world books => ?_
  refine yields_adjust_tallies (fun _ => ⟨rfl, rfl⟩) books (fun own account tally counts => ?_)
    fun elsewhere tally => ⟨?_, ?_⟩
  · have own : treasury = address := own
    rw [own] at counts
    cases tally with
    | association =>
        simpa [due, Tally.only, Account.tally, Tally.capacity, UInt32.toNat_add] using counts.add 1
    | title =>
        simpa [due, Tally.only, Account.tally, Tally.capacity, UInt32.toNat_add] using counts.add 1
    | piece => simpa [due, Tally.only, Account.tally] using counts
  · rw [← add_assoc]
    exact (Tally.le_add_only _ _ _ _).trans (Tally.le_add_only _ _ _ _)
  · have elsewhere : treasury ≠ address := elsewhere
    simp [due_elsewhere elsewhere]

end TokenAction

/-! ## Transactions -/

namespace TransactionBody

/-- The number of moves of pieces that the transaction asks for. -/
def pieceMoves (body : TransactionBody) : Nat :=
  (body.tokenTransfers.map fun list => list.nftTransfers.length).sum

/-- The most that the transaction adds to what an account has to count. -/
def additions : TransactionBody → Tally → Int
  | .tokenAssociateToAccount relations => Tally.only .association relations.tokens.length
  | .tokenMint mint => Tally.only .piece mint.metadata.length
  | .tokenCreate _ => Tally.only .association 1 + Tally.only .title 1
  | body => Tally.only .piece body.pieceMoves

theorem pieceMoves_le_additions
    (body : TransactionBody) :
    (body.pieceMoves : Int) ≤ body.additions .piece := by
  cases body <;> simp [pieceMoves, additions, tokenTransfers, Tally.only]

end TransactionBody

namespace TokenAction

open World (TalliesOffBy NoSerial SameBelow)

variable
  {world : World}
  {address : Address}
  {most : Tally → Int}

/-- A transaction that succeeds has counted what it wrote. -/
theorem yields_run_tallies
    (body : TransactionBody)
    (sender : Address)
    (room : ∀ tally : Tally, most tally < tally.capacity)
    (moves : most .piece + body.pieceMoves ≤ Tally.piece.capacity) :
    Yields (TalliesOffBy address NoSerial most 0) (run body sender)
      fun _ => TalliesOffBy address NoSerial (most + body.additions) 0 := by
  have answered {α : Type} {action : TokenAction α} {answer : α → TokenResult}
      (yields :
        Yields (TalliesOffBy address NoSerial most 0) action
          fun _ => TalliesOffBy address NoSerial (most + body.additions) 0) :
      Yields (TalliesOffBy address NoSerial most 0)
        (action >>= fun result => pure (answer result))
        fun _ => TalliesOffBy address NoSerial (most + body.additions) 0 :=
    yields.bind fun _ => Ensures.pure fun _ => id
  have without {α : Type} {action : TokenAction α} {amount : Nat}
      (yields :
        Yields (TalliesOffBy address NoSerial most 0) action
          fun _ => TalliesOffBy address NoSerial most 0) :
      Yields (TalliesOffBy address NoSerial most 0) action
        fun _ => TalliesOffBy address NoSerial (most + Tally.only .piece amount) 0 :=
    yields.imp (fun _ => id) fun _ _ books => books.mono (Tally.le_add_only most .piece amount)
  cases body with
  | tokenAssociateToAccount relations =>
      exact answered (yields_associate_tallies relations)
  | tokenDissociateFromAccount relations =>
      exact answered (without (yields_dissociate_tallies relations (room _)))
  | tokenMint mint =>
      exact answered (yields_mint_tallies mint)
  | tokenBurn burn =>
      exact answered (without (yields_burn_tallies burn (room _)))
  | tokenAccountWipe wipe =>
      exact answered (without (yields_wipe_tallies wipe (room _)))
  | cryptoTransfer transfer =>
      refine answered ((yields_transferCurrency_tallies _).bind fun _ => ?_)
      exact yields_forM_tallies (fun list : TokenTransfers => list.nftTransfers.length)
        (fun list _ _ room => yields_transferToken_tallies sender list room) moves
  | cryptoApproveAllowance approval =>
      exact answered (without (yields_approve_tallies approval))
  | tokenCreate creation =>
      exact answered (yields_create_tallies creation sender)
  | _ =>
      exact fun _ _ => trivial

end TokenAction

namespace World

variable {world : World}

/-- One transaction in a frame of its own has counted what it wrote, if that is kept. -/
theorem talliesOffBy_framed
    {address : Address}
    {most : Tally → Int}
    (books : world.TalliesOffBy address NoSerial most 0)
    (body : TransactionBody)
    (sender : Address)
    (room : ∀ tally : Tally, most tally < tally.capacity)
    (moves : most .piece + body.pieceMoves ≤ Tally.piece.capacity) :
    (leaves (TokenAction.run body sender).framed world).TalliesOffBy address NoSerial
      (most + body.additions) 0 := by
  have more (tally : Tally) : most tally ≤ (most + body.additions) tally := by
    cases body with
    | tokenCreate creation =>
        simp only [Pi.add_apply, TransactionBody.additions, Tally.only]
        cases tally <;> simp
    | _ => exact Tally.le_add_only _ _ _ _
  have opened : world.push.TalliesOffBy address NoSerial most 0 :=
    books.of_view world.isOpen_push (view_push world)
  exact TokenAction.leaves_framed_answers
    (TokenAction.keeps_run_sameBelow world.push body sender)
    (TalliesOffBy.isAboutAnswers _ _ _ _) (books.mono more)
    ((TokenAction.yields_run_tallies body sender room moves).at_state opened)

/-- From exact books on, one transaction in a frame of its own leaves nothing owed. -/
theorem AccountBooks.talliesOffBy_framed
    (books : world.AccountBooks)
    (isOpen : world.IsOpen)
    (filed : world.IsFiled)
    {bound : Nat}
    (small : world.CountsBelow bound)
    (fits : bound ≤ 2 ^ 32)
    (body : TransactionBody)
    (few : body.pieceMoves < 2 ^ 63)
    (sender address : Address) :
    (leaves (TokenAction.run body sender).framed world).TalliesOffBy address NoSerial
      ((fun _ => (bound : Int) - 1) + body.additions) 0 := by
  refine World.talliesOffBy_framed (books.talliesOffBy isOpen filed fun shows tally => ?_) body
    sender (fun tally => ?_) ?_
  · exact Int.le_sub_one_of_lt (by exact_mod_cast small shows tally)
  · have capacity : ((2 ^ 32 : Nat) : Int) ≤ tally.capacity := by
      exact_mod_cast tally.le_capacity
    omega
  · have capacity : Tally.piece.capacity = 2 ^ 64 := rfl
    rw [capacity]
    omega

/-- One transaction in a frame of its own keeps the counts of accounts exact. -/
theorem accountBooks_framed
    (body : TransactionBody)
    (sender : Address)
    (filed : world.IsFiled)
    (books : world.AccountBooks)
    (small : world.CountsBelow (2 ^ 32))
    (few : body.pieceMoves < 2 ^ 63)
    (fits : (leaves (TokenAction.run body sender).framed world).CountsBelow (2 ^ 32)) :
    (leaves (TokenAction.run body sender).framed world).IsFiled ∧
      (leaves (TokenAction.run body sender).framed world).AccountBooks := by
  by_cases isOpen : world.IsOpen
  · have counted := books.talliesOffBy_framed isOpen filed small (Nat.le_refl _) body few sender
    exact ⟨(counted sender).filed, .of_talliesOffBy counted fits⟩
  · have below := TokenAction.keeps_run_sameBelow world.push body sender
    have same := TokenAction.view_leaves_framed_of_bare below isOpen
    have entries : SameEntries world (leaves (TokenAction.run body sender).framed world) :=
      .of_view (fun impossible => (isOpen impossible).elim) same
    exact ⟨filed.congr entries.toSameHoldings,
      books.congr entries (congrArg LedgerView.get same)⟩

/--
What accounts have to count stays below 2^32 if it is few enough at the beginning and not
much is added by each transaction.
-/
theorem countsBelow_carryOut
    {bound most : Nat}
    {requests : List (TransactionBody × Address)}
    (isOpen : world.IsOpen)
    (filed : world.IsFiled)
    (books : world.AccountBooks)
    (small : world.CountsBelow bound)
    (each : ∀ request ∈ requests, ∀ tally, request.1.additions tally ≤ most)
    (fits : bound + requests.length * most ≤ 2 ^ 32)
    (count : Nat) :
    (world.carryOut (requests.take count)).CountsBelow (2 ^ 32) := by
  induction requests generalizing world bound count with
  | nil =>
      rw [List.take_nil]
      exact small.mono (by omega)
  | cons request rest inductionHypothesis =>
      rw [List.length_cons, Nat.succ_mul] at fits
      cases count with
      | zero =>
          exact small.mono (by omega)
      | succ count =>
          obtain ⟨first, others⟩ := List.forall_mem_cons.mp each
          have moves := request.1.pieceMoves_le_additions.trans (first .piece)
          have few : request.1.pieceMoves < 2 ^ 63 := by omega
          have counted :=
            books.talliesOffBy_framed isOpen filed small (by omega) request.1 few request.2
          have reached :
              (leaves (TokenAction.run request.1 request.2).framed world).CountsBelow
                (bound + most) := by
            intro address account shows tally
            have atMost := ((counted address).counts shows tally).atMost
            have added := first tally
            rw [Pi.add_apply, Pi.zero_apply] at atMost
            omega
          have next := accountBooks_framed request.1 request.2 filed books
            (small.mono (by omega)) few (reached.mono (by omega))
          exact inductionHypothesis (counted request.2).isOpen next.1 next.2 reached others
            (by omega) count

/-- The books of a ledger of accounts without tokens are exact if nothing has been counted. -/
theorem accountBooks_ofAccounts
    (accounts : List Account)
    (fresh : ∀ account ∈ accounts, ∀ tally, account.tally tally = 0)
    (redirectsTokenCalls : Bool)
    (timestamp : Timestamp)
    (firstNum : UInt64) :
    let contents : Snapshot.Contents :=
      { accounts := Table.ofList (accounts.map fun account => (account.address, account)) }
    let world :=
      (World.ofSnapshot (.ofContents contents) redirectsTokenCalls timestamp firstNum).push
    world.IsFiled ∧ world.AccountBooks ∧ world.CountsBelow 1 := by
  intro contents world
  have tokens (address : Address) : world.token address = .ok none :=
    congrArg Except.ok (Table.get?_empty _)
  have relationships (account token : Address) : world.relationship account token = .ok none :=
    congrArg Except.ok (Table.get?_empty _)
  have pieces (token : Address) (serial : Int64) : world.nft token serial = .ok none :=
    congrArg Except.ok (Table.get?_empty _)
  have nothing (address : Address) (tally : Tally) : world.tallies address tally = 0 := by
    cases tally <;>
      simp [tallies, owned, hasRelationship, hasTreasury, ownerOf?, tokens, relationships, pieces]
  refine ⟨⟨fun read => ?_, fun read => ?_⟩, ⟨fun shows tally => ?_, fun read => ?_, fun read => ?_,
    fun read => ?_⟩, fun _ _ _ tally => ?_⟩
  · cases (tokens _).symm.trans read
  · cases (relationships _ _).symm.trans read
  · obtain ⟨_, found, _⟩ := of_get_of_not_isToken shows.1 shows.2
    have listed := (Table.key_eq_of_get?_ofList Account.address accounts
      (Except.ok.inj found)).1
    rw [nothing, fresh _ listed]
  · cases (relationships _ _).symm.trans read
  · cases (pieces _ _).symm.trans read
  · cases (pieces _ _).symm.trans read
  · rw [nothing]
    exact Nat.one_pos

/--
After any transactions, each carried out in a frame of its own that is kept when it succeeds
and dropped when it fails, every account that is shown has counted exactly the entries that
name it.  At no time there may be 2^32 of them to count, and no transaction may list 2^63
moves of pieces, which no memory holds: the count of a receiver starts over at 2^64.  Entries are
found under their own names at the start, since a transaction writes an entry back under the names
that it carries: one that was found elsewhere would be counted twice.
-/
theorem carryOut_keeps_accountBooks
    (requests : List (TransactionBody × Address))
    (filed : world.IsFiled)
    (books : world.AccountBooks)
    (few : ∀ request ∈ requests, request.1.pieceMoves < 2 ^ 63)
    (small : ∀ count, (world.carryOut (requests.take count)).CountsBelow (2 ^ 32)) :
    (world.carryOut requests).AccountBooks := by
  induction requests generalizing world with
  | nil =>
      exact books
  | cons request rest inductionHypothesis =>
      obtain ⟨firstFew, restFew⟩ := List.forall_mem_cons.mp few
      have first :=
        accountBooks_framed request.1 request.2 filed books (small 0) firstFew (small 1)
      exact inductionHypothesis first.1 first.2 restFew fun count => small (count + 1)

/--
Of three pieces of a new token one is handed by the treasury to itself, one to another
account, which the treasury then cannot burn, and the last one is burned.
-/
theorem handing_pieces_on_keeps_accountBooks :
    let treasury : Account := { address := Address.ofNum 1001 }
    let holder : Account := { address := Address.ofNum 1002 }
    let contents : Snapshot.Contents :=
      { accounts :=
          Table.ofList ([treasury, holder].map fun account => (account.address, account)) }
    let world := (World.ofSnapshot (.ofContents contents) false ⟨0⟩ 5000).push
    let token := Address.ofNum 5000
    let move (receiver : Account) (serial : Int64) : TransactionBody :=
      .cryptoTransfer (.piece token treasury.address receiver.address serial false)
    let requests : List (TransactionBody × Address) :=
      [(.tokenCreate
          { name := "Seats", symbol := "SEAT", treasury := treasury.address, initialSupply := 0
            decimals := 0, kind := .nonFungible, supplyKey := true }, treasury.address),
        (.tokenAssociateToAccount ⟨holder.address, [token]⟩, holder.address),
        (.tokenMint ⟨token, 0, [[], [], []]⟩, treasury.address),
        (move treasury 1, treasury.address),
        (move holder 2, treasury.address),
        (.tokenBurn ⟨token, 0, [2]⟩, treasury.address),
        (.tokenBurn ⟨token, 0, [3]⟩, treasury.address)]
    world.IsFiled ∧ world.AccountBooks ∧
      (∀ request ∈ requests, request.1.pieceMoves < 2 ^ 63) ∧
      (∀ count, (world.carryOut (requests.take count)).CountsBelow (2 ^ 32)) ∧
      (world.carryOut requests).AccountBooks ∧
      (world.carryOut requests).get treasury.address =
        .ok (some
          { treasury with
            numAssociations := 1, numPositiveBalances := 1, numTreasuryTitles := 1
            ownedNfts := 1 }) ∧
      (world.carryOut requests).get holder.address =
        .ok (some
          { holder with numAssociations := 1, numPositiveBalances := 1, ownedNfts := 1 }) := by
  intro treasury holder contents world token move requests
  obtain ⟨filed, books, small⟩ :=
    (accountBooks_ofAccounts [treasury, holder] (by
      intro account member tally
      simp only [List.mem_cons, List.not_mem_nil, or_false] at member
      rcases member with rfl | rfl <;> cases tally <;> rfl) false ⟨0⟩ 5000 :
      world.IsFiled ∧ world.AccountBooks ∧ world.CountsBelow 1)
  have few : ∀ request ∈ requests, request.1.pieceMoves < 2 ^ 63 := by decide
  have each (tally : Tally) : ∀ request ∈ requests, request.1.additions tally ≤ (3 : Nat) := by
    cases tally <;> decide
  have below := countsBelow_carryOut (isOpen_push _) filed books small
    (fun request member tally => each tally request member) (by decide)
  refine ⟨filed, books, few, below, carryOut_keeps_accountBooks requests filed books few below,
    ?_, ?_⟩
  · decide +kernel
  · decide +kernel

end World

end LedgerEvm
