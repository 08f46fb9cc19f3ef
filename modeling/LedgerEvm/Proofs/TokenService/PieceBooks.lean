import LedgerEvm.Proofs.Clamp
import LedgerEvm.Proofs.Ledger.TokenEntries
import LedgerEvm.Proofs.TokenService.Effects

namespace LedgerEvm

/-!
# The books of numbered pieces

Who owns a piece is written with the piece and counted twice more: in the balances of the
owners and in the supply of the token.  How far these counts are off is followed from
write to write.
-/

namespace Token

/-- The token is held as numbered pieces and has not been deleted. -/
def IsLiveNonFungible (token : Token) : Prop :=
  token.isNonFungible = true ∧ token.deleted = false

end Token

namespace World

/--
For every token held as numbered pieces and not deleted, each balance counts the pieces
that the account owns, and the supply counts all pieces.
-/
structure PieceBooks (world : World) : Prop where
  holdings :
    ∀ {address : Address} {token : Token},
      world.token address = .ok (some token) →
      token.IsLiveNonFungible →
      ∀ account, world.units account address = world.owned address account
  supply :
    ∀ {address : Address} {token : Token},
      world.token address = .ok (some token) →
      token.IsLiveNonFungible →
      token.totalSupply.toNat = world.existing address

/--
The books of numbered pieces, except that the balance under a token and an account is off
by a surplus, and the supply of a token by an excess.
-/
structure PiecesOffBy
    (surplus : Address → Address → Int)
    (excess : Address → Int)
    (world : World) : Prop where
  isOpen : world.IsOpen
  filed : world.IsFiled
  holdings :
    ∀ {address : Address} {token : Token},
      world.token address = .ok (some token) →
      token.IsLiveNonFungible →
      ∀ account,
        (world.units account address : Int) =
          world.owned address account + surplus address account
  supply :
    ∀ {address : Address} {token : Token},
      world.token address = .ok (some token) →
      token.IsLiveNonFungible →
      (token.totalSupply.toNat : Int) = world.existing address + excess address

/-- The books of numbered pieces, which are in order unless something has spoiled them. -/
structure PieceBooksUnless (spoiled : Prop) (world : World) : Prop where
  isOpen : world.IsOpen
  filed : world.IsFiled
  inOrder_iff : world.PieceBooks ↔ ¬ spoiled

namespace PieceBooks

variable {world after : World}

/-- The books depend on the entries about tokens only. -/
theorem congr
    (books : world.PieceBooks)
    (same : SameEntries world after) :
    after.PieceBooks where
  holdings {address token} found live account := by
    rw [units_congr same.toSameHoldings, owned_congr (same.nft address)]
    exact books.holdings ((same.token _).symm.trans found) live account
  supply {address token} found live := by
    rw [existing_congr (same.nft address)]
    exact books.supply ((same.token _).symm.trans found) live

end PieceBooks

namespace PieceBooksUnless

variable
  {world after : World}
  {spoiled spoiled' : Prop}

theorem of_inOrder
    (isOpen : world.IsOpen)
    (filed : world.IsFiled)
    (books : world.PieceBooks)
    (unspoiled : ¬ spoiled) :
    world.PieceBooksUnless spoiled :=
  ⟨isOpen, filed, iff_of_true books unspoiled⟩

theorem congr
    (kept : world.PieceBooksUnless spoiled)
    (same : SameEntries world after) :
    after.PieceBooksUnless spoiled where
  isOpen := same.isOpen kept.isOpen
  filed := kept.filed.congr same.toSameHoldings
  inOrder_iff := by
    rw [← kept.inOrder_iff]
    exact ⟨fun books => books.congr (same.symm_of_isOpen kept.isOpen),
      fun books => books.congr same⟩

theorem iff
    (kept : world.PieceBooksUnless spoiled)
    (same : spoiled' ↔ spoiled) :
    world.PieceBooksUnless spoiled' := by
  rw [same]
  exact kept

end PieceBooksUnless

namespace PiecesOffBy

variable
  {world after : World}
  {surplus surplus' : Address → Address → Int}
  {excess excess' : Address → Int}
  (books : world.PiecesOffBy surplus excess)
include books

theorem congr
    (same : SameEntries world after) :
    after.PiecesOffBy surplus excess where
  isOpen := same.isOpen books.isOpen
  filed := books.filed.congr same.toSameHoldings
  holdings {address token} found live account := by
    rw [units_congr same.toSameHoldings, owned_congr (same.nft address)]
    exact books.holdings ((same.token _).symm.trans found) live account
  supply {address token} found live := by
    rw [existing_congr (same.nft address)]
    exact books.supply ((same.token _).symm.trans found) live

/-- By how much the books are off matters for tokens with pieces only. -/
theorem alike
    (same :
      ∀ {address : Address} {token : Token},
        world.token address = .ok (some token) →
        token.IsLiveNonFungible →
        (∀ account, surplus' address account = surplus address account) ∧
          excess' address = excess address) :
    world.PiecesOffBy surplus' excess' where
  isOpen := books.isOpen
  filed := books.filed
  holdings found live account := by
    rw [(same found live).1]
    exact books.holdings found live account
  supply found live := by
    rw [(same found live).2]
    exact books.supply found live

/-- The books are in order when nothing is off. -/
theorem pieceBooks_iff :
    world.PieceBooks ↔
      ∀ {address : Address} {token : Token},
        world.token address = .ok (some token) →
        token.IsLiveNonFungible →
        (∀ account, surplus address account = 0) ∧ excess address = 0 := by
  constructor
  · intro inOrder address token found live
    constructor
    · intro account
      have off := books.holdings found live account
      have exactly := inOrder.holdings found live account
      omega
    · have off := books.supply found live
      have exactly := inOrder.supply found live
      omega
  · intro nothing
    constructor
    · intro address token found live account
      have off := books.holdings found live account
      have none := (nothing found live).1 account
      omega
    · intro address token found live
      have off := books.supply found live
      have none := (nothing found live).2
      omega

omit books in
/-- Books in which nothing is off. -/
theorem nothing_iff :
    world.PiecesOffBy (fun _ _ => 0) (fun _ => 0) ↔
      world.IsOpen ∧ world.IsFiled ∧ world.PieceBooks := by
  constructor
  · intro books
    exact ⟨books.isOpen, books.filed, books.pieceBooks_iff.mpr fun _ _ => ⟨fun _ => rfl, rfl⟩⟩
  · rintro ⟨isOpen, filed, books⟩
    refine ⟨isOpen, filed, fun found live account => ?_, fun found live => ?_⟩
    · rw [books.holdings found live, Int.add_zero]
    · rw [books.supply found live, Int.add_zero]

/-! ## Writes -/

/-- Writing a relationship puts its balance off by the exchanged units. -/
theorem putRelationship
    {account address : Address}
    {entry : Option Relationship}
    (own : ∀ holding ∈ entry, holding.account = account ∧ holding.token = address) :
    (world.putRelationship account address entry).PiecesOffBy
      (fun address' account' =>
        surplus address' account' +
          if address' = address ∧ account' = account then
            (unitsOf entry : Int) - world.units account address
          else
            0)
      excess where
  isOpen := books.isOpen.record _
  filed := books.filed.putRelationship books.isOpen own
  holdings {address' token} found live account' := by
    rw [token_putRelationship] at found
    have off := books.holdings found live account'
    have pieces := owned_congr (nft_putRelationship world account address entry address')
      account'
    by_cases same : account' = account ∧ address' = address
    · obtain ⟨rfl, rfl⟩ := same
      rw [units_putRelationship_self books.isOpen, pieces]
      simp only [and_self, if_true]
      omega
    · rw [units_putRelationship_of_ne same, pieces, if_neg fun equal => same equal.symm]
      omega
  supply {address' token} found live := by
    rw [token_putRelationship] at found
    rw [existing_congr (nft_putRelationship world account address entry address')]
    exact books.supply found live

/-- Writing a piece takes it from its old owner and gives it to its new one. -/
theorem putNft
    (address : Address)
    (serial : Int64)
    (entry : Option Nft) :
    (world.putNft address serial entry).PiecesOffBy
      (fun address' account =>
        surplus address' account +
          if address' = address then
            (if world.ownerOf? address serial = some account then 1 else 0) -
              (if entry.map Nft.owner = some account then 1 else 0)
          else
            0)
      (fun address' =>
        excess address' +
          if address' = address then
            (if (world.ownerOf? address serial).isSome then 1 else 0) -
              (if entry.isSome then 1 else 0)
          else
            0) := by
  have same := sameHoldings_putNft world address serial entry
  have others {address' : Address} (different : address' ≠ address) (serial' : Int64) :
      (world.putNft address serial entry).nft address' serial' =
        world.nft address' serial' :=
    nft_putNft_of_ne (fun equal => different equal.1) entry
  refine ⟨same.isOpen books.isOpen, books.filed.congr same, ?_, ?_⟩
  · intro address' token found live account
    have off := books.holdings ((same.token _).symm.trans found) live account
    rw [units_congr same]
    by_cases here : address' = address
    · subst here
      have moved := owned_putNft books.isOpen address' serial entry account
      rw [if_pos rfl]
      by_cases old : world.ownerOf? address' serial = some account <;>
        by_cases new : entry.map Nft.owner = some account <;>
        simp only [old, new, if_true, if_false] at moved ⊢ <;>
        omega
    · rw [owned_congr (others here), if_neg here]
      omega
  · intro address' token found live
    have off := books.supply ((same.token _).symm.trans found) live
    by_cases here : address' = address
    · subst here
      have moved := existing_putNft books.isOpen address' serial entry
      rw [if_pos rfl]
      by_cases old : (world.ownerOf? address' serial).isSome <;>
        by_cases new : entry.isSome <;>
        simp only [old, new, if_true, if_false, Bool.false_eq_true] at moved ⊢ <;>
        omega
    · rw [existing_congr (others here), if_neg here]
      omega

/-- Writing a token leaves the units of all accounts and all pieces. -/
theorem putToken
    {token : Token}
    (excessAlike :
      token.IsLiveNonFungible →
      (token.totalSupply.toNat : Int) =
        world.existing token.address + excess' token.address)
    (holdingsAlike :
      token.IsLiveNonFungible →
      ∀ account,
        (world.units account token.address : Int) =
          world.owned token.address account + surplus token.address account)
    (others : ∀ {address : Address}, address ≠ token.address → excess' address = excess address) :
    (world.putToken token).PiecesOffBy surplus excess' := by
  have units (account address : Address) :
      (world.putToken token).units account address = world.units account address := by
    simp only [World.units, relationship_putToken]
  have pieces (address : Address) (serial : Int64) :
      (world.putToken token).nft address serial = world.nft address serial :=
    nft_putToken world token address serial
  refine ⟨books.isOpen.record _, books.filed.putToken books.isOpen token, ?_, ?_⟩
  · intro address known found live account
    rw [units, owned_congr (pieces address)]
    by_cases same : address = token.address
    · subst same
      rw [token_putToken_self books.isOpen] at found
      cases found
      exact holdingsAlike live account
    · rw [token_putToken_of_ne same] at found
      exact books.holdings found live account
  · intro address known found live
    rw [existing_congr (pieces address)]
    by_cases same : address = token.address
    · subst same
      rw [token_putToken_self books.isOpen] at found
      cases found
      exact excessAlike live
    · rw [token_putToken_of_ne same] at found
      rw [others same]
      exact books.supply found live

/-- Writing the supply of a token puts it off by the difference. -/
theorem putSupply
    {address : Address}
    {token : Token}
    (found : world.token address = .ok (some token))
    (totalSupply : UInt64)
    (lastUsedSerial : Int64) :
    (world.putToken { token with totalSupply, lastUsedSerial }).PiecesOffBy surplus
      (fun address' =>
        excess address' +
          if address' = address then
            (totalSupply.toNat : Int) - token.totalSupply.toNat
          else
            0) := by
  obtain rfl : token.address = address := books.filed.token found
  refine books.putToken ?_ ?_ ?_
  · intro live
    have off := books.supply found live
    simp only [if_true]
    omega
  · exact fun live => books.holdings found live
  · intro address different
    rw [if_neg different, Int.add_zero]

omit books in
/-- A relationship that is written with the units that it had leaves the books alone. -/
theorem keptByAlike
    (surplus : Address → Address → Int)
    (excess : Address → Int) :
    KeptByAlikeRelationships (PiecesOffBy surplus excess) where
  about _ _ same books := books.congr same
  isOpen := PiecesOffBy.isOpen
  put {world account token entry} books own known alike := by
    have written := books.putRelationship own
    refine written.alike fun {address found} read live => ⟨fun account' => ?_, rfl⟩
    split
    · rename_i here
      obtain ⟨rfl, rfl⟩ := here
      rw [token_putRelationship] at read
      rw [alike read live.2]
      omega
    · omega

end PiecesOffBy

end World

namespace TokenAction

open World (PiecesOffBy IsAboutEntries SameEntries unitsOf)

variable
  {world : World}
  {surplus : Address → Address → Int}
  {excess : Address → Int}

/-! ## Moving pieces -/

/-- The balances of a token without pieces do not matter. -/
theorem yields_setBalance_of_fungible
    {address : Address}
    {token : Token}
    (fungible : token.isNonFungible = false)
    {holding : Relationship}
    (own : holding.token = address)
    (balance : UInt64) :
    Yields
      (fun world =>
        world.PiecesOffBy surplus excess ∧ world.token address = .ok (some token))
      (setBalance holding balance)
      fun _ world =>
        world.PiecesOffBy surplus excess ∧ world.token address = .ok (some token) := by
  subst own
  refine yields_setBalance ?_ ?_
  · intro _ _ same ⟨books, known⟩
    exact ⟨books.congr same, (same.token _).trans known⟩
  · rintro world ⟨books, known⟩
    have known' := (World.token_putRelationship world holding.account holding.token
      (some { holding with balance }) holding.token).trans known
    refine ⟨?_, known'⟩
    have written := books.putRelationship (World.own_of_mem_some { holding with balance })
    refine written.alike fun {address found} read live => ⟨fun account => ?_, rfl⟩
    split
    · rename_i here
      rw [here.1, known'] at read
      cases read
      have nonFungible := live.1
      rw [fungible] at nonFungible
      cases nonFungible
    · omega

/-- Writing a balance puts the books off by what it differs from the units before. -/
theorem yields_setBalance_pieces
    {account address : Address}
    (serial : Int64)
    (owner : Option Address)
    {holding : Relationship}
    (own : holding.account = account ∧ holding.token = address)
    (balance : UInt64)
    (units : Address → Int) :
    Yields
      (fun world =>
        world.PiecesOffBy surplus excess ∧ world.ownerOf? address serial = owner ∧
          ∀ other, (world.units other address : Int) = units other)
      (setBalance holding balance)
      fun _ world =>
        world.PiecesOffBy
            (fun address' account' =>
              surplus address' account' +
                if address' = address ∧ account' = account then
                  (balance.toNat : Int) - units account
                else
                  0)
            excess ∧
          world.ownerOf? address serial = owner ∧
            ∀ other,
              (world.units other address : Int) =
                if other = account then (balance.toNat : Int) else units other := by
  obtain ⟨rfl, rfl⟩ := own
  refine yields_setBalance ?_ ?_
  · intro _ _ same ⟨books, owner, held⟩
    refine ⟨books.congr same, ?_, fun other => ?_⟩
    · rw [World.ownerOf?_congr (same.nft _ _)]
      exact owner
    · rw [World.units_congr same.toSameHoldings]
      exact held other
  · rintro world ⟨books, owner, held⟩
    have written := books.putRelationship (World.own_of_mem_some { holding with balance })
    rw [held] at written
    refine ⟨written, ?_, fun other => ?_⟩
    · rw [World.ownerOf?_congr (World.nft_putRelationship _ _ _ _ _ _)]
      exact owner
    · split
      · rename_i same
        rw [same, World.units_putRelationship_self books.isOpen]
        rfl
      · rename_i different
        rw [World.units_putRelationship_of_ne fun same => different same.1]
        exact held other

/-- The surplus after a piece has moved: one more for an owner that it moved to itself. -/
def surplusAfter
    (surplus : Address → Address → Int)
    (address : Address)
    (leg : NftTransfer) :
    Address → Address → Int := fun address' account =>
  surplus address' account +
    if address' = address ∧ account = leg.sender ∧ account = leg.receiver then 1 else 0

/--
Moving a piece leaves the books as they were, unless it moves to its own owner: both
balances are read before either is written, and the owner is left with one unit too many.
-/
theorem yields_movePiece_pieces
    (address spender : Address)
    (leg : NftTransfer) :
    Yields (PiecesOffBy surplus excess) (movePiece address spender leg)
      fun _ => PiecesOffBy (surplusAfter surplus address leg) excess := by
  refine Yields.of_each fun world books => ?_
  refine (reads_piece _ _).bind fun found piece => ?_
  refine (reads_ensure _ _).bind fun _ owns => ?_
  dsimp only
  refine Reads.guarded (fun _ => reads_ensure _ _) fun _ => ?_
  refine (Reads.of_keeps (keeps_ensureAccount _ _)).bind fun _ _ => ?_
  refine (reads_relationship _ _).bind fun giving held => ?_
  refine (reads_relationship _ _).bind fun taking held' => ?_
  refine (reads_ensure _ _).bind fun _ _ => ?_
  refine (reads_shifted _ _ _).bind fun givingBalance debited => ?_
  refine (reads_shifted _ _ _).bind fun takingBalance credited => ?_
  have owner : world.ownerOf? address leg.serial = some leg.sender := by
    rw [World.ownerOf?_of_nft piece]
    simpa using owns
  have givingOwn := books.filed.relationship held
  have takingOwn := books.filed.relationship held'
  have debited : (givingBalance.toNat : Int) = giving.balance.toNat - 1 := debited
  have credited : (takingBalance.toNat : Int) = taking.balance.toNat + 1 := credited
  have givingUnits := World.units_of_relationship held
  have takingUnits := World.units_of_relationship held'
  rw [World.unitsOf_some] at givingUnits takingUnits
  have about := (PiecesOffBy.keptByAlike (surplusAfter surplus address leg) excess).about
  refine ((yields_setBalance_pieces leg.serial (some leg.sender) givingOwn givingBalance
    fun other => (world.units other address : Int)).at_state
      ⟨books, owner, fun _ => rfl⟩).bind fun _ => ?_
  refine (yields_setBalance_pieces leg.serial (some leg.sender) takingOwn takingBalance
    _).bind fun _ => ?_
  refine Yields.bind
    (?_ : Yields _ (change _) fun _ => PiecesOffBy (surplusAfter surplus address leg) excess)
    fun _ => ?_
  · refine yields_change fun world ⟨books, owner, _⟩ => ?_
    refine (books.putNft address leg.serial _).alike fun _ _ => ⟨fun account => ?_, ?_⟩
    · rw [owner]
      simp only [surplusAfter, Option.map_some, Option.some.injEq]
      rename_i place _ _ _
      -- the second balance was read before the first was written
      by_cases itself : leg.receiver = leg.sender
      · rw [itself] at takingUnits ⊢
        by_cases here : place = address ∧ account = leg.sender
        · simp [here]
          omega
        · simp [here]
      · by_cases here : place = address
        · by_cases gives : account = leg.sender
          · simp [here, gives, itself, Ne.symm itself]
            omega
          · by_cases takes : account = leg.receiver
            · simp [here, takes, itself, Ne.symm itself]
              omega
            · simp [gives, takes, Ne.symm gives, Ne.symm takes]
        · simp [here]
    · rw [owner]
      simp
  · refine (yields_adjust about _ _).bind fun _ => ?_
    exact yields_adjust about _ _

/-- The surplus after pieces of one token have moved one after the other. -/
theorem yields_pieceLegs
    (address spender : Address)
    (token : Token)
    (legs : List NftTransfer)
    (surplus : Address → Address → Int) :
    Yields (PiecesOffBy surplus excess)
      (legs.forM fun leg => do
        ensure token.isNonFungible .invalidTransactionBody
        movePiece address spender leg)
      fun _ =>
        PiecesOffBy (legs.foldl (fun surplus leg => surplusAfter surplus address leg) surplus)
          excess := by
  induction legs generalizing surplus with
  | nil =>
      exact Ensures.pure fun _ => id
  | cons leg rest inductionHypothesis =>
      refine Yields.bind ?_ fun _ => inductionHypothesis (surplusAfter surplus address leg)
      refine (Yields.of_keeps (keeps_ensure _ _)).bind fun _ => ?_
      exact yields_movePiece_pieces address spender leg

/-- A leg of a token without pieces leaves the books of pieces alone. -/
theorem yields_applyLeg_pieces
    (address spender : Address)
    {token : Token}
    (fungible : token.isNonFungible = false)
    (leg : AccountAmount) :
    Yields
      (fun world =>
        world.PiecesOffBy surplus excess ∧ world.token address = .ok (some token))
      (applyLeg address spender leg)
      fun _ world =>
        world.PiecesOffBy surplus excess ∧ world.token address = .ok (some token) := by
  have about : IsAboutEntries fun world =>
      world.PiecesOffBy surplus excess ∧ world.token address = .ok (some token) :=
    fun _ _ same ⟨books, known⟩ => ⟨books.congr same, (same.token address).trans known⟩
  refine Yields.of_each fun world books => ?_
  refine (reads_relationship leg.account address).bind fun holding held => ?_
  have own := (books.1.filed.relationship held).2
  refine (reads_ensure _ _).bind fun _ _ => ?_
  refine (reads_ensure _ _).bind fun _ _ => ?_
  have settled :
      Yields
        (fun world =>
          world.PiecesOffBy surplus excess ∧ world.token address = .ok (some token))
        (do
          let balance ← shifted holding.balance leg.amount .insufficientTokenBalance
          setBalance holding balance)
        fun _ world =>
          world.PiecesOffBy surplus excess ∧ world.token address = .ok (some token) := by
    refine (Yields.of_keeps (keeps_shifted _ _ _)).bind fun balance => ?_
    exact yields_setBalance_of_fungible fungible own balance
  dsimp only
  split
  · have spent := (yields_spendAllowance about address spender leg).bind fun _ => settled
    exact spent.at_state books
  · exact settled.at_state books

theorem yields_transferToken_pieces
    (spender : Address)
    (list : TokenTransfers)
    (surplus : Address → Address → Int) :
    Yields (PiecesOffBy surplus excess) (transferToken spender list) fun _ =>
      PiecesOffBy
        (list.nftTransfers.foldl (fun surplus leg => surplusAfter surplus list.token leg)
          surplus)
        excess := by
  refine Yields.of_each fun world books => ?_
  refine (reads_liveToken list.token).bind fun token ⟨found, _⟩ => ?_
  have moves
      (applied :
        Yields (· = world) (list.transfers.forM (applyLeg list.token spender))
          fun _ => PiecesOffBy surplus excess) :
      Yields (· = world)
        (do
          list.transfers.forM (applyLeg list.token spender)
          list.nftTransfers.forM fun leg => do
            ensure token.isNonFungible .invalidTransactionBody
            movePiece list.token spender leg)
        fun _ =>
          PiecesOffBy
            (list.nftTransfers.foldl (fun surplus leg => surplusAfter surplus list.token leg)
              surplus)
            excess :=
    applied.bind fun _ => yields_pieceLegs list.token spender token list.nftTransfers surplus
  dsimp only
  split
  · refine (reads_ensure _ _).bind fun _ fungible => ?_
    refine (reads_ensure _ _).bind fun _ _ => ?_
    have fungible : token.isNonFungible = false := by simpa using fungible
    have applied :
        Yields
          (fun world =>
            world.PiecesOffBy surplus excess ∧ world.token list.token = .ok (some token))
          (list.transfers.forM (applyLeg list.token spender))
          fun _ world =>
            world.PiecesOffBy surplus excess ∧ world.token list.token = .ok (some token) :=
      Yields.forM_kept (yields_applyLeg_pieces list.token spender fungible) list.transfers
    exact moves ((applied.imp (fun _ => id) fun _ _ books => books.1).at_state
      ⟨books, found⟩)
  · rename_i empty
    have empty : list.transfers = [] := by simpa using empty
    refine moves ?_
    rw [empty]
    exact Ensures.pure fun _ same => same ▸ books

/-- How often a transfer moves a piece of a token from an account to itself. -/
def selfMoves (lists : List TokenTransfers) (address account : Address) : Nat :=
  (lists.map fun list =>
    if address = list.token then
      list.nftTransfers.countP fun leg => leg.sender = account ∧ leg.receiver = account
    else
      0).sum

theorem selfMoves_eq_zero_iff
    {lists : List TokenTransfers}
    {address account : Address} :
    selfMoves lists address account = 0 ↔
      ∀ list ∈ lists, list.token = address →
        ∀ leg ∈ list.nftTransfers, ¬ (leg.sender = account ∧ leg.receiver = account) := by
  simp only [selfMoves, List.sum_eq_zero_iff, List.forall_mem_map, ite_eq_right_iff,
    List.countP_eq_zero, decide_eq_true_eq, eq_comm (a := address)]

theorem foldl_surplusAfter
    (address : Address)
    (legs : List NftTransfer)
    (surplus : Address → Address → Int)
    (address' account : Address) :
    legs.foldl (fun surplus leg => surplusAfter surplus address leg) surplus address' account =
      surplus address' account +
        if address' = address then
          ((legs.countP fun leg => leg.sender = account ∧ leg.receiver = account : Nat) : Int)
        else
          0 := by
  induction legs generalizing surplus with
  | nil =>
      simp
  | cons leg rest inductionHypothesis =>
      rw [List.foldl_cons, inductionHypothesis, List.countP_cons]
      simp only [surplusAfter, eq_comm (a := account)]
      by_cases here : address' = address
      · by_cases itself : leg.sender = account ∧ leg.receiver = account
        · simp [here, itself]
          omega
        · simp [here, itself]
      · simp [here]

theorem yields_transferTokens_pieces
    (spender : Address)
    (lists : List TokenTransfers)
    (surplus : Address → Address → Int) :
    Yields (PiecesOffBy surplus excess) (lists.forM (transferToken spender)) fun _ =>
      PiecesOffBy
        (fun address account => surplus address account + selfMoves lists address account)
        excess := by
  induction lists generalizing surplus with
  | nil =>
      simp only [selfMoves, List.map_nil, List.sum_nil, Int.natCast_zero, Int.add_zero]
      exact Ensures.pure fun _ => id
  | cons list rest inductionHypothesis =>
      refine (yields_transferToken_pieces spender list surplus).bind fun _ => ?_
      refine (inductionHypothesis _).imp (fun _ => id) fun _ world books => ?_
      refine books.alike fun {address _} _ _ => ⟨fun account => ?_, rfl⟩
      rw [foldl_surplusAfter]
      simp only [selfMoves, List.map_cons, List.sum_cons]
      split <;> omega

end TokenAction

end LedgerEvm
