import LedgerEvm.Proofs.TokenService.PieceSupply

namespace LedgerEvm

/-!
# Dispatched calls and the books of numbered pieces

Every call that is dispatched to the token service or to a token leaves the books of
numbered pieces in order, with two exceptions: a piece that is moved to the account that
has it, and pieces that are minted under serial numbers that are taken.
-/

namespace CryptoTransfer

/-- The transfer moves a piece from an account to the same account. -/
def MovesInPlace (transfer : CryptoTransfer) (world : World) : Prop :=
  ∃ list ∈ transfer.tokenTransfers,
    ∃ token,
      world.token list.token = .ok (some token) ∧
        token.IsLiveNonFungible ∧ ∃ leg ∈ list.nftTransfers, leg.sender = leg.receiver

end CryptoTransfer

namespace TransactionBody

/-- The transaction spoils the books of numbered pieces when it succeeds. -/
def SpoilsPieces (world : World) : TransactionBody → Prop
  | .cryptoTransfer transfer => transfer.MovesInPlace world
  | .tokenMint mint => mint.Overwrites world
  | _ => False

/-- A token that the transaction creates is held in amounts. -/
def CreatesFungible : TransactionBody → Prop
  | .tokenCreate creation => creation.kind = .fungible
  | _ => True

theorem spoilsPieces_congr
    {world after : World}
    (same : World.SameEntries world after)
    (body : TransactionBody) :
    body.SpoilsPieces after ↔ body.SpoilsPieces world := by
  cases body with
  | cryptoTransfer transfer =>
      simp only [SpoilsPieces, CryptoTransfer.MovesInPlace, same.token]
  | tokenMint mint =>
      simp only [SpoilsPieces, TokenMint.Overwrites, same.token,
        fun serial => World.ownerOf?_congr (same.nft mint.token serial)]
  | _ =>
      exact Iff.rfl

end TransactionBody

namespace TokenFunction

/-- Only fungible tokens are created by a call. -/
theorem createsFungible_of_readCall
    {function : TokenFunction}
    {input : Bytes}
    {setting : CallSetting}
    {sender : Address}
    {body : TransactionBody}
    {kind : OperationKind}
    (read : function.readCall input setting sender = .ok (.write body kind)) :
    body.CreatesFungible := by
  cases function with
  | createFungibleToken =>
      obtain ⟨creation, found, done⟩ := exists_of_bind_eq_ok read
      cases done
      refine ValueReader.of_readFrom
        (?_ : ValueReader.Returns _ fun made => made.kind = .fungible) found
      refine ValueReader.returns_bind _ fun name => ?_
      refine ValueReader.returns_bind _ fun symbol => ?_
      refine ValueReader.returns_bind _ fun treasury => ?_
      refine ValueReader.returns_bind _ fun initialSupply => ?_
      refine ValueReader.returns_bind _ fun decimals => ?_
      split
      · exact ValueReader.returns_pure rfl
      · exact ValueReader.returns_throw _
  | ercTransfer | ercTransferFrom =>
      cases setting with
      | transfer setting =>
          obtain ⟨_, _, done⟩ := exists_of_bind_eq_ok read
          cases done
          trivial
      | _ => cases read
  | ercApprove =>
      cases setting with
      | approval setting =>
          obtain ⟨_, _, done⟩ := exists_of_bind_eq_ok read
          cases done
          trivial
      | _ => cases read
  | ercGetApproved =>
      cases setting with
      | approval setting =>
          obtain ⟨_, _, done⟩ := exists_of_bind_eq_ok read
          cases done
      | _ => cases read
  | getApproved =>
      obtain ⟨_, _, done⟩ := exists_of_bind_eq_ok read
      cases done
  | _ =>
      obtain ⟨_, _, done⟩ := exists_of_bind_eq_ok read
      cases done
      trivial

end TokenFunction

namespace TokenAction

open World (PiecesOffBy PieceBooksUnless SameEntries)

variable
  {world : World}
  {surplus : Address → Address → Int}
  {excess : Address → Int}

/-! ## Approvals -/

/-- An approved piece stays with its owner. -/
theorem yields_approvePiece_pieces
    (allowance : NftAllowance)
    (serial : Int64) :
    Yields (PiecesOffBy surplus excess) (approvePiece allowance serial)
      fun _ => PiecesOffBy surplus excess := by
  refine Yields.of_each fun world books => ?_
  refine (reads_piece _ _).bind fun found piece => ?_
  refine (reads_ensure _ _).bind fun _ _ => ?_
  refine yields_change fun after same => ?_
  subst after
  refine (books.putNft _ _ _).alike fun _ _ => ⟨fun account => ?_, ?_⟩
  · rw [World.ownerOf?_of_nft piece]
    simp
  · rw [World.ownerOf?_of_nft piece]
    simp

theorem yields_approve_pieces
    (approval : ApproveAllowance) :
    Yields (PiecesOffBy surplus excess) (approve approval)
      fun _ => PiecesOffBy surplus excess := by
  have about := (PiecesOffBy.keptByAlike surplus excess).about
  refine Yields.bind (Yields.forM_kept (fun allowance => ?_) _) fun _ =>
    Yields.forM_kept (fun allowance => ?_) _
  · refine Yields.of_keeps ?_
    refine (keeps_ensureAccount _ _).bind fun _ => ?_
    refine (keeps_ensureAccount _ _).bind fun _ => ?_
    refine (keeps_liveToken _).bind fun token => ?_
    refine (keeps_ensure _ _).bind fun _ => ?_
    refine (keeps_relationship _ _).bind fun _ => ?_
    exact keeps_change fun _ => about (.record _ (fun _ => rfl) (fun _ => rfl) fun _ => rfl)
  · refine (Yields.of_keeps (keeps_ensureAccount _ _)).bind fun _ => ?_
    dsimp only
    have granted (token : Token) :
        Yields (PiecesOffBy surplus excess)
          (do
            ensure token.isNonFungible .invalidTokenId
            allowance.serials.forM (approvePiece allowance))
          fun _ => PiecesOffBy surplus excess := by
      refine (Yields.of_keeps (keeps_ensure _ _)).bind fun _ => ?_
      exact Yields.forM_kept (yields_approvePiece_pieces allowance) allowance.serials
    split
    · refine (Yields.of_keeps (keeps_ensureAccount _ _)).bind fun _ => ?_
      exact (Yields.of_keeps (keeps_liveToken _)).bind granted
    · exact (Yields.of_keeps (keeps_liveToken _)).bind granted

/-! ## Creations -/

/-- A token that is held in amounts has no pieces. -/
theorem yields_create_pieces
    (creation : TokenCreate)
    (fungible : creation.kind = .fungible)
    (sponsor : Address) :
    Yields (PiecesOffBy surplus excess) (create creation sponsor)
      fun _ => PiecesOffBy surplus excess := by
  have about := (PiecesOffBy.keptByAlike surplus excess).about
  refine (Yields.of_keeps (keeps_ensureAccount _ _)).bind fun _ => ?_
  refine (Yields.of_keeps (keeps_ensure _ _)).bind fun _ => ?_
  refine (yields_freshAddress (fun _ => about (.nextNum _ _)) sponsor).bind fun address => ?_
  let token : Token :=
    { address
      kind := creation.kind
      treasury := creation.treasury
      totalSupply := creation.initialSupply
      decimals := creation.decimals
      name := creation.name
      symbol := creation.symbol
      hasSupplyKey := creation.supplyKey }
  have amounts : ¬ token.IsLiveNonFungible := by
    intro live
    have pieces : (creation.kind == .nonFungible) = true := live.1
    rw [fungible] at pieces
    cases pieces
  have issued :
      Yields (fun world => world.PiecesOffBy surplus excess ∧ world.isFree address = .ok true)
        (change fun world => world.putToken token)
        fun _ world =>
          world.PiecesOffBy surplus excess ∧ world.token address = .ok (some token) := by
    refine yields_change fun world ⟨books, _⟩ => ⟨?_, ?_⟩
    · exact books.putToken (fun live => (amounts live).elim) (fun live => (amounts live).elim)
        fun _ => rfl
    · exact World.token_putToken_self books.isOpen token
  have held :
      Yields
        (fun world =>
          world.PiecesOffBy surplus excess ∧ world.token address = .ok (some token))
        (change fun world =>
          world.putRelationship creation.treasury address
            (some
              { account := creation.treasury
                token := address
                balance := creation.initialSupply
                kycGranted := true }))
        fun _ => PiecesOffBy surplus excess := by
    refine yields_change fun world ⟨books, known⟩ => ?_
    have written := books.putRelationship (World.own_of_mem_some
      { account := creation.treasury
        token := address
        balance := creation.initialSupply
        kycGranted := true })
    refine written.alike fun {address' found} read live => ⟨fun account => ?_, rfl⟩
    rw [World.token_putRelationship] at read
    have elsewhere : address' ≠ address := by
      rintro rfl
      have same : token = found := Option.some.inj (Except.ok.inj (known.symm.trans read))
      exact amounts (same ▸ live)
    rw [if_neg fun here => elsewhere here.1, Int.add_zero]
  refine issued.bind fun _ => ?_
  refine held.bind fun _ => ?_
  exact (yields_adjust about _ _).bind fun _ => Ensures.pure fun _ => id

/-! ## Transfers -/

/-- A transfer leaves the books in order unless it moves a piece in place. -/
theorem yields_transfer_pieces
    (transfer : CryptoTransfer)
    (noCurrency : transfer.MovesNoCurrency)
    (spender : Address)
    (books : world.PiecesOffBy (fun _ _ => 0) fun _ => 0) :
    Yields (· = world) (TokenAction.transfer transfer spender)
      fun _ => PieceBooksUnless (transfer.MovesInPlace world) := by
  have moved :
      Yields (PiecesOffBy (fun _ _ => 0) fun _ => 0) (TokenAction.transfer transfer spender)
        fun _ =>
          PiecesOffBy
            (fun address account => 0 + selfMoves transfer.tokenTransfers address account)
            fun _ => 0 := by
    have about := (PiecesOffBy.keptByAlike (fun _ _ => 0) fun _ => 0).about
    refine (yields_transferCurrency about _).bind fun _ => ?_
    exact yields_transferTokens_pieces spender transfer.tokenTransfers _
  have sameTokens :
      Yields (fun after => ∀ address, after.token address = world.token address)
        (TokenAction.transfer transfer spender)
        fun _ after => ∀ address, after.token address = world.token address := by
    refine Yields.all fun address => ?_
    exact (Yields.of_keeps ((keptByHoldings_token address _).transfer noCurrency spender)).imp
      (fun _ same => same address) fun _ _ => id
  refine ((moved.and sameTokens).at_state ⟨books, fun _ => rfl⟩).imp (fun _ => id) ?_
  intro _ after ⟨books, same⟩
  refine ⟨books.isOpen, books.filed, ?_⟩
  rw [books.pieceBooks_iff]
  constructor
  · rintro nothing ⟨list, member, token, found, live, leg, legMember, inPlace⟩
    have none := (nothing ((same _).trans found) live).1 leg.sender
    have none : selfMoves transfer.tokenTransfers list.token leg.sender = 0 := by omega
    exact selfMoves_eq_zero_iff.mp none list member rfl leg legMember ⟨rfl, inPlace.symm⟩
  · intro moves address token found live
    refine ⟨fun account => ?_, rfl⟩
    rw [same] at found
    have none : selfMoves transfer.tokenTransfers address account = 0 := by
      refine selfMoves_eq_zero_iff.mpr fun list member here leg legMember inPlace => moves ?_
      subst here
      exact ⟨list, member, token, found, live, leg, legMember,
        inPlace.1.trans inPlace.2.symm⟩
    omega

/-! ## Transactions -/

/-- Every transaction that a call may be read into leaves the books unless it spoils them. -/
theorem yields_run_pieces
    {body : TransactionBody}
    (noCurrency : body.MovesNoCurrency)
    (fungible : body.CreatesFungible)
    (sender : Address)
    (isOpen : world.IsOpen)
    (filed : world.IsFiled)
    (books : world.PieceBooks) :
    Yields (· = world) (run body sender)
      fun _ => PieceBooksUnless (body.SpoilsPieces world) := by
  have balanced := PiecesOffBy.nothing_iff.mpr ⟨isOpen, filed, books⟩
  have inOrder {α : Type} {action : TokenAction α} {answer : α → TokenResult}
      (yields :
        Yields (PiecesOffBy (fun _ _ => 0) fun _ => 0) action
          fun _ => PiecesOffBy (fun _ _ => 0) fun _ => 0) :
      Yields (· = world) (action >>= fun result => pure (answer result))
        fun _ => PieceBooksUnless False := by
    refine (yields.at_state balanced).bind fun _ => Ensures.pure fun after books => ?_
    obtain ⟨isOpen, filed, books⟩ := PiecesOffBy.nothing_iff.mp books
    exact .of_inOrder isOpen filed books id
  have alike := PiecesOffBy.keptByAlike (fun _ _ => 0) fun _ => 0
  cases body with
  | tokenAssociateToAccount relations =>
      exact inOrder (alike.yields_associate relations)
  | tokenDissociateFromAccount relations =>
      exact inOrder (alike.yields_dissociate relations)
  | tokenMint mint =>
      exact (yields_mint_pieces mint isOpen filed books).bind fun _ =>
        Ensures.pure fun _ => id
  | tokenBurn burn =>
      exact inOrder (yields_burn_pieces burn)
  | tokenAccountWipe wipe =>
      exact inOrder (yields_wipe_pieces wipe)
  | cryptoTransfer transfer =>
      exact (yields_transfer_pieces transfer noCurrency sender balanced).bind fun _ =>
        Ensures.pure fun _ => id
  | cryptoApproveAllowance approval =>
      exact inOrder (yields_approve_pieces approval)
  | tokenCreate creation =>
      exact inOrder (yields_create_pieces creation fungible sender)
  | _ =>
      exact fun _ _ => trivial

/--
A transaction in a frame of its own leaves the books unless it spoils them; one that fails
leaves all entries as they were.
-/
theorem ensures_framed_pieces
    {body : TransactionBody}
    (noCurrency : body.MovesNoCurrency)
    (fungible : body.CreatesFungible)
    (sender : Address)
    (isOpen : world.IsOpen)
    (filed : world.IsFiled)
    (books : world.PieceBooks) :
    Ensures (· = world) (run body sender).framed
      (fun _ => PieceBooksUnless (body.SpoilsPieces world))
      fun _ => SameEntries world := by
  intro start same
  subst start
  have below := keeps_run_sameBelow world.push body sender
  have pushed := SameEntries.push world
  cases ran : run body sender world.push with
  | error error inner =>
      obtain ⟨failed, same⟩ := framed_of_error below ran
      rw [failed]
      exact same
  | ok answer inner =>
      obtain ⟨succeeded, same⟩ := framed_of_ok below isOpen ran
      rw [succeeded]
      have inside : inner.PieceBooksUnless (body.SpoilsPieces world.push) :=
        Ensures.of_ok
          (yields_run_pieces noCurrency fungible sender (pushed.isOpen isOpen)
            (filed.congr pushed.toSameHoldings) (books.congr pushed)) ran rfl
      exact (inside.congr same).iff (TransactionBody.spoilsPieces_congr pushed body).symm

end TokenAction

namespace DispatchedCall

open World (PieceBooksUnless SameEntries)

variable {world : World}

/-- The call is answered and spoils the books of numbered pieces on the way. -/
def Spoils (dispatched : DispatchedCall) (world : World) : Prop :=
  (∃ answer after, dispatched.answer world = .ok answer after) ∧
    ∃ body ∈ dispatched.body? world, body.SpoilsPieces world

/-- What the call leaves of the books when it is answered, and of the entries when it fails. -/
theorem ensures_answer_pieces
    (dispatched : DispatchedCall)
    (isOpen : world.IsOpen)
    (filed : world.IsFiled)
    (books : world.PieceBooks) :
    Ensures (· = world) dispatched.answer
      (fun _ => PieceBooksUnless (∃ body ∈ dispatched.body? world, body.SpoilsPieces world))
      fun _ => SameEntries world := by
  refine dispatched.ensures_answer (.refl world) (fun unread => ?_) fun body member => ?_
  · refine .of_inOrder isOpen filed books ?_
    rintro ⟨body, member, _⟩
    rw [unread] at member
    cases member
  · obtain ⟨function, setting, kind, called, read⟩ := exists_of_mem_body? member
    have noCurrency := (TokenFunction.reads_of_readCall read).2
    have fungible := TokenFunction.createsFungible_of_readCall read
    refine (TokenAction.ensures_framed_pieces noCurrency fungible _ isOpen filed books).imp
      (fun _ => id) (fun _ _ kept => kept.iff ?_) fun _ _ => id
    constructor
    · rintro ⟨other, among, spoils⟩
      cases Option.mem_unique among member
      exact spoils
    · exact fun spoils => ⟨body, member, spoils⟩

/-- After the call the books are in order unless the call has spoiled them. -/
theorem pieceBooks_answer
    (dispatched : DispatchedCall)
    (isOpen : world.IsOpen)
    (filed : world.IsFiled)
    (books : world.PieceBooks) :
    (leaves dispatched.answer world).PieceBooksUnless (dispatched.Spoils world) := by
  have answered := dispatched.ensures_answer_pieces isOpen filed books
  unfold leaves
  cases ran : dispatched.answer world with
  | ok answer after =>
      refine (Ensures.of_ok answered ran rfl).iff ?_
      exact and_iff_right ⟨answer, after, ran⟩
  | error error after =>
      have same : SameEntries world after := Ensures.of_error answered ran rfl
      refine .of_inOrder (same.isOpen isOpen) (filed.congr same.toSameHoldings)
        (books.congr same) ?_
      rintro ⟨⟨answer, after, succeeded⟩, _⟩
      cases ran.symm.trans succeeded

end DispatchedCall

/-! ## A ledger with one piece -/

/-- Accounts associated with a token, the last of which owns its only piece. -/
def Snapshot.Contents.ofPiece
    (token : Token)
    (piece : Nft)
    (others : List Address) :
    Snapshot.Contents :=
  let accounts := others ++ [piece.owner]
  { accounts := Table.ofList (accounts.map fun address => (address, { address }))
    tokens := Table.ofList ([token].map fun token => (token.address, token))
    relationships :=
      Table.ofList
        ((accounts.map holdingOf).map fun holding =>
          (⟨holding.account, holding.token⟩, holding))
    nfts := Table.ofList [(⟨piece.token, piece.serial⟩, piece)] }
where
  /-- What an account holds: one unit when it owns the piece. -/
  holdingOf (account : Address) : Relationship :=
    { account
      token := token.address
      balance := if account = piece.owner then 1 else 0
      kycGranted := true }

namespace Snapshot.Contents

variable
  (token : Token)
  (piece : Nft)
  (others : List Address)

theorem get?_tokens_ofPiece
    (address : Address) :
    (ofPiece token piece others).tokens.get? address =
      if address = token.address then some token else none := by
  simp only [ofPiece, List.map_cons, List.map_nil, Table.ofList, List.foldl_cons,
    List.foldl_nil, Table.get?_insert, Table.get?_empty]

theorem get?_nfts_ofPiece
    (address : Address)
    (serial : Int64) :
    (ofPiece token piece others).nfts.get? ⟨address, serial⟩ =
      if address = piece.token ∧ serial = piece.serial then some piece else none := by
  simp only [ofPiece, Table.ofList, List.foldl_cons, List.foldl_nil, Table.get?_insert,
    Table.get?_empty, NftId.mk.injEq]

theorem unitsOf_get?_relationships_ofPiece
    (account address : Address) :
    World.unitsOf ((ofPiece token piece others).relationships.get? ⟨account, address⟩) =
      if address = token.address ∧ account = piece.owner then 1 else 0 := by
  cases found : (ofPiece token piece others).relationships.get? ⟨account, address⟩ with
  | some holding =>
      obtain ⟨listed, key⟩ := Table.key_eq_of_get?_ofList
        (fun holding : Relationship => (⟨holding.account, holding.token⟩ : Holding)) _ found
      obtain ⟨account', _, rfl⟩ := List.mem_map.mp listed
      obtain rfl : account' = account := congrArg Holding.account key
      obtain rfl : token.address = address := congrArg Holding.token key
      rw [World.unitsOf_some]
      simp only [ofPiece.holdingOf, true_and]
      split <;> rfl
  | none =>
      rw [World.unitsOf_none, if_neg]
      rintro ⟨rfl, rfl⟩
      simp [ofPiece, ofPiece.holdingOf, Table.ofList] at found

end Snapshot.Contents

namespace World

/-- A single piece is in order when the supply counts it. -/
theorem pieceBooks_ofPiece
    {token : Token}
    {piece : Nft}
    (own : piece.token = token.address)
    (counted : token.totalSupply = 1)
    (others : List Address)
    (redirectsTokenCalls : Bool)
    (timestamp : Timestamp)
    (firstNum : UInt64) :
    let world :=
      (World.ofSnapshot (.ofContents (.ofPiece token piece others)) redirectsTokenCalls
        timestamp firstNum).push
    world.IsOpen ∧ world.IsFiled ∧ world.PieceBooks := by
  intro world
  have filed : world.IsFiled :=
    (IsFiled.ofContents (.ofPiece token piece others) [token]
      ((others ++ [piece.owner]).map (Snapshot.Contents.ofPiece.holdingOf token piece)) rfl rfl
      redirectsTokenCalls timestamp firstNum).congr (SameEntries.push _).toSameHoldings
  have tokens (address : Address) :
      world.token address = .ok (if address = token.address then some token else none) :=
    congrArg Except.ok (Snapshot.Contents.get?_tokens_ofPiece token piece others address)
  have owners (serial : Int64) :
      world.ownerOf? token.address serial =
        if serial = piece.serial then some piece.owner else none := by
    have read :
        world.nft token.address serial =
          .ok (if token.address = piece.token ∧ serial = piece.serial then some piece
            else none) :=
      congrArg Except.ok
        (Snapshot.Contents.get?_nfts_ofPiece token piece others token.address serial)
    simp only [ownerOf?_of_nft read, Option.map_if, own, true_and]
  have units (account : Address) :
      world.units account token.address = if account = piece.owner then 1 else 0 := by
    have read :
        world.relationship account token.address =
          .ok ((Snapshot.Contents.ofPiece token piece others).relationships.get?
            ⟨account, token.address⟩) :=
      rfl
    rw [units_of_relationship read,
      Snapshot.Contents.unitsOf_get?_relationships_ofPiece]
    simp only [true_and]
  have owned (account : Address) :
      world.owned token.address account = if account = piece.owner then 1 else 0 := by
    simp only [World.owned, owners]
    split
    · rename_i owns
      simp [owns]
    · rename_i foreign
      simp [Ne.symm foreign]
  have existing : world.existing token.address = 1 := by
    simp only [World.existing, owners]
    simp
  refine ⟨isOpen_push _, filed, ?_, ?_⟩
  · intro address found read _ account
    rw [tokens] at read
    split at read
    · rename_i here
      rw [here, units, owned]
    · cases read
  · intro address found read _
    rw [tokens] at read
    split at read
    · rename_i here
      cases read
      rw [here, existing, counted]
      rfl
    · cases read

/-! ## Lists of calls -/

variable {world : World}

/-- Answer calls one after the other. -/
def answerAll (world : World) (calls : List DispatchedCall) : World :=
  calls.foldl (fun world dispatched => leaves dispatched.answer world) world

theorem not_pieceBooks_of_spoils
    {dispatched : DispatchedCall}
    (isOpen : world.IsOpen)
    (filed : world.IsFiled)
    (books : world.PieceBooks)
    (spoils : dispatched.Spoils world) :
    ¬ (world.answerAll [dispatched]).PieceBooks :=
  fun inOrder =>
    (dispatched.pieceBooks_answer isOpen filed books).inOrder_iff.mp inOrder spoils

/-- No call spoils the books of numbered pieces when its turn comes. -/
def SparesPieces (world : World) : List DispatchedCall → Prop
  | [] => True
  | dispatched :: rest =>
      ¬ dispatched.Spoils world ∧ (leaves dispatched.answer world).SparesPieces rest

/--
The books of numbered pieces are in order all along a list of dispatched calls exactly
when no call moves a piece in place or mints over pieces that are there.
-/
theorem pieceBooks_along_calls_iff
    (calls : List DispatchedCall)
    (isOpen : world.IsOpen)
    (filed : world.IsFiled)
    (books : world.PieceBooks) :
    (∀ count, (world.answerAll (calls.take count)).PieceBooks) ↔ world.SparesPieces calls := by
  induction calls generalizing world with
  | nil =>
      simp [answerAll, SparesPieces, books]
  | cons dispatched rest inductionHypothesis =>
      have answered := dispatched.pieceBooks_answer isOpen filed books
      constructor
      · intro inOrder
        have first : (leaves dispatched.answer world).PieceBooks := inOrder 1
        refine ⟨answered.inOrder_iff.mp first, ?_⟩
        rw [← inductionHypothesis answered.isOpen answered.filed first]
        intro count
        exact inOrder (count + 1)
      · rintro ⟨spares, sparesRest⟩ count
        have first := answered.inOrder_iff.mpr spares
        rw [← inductionHypothesis answered.isOpen answered.filed first] at sparesRest
        cases count with
        | zero =>
            exact books
        | succ count =>
            exact sparesRest count

/--
Two accounts hand the only piece of a token to each other; every call is answered, and the
books are in order after each.
-/
theorem handing_over_keeps_pieceBooks :
    let one := Address.ofNum 1001
    let other := Address.ofNum 1002
    let token : Token :=
      { address := Address.ofNum 2001, kind := .nonFungible, treasury := one
        totalSupply := 1, lastUsedSerial := 1 }
    let piece : Nft :=
      { token := token.address, serial := 1, owner := one, spender := Address.zero
        metadata := [] }
    let contents := Snapshot.Contents.ofPiece token piece [other]
    let world := (World.ofSnapshot (.ofContents contents) false ⟨0⟩ 5000).push
    let source : PriceSource :=
      { schedule := FeeSchedule.empty.list ⟨0⟩ [.cryptoTransfer, .contractCall] { }
        rates := RateTable.empty.list ⟨0⟩ (.lasting 1 12) }
    let handOver (sender receiver : Address) : DispatchedCall :=
      { call := ⟨sender, ⟨0⟩, 10000000, false⟩
        source
        token? := some token.address
        input :=
          AbiValue.encodeCall TokenFunction.ercTransfer.selector [.address receiver, .uint 1] }
    let calls := [handOver one other, handOver other one]
    world.IsOpen ∧ world.IsFiled ∧ world.PieceBooks ∧
      (world.answerAll (calls.take 1)).nft token.address 1 =
        .ok (some { piece with owner := other }) ∧
      (world.answerAll calls).nft token.address 1 = .ok (some piece) ∧
      ∀ count, (world.answerAll (calls.take count)).PieceBooks := by
  intro one other token piece contents world source handOver calls
  obtain ⟨isOpen, filed, books⟩ :=
    (pieceBooks_ofPiece rfl rfl [other] false ⟨0⟩ 5000 :
      world.IsOpen ∧ world.IsFiled ∧ world.PieceBooks)
  have spares : world.SparesPieces calls := by
    have notInPlace {dispatched : DispatchedCall} {start : World} {sender receiver : Address}
        (different : sender ≠ receiver)
        (read :
          dispatched.body? start =
            some (.cryptoTransfer (.piece token.address sender receiver 1 false))) :
        ¬ dispatched.Spoils start := by
      rintro ⟨_, body, member, spoils⟩
      cases read.symm.trans member
      simp [TransactionBody.SpoilsPieces, CryptoTransfer.MovesInPlace, CryptoTransfer.piece,
        CryptoTransfer.ofToken, different] at spoils
    refine ⟨?_, ?_, trivial⟩
    · have different : one ≠ other := by decide
      refine notInPlace different ?_
      decide +kernel
    · have different : other ≠ one := by decide
      refine notInPlace different ?_
      decide +kernel
  refine ⟨isOpen, filed, books, ?_, ?_, ?_⟩
  · decide +kernel
  · decide +kernel
  · exact (pieceBooks_along_calls_iff calls isOpen filed books).mpr spares

/--
The books are spoiled by the owner of the only piece who hands it to itself: afterwards
its balance says two.
-/
theorem handing_in_place_spoils_pieceBooks :
    let owner := Address.ofNum 1001
    let token : Token :=
      { address := Address.ofNum 2001, kind := .nonFungible, treasury := owner
        totalSupply := 1, lastUsedSerial := 1 }
    let piece : Nft :=
      { token := token.address, serial := 1, owner, spender := Address.zero, metadata := [] }
    let contents := Snapshot.Contents.ofPiece token piece []
    let world := (World.ofSnapshot (.ofContents contents) false ⟨0⟩ 5000).push
    let source : PriceSource :=
      { schedule := FeeSchedule.empty.list ⟨0⟩ [.cryptoTransfer, .contractCall] { }
        rates := RateTable.empty.list ⟨0⟩ (.lasting 1 12) }
    let call : DispatchedCall :=
      { call := ⟨owner, ⟨0⟩, 10000000, false⟩
        source
        token? := some token.address
        input :=
          AbiValue.encodeCall TokenFunction.ercTransferFrom.selector
            [.address owner, .address owner, .uint 1] }
    world.PieceBooks ∧
      world.relationship owner token.address =
        .ok (some { account := owner, token := token.address, balance := 1, kycGranted := true }) ∧
      (world.answerAll [call]).relationship owner token.address =
        .ok (some { account := owner, token := token.address, balance := 2, kycGranted := true }) ∧
      (world.answerAll [call]).nft token.address 1 = .ok (some piece) ∧
      ¬ (world.answerAll [call]).PieceBooks := by
  intro owner token piece contents world source call
  obtain ⟨isOpen, filed, books⟩ :=
    (pieceBooks_ofPiece rfl rfl [] false ⟨0⟩ 5000 :
      world.IsOpen ∧ world.IsFiled ∧ world.PieceBooks)
  have inPlace :
      call.body? world =
        some (.cryptoTransfer (.piece token.address owner owner 1 false)) := by
    decide +kernel
  have answered :
      (match call.answer world with
        | .ok _ _ => true
        | .error _ _ => false) = true := by
    decide +kernel
  have spoils : call.Spoils world := by
    constructor
    · cases ran : call.answer world with
      | ok answer after => exact ⟨answer, after, rfl⟩
      | error error after =>
          rw [ran] at answered
          cases answered
    · refine ⟨_, inPlace, _, List.mem_singleton_self _, token, ?_, ⟨rfl, rfl⟩, _,
        List.mem_singleton_self _, rfl⟩
      decide +kernel
  refine ⟨books, ?_, ?_, ?_, not_pieceBooks_of_spoils isOpen filed books spoils⟩
  · decide +kernel
  · decide +kernel
  · decide +kernel

end World

end LedgerEvm
