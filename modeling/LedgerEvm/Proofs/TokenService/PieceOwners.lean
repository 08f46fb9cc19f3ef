import LedgerEvm.Proofs.TokenService.Allowances
import LedgerEvm.Proofs.TokenService.DispatchedCalls
import LedgerEvm.Proofs.TokenService.EntryWrites

namespace LedgerEvm

/-!
# Who may move a numbered piece

A dispatched call takes a piece from its owner only if the sender is the owner or the
spender that is approved for it, or if it mints a piece under the same serial number.  The
zero address stands for no spender, so that its calls move every piece without one.
-/

open World (IsAboutEntries)

namespace World

/-- The piece, if there is one, is the owner's. -/
def IsOwnPiece (owner token : Address) (serial : Int64) (world : World) : Prop :=
  ∀ {piece : Nft}, world.nft token serial = .ok (some piece) → piece.owner = owner

theorem isAboutEntries_isOwnPiece
    (owner token : Address)
    (serial : Int64) :
    IsAboutEntries (IsOwnPiece owner token serial) :=
  fun _ _ same own _ read => own ((same.nft token serial).symm.trans read)

theorem IsOwnPiece.of_nft
    {world : World}
    {token : Address}
    {serial : Int64}
    {piece : Nft}
    (found : world.nft token serial = .ok (some piece)) :
    world.IsOwnPiece piece.owner token serial := by
  intro other read
  cases found.symm.trans read
  rfl

/-- A frame is open, and the piece, if there is one, is the owner's. -/
structure StaysWith (owner token : Address) (serial : Int64) (world : World) : Prop where
  isOpen : world.IsOpen
  own : world.IsOwnPiece owner token serial

namespace StaysWith

variable
  {world : World}
  {owner token : Address}
  {serial : Int64}

theorem isAboutEntries
    (owner token : Address)
    (serial : Int64) :
    IsAboutEntries (StaysWith owner token serial) := fun _ _ same stays =>
  ⟨same.isOpen stays.isOpen, isAboutEntries_isOwnPiece owner token serial same stays.own⟩

/-- A piece that is written stays with its owner if it is another one or the owner's. -/
theorem putNft
    (stays : world.StaysWith owner token serial)
    {address : Address}
    {number : Int64}
    {entry : Option Nft}
    (own :
      address = token → number = serial → ∀ piece ∈ entry, piece.owner = owner) :
    (world.putNft address number entry).StaysWith owner token serial where
  isOpen := stays.isOpen.record _
  own {piece} read := by
    by_cases here : token = address ∧ serial = number
    · obtain ⟨rfl, rfl⟩ := here
      rw [nft_putNft_self stays.isOpen] at read
      exact own rfl rfl piece (Except.ok.inj read)
    · rw [nft_putNft_of_ne here] at read
      exact stays.own read

theorem putRelationship
    (stays : world.StaysWith owner token serial)
    (account address : Address)
    (entry : Option Relationship) :
    (world.putRelationship account address entry).StaysWith owner token serial where
  isOpen := stays.isOpen.record _
  own read := by
    rw [nft_putRelationship] at read
    exact stays.own read

theorem putToken
    (stays : world.StaysWith owner token serial)
    (entry : Token) :
    (world.putToken entry).StaysWith owner token serial where
  isOpen := stays.isOpen.record _
  own read := by
    rw [nft_putToken] at read
    exact stays.own read

/-- A piece stays with its owner whatever is written that gives it to nobody else. -/
theorem keptByEntryWrites
    (owner token : Address)
    (serial : Int64) :
    KeptByEntryWrites (StaysWith owner token serial) where
  about := isAboutEntries owner token serial
  isOpen := isOpen
  putRelationship _ _ _ stays := stays.putRelationship _ _ _
  putSupply _ stays _ := stays.putToken _
  putNew stays _ _ := stays.putToken _
  approvePiece _ stays found := by
    refine stays.putNft fun here numbered written member => ?_
    subst here numbered
    have owned := stays.own found
    obtain rfl := Option.mem_some_iff.mp member
    exact owned
  removePiece _ _ stays := stays.putNft fun _ _ _ impossible => by cases impossible

end StaysWith

end World

/-! ## Pieces that stay with their owner -/

namespace TokenAction

open World (StaysWith)

variable
  {world : World}
  {owner token : Address}
  {serial : Int64}

/-- New pieces that take no serial number away leave the piece with its owner. -/
theorem yields_putPieces_owner
    {address treasury : Address}
    {pieces : List (Int64 × Bytes)}
    (fresh : address = token → ∀ piece ∈ pieces, piece.1 ≠ serial) :
    Yields (StaysWith owner token serial) (putPieces address treasury pieces)
      fun _ => StaysWith owner token serial := by
  refine Yields.of_keeps (Keeps.forM fun piece member => keeps_change fun world stays => ?_)
  exact stays.putNft fun here taken => (fresh here piece member taken).elim

/-- A mint leaves the piece with its owner if its serial number has been used. -/
theorem yields_mint_owner
    (mint : TokenMint)
    (stays : world.StaysWith owner token serial)
    (used :
      mint.token = token →
        ∀ entry, world.token token = .ok (some entry) → serial ≤ entry.lastUsedSerial) :
    Yields (· = world) (TokenAction.mint mint) fun _ => StaysWith owner token serial := by
  refine (reads_liveToken mint.token).bind fun entry ⟨found, _⟩ => ?_
  refine (reads_ensure _ _).bind fun _ _ => ?_
  refine (reads_relationship _ _).bind fun holding _ => ?_
  refine (reads_mintedAmount entry mint).bind fun ⟨minted, serials⟩ amount => ?_
  refine (reads_require _ _).bind fun totalSupply _ => ?_
  refine (reads_ensure _ _).bind fun _ _ => ?_
  refine (reads_shifted _ _ _).bind fun balance _ => ?_
  have fresh :
      mint.token = token → ∀ piece ∈ serials.zip mint.metadata, piece.1 ≠ serial := by
    rintro rfl ⟨number, metadata⟩ member rfl
    obtain ⟨after, _⟩ :=
      (AreAnew.of_mintedAmount amount).between number (List.of_mem_zip member).1
    have after := Int64.lt_iff_toInt_lt.mp after
    have within := Int64.le_iff_toInt_le.mp (used rfl entry found)
    exact absurd after (Int.not_lt.mpr within)
  refine ((yields_putPieces_owner fresh).at_state stays).bind fun _ => ?_
  have kept := StaysWith.keptByEntryWrites owner token serial
  have settled (lastUsedSerial : Int64) :
      Yields (StaysWith owner token serial)
        (do
          change fun world => world.putToken { entry with lastUsedSerial, totalSupply }
          setBalance holding balance
          pure (SupplyChange.mk totalSupply serials))
        fun _ => StaysWith owner token serial := by
    refine (yields_change fun _ stays => stays.putToken _).bind fun _ => ?_
    exact (kept.yields_setBalance _ _).bind fun _ => Ensures.pure fun _ => id
  dsimp only
  split
  · exact (yields_adjust kept.about _ _).bind fun _ => settled _
  · exact settled _

end TokenAction

/-! ## Pieces that are moved -/

namespace CryptoTransfer

/-- Pieces are moved on approval where they are moved from another account than the caller's. -/
def AsksForPieces (transfer : CryptoTransfer) (caller : Address) : Prop :=
  ∀ list ∈ transfer.tokenTransfers, ∀ leg ∈ list.nftTransfers,
    leg.sender ≠ caller → leg.isApproval = true

variable {caller : Address}

theorem asksForPieces_markApprovals
    (transfer : CryptoTransfer)
    (caller : Address) :
    (transfer.markApprovals caller).AsksForPieces caller := by
  intro list member leg legMember foreign
  obtain ⟨unmarked, _, rfl⟩ := List.mem_map.mp member
  obtain ⟨plain, _, rfl⟩ := List.mem_map.mp legMember
  simpa using foreign

theorem asksForPieces_transferAt
    (setting : TransferSetting)
    {source target : Address}
    {value : Int64}
    {isApproval : Bool}
    (marked : isApproval = true ↔ source ≠ caller) :
    (TokenFunction.transferAt setting source target value isApproval).AsksForPieces caller := by
  unfold TokenFunction.transferAt
  split
  · intro list member leg legMember foreign
    obtain rfl := List.mem_singleton.mp member
    obtain rfl := List.mem_singleton.mp legMember
    exact marked.mpr foreign
  · intro list member leg legMember
    obtain rfl := List.mem_singleton.mp member
    cases legMember

end CryptoTransfer

/-- Only functions that move tokens are read into transfers. -/
theorem TokenFunction.transfers_of_readCall
    {function : TokenFunction}
    {input : Bytes}
    {setting : CallSetting}
    {sender : Address}
    {transfer : CryptoTransfer}
    {kind : OperationKind}
    (read : function.readCall input setting sender = .ok (.write (.cryptoTransfer transfer) kind)) :
    function.transfers = true := by
  cases function with
  | transferToken | transferTokens | transferNft | ercTransfer | ercTransferFrom => rfl
  | ercApprove | ercGetApproved =>
      cases setting with
      | approval setting =>
          obtain ⟨_, _, done⟩ := exists_of_bind_eq_ok read
          cases done
      | _ => cases read
  | _ =>
      obtain ⟨_, _, done⟩ := exists_of_bind_eq_ok read
      cases done

/-- A transfer is read with approval asked for every piece of others. -/
theorem DispatchedCall.asksForPieces_of_mem_body?
    {dispatched : DispatchedCall}
    {world : World}
    {transfer : CryptoTransfer}
    (member : .cryptoTransfer transfer ∈ dispatched.body? world) :
    transfer.AsksForPieces dispatched.call.sender := by
  obtain ⟨function, setting, kind, called, read⟩ := exists_of_mem_body? member
  have asked :
      ∃ asking other,
        TokenCall.write (.cryptoTransfer transfer) kind = .write (.cryptoTransfer asking) other ∧
          asking.AsksForPieces dispatched.call.sender :=
    TokenFunction.exists_of_readTransferCall (TokenFunction.transfers_of_readCall read)
      (isFor_of_called? called)
      (fun transfer => CryptoTransfer.asksForPieces_markApprovals transfer _)
      (fun setting _ _ _ _ marked _ => CryptoTransfer.asksForPieces_transferAt setting marked)
      read
  obtain ⟨_, _, same, asks⟩ := asked
  cases same
  exact asks

namespace TokenAction

variable
  {token : Address}
  {serial : Int64}
  {piece : Nft}

/-- Nothing that is written about balances or accounts matters to a piece. -/
theorem isAboutEntries_nft
    (token : Address)
    (serial : Int64)
    (answer : Except StateError (Option Nft)) :
    IsAboutEntries fun world => world.nft token serial = answer :=
  fun _ _ same known => (same.nft token serial).trans known

theorem yields_setBalance_nft
    (answer : Except StateError (Option Nft))
    (holding : Relationship)
    (balance : UInt64) :
    Yields (fun world => world.nft token serial = answer) (setBalance holding balance)
      fun _ world => world.nft token serial = answer :=
  yields_setBalance (isAboutEntries_nft token serial answer) fun _ known =>
    (World.nft_putRelationship _ _ _ _ _ _).trans known

/-- A leg whose spender is neither the owner nor approved leaves the piece where it is. -/
theorem yields_movePiece_nft
    {address spender : Address}
    {leg : NftTransfer}
    (asks : leg.sender ≠ spender → leg.isApproval = true)
    (stranger : spender ≠ piece.owner)
    (unapproved : spender ≠ piece.spender) :
    Yields (fun world => world.nft token serial = .ok (some piece))
      (movePiece address spender leg)
      fun _ world => world.nft token serial = .ok (some piece) := by
  have about := isAboutEntries_nft token serial (.ok (some piece))
  refine Yields.of_each fun world known => ?_
  refine (reads_piece _ _).bind fun found read => ?_
  refine (reads_ensure _ _).bind fun _ own => ?_
  have elsewhere (approved : leg.isApproval = true → found.spender = spender) :
      ¬ (token = address ∧ serial = leg.serial) := by
    rintro ⟨rfl, rfl⟩
    cases known.symm.trans read
    have own : piece.owner = leg.sender := by simpa using own
    by_cases mine : leg.sender = spender
    · exact stranger (own.trans mine).symm
    · exact unapproved (approved (asks mine)).symm
  refine Reads.guarded (fun _ => reads_ensure _ _) fun approved => ?_
  have elsewhere := elsewhere fun onApproval => by simpa using approved onApproval
  refine (Reads.of_keeps (keeps_ensureAccount _ _)).bind fun _ _ => ?_
  refine (Reads.of_keeps (keeps_relationship _ _)).bind fun giving _ => ?_
  refine (Reads.of_keeps (keeps_relationship _ _)).bind fun taking _ => ?_
  refine (reads_ensure _ _).bind fun _ _ => ?_
  refine (Reads.of_keeps (keeps_shifted _ _ _)).bind fun givingBalance _ => ?_
  refine (Reads.of_keeps (keeps_shifted _ _ _)).bind fun takingBalance _ => ?_
  refine ((yields_setBalance_nft _ giving givingBalance).at_state known).bind fun _ => ?_
  refine (yields_setBalance_nft _ taking takingBalance).bind fun _ => ?_
  have moved :
      Yields (fun world => world.nft token serial = .ok (some piece))
        (change fun world =>
          world.putNft address leg.serial
            (some { found with owner := leg.receiver, spender := Address.zero }))
        fun _ world => world.nft token serial = .ok (some piece) :=
    yields_change fun _ known => (World.nft_putNft_of_ne elsewhere _).trans known
  refine moved.bind fun _ => ?_
  refine (yields_adjust about _ _).bind fun _ => ?_
  exact yields_adjust about _ _

theorem yields_applyLeg_nft
    (answer : Except StateError (Option Nft))
    (address spender : Address)
    (leg : AccountAmount) :
    Yields (fun world => world.nft token serial = answer) (applyLeg address spender leg)
      fun _ world => world.nft token serial = answer := by
  have settled (holding : Relationship) :
      Yields (fun world => world.nft token serial = answer)
        (do
          let balance ← shifted holding.balance leg.amount .insufficientTokenBalance
          setBalance holding balance)
        fun _ world => world.nft token serial = answer := by
    refine (Yields.of_keeps (keeps_shifted _ _ _)).bind fun balance => ?_
    exact yields_setBalance_nft answer holding balance
  refine (Yields.of_keeps (keeps_relationship _ _)).bind fun holding => ?_
  refine (Yields.of_keeps (keeps_ensure _ _)).bind fun _ => ?_
  refine (Yields.of_keeps (keeps_ensure _ _)).bind fun _ => ?_
  dsimp only
  split
  · refine (yields_spendAllowance (isAboutEntries_nft _ _ _) _ _ _).bind fun _ => ?_
    exact settled holding
  · exact settled holding

/-- A transfer by a stranger leaves the piece where it is. -/
theorem yields_transfer_nft
    {transfer : CryptoTransfer}
    {spender : Address}
    (asks : transfer.AsksForPieces spender)
    (stranger : spender ≠ piece.owner)
    (unapproved : spender ≠ piece.spender) :
    Yields (fun world => world.nft token serial = .ok (some piece))
      (TokenAction.transfer transfer spender)
      fun _ world => world.nft token serial = .ok (some piece) := by
  refine (yields_transferCurrency (isAboutEntries_nft _ _ _) _).bind fun _ => ?_
  refine Yields.forM_mem fun list member => ?_
  refine (Yields.of_keeps (keeps_liveToken _)).bind fun entry => ?_
  have moved :
      Yields (fun world => world.nft token serial = .ok (some piece))
        (do
          list.transfers.forM (applyLeg list.token spender)
          list.nftTransfers.forM fun leg => do
            ensure entry.isNonFungible .invalidTransactionBody
            movePiece list.token spender leg)
        fun _ world => world.nft token serial = .ok (some piece) := by
    refine (Yields.forM_kept (yields_applyLeg_nft _ _ _) _).bind fun _ => ?_
    refine Yields.forM_mem fun leg legMember => ?_
    refine (Yields.of_keeps (keeps_ensure _ _)).bind fun _ => ?_
    exact yields_movePiece_nft (asks list member leg legMember) stranger unapproved
  dsimp only
  split
  · refine (Yields.of_keeps (keeps_ensure _ _)).bind fun _ => ?_
    exact (Yields.of_keeps (keeps_ensure _ _)).bind fun _ => moved
  · exact moved

/-- A transaction of a stranger that does not mint the piece anew leaves it with its owner. -/
theorem yields_run_owner
    {world : World}
    {body : TransactionBody}
    {sender : Address}
    (isOpen : world.IsOpen)
    (found : world.nft token serial = .ok (some piece))
    (asks : ∀ transfer, body = .cryptoTransfer transfer → transfer.AsksForPieces sender)
    (stranger : sender ≠ piece.owner)
    (unapproved : sender ≠ piece.spender)
    (used :
      ∀ mint, body = .tokenMint mint → mint.token = token →
        ∀ entry, world.token token = .ok (some entry) → serial ≤ entry.lastUsedSerial) :
    Yields (· = world) (run body sender) fun _ => World.IsOwnPiece piece.owner token serial := by
  have stays : world.StaysWith piece.owner token serial := ⟨isOpen, World.IsOwnPiece.of_nft found⟩
  have answered {α : Type} {action : TokenAction α} {answer : α → TokenResult}
      (yields :
        Yields (World.StaysWith piece.owner token serial) action
          fun _ => World.StaysWith piece.owner token serial) :
      Yields (· = world) (action >>= fun result => pure (answer result))
        fun _ => World.IsOwnPiece piece.owner token serial :=
    (yields.at_state stays).bind fun _ => Ensures.pure fun _ => World.StaysWith.own
  have kept := World.StaysWith.keptByEntryWrites piece.owner token serial
  cases body with
  | tokenAssociateToAccount relations =>
      exact answered (kept.alike.yields_associate relations)
  | tokenDissociateFromAccount relations =>
      exact answered (kept.alike.yields_dissociate relations)
  | tokenMint mint =>
      exact (yields_mint_owner mint stays (used mint rfl)).bind fun _ =>
        Ensures.pure fun _ => World.StaysWith.own
  | tokenBurn burn =>
      exact answered (kept.yields_burn burn)
  | tokenAccountWipe wipe =>
      exact answered (kept.yields_wipe wipe)
  | cryptoTransfer transfer =>
      exact ((yields_transfer_nft (asks transfer rfl) stranger unapproved).at_state found).bind
        fun _ => Ensures.pure fun _ => World.IsOwnPiece.of_nft
  | cryptoApproveAllowance approval =>
      exact answered (kept.yields_approve approval)
  | tokenCreate creation =>
      exact answered (kept.yields_create creation sender)
  | _ =>
      exact fun _ _ => trivial

end TokenAction

/-! ## Dispatched calls -/

namespace DispatchedCall

variable
  {dispatched : DispatchedCall}
  {world : World}
  {token : Address}
  {serial : Int64}

/-- The call mints pieces of the token, and the serial number comes after the last one used. -/
def MintsAnew
    (dispatched : DispatchedCall)
    (token : Address)
    (serial : Int64)
    (world : World) :
    Prop :=
  ∃ mint,
    .tokenMint mint ∈ dispatched.body? world ∧
      mint.token = token ∧
        ∃ entry, world.token token = .ok (some entry) ∧ entry.lastUsedSerial < serial

/--
A piece that has another owner after a call was the sender's, or the sender was approved for
it, or the call has minted a piece under its serial number.
-/
theorem sender_of_new_owner
    {piece moved : Nft}
    (found : world.nft token serial = .ok (some piece))
    (left : (leaves dispatched.answer world).nft token serial = .ok (some moved))
    (changed : moved.owner ≠ piece.owner) :
    dispatched.call.sender = piece.owner ∨
      dispatched.call.sender = piece.spender ∨ dispatched.MintsAnew token serial world := by
  by_contra stranger
  obtain ⟨stranger, unapproved, unminted⟩ := by simpa only [not_or] using stranger
  have pushed := World.SameEntries.push world
  have own : (leaves dispatched.answer world).IsOwnPiece piece.owner token serial := by
    refine dispatched.leaves_answer (World.isAboutEntries_isOwnPiece _ _ _)
      (World.IsOwnPiece.of_nft found) fun body member => ?_
    refine TokenAction.yields_run_owner (World.isOpen_push world)
      ((pushed.nft token serial).trans found) ?_ stranger unapproved ?_
    · rintro transfer rfl
      exact asksForPieces_of_mem_body? member
    · rintro mint rfl here entry known
      refine Int64.not_lt.mp fun anew => unminted ⟨mint, member, here, entry, ?_, anew⟩
      exact (pushed.token token).symm.trans known
  exact changed (own left)

/-- The approved spender of a piece hands it on. -/
theorem spender_hands_piece_on :
    let owner := Address.ofNum 1001
    let spender := Address.ofNum 1002
    let token : Token :=
      { address := Address.ofNum 2001, kind := .nonFungible, treasury := owner
        totalSupply := 1, lastUsedSerial := 1 }
    let piece : Nft :=
      { token := token.address, serial := 1, owner, spender, metadata := [] }
    let contents := Snapshot.Contents.ofPiece token piece [spender]
    let world := (World.ofSnapshot (.ofContents contents) false ⟨0⟩ 5000).push
    let source : PriceSource :=
      { schedule := FeeSchedule.empty.list ⟨0⟩ [.cryptoTransfer, .contractCall] { }
        rates := RateTable.empty.list ⟨0⟩ (.lasting 1 12) }
    let dispatched : DispatchedCall :=
      { call := ⟨spender, ⟨0⟩, 10000000, false⟩
        source
        token? := some token.address
        input :=
          AbiValue.encodeCall TokenFunction.ercTransferFrom.selector
            [.address owner, .address spender, .uint 1] }
    let moved : Nft := { piece with owner := spender, spender := Address.zero }
    world.nft token.address 1 = .ok (some piece) ∧
      (leaves dispatched.answer world).nft token.address 1 = .ok (some moved) ∧
      moved.owner ≠ piece.owner ∧
      (dispatched.call.sender = piece.owner ∨
        dispatched.call.sender = piece.spender ∨
          dispatched.MintsAnew token.address 1 world) := by
  intro owner spender token piece contents world source dispatched moved
  obtain ⟨found, left, changed⟩ :
      world.nft token.address 1 = .ok (some piece) ∧
        (leaves dispatched.answer world).nft token.address 1 = .ok (some moved) ∧
          moved.owner ≠ piece.owner := by
    decide +kernel
  exact ⟨found, left, changed, sender_of_new_owner found left changed⟩

/-- A call without a sender takes a piece from its owner that nobody is approved for. -/
theorem zero_sender_takes_unapproved_piece :
    let owner := Address.ofNum 1001
    let other := Address.ofNum 1002
    let token : Token :=
      { address := Address.ofNum 2001, kind := .nonFungible, treasury := owner
        totalSupply := 1, lastUsedSerial := 1 }
    let piece : Nft :=
      { token := token.address, serial := 1, owner, spender := Address.zero, metadata := [] }
    let contents := Snapshot.Contents.ofPiece token piece [other]
    let world := (World.ofSnapshot (.ofContents contents) false ⟨0⟩ 5000).push
    let source : PriceSource :=
      { schedule := FeeSchedule.empty.list ⟨0⟩ [.cryptoTransfer, .contractCall] { }
        rates := RateTable.empty.list ⟨0⟩ (.lasting 1 12) }
    let dispatched : DispatchedCall :=
      { call := ⟨Address.zero, ⟨0⟩, 10000000, false⟩
        source
        token? := some token.address
        input :=
          AbiValue.encodeCall TokenFunction.ercTransferFrom.selector
            [.address owner, .address other, .uint 1] }
    dispatched.call.sender ≠ piece.owner ∧
      world.nft token.address 1 = .ok (some piece) ∧
      (leaves dispatched.answer world).nft token.address 1 =
        .ok (some { piece with owner := other }) := by
  decide +kernel

end DispatchedCall

end LedgerEvm
