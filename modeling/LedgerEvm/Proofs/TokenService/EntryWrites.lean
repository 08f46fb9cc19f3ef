import LedgerEvm.Proofs.TokenService.Effects

namespace LedgerEvm

/-!
# What operations write about tokens

But for a mint, operations write entries about tokens in a few ways only: a relationship, a
supply in place of the old one, a piece that exists with another spender or owner, no piece
any more, and a new token where none was.  An invariant that these writes keep is kept by
every operation that makes them.
-/

namespace World

/-- An invariant that the writes keep which leave pieces with their owners or remove them. -/
structure KeptByEntryWrites (invariant : World → Prop) : Prop where
  about : IsAboutEntries invariant
  isOpen : ∀ {world : World}, invariant world → world.IsOpen
  putRelationship :
    ∀ {world : World} (account token : Address) (entry : Option Relationship),
      invariant world →
      invariant (world.putRelationship account token entry)
  putSupply :
    ∀ {world : World} {address : Address} {token : Token} (totalSupply : UInt64),
      invariant world →
      world.token address = .ok (some token) →
      invariant (world.putToken { token with totalSupply })
  putNew :
    ∀ {world : World} {token : Token},
      invariant world →
      world.isFree token.address = .ok true →
      token.lastUsedSerial = 0 →
      invariant (world.putToken token)
  approvePiece :
    ∀ {world : World} {token : Address} {serial : Int64} {piece : Nft} (spender : Address),
      invariant world →
      world.nft token serial = .ok (some piece) →
      invariant (world.putNft token serial (some { piece with spender }))
  removePiece :
    ∀ {world : World} (token : Address) (serial : Int64),
      invariant world →
      invariant (world.putNft token serial none)

/-- An invariant that is kept as well when a piece is given another owner. -/
structure KeptByPieceWrites (invariant : World → Prop) : Prop
    extends KeptByEntryWrites invariant where
  movePiece :
    ∀ {world : World} {token : Address} {serial : Int64} {piece : Nft} (owner spender : Address),
      invariant world →
      world.nft token serial = .ok (some piece) →
      invariant (world.putNft token serial (some { piece with owner, spender }))

end World

open TokenAction

namespace World.KeptByEntryWrites

variable
  {invariant : World → Prop}
  (kept : KeptByEntryWrites invariant)
include kept

/-- A relationship may be written whatever its units are. -/
theorem alike :
    KeptByAlikeRelationships invariant where
  about := kept.about
  isOpen := kept.isOpen
  put holds _ _ _ := kept.putRelationship _ _ _ holds

/-! ## Supply -/

theorem yields_setBalance
    (holding : Relationship)
    (balance : UInt64) :
    Yields invariant (TokenAction.setBalance holding balance) fun _ => invariant :=
  TokenAction.yields_setBalance kept.about fun _ holds => kept.putRelationship _ _ _ holds

/-- A supply is written over the entry that has been read. -/
theorem yields_shrink
    {address : Address}
    {token : Token}
    (holding : Relationship)
    (amount balance : UInt64)
    (serials : List Int64) :
    Yields (fun world => invariant world ∧ world.token address = .ok (some token))
      (shrink token holding amount balance serials)
      fun _ => invariant := by
  refine (yields_change fun _ ⟨holds, found⟩ => kept.putSupply _ holds found).bind fun _ => ?_
  exact (kept.yields_setBalance _ _).bind fun _ => Ensures.pure fun _ => id

theorem yields_removePieces
    (address account : Address)
    (serials : List Int64)
    (whenEmpty : ResponseCode) :
    Yields invariant (removePieces address serials account whenEmpty) fun _ => invariant := by
  refine (Yields.of_keeps (keeps_ensure _ _)).bind fun _ => ?_
  refine (Yields.of_keeps (keeps_ensure _ _)).bind fun _ => ?_
  refine (Yields.of_keeps
    (Keeps.forM fun serial _ => keeps_checkOwned address account serial)).bind fun _ => ?_
  refine Yields.bind_kept (Yields.forM_kept (fun serial => ?_) serials) fun _ => ?_
  · exact yields_change fun _ => kept.removePiece address serial
  · exact yields_adjust kept.about _ _

/-- Pieces or an amount are taken from an account, whose token has been read before. -/
theorem yields_takeAway
    {world : World}
    {address account : Address}
    {token : Token}
    {holding : Relationship}
    (holds : invariant world)
    (found : world.token address = .ok (some token))
    (amount : UInt64)
    (serials : List Int64)
    (code whenEmpty : ResponseCode) :
    Yields (· = world)
      (do
        let balance ← reduced holding.balance amount code
        if token.isNonFungible then
          removePieces address serials account whenEmpty
        shrink token holding amount balance serials)
      fun _ => invariant := by
  refine (Reads.of_keeps (keeps_reduced _ _ _)).bind fun balance _ => ?_
  have shrunk :
      Yields (fun world => invariant world ∧ world.token address = .ok (some token))
        (shrink token holding amount balance serials) fun _ => invariant :=
    kept.yields_shrink holding amount balance serials
  dsimp only
  split
  · have removed :=
      (kept.yields_removePieces address account serials whenEmpty).and
        (TokenAction.yields_removePieces (IsAboutHoldings.token address (.ok (some token)))
          address serials account whenEmpty)
    exact (removed.at_state ⟨holds, found⟩).bind fun _ => shrunk
  · exact shrunk.at_state ⟨holds, found⟩

theorem yields_burn
    (burn : TokenBurn) :
    Yields invariant (TokenAction.burn burn) fun _ => invariant := by
  refine Yields.of_each fun world holds => ?_
  refine (reads_liveToken burn.token).bind fun token ⟨found, _⟩ => ?_
  refine (Reads.of_keeps (keeps_ensure _ _)).bind fun _ _ => ?_
  refine (Reads.of_keeps (keeps_relationship _ _)).bind fun holding _ => ?_
  refine Ensures.branch (Yields.of_keeps (keeps_ensure _ _))
    (Yields.of_keeps (keeps_ensure _ _)) fun _ => ?_
  exact kept.yields_takeAway holds found _ _ _ _

theorem yields_wipe
    (wipe : TokenWipe) :
    Yields invariant (TokenAction.wipe wipe) fun _ => invariant := by
  refine Yields.of_each fun world holds => ?_
  refine (reads_liveToken wipe.token).bind fun token ⟨found, _⟩ => ?_
  refine (Reads.of_keeps (keeps_ensure _ _)).bind fun _ _ => ?_
  refine (Reads.of_keeps (keeps_ensureSubject _)).bind fun _ _ => ?_
  refine (Reads.of_keeps (keeps_ensure _ _)).bind fun _ _ => ?_
  refine (Reads.of_keeps (keeps_relationship _ _)).bind fun holding _ => ?_
  refine Reads.guarded (fun _ => Reads.of_keeps (keeps_ensure _ _)) fun _ => ?_
  exact kept.yields_takeAway holds found _ _ _ _

/-! ## Creation and approval -/

theorem yields_create
    (creation : TokenCreate)
    (sponsor : Address) :
    Yields invariant (create creation sponsor) fun _ => invariant := by
  have draws {world : World} (number : UInt64) (holds : invariant world) :
      invariant { world with nextNum := number } :=
    kept.about (.nextNum world number) holds
  refine (Yields.of_keeps (keeps_ensureAccount _ _)).bind fun _ => ?_
  refine (Yields.of_keeps (keeps_ensure _ _)).bind fun _ => ?_
  refine (yields_freshAddress draws sponsor).bind fun address => ?_
  refine (yields_change fun _ ⟨holds, free⟩ => kept.putNew holds free rfl).bind fun _ => ?_
  refine (yields_change fun _ => kept.putRelationship _ _ _).bind fun _ => ?_
  exact (yields_adjust kept.about _ _).bind fun _ => Ensures.pure fun _ => id

theorem yields_grantAllowance
    (allowance : TokenAllowance) :
    Yields invariant (grantAllowance allowance) fun _ => invariant := by
  refine Yields.of_keeps ?_
  refine (keeps_ensureAccount _ _).bind fun _ => ?_
  refine (keeps_ensureAccount _ _).bind fun _ => ?_
  refine (keeps_liveToken _).bind fun token => ?_
  refine (keeps_ensure _ _).bind fun _ => ?_
  refine (keeps_relationship _ _).bind fun _ => ?_
  exact keeps_change fun world =>
    kept.about (.record world (fun _ => rfl) (fun _ => rfl) fun _ => rfl)

theorem yields_grantPieces
    (allowance : NftAllowance) :
    Yields invariant (grantPieces allowance) fun _ => invariant := by
  have approved (serial : Int64) :
      Yields invariant (TokenAction.approvePiece allowance serial) fun _ => invariant := by
    refine Yields.of_each fun world holds => ?_
    refine (reads_piece _ _).bind fun piece found => ?_
    refine (reads_ensure _ _).bind fun _ _ => ?_
    refine yields_change fun after same => ?_
    subst after
    exact kept.approvePiece allowance.spender holds found
  refine (Yields.of_keeps (keeps_ensureAccount _ _)).bind fun _ => ?_
  refine Yields.guarded (Yields.of_keeps (keeps_ensureAccount _ _)) ?_
  refine (Yields.of_keeps (keeps_liveToken _)).bind fun token => ?_
  refine (Yields.of_keeps (keeps_ensure _ _)).bind fun _ => ?_
  exact Yields.forM_kept approved _

theorem yields_approve
    (approval : ApproveAllowance) :
    Yields invariant (approve approval) fun _ => invariant :=
  Yields.bind (Yields.forM_kept kept.yields_grantAllowance _) fun _ =>
    Yields.forM_kept kept.yields_grantPieces _

end World.KeptByEntryWrites

namespace World.KeptByPieceWrites

variable
  {invariant : World → Prop}
  (kept : KeptByPieceWrites invariant)
include kept

/-! ## Transfers -/

theorem yields_applyLeg
    (address spender : Address)
    (leg : AccountAmount) :
    Yields invariant (applyLeg address spender leg) fun _ => invariant := by
  refine (Yields.of_keeps (keeps_relationship _ _)).bind fun holding => ?_
  refine (Yields.of_keeps (keeps_ensure _ _)).bind fun _ => ?_
  refine (Yields.of_keeps (keeps_ensure _ _)).bind fun _ => ?_
  refine Yields.guarded (yields_spendAllowance kept.about _ _ _) ?_
  refine (Yields.of_keeps (keeps_shifted _ _ _)).bind fun balance => ?_
  exact kept.yields_setBalance _ _

/-- Writing a balance leaves a piece as it has been read. -/
theorem yields_setBalance_beside
    {token : Address}
    {serial : Int64}
    {piece : Nft}
    (holding : Relationship)
    (balance : UInt64) :
    Yields (fun world => invariant world ∧ world.nft token serial = .ok (some piece))
      (TokenAction.setBalance holding balance)
      fun _ world => invariant world ∧ world.nft token serial = .ok (some piece) := by
  refine TokenAction.yields_setBalance ?_ ?_
  · intro _ _ same ⟨holds, found⟩
    exact ⟨kept.about same holds, (same.nft token serial).trans found⟩
  · rintro world ⟨holds, found⟩
    exact ⟨kept.putRelationship _ _ _ holds, (nft_putRelationship ..).trans found⟩

theorem yields_movePiece
    (address spender : Address)
    (leg : NftTransfer) :
    Yields invariant (TokenAction.movePiece address spender leg) fun _ => invariant := by
  refine Yields.of_each fun world holds => ?_
  refine (reads_piece _ _).bind fun piece found => ?_
  refine (Reads.of_keeps (keeps_ensure _ _)).bind fun _ _ => ?_
  refine Reads.guarded (fun _ => Reads.of_keeps (keeps_ensure _ _)) fun _ => ?_
  refine (Reads.of_keeps (keeps_ensureAccount _ _)).bind fun _ _ => ?_
  refine (Reads.of_keeps (keeps_relationship _ _)).bind fun giving _ => ?_
  refine (Reads.of_keeps (keeps_relationship _ _)).bind fun taking _ => ?_
  refine (Reads.of_keeps (keeps_ensure _ _)).bind fun _ _ => ?_
  refine (Reads.of_keeps (keeps_shifted _ _ _)).bind fun givingBalance _ => ?_
  refine (Reads.of_keeps (keeps_shifted _ _ _)).bind fun takingBalance _ => ?_
  refine ((kept.yields_setBalance_beside giving _).at_state ⟨holds, found⟩).bind fun _ => ?_
  refine (kept.yields_setBalance_beside taking _).bind fun _ => ?_
  refine (yields_change fun _ ⟨holds, found⟩ => kept.movePiece _ _ holds found).bind fun _ => ?_
  refine (yields_adjust kept.about _ _).bind fun _ => ?_
  exact yields_adjust kept.about _ _

theorem yields_transferToken
    (spender : Address)
    (list : TokenTransfers) :
    Yields invariant (transferToken spender list) fun _ => invariant := by
  have moved (token : Token) :
      Yields invariant
        (do
          list.transfers.forM (applyLeg list.token spender)
          list.nftTransfers.forM fun leg => do
            ensure token.isNonFungible .invalidTransactionBody
            TokenAction.movePiece list.token spender leg)
        fun _ => invariant := by
    refine (Yields.forM_kept (kept.yields_applyLeg _ _) _).bind fun _ => ?_
    refine Yields.forM_kept (fun leg => ?_) _
    refine (Yields.of_keeps (keeps_ensure _ _)).bind fun _ => ?_
    exact kept.yields_movePiece _ _ leg
  refine (Yields.of_keeps (keeps_liveToken _)).bind fun token => ?_
  dsimp only
  split
  · refine (Yields.of_keeps (keeps_ensure _ _)).bind fun _ => ?_
    exact (Yields.of_keeps (keeps_ensure _ _)).bind fun _ => moved token
  · exact moved token

theorem yields_transfer
    (transfer : CryptoTransfer)
    (spender : Address) :
    Yields invariant (TokenAction.transfer transfer spender) fun _ => invariant := by
  refine (yields_transferCurrency kept.about _).bind fun _ => ?_
  exact Yields.forM_kept (kept.yields_transferToken spender) _

/-- What every other operation keeps is kept by all if a mint keeps it. -/
theorem yields_run
    (mints :
      ∀ mint : TokenMint, Yields invariant (TokenAction.mint mint) fun _ => invariant)
    (body : TransactionBody)
    (sender : Address) :
    Yields invariant (run body sender) fun _ => invariant := by
  have answered {α : Type} {action : TokenAction α} (answer : α → TokenResult)
      (yields : Yields invariant action fun _ => invariant) :
      Yields invariant (action >>= fun result => pure (answer result)) fun _ => invariant :=
    yields.bind fun _ => Ensures.pure fun _ => id
  cases body with
  | tokenAssociateToAccount relations =>
      exact answered _ (kept.alike.yields_associate relations)
  | tokenDissociateFromAccount relations =>
      exact answered _ (kept.alike.yields_dissociate relations)
  | tokenMint mint => exact answered _ (mints mint)
  | tokenBurn burn => exact answered _ (kept.yields_burn burn)
  | tokenAccountWipe wipe => exact answered _ (kept.yields_wipe wipe)
  | cryptoTransfer transfer => exact answered _ (kept.yields_transfer transfer sender)
  | cryptoApproveAllowance approval => exact answered _ (kept.yields_approve approval)
  | tokenCreate creation => exact answered _ (kept.yields_create creation sender)
  | _ => exact fun _ _ => trivial

end World.KeptByPieceWrites

end LedgerEvm
