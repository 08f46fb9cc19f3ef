import LedgerEvm.Proofs.Ledger.SteadyReadings
import LedgerEvm.TokenService.Operation
import LedgerEvm.TokenService.Supply

namespace LedgerEvm

/-!
# Steady transactions

Each transaction of the token service is steady: a lookup that fails refuses it, and
otherwise what it writes does not depend on which lookups would fail.
-/

namespace TokenAction

/-! ## Drawing addresses -/

/-- What stands against the creation of a token before an address is drawn for it. -/
def checkCreation (body : TokenCreate) : TokenAction Unit := do
  ensureAccount body.treasury .invalidTreasuryAccountForToken
  ensure (!body.name.isEmpty && !body.symbol.isEmpty) .invalidTransactionBody

/-- The world in which a transaction draws an address, if it gets to draw one for a token. -/
def drawing? : TransactionBody → World → Option World
  | .tokenCreate creation, world =>
      match checkCreation creation world with
      | .ok _ checked => some checked
      | .error _ _ => none
  | _, _ => none

variable
  {comparison : Comparison}
  {α : Type}

/-- Done in worlds that lie side by side the action ends alike. -/
abbrev Steady (comparison : Comparison) (action : TokenAction α) : Prop :=
  Tolerance.Steady comparison.toTolerance (World.Beside comparison) action

/-! ## Parts of actions -/

theorem steady_ask
    {question : World → Except StateError α}
    (reads : ∀ {first second : World},
      World.Beside comparison first second →
      comparison.Matches Eq (question first) (question second)) :
    Steady comparison (ask question) := by
  intro first second besides
  have answers := reads besides
  unfold ask
  generalize question first = answer at answers ⊢
  generalize question second = answer' at answers ⊢
  cases answers with
  | ok same =>
      subst same
      exact .ok besides
  | error shares => exact .error (by simpa using shares) besides
  | excused excuse => exact .excused (by simpa using excuse)

theorem steady_change
    {update : World → World}
    (keeps : ∀ {first second : World},
      World.Beside comparison first second →
      World.Beside comparison (update first) (update second)) :
    Steady comparison (change update) :=
  fun _ _ besides => .ok (keeps besides)

theorem steady_refuse
    (code : ResponseCode) :
    Steady comparison (refuse code : TokenAction α) :=
  Tolerance.Steady.throw (comparison.shares rfl)

theorem steady_ensure
    (condition : Bool)
    (code : ResponseCode) :
    Steady comparison (ensure condition code) := by
  unfold ensure
  split
  · exact .pure _
  · exact steady_refuse code

theorem steady_require
    (result : Option α)
    (code : ResponseCode) :
    Steady comparison (require result code) := by
  unfold require
  split
  · exact .pure _
  · exact steady_refuse code

theorem steady_knownToken
    (address : Address) :
    Steady comparison (knownToken address) := by
  refine (steady_ask fun besides => besides.token address).bind fun token? => ?_
  split
  · exact .pure _
  · exact .throw (comparison.shares rfl)

theorem steady_liveToken
    (address : Address) :
    Steady comparison (liveToken address) := by
  refine (steady_knownToken address).bind fun token => ?_
  refine (steady_ensure _ _).bind fun _ => ?_
  exact (steady_ensure _ _).bind fun _ => .pure _

theorem steady_ensureAccount
    (address : Address)
    (code : ResponseCode) :
    Steady comparison (ensureAccount address code) :=
  (steady_ask fun besides => besides.get address).bind fun _ => steady_ensure _ _

theorem steady_ensureSubject
    (address : Address) :
    Steady comparison (ensureSubject address) := by
  refine (steady_ask fun besides => besides.get address).bind fun account? => ?_
  split
  · exact steady_ensure _ _
  · exact .throw (comparison.shares rfl)

theorem steady_relationship
    (account token : Address) :
    Steady comparison (relationship account token) :=
  (steady_ask fun besides => besides.relationship account token).bind fun _ =>
    steady_require _ _

theorem steady_piece
    (token : Address)
    (serial : Int64) :
    Steady comparison (piece token serial) :=
  (steady_ask fun besides => besides.nft token serial).bind fun _ => steady_require _ _

theorem steady_adjust
    (address : Address)
    (update : Account → Account) :
    Steady comparison (adjust address update) := by
  intro first second besides
  have updates := besides.updateAccount address update
  unfold adjust
  generalize first.updateAccount address update = result at updates ⊢
  generalize second.updateAccount address update = result' at updates ⊢
  cases updates with
  | ok changed => exact .ok changed.world
  | error shares => exact .error (by simpa using shares) besides
  | excused excuse => exact .excused (by simpa using excuse)

theorem steady_setBalance
    (holding : Relationship)
    (balance : UInt64) :
    Steady comparison (setBalance holding balance) := by
  refine (steady_change fun besides => besides.record _).bind fun _ => ?_
  split
  · exact steady_adjust _ _
  · split
    · exact steady_adjust _ _
    · exact .pure _

theorem steady_shifted
    (balance : UInt64)
    (delta : Int64)
    (code : ResponseCode) :
    Steady comparison (shifted balance delta code) :=
  steady_require _ _

theorem steady_reduced
    (balance amount : UInt64)
    (code : ResponseCode) :
    Steady comparison (reduced balance amount code) := by
  unfold reduced
  split
  · exact .pure _
  · exact steady_refuse code

/-! ## Transfers -/

theorem steady_checkCurrencyLeg
    (leg : AccountAmount) :
    Steady comparison (checkCurrencyLeg leg) := by
  refine (steady_ask fun besides => besides.balance leg.account).bind fun balance => ?_
  refine (steady_ensureAccount _ _).bind fun _ => ?_
  split
  · exact steady_ensure _ _
  · exact .pure _

theorem steady_transferCurrency
    (legs : List AccountAmount) :
    Steady comparison (transferCurrency legs) := by
  unfold transferCurrency
  split
  · refine (steady_ensure _ _).bind fun _ => ?_
    refine (Tolerance.Steady.forM steady_checkCurrencyLeg legs).bind fun _ => ?_
    exact .forM (fun leg => steady_adjust _ _) legs
  · exact .pure _

theorem steady_spendAllowance
    (token spender : Address)
    (leg : AccountAmount) :
    Steady comparison (spendAllowance token spender leg) := by
  refine (steady_ask fun besides => besides.allowance leg.account token spender).bind
    fun allowed => ?_
  refine (steady_ensure _ _).bind fun _ => ?_
  refine (steady_ensure _ _).bind fun _ => ?_
  exact steady_change fun besides => besides.record _

theorem steady_applyLeg
    (token spender : Address)
    (leg : AccountAmount) :
    Steady comparison (applyLeg token spender leg) := by
  refine (steady_relationship _ _).bind fun holding => ?_
  refine (steady_ensure _ _).bind fun _ => ?_
  refine (steady_ensure _ _).bind fun _ => ?_
  refine Tolerance.Steady.guarded (steady_spendAllowance _ _ _) ?_
  exact (steady_shifted _ _ _).bind fun _ => steady_setBalance _ _

theorem steady_movePiece
    (token spender : Address)
    (leg : NftTransfer) :
    Steady comparison (movePiece token spender leg) := by
  refine (steady_piece _ _).bind fun found => ?_
  refine (steady_ensure _ _).bind fun _ => ?_
  refine Tolerance.Steady.guarded (steady_ensure _ _) ?_
  refine (steady_ensureAccount _ _).bind fun _ => ?_
  refine (steady_relationship _ _).bind fun giving => ?_
  refine (steady_relationship _ _).bind fun taking => ?_
  refine (steady_ensure _ _).bind fun _ => ?_
  refine (steady_shifted _ _ _).bind fun givingBalance => ?_
  refine (steady_shifted _ _ _).bind fun takingBalance => ?_
  refine (steady_setBalance _ _).bind fun _ => ?_
  refine (steady_setBalance _ _).bind fun _ => ?_
  refine (steady_change fun besides => besides.record _).bind fun _ => ?_
  exact (steady_adjust _ _).bind fun _ => steady_adjust _ _

theorem steady_transferToken
    (spender : Address)
    (list : TokenTransfers) :
    Steady comparison (transferToken spender list) := by
  refine (steady_liveToken _).bind fun token => ?_
  have moved :
      Steady comparison (do
        list.transfers.forM (applyLeg list.token spender)
        list.nftTransfers.forM fun leg => do
          ensure token.isNonFungible .invalidTransactionBody
          movePiece list.token spender leg) := by
    refine (Tolerance.Steady.forM (steady_applyLeg _ _) _).bind fun _ => ?_
    exact .forM (fun leg => (steady_ensure _ _).bind fun _ => steady_movePiece _ _ leg) _
  dsimp only
  split
  · refine (steady_ensure _ _).bind fun _ => ?_
    exact (steady_ensure _ _).bind fun _ => moved
  · exact moved

theorem steady_transfer
    (body : CryptoTransfer)
    (spender : Address) :
    Steady comparison (transfer body spender) :=
  (steady_transferCurrency _).bind fun _ => .forM (steady_transferToken spender) _

/-! ## Supply -/

theorem steady_putPieces
    (token owner : Address)
    (pieces : List (Int64 × Bytes)) :
    Steady comparison (putPieces token owner pieces) := by
  refine .forM (fun _ => ?_) pieces
  exact steady_change fun besides => besides.record _

theorem steady_mintedAmount
    (token : Token)
    (mint : TokenMint) :
    Steady comparison (mintedAmount token mint) := by
  unfold mintedAmount
  split
  · refine (steady_ensure _ _).bind fun _ => ?_
    exact (steady_require _ _).bind fun _ => .pure _
  · exact (steady_ensure _ _).bind fun _ => .pure _

theorem steady_mint
    (body : TokenMint) :
    Steady comparison (mint body) := by
  refine (steady_liveToken _).bind fun token => ?_
  refine (steady_ensure _ _).bind fun _ => ?_
  refine (steady_relationship _ _).bind fun holding => ?_
  refine (steady_mintedAmount _ _).bind fun ⟨minted, serials⟩ => ?_
  refine (steady_require _ _).bind fun totalSupply => ?_
  refine (steady_ensure _ _).bind fun _ => ?_
  refine (steady_shifted _ _ _).bind fun balance => ?_
  refine (steady_putPieces _ _ _).bind fun _ => ?_
  refine Tolerance.Steady.guarded (steady_adjust _ _) ?_
  refine (steady_change fun besides => besides.record _).bind fun _ => ?_
  exact (steady_setBalance _ _).bind fun _ => .pure _

theorem steady_checkOwned
    (token owner : Address)
    (serial : Int64) :
    Steady comparison (checkOwned token owner serial) :=
  (steady_piece _ _).bind fun _ => steady_ensure _ _

theorem steady_removePieces
    (token : Address)
    (serials : List Int64)
    (owner : Address)
    (whenEmpty : ResponseCode) :
    Steady comparison (removePieces token serials owner whenEmpty) := by
  refine (steady_ensure _ _).bind fun _ => ?_
  refine (steady_ensure _ _).bind fun _ => ?_
  refine (Tolerance.Steady.forM (steady_checkOwned token owner) serials).bind fun _ => ?_
  refine Tolerance.Steady.bind (.forM (fun _ => ?_) serials) fun _ => steady_adjust _ _
  exact steady_change fun besides => besides.record _

theorem steady_shrink
    (token : Token)
    (holding : Relationship)
    (amount balance : UInt64)
    (serials : List Int64) :
    Steady comparison (shrink token holding amount balance serials) := by
  refine (steady_change fun besides => besides.record _).bind fun _ => ?_
  exact (steady_setBalance _ _).bind fun _ => .pure _

theorem steady_burn
    (body : TokenBurn) :
    Steady comparison (burn body) := by
  refine (steady_liveToken _).bind fun token => ?_
  refine (steady_ensure _ _).bind fun _ => ?_
  refine (steady_relationship _ _).bind fun holding => ?_
  dsimp only
  split
  · refine (steady_ensure _ _).bind fun _ => ?_
    refine (steady_reduced _ _ _).bind fun balance => ?_
    exact (steady_removePieces _ _ _ _).bind fun _ => steady_shrink _ _ _ _ _
  · refine (steady_ensure _ _).bind fun _ => ?_
    exact (steady_reduced _ _ _).bind fun balance => steady_shrink _ _ _ _ _

theorem steady_wipe
    (body : TokenWipe) :
    Steady comparison (wipe body) := by
  refine (steady_liveToken _).bind fun token => ?_
  refine (steady_ensure _ _).bind fun _ => ?_
  refine (steady_ensureSubject _).bind fun _ => ?_
  refine (steady_ensure _ _).bind fun _ => ?_
  refine (steady_relationship _ _).bind fun holding => ?_
  refine Tolerance.Steady.guarded (steady_ensure _ _) ?_
  refine (steady_reduced _ _ _).bind fun balance => ?_
  exact Tolerance.Steady.guarded (steady_removePieces _ _ _ _) (steady_shrink _ _ _ _ _)

/-! ## Associations -/

theorem steady_checkRelations
    (relations : TokenRelations) :
    Steady comparison (checkRelations relations) :=
  (steady_ensure _ _).bind fun _ => (steady_ensure _ _).bind fun _ => steady_ensure _ _

theorem steady_newRelationship
    (account address : Address) :
    Steady comparison (newRelationship account address) := by
  refine (steady_knownToken _).bind fun token => ?_
  refine (steady_ensure _ _).bind fun _ => ?_
  refine (steady_ask fun besides => besides.relationship account address).bind fun present => ?_
  exact (steady_ensure _ _).bind fun _ => .pure _

theorem steady_associate
    (relations : TokenRelations) :
    Steady comparison (associate relations) := by
  refine (steady_checkRelations _).bind fun _ => ?_
  refine (steady_ensureSubject _).bind fun _ => ?_
  refine (Tolerance.Steady.mapM (steady_newRelationship _) _).bind fun created => ?_
  refine Tolerance.Steady.bind (.forM (fun _ => ?_) created) fun _ => steady_adjust _ _
  exact steady_change fun besides => besides.record _

theorem steady_checkDissociation
    (account address : Address) :
    Steady comparison (checkDissociation account address) := by
  refine (steady_knownToken _).bind fun token => ?_
  refine (steady_relationship _ _).bind fun holding => ?_
  split
  · exact (steady_ensure _ _).bind fun _ => steady_ensure _ _
  · exact .pure _

theorem steady_removeRelationship
    (account address : Address) :
    Steady comparison (removeRelationship account address) := by
  refine (steady_ask fun besides => besides.relationship account address).bind fun holding => ?_
  exact (steady_change fun besides => besides.record _).bind fun _ => .pure _

theorem steady_dissociate
    (relations : TokenRelations) :
    Steady comparison (dissociate relations) := by
  refine (steady_checkRelations _).bind fun _ => ?_
  refine (steady_ensureSubject _).bind fun _ => ?_
  refine (Tolerance.Steady.forM (steady_checkDissociation _) _).bind fun _ => ?_
  refine (Tolerance.Steady.mapM (steady_removeRelationship _) _).bind fun removed => ?_
  exact steady_adjust _ _

/-! ## Approvals -/

theorem steady_grantAllowance
    (allowance : TokenAllowance) :
    Steady comparison (grantAllowance allowance) := by
  refine (steady_ensureAccount _ _).bind fun _ => ?_
  refine (steady_ensureAccount _ _).bind fun _ => ?_
  refine (steady_liveToken _).bind fun token => ?_
  refine (steady_ensure _ _).bind fun _ => ?_
  refine (steady_relationship _ _).bind fun _ => ?_
  exact steady_change fun besides => besides.record _

theorem steady_approvePiece
    (allowance : NftAllowance)
    (serial : Int64) :
    Steady comparison (approvePiece allowance serial) := by
  refine (steady_piece _ _).bind fun found => ?_
  refine (steady_ensure _ _).bind fun _ => ?_
  exact steady_change fun besides => besides.record _

theorem steady_grantPieces
    (allowance : NftAllowance) :
    Steady comparison (grantPieces allowance) := by
  refine (steady_ensureAccount _ _).bind fun _ => ?_
  refine Tolerance.Steady.guarded (steady_ensureAccount _ _) ?_
  refine (steady_liveToken _).bind fun token => ?_
  refine (steady_ensure _ _).bind fun _ => ?_
  exact .forM (steady_approvePiece _) _

theorem steady_approve
    (approval : ApproveAllowance) :
    Steady comparison (approve approval) :=
  Tolerance.Steady.bind (.forM steady_grantAllowance _) fun _ => .forM steady_grantPieces _

theorem steady_approvedSpender
    (query : SpenderQuery) :
    Steady comparison (approvedSpender query) := by
  refine (steady_knownToken _).bind fun token => ?_
  refine (steady_ensure _ _).bind fun _ => ?_
  refine (steady_require _ _).bind fun serial => ?_
  exact (steady_piece _ _).bind fun _ => .pure _

/-! ## Creations -/

/-- A free address is drawn alike, if what is drawn may be shared. -/
theorem follows_freshAddress
    {first second : World}
    {sponsor : Address}
    (besides : World.Beside comparison first second)
    (finds : second.Finds comparison sponsor) :
    comparison.Follows (World.Beside comparison) (freshAddress sponsor first)
      (freshAddress sponsor second) := by
  have draws := besides.newContractAddress sponsor
  unfold World.Finds at finds
  unfold freshAddress
  generalize first.newContractAddress sponsor = drawn at draws ⊢
  generalize second.newContractAddress sponsor = drawn' at draws finds ⊢
  obtain ⟨answer, world⟩ := drawn
  obtain ⟨answer', world'⟩ := drawn'
  rcases draws with ⟨error, failed, excuse⟩ | ⟨same, besides⟩
  · subst failed
    exact .excused (Failure.inMachine_ofState error ▸ excuse)
  · subst same
    cases answer with
    | ok address => exact .ok besides
    | error error => exact .error (Failure.inMachine_ofState error ▸ finds error rfl) besides

/-- A token is created alike, if an address is found for it where one is drawn. -/
theorem follows_create
    {first second : World}
    {body : TokenCreate}
    {sponsor : Address}
    (besides : World.Beside comparison first second)
    (finds : ∀ world,
      checkCreation body second = .ok () world → world.Finds comparison sponsor) :
    comparison.Follows (World.Beside comparison) (create body sponsor first)
      (create body sponsor second) := by
  refine (steady_ensureAccount _ _ first second besides).bind
    fun _ first' second' known besides => ?_
  refine (steady_ensure _ _ first' second' besides).bind
    fun _ first'' second'' named besides => ?_
  have checked : checkCreation body second = .ok () second'' :=
    (bind_eq_of_ok known).trans named
  refine (follows_freshAddress besides (finds second'' checked)).bind
    fun address drawn drawn' _ besides => ?_
  refine Tolerance.Steady.bind ?_ (fun _ => ?_) drawn drawn' besides
  · exact steady_change fun besides => besides.record _
  · refine (steady_change fun besides => besides.record _).bind fun _ => ?_
    exact (steady_adjust _ _).bind fun _ => .pure _

/-! ## Transactions -/

theorem follows_run
    {first second : World}
    {body : TransactionBody}
    {sender : Address}
    (besides : World.Beside comparison first second)
    (finds : ∀ world ∈ drawing? body second, world.Finds comparison sender) :
    comparison.Follows (World.Beside comparison) (run body sender first)
      (run body sender second) := by
  unfold run
  split
  · exact ((steady_associate _).bind fun _ => .pure _) first second besides
  · exact ((steady_dissociate _).bind fun _ => .pure _) first second besides
  · exact ((steady_mint _).bind fun _ => .pure _) first second besides
  · exact ((steady_burn _).bind fun _ => .pure _) first second besides
  · exact ((steady_wipe _).bind fun _ => .pure _) first second besides
  · exact ((steady_transfer _ _).bind fun _ => .pure _) first second besides
  · exact ((steady_approve _).bind fun _ => .pure _) first second besides
  · rename_i creation
    refine Tolerance.Follows.bind (follows_create besides fun world checked => ?_)
      fun _ _ _ _ besides => .ok besides
    refine finds world ?_
    simp only [drawing?, checked, Option.mem_def]
  · exact Tolerance.Steady.throw (comparison.shares rfl) first second besides

/-- A transaction that is carried out in a frame of its own leaves the worlds side by side. -/
theorem follows_framed
    {first second : World}
    {action : TokenAction α}
    (runs :
      comparison.Follows (World.Beside comparison) (action first.push) (action second.push)) :
    comparison.Follows (World.Beside comparison) (framed action first)
      (framed action second) := by
  unfold framed
  generalize action first.push = result at runs ⊢
  generalize action second.push = result' at runs ⊢
  cases runs with
  | ok besides => exact .ok besides.commit
  | error shares besides => exact .error shares besides.revert
  | excused excuse => exact .excused excuse

end TokenAction

end LedgerEvm
