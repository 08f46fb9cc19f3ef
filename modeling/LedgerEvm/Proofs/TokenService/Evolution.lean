import LedgerEvm.Proofs.Actions
import LedgerEvm.Proofs.Ledger.Evolution
import LedgerEvm.TokenService.Dispatch

namespace LedgerEvm

/-!
# How the token service changes the world

Every action of the token service is made of moves of the world.  Only the supply of a
token is written on the strength of an earlier answer, so what has been read about that
token is carried along until it is written.
-/

namespace TokenAction

open World (Move Evolves)

variable {α : Type} {invariant : World → Prop}

/-! ## Questions and refusals -/

theorem keeps_ask
    (question : World → Except StateError α) :
    Keeps invariant (ask question) := by
  intro world holds
  unfold ask
  cases question world <;> exact holds

theorem keeps_refuse
    (code : ResponseCode) :
    Keeps invariant (refuse code : TokenAction α) :=
  Keeps.throw _

theorem keeps_ensure
    (condition : Bool)
    (code : ResponseCode) :
    Keeps invariant (ensure condition code) := by
  unfold ensure
  split
  · exact Keeps.pure _
  · exact keeps_refuse code

theorem keeps_require
    (result : Option α)
    (code : ResponseCode) :
    Keeps invariant (require result code) := by
  unfold require
  cases result with
  | some value => exact Keeps.pure _
  | none => exact keeps_refuse code

theorem keeps_knownToken
    (address : Address) :
    Keeps invariant (knownToken address) := by
  refine (keeps_ask _).bind fun found => ?_
  cases found with
  | some token => exact Keeps.pure _
  | none => exact Keeps.throw _

theorem keeps_liveToken
    (address : Address) :
    Keeps invariant (liveToken address) := by
  refine (keeps_knownToken address).bind fun token => ?_
  refine (keeps_ensure _ _).bind fun _ => ?_
  refine (keeps_ensure _ _).bind fun _ => ?_
  exact Keeps.pure _

theorem keeps_ensureAccount
    (address : Address)
    (code : ResponseCode) :
    Keeps invariant (ensureAccount address code) :=
  (keeps_ask _).bind fun _ => keeps_ensure _ _

theorem keeps_ensureSubject
    (address : Address) :
    Keeps invariant (ensureSubject address) := by
  refine (keeps_ask _).bind fun found => ?_
  cases found with
  | some account => exact keeps_ensure _ _
  | none => exact Keeps.throw _

theorem keeps_relationship
    (account token : Address) :
    Keeps invariant (relationship account token) :=
  (keeps_ask _).bind fun _ => keeps_require _ _

theorem keeps_piece
    (token : Address)
    (serial : Int64) :
    Keeps invariant (piece token serial) :=
  (keeps_ask _).bind fun _ => keeps_require _ _

theorem keeps_shifted
    (balance : UInt64)
    (delta : Int64)
    (code : ResponseCode) :
    Keeps invariant (shifted balance delta code) :=
  keeps_require _ _

theorem keeps_reduced
    (balance amount : UInt64)
    (code : ResponseCode) :
    Keeps invariant (reduced balance amount code) := by
  unfold reduced
  split
  · exact Keeps.pure _
  · exact keeps_refuse code

theorem keeps_checkRelations
    (relations : TokenRelations) :
    Keeps invariant (checkRelations relations) := by
  refine (keeps_ensure _ _).bind fun _ => ?_
  refine (keeps_ensure _ _).bind fun _ => ?_
  exact keeps_ensure _ _

theorem keeps_newRelationship
    (account address : Address) :
    Keeps invariant (newRelationship account address) := by
  refine (keeps_knownToken address).bind fun token => ?_
  refine (keeps_ensure _ _).bind fun _ => ?_
  refine (keeps_ask _).bind fun present => ?_
  refine (keeps_ensure _ _).bind fun _ => ?_
  exact Keeps.pure _

theorem keeps_checkDissociation
    (account address : Address) :
    Keeps invariant (checkDissociation account address) := by
  refine (keeps_knownToken address).bind fun token => ?_
  refine (keeps_relationship _ _).bind fun holding => ?_
  split
  · exact (keeps_ensure _ _).bind fun _ => keeps_ensure _ _
  · exact Keeps.pure _

theorem keeps_checkOwned
    (token owner : Address)
    (serial : Int64) :
    Keeps invariant (checkOwned token owner serial) :=
  (keeps_piece _ _).bind fun _ => keeps_ensure _ _

theorem keeps_mintedAmount
    (token : Token)
    (mint : TokenMint) :
    Keeps invariant (mintedAmount token mint) := by
  unfold mintedAmount
  split
  · refine (keeps_ensure _ _).bind fun _ => ?_
    exact (keeps_require _ _).bind fun _ => Keeps.pure _
  · exact (keeps_ensure _ _).bind fun _ => Keeps.pure _

theorem keeps_approvedSpender
    (query : SpenderQuery) :
    Keeps invariant (approvedSpender query) := by
  refine (keeps_knownToken _).bind fun token => ?_
  refine (keeps_ensure _ _).bind fun _ => ?_
  refine (keeps_require _ _).bind fun serial => ?_
  exact (keeps_piece _ _).bind fun _ => Keeps.pure _

theorem keeps_change
    {update : World → World}
    (keeps : ∀ world, invariant world → invariant (update world)) :
    Keeps invariant (change update) :=
  fun world holds => keeps world holds

/-- The token that is answered is the one at the address. -/
theorem ensures_knownToken
    (address : Address) :
    Ensures invariant (knownToken address)
      (fun token world => invariant world ∧ world.token address = .ok (some token))
      (fun _ => invariant) := by
  intro world holds
  unfold knownToken ask
  cases found : world.token address with
  | error error =>
      simpa [bind, EStateM.bind, found] using holds
  | ok answer =>
      cases answer with
      | none =>
          simp only [bind, EStateM.bind, found]
          exact holds
      | some token =>
          simpa [bind, EStateM.bind, found, pure, EStateM.pure] using holds

theorem ensures_liveToken
    (address : Address) :
    Ensures invariant (liveToken address)
      (fun token world => invariant world ∧ world.token address = .ok (some token))
      (fun _ => invariant) := by
  have weaken :
      ∀ {token : Token} {action : TokenAction Unit},
        Keeps (fun world => invariant world ∧ world.token address = .ok (some token))
          action →
        Ensures
          (fun world => invariant world ∧ world.token address = .ok (some token)) action
          (fun _ world => invariant world ∧ world.token address = .ok (some token))
          (fun _ => invariant) :=
    fun keeps => keeps.imp (fun _ => id) (fun _ _ => id) (fun _ _ holds => holds.1)
  refine (ensures_knownToken address).bind fun token => ?_
  refine (weaken (keeps_ensure _ _)).bind fun _ => ?_
  refine (weaken (keeps_ensure _ _)).bind fun _ => ?_
  exact Ensures.pure fun _ => id

/-- Changing an account keeps what every such change of a world keeps. -/
theorem keeps_adjust
    {address : Address}
    {update : Account → Account}
    (keeps :
      ∀ {world after : World} {reached : Bool},
        world.updateAccount address update = .ok (reached, after) →
        invariant world →
        invariant after) :
    Keeps invariant (adjust address update) := by
  intro world holds
  unfold adjust
  cases changed : world.updateAccount address update with
  | error error => exact holds
  | ok result => exact keeps changed holds

theorem keeps_checkCurrencyLeg
    (leg : AccountAmount) :
    Keeps invariant (checkCurrencyLeg leg) := by
  refine (keeps_ask _).bind fun balance => ?_
  refine (keeps_ensureAccount _ _).bind fun _ => ?_
  split
  · exact keeps_ensure _ _
  · exact Keeps.pure _

/-- Moving currency keeps what every change of an account keeps. -/
theorem keeps_transferCurrency
    (adjusts : ∀ address update, Keeps invariant (adjust address update))
    (legs : List AccountAmount) :
    Keeps invariant (transferCurrency legs) := by
  unfold transferCurrency
  split
  · refine (keeps_ensure _ _).bind fun _ => ?_
    refine (Keeps.forM fun leg _ => keeps_checkCurrencyLeg leg).bind fun _ => ?_
    exact Keeps.forM fun leg _ => adjusts leg.account _
  · exact Keeps.pure _

/-! ## Holdings -/

/-- An invariant that writes about associations, balances and pieces keep. -/
structure KeptByBalances (invariant : World → Prop) : Prop where
  count :
    ∀ {world after : World} {address : Address} {change : Account → Account}
      {reached : Bool},
      Account.IsCounting change →
      world.updateAccount address change = .ok (reached, after) →
      invariant world →
      invariant after
  putRelationship :
    ∀ {world : World} (account token : Address) (entry : Option Relationship),
      invariant world → invariant (world.putRelationship account token entry)
  putNft :
    ∀ {world : World} (token : Address) (serial : Int64) (entry : Option Nft),
      invariant world → invariant (world.putNft token serial entry)

/-- An invariant that writes about token holdings keep, allowances included. -/
structure KeptByHoldings (invariant : World → Prop) : Prop
    extends KeptByBalances invariant where
  setAllowance :
    ∀ {world : World} (owner token spender : Address) (amount : UInt64),
      invariant world → invariant (world.setAllowance owner token spender amount)

theorem keptByHoldings_evolves
    (start : World) :
    KeptByHoldings (Evolves false start) where
  count isCounting counted evolves := evolves.move (.count isCounting counted)
  putRelationship account token entry evolves :=
    evolves.move (.putRelationship _ account token entry)
  putNft token serial entry evolves := evolves.move (.putNft _ token serial entry)
  setAllowance owner token spender amount evolves :=
    evolves.move (.setAllowance _ owner token spender amount)

/-- What is known about tokens does not change with holdings. -/
theorem keptByHoldings_token
    (address : Address)
    (answer : Except StateError (Option Token)) :
    KeptByHoldings fun world => world.token address = answer where
  count _ counted known := by
    rcases World.updateAccount_cases counted with ⟨_, _, rfl⟩ | ⟨_, _, _, rfl⟩
    · exact known
    · exact (World.token_setAccount _ _ _).trans known
  putRelationship _ _ _ known := by
    rw [← known]
    exact World.token_record _ _ fun _ => rfl
  putNft _ _ _ known := by
    rw [← known]
    exact World.token_record _ _ fun _ => rfl
  setAllowance _ _ _ _ known := by
    rw [← known]
    exact World.token_record _ _ fun _ => rfl

namespace KeptByBalances

variable (kept : KeptByBalances invariant)
include kept

theorem adjust
    (address : Address)
    {update : Account → Account}
    (isCounting : Account.IsCounting update) :
    Keeps invariant (adjust address update) :=
  keeps_adjust (kept.count isCounting)

theorem setBalance
    (holding : Relationship)
    (balance : UInt64) :
    Keeps invariant (setBalance holding balance) := by
  refine Keeps.bind (keeps_change fun _ => kept.putRelationship _ _ _) fun _ => ?_
  split
  · exact kept.adjust _ fun _ => ⟨_, _, _, _, rfl⟩
  · split
    · exact kept.adjust _ fun _ => ⟨_, _, _, _, rfl⟩
    · exact Keeps.pure _

/-! ### Associations -/

theorem associate
    (relations : TokenRelations) :
    Keeps invariant (associate relations) := by
  refine (keeps_checkRelations relations).bind fun _ => ?_
  refine (keeps_ensureSubject _).bind fun _ => ?_
  refine (Keeps.mapM fun token _ => keeps_newRelationship _ token).bind fun created => ?_
  refine Keeps.bind (Keeps.forM fun _ _ => keeps_change fun _ => kept.putRelationship _ _ _)
    fun _ => ?_
  exact kept.adjust _ fun _ => ⟨_, _, _, _, rfl⟩

theorem removeRelationship
    (account address : Address) :
    Keeps invariant (removeRelationship account address) := by
  refine (keeps_ask _).bind fun holding => ?_
  refine Keeps.bind (keeps_change fun _ => kept.putRelationship _ _ _) fun _ => ?_
  exact Keeps.pure _

theorem dissociate
    (relations : TokenRelations) :
    Keeps invariant (dissociate relations) := by
  refine (keeps_checkRelations relations).bind fun _ => ?_
  refine (keeps_ensureSubject _).bind fun _ => ?_
  refine (Keeps.forM fun token _ => keeps_checkDissociation _ token).bind fun _ => ?_
  refine (Keeps.mapM fun token _ => kept.removeRelationship _ token).bind fun removed => ?_
  exact kept.adjust _ fun _ => ⟨_, _, _, _, rfl⟩

/-! ### Pieces and supply -/

theorem putPieces
    (token owner : Address)
    (pieces : List (Int64 × Bytes)) :
    Keeps invariant (putPieces token owner pieces) :=
  Keeps.forM fun _ _ => keeps_change fun _ => kept.putNft _ _ _

theorem removePieces
    (token : Address)
    (serials : List Int64)
    (owner : Address)
    (whenEmpty : ResponseCode) :
    Keeps invariant (removePieces token serials owner whenEmpty) := by
  refine (keeps_ensure _ _).bind fun _ => ?_
  refine (keeps_ensure _ _).bind fun _ => ?_
  refine (Keeps.forM fun serial _ => keeps_checkOwned token owner serial).bind fun _ => ?_
  refine Keeps.bind (Keeps.forM fun _ _ => keeps_change fun _ => kept.putNft _ _ _)
    fun _ => ?_
  exact kept.adjust _ fun _ => ⟨_, _, _, _, rfl⟩

/-! ### Approvals -/

theorem approvePiece
    (allowance : NftAllowance)
    (serial : Int64) :
    Keeps invariant (approvePiece allowance serial) := by
  refine (keeps_piece _ _).bind fun found => ?_
  refine (keeps_ensure _ _).bind fun _ => ?_
  exact keeps_change fun _ => kept.putNft _ _ _

theorem grantPieces
    (allowance : NftAllowance) :
    Keeps invariant (grantPieces allowance) := by
  refine (keeps_ensureAccount _ _).bind fun _ => ?_
  dsimp only
  refine Keeps.guarded (keeps_ensureAccount _ _) ?_
  refine (keeps_liveToken _).bind fun token => ?_
  refine (keeps_ensure _ _).bind fun _ => ?_
  exact Keeps.forM fun serial _ => kept.approvePiece allowance serial

/-- Approvals write the allowances that they grant, and pieces. -/
theorem approve
    {approval : ApproveAllowance}
    (grants :
      ∀ allowance ∈ approval.tokenAllowances, ∀ {world : World},
        invariant world →
        invariant
          (world.setAllowance allowance.owner allowance.token allowance.spender
            allowance.amount)) :
    Keeps invariant (approve approval) := by
  refine (Keeps.forM fun allowance member => ?_).bind fun _ => ?_
  · refine (keeps_ensureAccount _ _).bind fun _ => ?_
    refine (keeps_ensureAccount _ _).bind fun _ => ?_
    refine (keeps_liveToken _).bind fun token => ?_
    refine (keeps_ensure _ _).bind fun _ => ?_
    refine (keeps_relationship _ _).bind fun _ => ?_
    exact keeps_change fun _ => grants allowance member
  · exact Keeps.forM fun allowance _ => kept.grantPieces allowance

/-! ### Transfers -/

theorem movePiece
    (token spender : Address)
    (leg : NftTransfer) :
    Keeps invariant (movePiece token spender leg) := by
  refine (keeps_piece _ _).bind fun found => ?_
  refine (keeps_ensure _ _).bind fun _ => ?_
  dsimp only
  refine Keeps.guarded (keeps_ensure _ _) ?_
  refine (keeps_ensureAccount _ _).bind fun _ => ?_
  refine (keeps_relationship _ _).bind fun giving => ?_
  refine (keeps_relationship _ _).bind fun taking => ?_
  refine (keeps_ensure _ _).bind fun _ => ?_
  refine (keeps_shifted _ _ _).bind fun givingBalance => ?_
  refine (keeps_shifted _ _ _).bind fun takingBalance => ?_
  refine (kept.setBalance _ _).bind fun _ => ?_
  refine (kept.setBalance _ _).bind fun _ => ?_
  refine Keeps.bind (keeps_change fun _ => kept.putNft _ _ _) fun _ => ?_
  refine (kept.adjust _ fun _ => ⟨_, _, _, _, rfl⟩).bind fun _ => ?_
  exact kept.adjust _ fun _ => ⟨_, _, _, _, rfl⟩

end KeptByBalances

namespace KeptByHoldings

theorem and
    {one other : World → Prop}
    (first : KeptByHoldings one)
    (second : KeptByHoldings other) :
    KeptByHoldings fun world => one world ∧ other world where
  count isCounting counted holds :=
    ⟨first.count isCounting counted holds.1, second.count isCounting counted holds.2⟩
  putRelationship account token entry holds :=
    ⟨first.putRelationship account token entry holds.1,
      second.putRelationship account token entry holds.2⟩
  putNft token serial entry holds :=
    ⟨first.putNft token serial entry holds.1, second.putNft token serial entry holds.2⟩
  setAllowance owner token spender amount holds :=
    ⟨first.setAllowance owner token spender amount holds.1,
      second.setAllowance owner token spender amount holds.2⟩

variable (kept : KeptByHoldings invariant)
include kept

theorem approve
    (approval : ApproveAllowance) :
    Keeps invariant (approve approval) :=
  kept.toKeptByBalances.approve fun _ _ => kept.setAllowance _ _ _ _

theorem spendAllowance
    (token spender : Address)
    (leg : AccountAmount) :
    Keeps invariant (spendAllowance token spender leg) := by
  refine (keeps_ask _).bind fun allowed => ?_
  refine (keeps_ensure _ _).bind fun _ => ?_
  refine (keeps_ensure _ _).bind fun _ => ?_
  exact keeps_change fun _ => kept.setAllowance _ _ _ _

theorem applyLeg
    (token spender : Address)
    (leg : AccountAmount) :
    Keeps invariant (applyLeg token spender leg) := by
  refine (keeps_relationship _ _).bind fun holding => ?_
  refine (keeps_ensure _ _).bind fun _ => ?_
  refine (keeps_ensure _ _).bind fun _ => ?_
  dsimp only
  refine Keeps.guarded (kept.spendAllowance _ _ _) ?_
  refine (keeps_shifted _ _ _).bind fun balance => ?_
  exact kept.setBalance _ _

theorem transferToken
    (spender : Address)
    (list : TokenTransfers) :
    Keeps invariant (transferToken spender list) := by
  have legs : ∀ token : Token, Keeps invariant (do
      list.transfers.forM (TokenAction.applyLeg list.token spender)
      list.nftTransfers.forM fun leg => do
        ensure token.isNonFungible .invalidTransactionBody
        TokenAction.movePiece list.token spender leg) := by
    intro token
    refine (Keeps.forM fun leg _ => kept.applyLeg _ _ leg).bind fun _ => ?_
    exact Keeps.forM fun leg _ => (keeps_ensure _ _).bind fun _ => kept.movePiece _ _ leg
  refine (keeps_liveToken _).bind fun token => ?_
  dsimp only
  split
  · refine (keeps_ensure _ _).bind fun _ => ?_
    refine (keeps_ensure _ _).bind fun _ => ?_
    exact legs token
  · exact legs token

/-- A transfer that moves no currency concerns holdings only. -/
theorem transfer
    {body : CryptoTransfer}
    (noCurrency : body.hbarTransfers = [])
    (spender : Address) :
    Keeps invariant (transfer body spender) := by
  unfold TokenAction.transfer transferCurrency
  rw [noCurrency]
  refine Keeps.bind ?_ fun _ => ?_
  · exact Keeps.pure _
  · exact Keeps.forM fun list _ => kept.transferToken spender list

end KeptByHoldings

/-! ## Tokens -/

/-- An invariant that writes about holdings keep, and the supply of a token that is known. -/
structure KeptBySupply (invariant : World → Prop) : Prop
    extends KeptByHoldings invariant where
  changeSupply :
    ∀ {world : World} {address : Address} {token : Token} (totalSupply : UInt64)
      (lastUsedSerial : Int64),
      world.token address = .ok (some token) →
      invariant world →
      invariant (world.putToken { token with totalSupply, lastUsedSerial })

/--
An invariant that all operations on tokens keep: what is written about holdings, the supply of a
token that is known, numbers that are drawn, and a token at an address that is free.
-/
structure KeptByTokens (invariant : World → Prop) : Prop
    extends KeptBySupply invariant where
  draw :
    ∀ {world : World}, invariant world → invariant world.draw
  newToken :
    ∀ {world : World} {token : Token},
      world.isFree token.address = .ok true →
      invariant world →
      invariant (world.putToken token)

theorem keptByTokens_evolves
    (start : World) :
    KeptByTokens (Evolves false start) where
  toKeptByHoldings := keptByHoldings_evolves start
  draw evolves := evolves.move (.draw _)
  changeSupply totalSupply lastUsedSerial known evolves :=
    evolves.move (.changeSupply known totalSupply lastUsedSerial)
  newToken free evolves := evolves.move (.newToken free)

namespace KeptBySupply

variable (kept : KeptBySupply invariant)
include kept

/-- What is known about a token lasts while holdings are written. -/
theorem known
    (address : Address)
    (token : Token) :
    KeptByHoldings fun world => invariant world ∧ world.token address = .ok (some token) :=
  kept.toKeptByHoldings.and (keptByHoldings_token address _)

/-- The supply of a token is written when the token is known. -/
theorem writeSupply
    {address : Address}
    {token : Token}
    (totalSupply : UInt64)
    (lastUsedSerial : Int64) :
    KeepsGiven (fun world => world.token address = .ok (some token)) invariant
      (change fun world => world.putToken { token with totalSupply, lastUsedSerial }) :=
  fun _ holds => kept.changeSupply totalSupply lastUsedSerial holds.2 holds.1

theorem mint
    (body : TokenMint) :
    Keeps invariant (mint body) := by
  refine Ensures.bind (ensures_liveToken body.token) fun token => ?_
  have known := kept.known body.token token
  refine KeepsGiven.bind (keeps_ensure _ _) fun _ => ?_
  refine KeepsGiven.bind (keeps_relationship _ _) fun holding => ?_
  refine KeepsGiven.bind (keeps_mintedAmount _ _) fun ⟨minted, serials⟩ => ?_
  refine KeepsGiven.bind (keeps_require _ _) fun totalSupply => ?_
  refine KeepsGiven.bind (keeps_ensure _ _) fun _ => ?_
  refine KeepsGiven.bind (keeps_shifted _ _ _) fun balance => ?_
  refine KeepsGiven.bind (known.putPieces _ _ _) fun _ => ?_
  dsimp only
  refine KeepsGiven.guarded (known.adjust _ fun _ => ⟨_, _, _, _, rfl⟩) ?_
  refine KeepsGiven.bind_used (kept.writeSupply _ _) fun _ => ?_
  refine (kept.setBalance _ _).bind fun _ => ?_
  exact Keeps.pure _

theorem shrink
    {address : Address}
    (token : Token)
    (holding : Relationship)
    (amount balance : UInt64)
    (serials : List Int64) :
    KeepsGiven (fun world => world.token address = .ok (some token)) invariant
      (shrink token holding amount balance serials) := by
  refine KeepsGiven.bind_used (kept.writeSupply _ token.lastUsedSerial) fun _ => ?_
  refine (kept.setBalance _ _).bind fun _ => ?_
  exact Keeps.pure _

theorem burn
    (body : TokenBurn) :
    Keeps invariant (burn body) := by
  refine Ensures.bind (ensures_liveToken body.token) fun token => ?_
  have known := kept.known body.token token
  refine KeepsGiven.bind (keeps_ensure _ _) fun _ => ?_
  refine KeepsGiven.bind (keeps_relationship _ _) fun holding => ?_
  dsimp only
  split
  · refine KeepsGiven.bind (keeps_ensure _ _) fun _ => ?_
    refine KeepsGiven.bind (keeps_reduced _ _ _) fun balance => ?_
    refine KeepsGiven.bind (known.removePieces _ _ _ _) fun _ => ?_
    exact kept.shrink _ _ _ _ _
  · refine KeepsGiven.bind (keeps_ensure _ _) fun _ => ?_
    refine KeepsGiven.bind (keeps_reduced _ _ _) fun balance => ?_
    exact kept.shrink _ _ _ _ _

theorem wipe
    (body : TokenWipe) :
    Keeps invariant (wipe body) := by
  refine Ensures.bind (ensures_liveToken body.token) fun token => ?_
  have known := kept.known body.token token
  refine KeepsGiven.bind (keeps_ensure _ _) fun _ => ?_
  refine KeepsGiven.bind (keeps_ensureSubject _) fun _ => ?_
  refine KeepsGiven.bind (keeps_ensure _ _) fun _ => ?_
  refine KeepsGiven.bind (keeps_relationship _ _) fun holding => ?_
  dsimp only
  refine KeepsGiven.guarded (keeps_ensure _ _) ?_
  refine KeepsGiven.bind (keeps_reduced _ _ _) fun balance => ?_
  refine KeepsGiven.guarded (known.removePieces _ _ _ _) ?_
  exact kept.shrink _ _ _ _ _

end KeptBySupply

namespace KeptByTokens

variable (kept : KeptByTokens invariant)
include kept

/-- The address of a new token is free. -/
theorem ensures_freshAddress
    (sponsor : Address) :
    Ensures invariant (freshAddress sponsor)
      (fun address world => invariant world ∧ world.isFree address = .ok true)
      (fun _ => invariant) := by
  intro world holds
  unfold freshAddress
  cases draws : world.newContractAddress sponsor with
  | mk answer drawn =>
      have reached := World.holds_newContractAddress invariant kept.draw draws holds
      cases answer with
      | error error => exact reached
      | ok address => exact ⟨reached, (World.of_newContractAddress draws).2⟩

theorem create
    (body : TokenCreate)
    (sponsor : Address) :
    Keeps invariant (create body sponsor) := by
  refine (keeps_ensureAccount _ _).bind fun _ => ?_
  refine (keeps_ensure _ _).bind fun _ => ?_
  refine Ensures.bind (kept.ensures_freshAddress sponsor) fun address => ?_
  refine KeepsGiven.bind_used ?_ fun _ => ?_
  · exact fun _ holds => kept.newToken holds.2 holds.1
  · refine Keeps.bind (keeps_change fun _ => kept.putRelationship _ _ _) fun _ => ?_
    refine (kept.adjust _ ?_).bind fun _ => Keeps.pure _
    exact fun _ => ⟨_, _, _, _, rfl⟩

end KeptByTokens

end TokenAction

end LedgerEvm
