import LedgerEvm.Proofs.TokenService.PieceOwners

namespace LedgerEvm

/-!
# What a call takes from others

A dispatched call takes no units of a fungible token from an account that has not allowed
its sender any, unless the transaction that it is read into changes the supply or ends an
association: these are carried out for every sender.
-/

open World (IsAboutEntries IsAboutHoldings)

namespace TransactionBody

/--
When it succeeds the transaction may take units of a token from an account, whoever sends it:
a burn from the treasury, a mint of 2^63 or more, which is taken off the treasury's balance
as a negative amount, a wipe, and the end of an association with a deleted token.
-/
def TakesFrom (account token : Address) (world : World) : TransactionBody → Prop
  | .tokenMint mint =>
      mint.token = token ∧ mint.amount.toInt64.toInt < 0 ∧
        ∃ entry, world.token token = .ok (some entry) ∧ entry.treasury = account
  | .tokenBurn burn =>
      burn.token = token ∧
        ∃ entry, world.token token = .ok (some entry) ∧ entry.treasury = account
  | .tokenAccountWipe wipe => wipe.token = token ∧ wipe.account = account
  | .tokenDissociateFromAccount relations =>
      token ∈ relations.tokens ∧ relations.account = account ∧
        ∃ entry, world.token token = .ok (some entry) ∧ entry.deleted = true
  | _ => False

theorem takesFrom_congr
    {world after : World}
    (same : World.SameHoldings world after)
    (account token : Address)
    (body : TransactionBody) :
    body.TakesFrom account token after ↔ body.TakesFrom account token world := by
  cases body <;> simp only [TakesFrom, same.token]

end TransactionBody

namespace World

/-- A frame is open, and an account has at least so many units of a fungible token. -/
structure HasUnits (account token : Address) (amount : Nat) (world : World) : Prop where
  isOpen : world.IsOpen
  filed : world.IsFiled
  fungible : ∃ entry, world.token token = .ok (some entry) ∧ entry.isNonFungible = false
  amount_le : amount ≤ world.units account token

namespace HasUnits

variable
  {world : World}
  {account token : Address}
  {amount : Nat}

theorem isAboutHoldings
    (account token : Address)
    (amount : Nat) :
    IsAboutHoldings (HasUnits account token amount) := by
  intro before after same has
  obtain ⟨entry, found, fungible⟩ := has.fungible
  refine ⟨same.isOpen has.isOpen, has.filed.congr same, ⟨entry, ?_, fungible⟩, ?_⟩
  · exact (same.token token).trans found
  · rw [units_congr same]
    exact has.amount_le

theorem putRelationship
    (has : world.HasUnits account token amount)
    {holder address : Address}
    {entry : Option Relationship}
    (own : ∀ holding ∈ entry, holding.account = holder ∧ holding.token = address)
    (enough : holder = account → address = token → amount ≤ unitsOf entry) :
    (world.putRelationship holder address entry).HasUnits account token amount where
  isOpen := has.isOpen.record _
  filed := has.filed.putRelationship has.isOpen own
  fungible := by
    rw [token_putRelationship]
    exact has.fungible
  amount_le := by
    by_cases here : account = holder ∧ token = address
    · obtain ⟨rfl, rfl⟩ := here
      rw [units_putRelationship_self has.isOpen]
      exact enough rfl rfl
    · rw [units_putRelationship_of_ne here]
      exact has.amount_le

theorem putToken
    (has : world.HasUnits account token amount)
    {entry : Token}
    (fungible : entry.address = token → entry.isNonFungible = false) :
    (world.putToken entry).HasUnits account token amount where
  isOpen := has.isOpen.record _
  filed := has.filed.putToken has.isOpen entry
  fungible := by
    by_cases here : token = entry.address
    · exact ⟨entry, here ▸ token_putToken_self has.isOpen entry, fungible here.symm⟩
    · rw [token_putToken_of_ne here]
      exact has.fungible
  amount_le := by
    rw [units, relationship_putToken]
    exact has.amount_le

/-- The token of an amount has no pieces. -/
theorem isNonFungible_eq_false
    (has : world.HasUnits account token amount)
    {entry : Token}
    (found : world.token token = .ok (some entry)) :
    entry.isNonFungible = false := by
  obtain ⟨known, read, fungible⟩ := has.fungible
  cases found.symm.trans read
  exact fungible

end HasUnits

end World

namespace TokenAction

open World (HasUnits)

variable
  {world : World}
  {account token : Address}
  {amount : Nat}

theorem yields_setBalance_units
    {holding : Relationship}
    {balance : UInt64}
    (enough : holding.account = account → holding.token = token → amount ≤ balance.toNat) :
    Yields (HasUnits account token amount) (setBalance holding balance)
      fun _ => HasUnits account token amount :=
  yields_setBalance (HasUnits.isAboutHoldings account token amount).isAboutEntries fun _ has =>
    has.putRelationship (World.own_of_mem_some { holding with balance }) enough

/-- A relationship that is read is filed under the names it is asked for. -/
theorem reads_ownRelationship
    (has : world.HasUnits account token amount)
    (holder address : Address) :
    Reads world (relationship holder address) fun holding =>
      holding.account = holder ∧ holding.token = address ∧
        (holder = account → address = token → amount ≤ holding.balance.toNat) := by
  refine (reads_relationship holder address).imp (fun _ => id) ?_
  rintro holding _ ⟨same, held⟩
  refine ⟨same, (has.filed.relationship held).1, (has.filed.relationship held).2, ?_⟩
  rintro rfl rfl
  rw [← World.unitsOf_some, ← World.units_of_relationship held]
  exact has.amount_le

/-! ## Associations -/

/-- What is associated anew had no units before. -/
theorem yields_associate_units
    (relations : TokenRelations) :
    Yields (HasUnits account token amount) (associate relations)
      fun _ => HasUnits account token amount := by
  refine Yields.of_each fun world has => ?_
  refine (Reads.of_keeps (keeps_checkRelations relations)).bind fun _ _ => ?_
  refine (Reads.of_keeps (keeps_ensureSubject _)).bind fun _ _ => ?_
  refine (Reads.mapM fun address _ =>
    reads_newRelationship relations.account address).bind fun created news => ?_
  have opened :
      Yields (HasUnits account token amount)
        (created.forM fun holding =>
          change fun world =>
            world.putRelationship holding.account holding.token (some holding))
        fun _ => HasUnits account token amount := by
    refine Yields.forM_mem fun holding member => yields_change fun _ reached => ?_
    obtain ⟨_, _, own, named, _, _, absent⟩ := news holding member
    rw [← own, ← named] at absent
    have nothing := World.units_of_relationship absent
    refine reached.putRelationship (World.own_of_mem_some holding) ?_
    rintro rfl rfl
    have none := has.amount_le
    rw [nothing, World.unitsOf_none] at none
    omega
  refine (opened.at_state has).bind fun _ => ?_
  exact yields_adjust (HasUnits.isAboutHoldings _ _ _).isAboutEntries _ _

/-- Only an association without units ends, unless its token is deleted. -/
theorem yields_dissociate_units
    {relations : TokenRelations}
    (has : world.HasUnits account token amount)
    (untaken :
      ¬ (TransactionBody.tokenDissociateFromAccount relations).TakesFrom account token world) :
    Yields (· = world) (dissociate relations) fun _ => HasUnits account token amount := by
  refine (Reads.of_keeps (keeps_checkRelations relations)).bind fun _ _ => ?_
  refine (Reads.of_keeps (keeps_ensureSubject _)).bind fun _ _ => ?_
  refine (Reads.forM fun address _ =>
    reads_checkDissociation relations.account address).bind fun _ mayEnd => ?_
  have removed :
      Keeps (HasUnits account token amount)
        (relations.tokens.mapM (removeRelationship relations.account)) := by
    refine Keeps.mapM fun address member => ?_
    refine (keeps_ask _).bind fun holding => ?_
    refine Keeps.bind (keeps_change fun _ reached => ?_) fun _ => Keeps.pure _
    refine reached.putRelationship (fun _ impossible => by cases impossible) ?_
    rintro rfl rfl
    obtain ⟨_, entry, found, nothing⟩ := mayEnd address member
    cases deleted : entry.deleted with
    | true => exact (untaken ⟨member, rfl, entry, found, deleted⟩).elim
    | false =>
        have enough := has.amount_le
        have nothing := nothing deleted
        rw [World.unitsOf_none]
        omega
  refine ((Yields.of_keeps removed).at_state has).bind fun _ => ?_
  exact yields_adjust (HasUnits.isAboutHoldings _ _ _).isAboutEntries _ _

/-! ## Supply -/

/-- Writing the supply of a token and a balance that is large enough. -/
theorem yields_writeSupply_units
    {entry : Token}
    {holding : Relationship}
    {balance : UInt64}
    (fungible : entry.address = token → entry.isNonFungible = false)
    (enough : holding.account = account → holding.token = token → amount ≤ balance.toNat)
    (lastUsedSerial : Int64)
    (totalSupply : UInt64)
    (serials : List Int64) :
    Yields (HasUnits account token amount)
      (do
        change fun world => world.putToken { entry with lastUsedSerial, totalSupply }
        setBalance holding balance
        pure (SupplyChange.mk totalSupply serials))
      fun _ => HasUnits account token amount := by
  have written :
      Yields (HasUnits account token amount)
        (change fun world => world.putToken { entry with lastUsedSerial, totalSupply })
        fun _ => HasUnits account token amount :=
    yields_change fun _ has => has.putToken fungible
  refine written.bind fun _ => ?_
  exact (yields_setBalance_units enough).bind fun _ => Ensures.pure fun _ => id

/-- A token that is read at an address has pieces only if the address is another one. -/
theorem isNonFungible_of_address
    (has : world.HasUnits account token amount)
    {address : Address}
    {entry : Token}
    (found : world.token address = .ok (some entry))
    (here : entry.address = token) :
    entry.isNonFungible = false := by
  refine has.isNonFungible_eq_false ?_
  rw [← here, has.filed.token found]
  exact found

theorem yields_mint_units
    {mint : TokenMint}
    (has : world.HasUnits account token amount)
    (untaken : ¬ (TransactionBody.tokenMint mint).TakesFrom account token world) :
    Yields (· = world) (TokenAction.mint mint) fun _ => HasUnits account token amount := by
  have about := HasUnits.isAboutHoldings account token amount
  refine (reads_liveToken mint.token).bind fun entry ⟨found, _⟩ => ?_
  refine (reads_ensure _ _).bind fun _ _ => ?_
  refine (reads_ownRelationship has _ _).bind fun holding ⟨own, ofToken, held⟩ => ?_
  refine (reads_mintedAmount entry mint).bind fun ⟨minted, serials⟩ asked => ?_
  refine (reads_require _ _).bind fun totalSupply _ => ?_
  refine (reads_ensure _ _).bind fun _ _ => ?_
  refine (reads_shifted _ _ _).bind fun balance exactly => ?_
  have enough (mine : holding.account = account) (here : holding.token = token) :
      amount ≤ balance.toNat := by
    have treasury : entry.treasury = account := own.symm.trans mine
    have here : mint.token = token := ofToken.symm.trans here
    subst here
    rw [if_neg (by simp [has.isNonFungible_eq_false found])] at asked
    obtain ⟨_, rfl⟩ : serials = [] ∧ minted = mint.amount := asked
    have credit : ¬ mint.amount.toInt64.toInt < 0 := fun negative =>
      untaken ⟨rfl, negative, entry, found, treasury⟩
    have held := held treasury rfl
    omega
  have fungible := isNonFungible_of_address has found
  refine ((yields_putPieces about _ _ _).at_state has).bind fun _ => ?_
  dsimp only
  split
  · refine (yields_adjust about.isAboutEntries _ _).bind fun _ => ?_
    exact yields_writeSupply_units fungible enough _ _ _
  · exact yields_writeSupply_units fungible enough _ _ _

/-- Taking a smaller balance from an account that is not the one that is watched. -/
theorem yields_shrink_units
    {entry : Token}
    {holding : Relationship}
    (fungible : entry.address = token → entry.isNonFungible = false)
    (other : ¬ (holding.account = account ∧ holding.token = token))
    (wiped balance : UInt64)
    (serials : List Int64) :
    Yields (HasUnits account token amount) (shrink entry holding wiped balance serials)
      fun _ => HasUnits account token amount :=
  yields_writeSupply_units fungible (fun mine here => (other ⟨mine, here⟩).elim) _ _ _

theorem yields_burn_units
    {burn : TokenBurn}
    (has : world.HasUnits account token amount)
    (untaken : ¬ (TransactionBody.tokenBurn burn).TakesFrom account token world) :
    Yields (· = world) (TokenAction.burn burn) fun _ => HasUnits account token amount := by
  have about := HasUnits.isAboutHoldings account token amount
  refine (reads_liveToken burn.token).bind fun entry ⟨found, _⟩ => ?_
  refine (reads_ensure _ _).bind fun _ _ => ?_
  refine (reads_ownRelationship has _ _).bind fun holding ⟨own, ofToken, _⟩ => ?_
  have other : ¬ (holding.account = account ∧ holding.token = token) := by
    rintro ⟨mine, here⟩
    have here := ofToken.symm.trans here
    exact untaken ⟨here, entry, here ▸ found, own.symm.trans mine⟩
  have fungible := isNonFungible_of_address has found
  dsimp only
  split
  · refine (reads_ensure _ _).bind fun _ _ => ?_
    refine (reads_reduced _ _ _).bind fun balance _ => ?_
    refine ((yields_removePieces about _ _ _ _).at_state has).bind fun _ => ?_
    exact yields_shrink_units fungible other _ _ _
  · refine (reads_ensure _ _).bind fun _ _ => ?_
    refine (reads_reduced _ _ _).bind fun balance _ => ?_
    exact (yields_shrink_units fungible other _ _ _).at_state has

theorem yields_wipe_units
    {wipe : TokenWipe}
    (has : world.HasUnits account token amount)
    (untaken : ¬ (TransactionBody.tokenAccountWipe wipe).TakesFrom account token world) :
    Yields (· = world) (TokenAction.wipe wipe) fun _ => HasUnits account token amount := by
  have about := HasUnits.isAboutHoldings account token amount
  refine (reads_liveToken wipe.token).bind fun entry ⟨found, _⟩ => ?_
  refine (reads_ensure _ _).bind fun _ _ => ?_
  refine (Reads.of_keeps (keeps_ensureSubject _)).bind fun _ _ => ?_
  refine (reads_ensure _ _).bind fun _ _ => ?_
  refine (reads_ownRelationship has _ _).bind fun holding ⟨own, ofToken, _⟩ => ?_
  have other : ¬ (holding.account = account ∧ holding.token = token) := fun same =>
    untaken ⟨ofToken.symm.trans same.2, own.symm.trans same.1⟩
  have fungible := isNonFungible_of_address has found
  dsimp only
  refine Reads.guarded (fun _ => reads_ensure _ _) fun _ => ?_
  refine (reads_reduced _ _ _).bind fun balance _ => ?_
  split
  · refine ((yields_removePieces about _ _ _ _).at_state has).bind fun _ => ?_
    exact yields_shrink_units fungible other _ _ _
  · exact (yields_shrink_units fungible other _ _ _).at_state has

/-! ## Creations -/

/-- The address of a new token is not that of the token that is watched. -/
theorem yields_create_units
    (creation : TokenCreate)
    (sponsor : Address) :
    Yields (HasUnits account token amount) (create creation sponsor)
      fun _ => HasUnits account token amount := by
  have about := (HasUnits.isAboutHoldings account token amount).isAboutEntries
  refine (Yields.of_keeps (keeps_ensureAccount _ _)).bind fun _ => ?_
  refine (Yields.of_keeps (keeps_ensure _ _)).bind fun _ => ?_
  refine (yields_freshAddress (fun _ => about (.nextNum _ _)) sponsor).bind fun address => ?_
  refine Yields.of_each fun world ⟨has, free⟩ => ?_
  have elsewhere : address ≠ token := by
    rintro rfl
    obtain ⟨entry, found, _⟩ := has.fungible
    cases found.symm.trans (World.isFree_iff.mp free).2
  have issued (entry : Token) (place : entry.address = address) :
      Yields (HasUnits account token amount) (change fun world => world.putToken entry)
        fun _ => HasUnits account token amount :=
    yields_change fun _ has => has.putToken fun here => (elsewhere (place.symm.trans here)).elim
  have held (holding : Relationship) (own : holding.account = creation.treasury)
      (place : holding.token = address) :
      Yields (HasUnits account token amount)
        (change fun world => world.putRelationship creation.treasury address (some holding))
        fun _ => HasUnits account token amount := by
    refine yields_change fun _ has => has.putRelationship ?_ fun _ here => (elsewhere here).elim
    intro other member
    obtain rfl := Option.mem_some_iff.mp member
    exact ⟨own, place⟩
  refine ((issued _ rfl).at_state has).bind fun _ => ?_
  refine (held _ rfl rfl).bind fun _ => ?_
  exact (yields_adjust about _ _).bind fun _ => Ensures.pure fun _ => id

/-! ## Transfers -/

/-- A leg that takes nothing from the account leaves it what it has. -/
theorem yields_applyLeg_units
    {address spender : Address}
    {leg : AccountAmount}
    (credit : leg.account = account → address = token → leg.debit = 0) :
    Yields (HasUnits account token amount) (applyLeg address spender leg)
      fun _ => HasUnits account token amount := by
  have about := (HasUnits.isAboutHoldings account token amount).isAboutEntries
  refine Yields.of_each fun world has => ?_
  refine (reads_ownRelationship has _ _).bind fun holding ⟨own, ofToken, held⟩ => ?_
  refine (reads_ensure _ _).bind fun _ _ => ?_
  refine (reads_ensure _ _).bind fun _ _ => ?_
  have settled :
      Yields (HasUnits account token amount)
        (do
          let balance ← shifted holding.balance leg.amount .insufficientTokenBalance
          setBalance holding balance)
        fun _ => HasUnits account token amount := by
    refine Yields.of_each fun world reached => ?_
    refine (reads_shifted _ _ _).bind fun balance exactly => ?_
    refine (yields_setBalance_units fun mine here => ?_).at_state reached
    have mine := own.symm.trans mine
    have here := ofToken.symm.trans here
    have held := held mine here
    have credit := credit mine here
    unfold AccountAmount.debit at credit
    omega
  dsimp only
  split
  · exact ((yields_spendAllowance about _ _ _).at_state has).bind fun _ => settled
  · exact settled.at_state has

/-- Moving a piece of another token leaves the account what it has. -/
theorem yields_movePiece_units
    {address spender : Address}
    {leg : NftTransfer}
    (elsewhere : address ≠ token) :
    Yields (HasUnits account token amount) (movePiece address spender leg)
      fun _ => HasUnits account token amount := by
  have about := HasUnits.isAboutHoldings account token amount
  refine Yields.of_each fun world has => ?_
  refine (Reads.of_keeps (keeps_piece _ _)).bind fun found _ => ?_
  refine (reads_ensure _ _).bind fun _ _ => ?_
  refine Reads.guarded (fun _ => reads_ensure _ _) fun _ => ?_
  refine (Reads.of_keeps (keeps_ensureAccount _ _)).bind fun _ _ => ?_
  refine (reads_ownRelationship has _ _).bind fun giving ⟨_, ofToken, _⟩ => ?_
  refine (reads_ownRelationship has _ _).bind fun taking ⟨_, alike, _⟩ => ?_
  refine (reads_ensure _ _).bind fun _ _ => ?_
  refine (Reads.of_keeps (keeps_shifted _ _ _)).bind fun givingBalance _ => ?_
  refine (Reads.of_keeps (keeps_shifted _ _ _)).bind fun takingBalance _ => ?_
  refine ((yields_setBalance_units fun _ here =>
    (elsewhere (ofToken.symm.trans here)).elim).at_state has).bind fun _ => ?_
  refine (yields_setBalance_units fun _ here =>
    (elsewhere (alike.symm.trans here)).elim).bind fun _ => ?_
  refine (yields_putNft about _ _ _).bind fun _ => ?_
  refine (yields_adjust about.isAboutEntries _ _).bind fun _ => ?_
  exact yields_adjust about.isAboutEntries _ _

/-- A transfer that takes nothing from the account leaves it what it has. -/
theorem yields_transfer_units
    {transfer : CryptoTransfer}
    (nothing : transfer.debits account token = 0)
    (spender : Address) :
    Yields (HasUnits account token amount) (TokenAction.transfer transfer spender)
      fun _ => HasUnits account token amount := by
  have about := (HasUnits.isAboutHoldings account token amount).isAboutEntries
  refine (yields_transferCurrency about _).bind fun _ => ?_
  refine Yields.forM_mem fun list member => Yields.of_each fun world has => ?_
  have credits : ∀ leg ∈ list.transfers,
      leg.account = account → list.token = token → leg.debit = 0 := by
    rintro leg legMember rfl rfl
    have none := List.sum_eq_zero_iff.mp nothing _ (List.mem_map_of_mem member)
    rw [if_pos rfl] at none
    have none := List.sum_eq_zero_iff.mp none _ (List.mem_map_of_mem legMember)
    rwa [if_pos rfl] at none
  refine (reads_liveToken list.token).bind fun entry ⟨found, _⟩ => ?_
  have moved :
      Yields (HasUnits account token amount)
        (do
          list.transfers.forM (applyLeg list.token spender)
          list.nftTransfers.forM fun leg => do
            ensure entry.isNonFungible .invalidTransactionBody
            movePiece list.token spender leg)
        fun _ => HasUnits account token amount := by
    refine (Yields.forM_mem fun leg legMember =>
      yields_applyLeg_units (credits leg legMember)).bind fun _ => ?_
    refine Yields.forM_kept (fun leg => Yields.of_each fun world reached => ?_) _
    refine (reads_ensure _ _).bind fun _ isNonFungible => ?_
    have elsewhere : list.token ≠ token := by
      rintro rfl
      rw [has.isNonFungible_eq_false found] at isNonFungible
      cases isNonFungible
    exact (yields_movePiece_units elsewhere).at_state reached
  dsimp only
  split
  · refine (reads_ensure _ _).bind fun _ _ => ?_
    exact (reads_ensure _ _).bind fun _ _ => moved.at_state has
  · exact moved.at_state has

/-- What is taken on approval has been allowed, so that nothing allowed means nothing taken. -/
theorem yields_foreignTransfer_units
    {transfer : CryptoTransfer}
    {spender : Address}
    (has : world.HasUnits account token amount)
    (asks : transfer.AsksApproval spender)
    (foreign : account ≠ spender)
    (unallowed : world.allowed account token spender = 0) :
    Yields (· = world) (TokenAction.transfer transfer spender)
      fun _ => HasUnits account token amount := by
  by_cases nothing : transfer.debits account token = 0
  · exact (yields_transfer_units nothing spender).at_state has
  · refine (spends_transfer transfer spender world has.isOpen).imp (fun _ => id) ?_
    intro _ after ⟨_, spent⟩
    have within := spent.within account token
    rw [CryptoTransfer.debitsOnApproval_eq asks, if_neg foreign, unallowed] at within
    exact (nothing (Nat.le_zero.mp within)).elim

/-! ## Transactions -/

/-- A transaction for a stranger who is allowed nothing takes nothing, unless it takes from all. -/
theorem yields_run_units
    {body : TransactionBody}
    {sender : Address}
    (has : world.HasUnits account token amount)
    (asks : ∀ transfer, body = .cryptoTransfer transfer → transfer.AsksApproval sender)
    (foreign : account ≠ sender)
    (unallowed : world.allowed account token sender = 0)
    (untaken : ¬ body.TakesFrom account token world) :
    Yields (· = world) (run body sender) fun _ => HasUnits account token amount := by
  have about := HasUnits.isAboutHoldings account token amount
  have answered {α : Type} {action : TokenAction α} {answer : α → TokenResult}
      (yields : Yields (· = world) action fun _ => HasUnits account token amount) :
      Yields (· = world) (action >>= fun result => pure (answer result))
        fun _ => HasUnits account token amount :=
    yields.bind fun _ => Ensures.pure fun _ => id
  cases body with
  | tokenAssociateToAccount relations =>
      exact answered ((yields_associate_units relations).at_state has)
  | tokenDissociateFromAccount relations =>
      exact answered (yields_dissociate_units has untaken)
  | tokenMint mint =>
      exact (yields_mint_units has untaken).bind fun _ => Ensures.pure fun _ => id
  | tokenBurn burn =>
      exact answered (yields_burn_units has untaken)
  | tokenAccountWipe wipe =>
      exact answered (yields_wipe_units has untaken)
  | cryptoTransfer transfer =>
      exact (yields_foreignTransfer_units has (asks transfer rfl) foreign unallowed).bind
        fun _ => Ensures.pure fun _ => id
  | cryptoApproveAllowance approval =>
      exact answered ((yields_approve about approval).at_state has)
  | tokenCreate creation =>
      exact answered ((yields_create_units creation sender).at_state has)
  | _ =>
      exact fun _ _ => trivial

end TokenAction

/-! ## Dispatched calls -/

namespace DispatchedCall

variable
  {dispatched : DispatchedCall}
  {world : World}

/-- A transfer is read with approval asked for all that it takes from others. -/
theorem asksApproval_of_mem_body?
    {transfer : CryptoTransfer}
    (member : .cryptoTransfer transfer ∈ dispatched.body? world) :
    transfer.AsksApproval dispatched.call.sender := by
  obtain ⟨function, setting, kind, called, read⟩ := exists_of_mem_body? member
  obtain ⟨_, _, same, asks⟩ :=
    TokenFunction.asksApproval_of_readCall (TokenFunction.transfers_of_readCall read)
      (isFor_of_called? called) read
  cases same
  exact asks

/-- An account that has allowed the sender nothing keeps its units of a fungible token. -/
theorem units_le_units_answer
    {account token : Address}
    {entry : Token}
    (filed : world.IsFiled)
    (found : world.token token = .ok (some entry))
    (fungible : entry.isNonFungible = false)
    (foreign : account ≠ dispatched.call.sender)
    (unallowed : world.allowed account token dispatched.call.sender = 0)
    (untaken : ∀ body ∈ dispatched.body? world, ¬ body.TakesFrom account token world) :
    world.units account token ≤ (leaves dispatched.answer world).units account token := by
  have pushed := World.SameEntries.push world
  have inside :
      world.push.HasUnits account token (world.units account token) := by
    refine ⟨World.isOpen_push world, filed.congr pushed.toSameHoldings, ⟨entry, ?_, fungible⟩, ?_⟩
    · exact (pushed.token token).trans found
    · rw [World.units_congr pushed.toSameHoldings]
  have about : IsAboutEntries fun after =>
      world.units account token ≤ after.units account token := by
    intro _ _ same enough
    rwa [World.units_congr same.toSameHoldings]
  refine dispatched.leaves_answer about (Nat.le_refl _) fun body member => ?_
  refine Yields.imp (TokenAction.yields_run_units inside ?_ foreign ?_ ?_) (fun _ => id)
    fun _ _ => World.HasUnits.amount_le
  · rintro transfer rfl
    exact asksApproval_of_mem_body? member
  · rw [World.allowed, World.allowance_push]
    exact unallowed
  · rw [TransactionBody.takesFrom_congr pushed.toSameHoldings]
    exact untaken body member

end DispatchedCall

end LedgerEvm
