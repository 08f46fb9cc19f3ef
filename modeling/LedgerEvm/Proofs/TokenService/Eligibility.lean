import LedgerEvm.Proofs.TokenService.Ties

namespace LedgerEvm

/-!
# Who may take part in a transfer of tokens

An account that takes part in a transfer of a token is to be there, to be associated with the
token, not to be frozen for it and to have been granted KYC.  Amounts and numbered pieces are
moved by two loops that look at different ones of these conditions: here the legs of both are
one list, and it is said of each leg what had been found when it was applied and what had not
been looked at.
-/

/-- One movement of a token. -/
inductive TokenLeg where
  | amount (token : Address) (leg : AccountAmount)
  | piece (token : Address) (leg : NftTransfer)
  deriving Repr, DecidableEq

namespace TokenLeg

/-- The token that is moved. -/
def token : TokenLeg → Address
  | .amount token _ => token
  | .piece token _ => token

/-- The accounts that take part. -/
def parties : TokenLeg → List Address
  | .amount _ leg => [leg.account]
  | .piece _ leg => [leg.sender, leg.receiver]

/-- The movement as the token service makes it. -/
def apply (spender : Address) : TokenLeg → TokenAction Unit
  | .amount token leg => TokenAction.applyLeg token spender leg
  | .piece token leg => TokenAction.movePiece token spender leg

end TokenLeg

/-- The movements of one token, amounts before pieces. -/
def TokenTransfers.legs (list : TokenTransfers) : List TokenLeg :=
  list.transfers.map (.amount list.token) ++ list.nftTransfers.map (.piece list.token)

/-- All movements of tokens in their order. -/
def CryptoTransfer.legs (body : CryptoTransfer) : List TokenLeg :=
  body.tokenTransfers.flatMap TokenTransfers.legs

/-! ## Conditions -/

namespace World

/-- An account is reached that is not deleted. -/
def IsVisible (world : World) (address : Address) : Prop :=
  ∃ account, world.get address = .ok (some account)

/-- The account is associated with the token, and the association is as described. -/
def IsAssociated
    (world : World)
    (account token : Address)
    (fact : Relationship → Prop) :
    Prop :=
  ∃ holding, world.relationship account token = .ok (some holding) ∧ fact holding

/-- The account may take part in movements of the token. -/
structure IsEligible (world : World) (token account : Address) : Prop where
  visible : world.IsVisible account
  unfrozen : world.IsAssociated account token fun holding => holding.frozen = false
  granted : world.IsAssociated account token fun holding => holding.kycGranted = true

end World

namespace TokenLeg

/-- What is looked at before the movement is made. -/
def IsChecked (world : World) : TokenLeg → Prop
  | .amount token leg =>
      world.IsAssociated leg.account token fun holding =>
        holding.frozen = false ∧ holding.kycGranted = true
  | .piece token leg =>
      world.IsVisible leg.receiver ∧
        (world.IsAssociated leg.sender token fun holding => holding.frozen = false) ∧
          world.IsAssociated leg.receiver token fun holding => holding.frozen = false

/-- What is left to hold for all that take part to be eligible. -/
def IsSpared (world : World) : TokenLeg → Prop
  | .amount _ leg => world.IsVisible leg.account
  | .piece token leg =>
      world.IsVisible leg.sender ∧
        (world.IsAssociated leg.sender token fun holding => holding.kycGranted = true) ∧
          world.IsAssociated leg.receiver token fun holding => holding.kycGranted = true

/-- All that take part are eligible when what is checked and what is spared hold. -/
theorem forall_isEligible_iff
    {world : World}
    {leg : TokenLeg}
    (checked : leg.IsChecked world) :
    (∀ party ∈ leg.parties, world.IsEligible leg.token party) ↔ leg.IsSpared world := by
  cases leg with
  | amount token leg =>
      obtain ⟨holding, found, unfrozen, granted⟩ := checked
      rw [parties, List.forall_mem_singleton]
      exact ⟨fun eligible => eligible.visible,
        fun visible => ⟨visible, ⟨holding, found, unfrozen⟩, ⟨holding, found, granted⟩⟩⟩
  | piece token leg =>
      obtain ⟨visible, giving, taking⟩ := checked
      rw [parties, List.forall_mem_cons, List.forall_mem_singleton]
      exact ⟨fun ⟨sender, receiver⟩ => ⟨sender.visible, sender.granted, receiver.granted⟩,
        fun ⟨visible', granted, granted'⟩ =>
          ⟨⟨visible', giving, granted⟩, ⟨visible, taking, granted'⟩⟩⟩

end TokenLeg

/-! ## One leg -/

namespace TokenAction

variable {world after : World}

/-- What was found before an action is a fact whatever the action does. -/
theorem yields_fact
    {fact : Prop}
    (holds : fact)
    (action : TokenAction Unit) :
    Yields (· = world) action fun _ _ => fact :=
  (Yields.of_keeps (Keeps.fact fact action)).imp (fun _ _ => holds) fun _ _ => id

theorem yields_applyLeg_isChecked
    (token spender : Address)
    (leg : AccountAmount) :
    Yields (· = world) (applyLeg token spender leg) fun _ _ =>
      (TokenLeg.amount token leg).IsChecked world := by
  refine (reads_relationship _ _).bind fun holding found => ?_
  refine (reads_ensure _ _).bind fun _ unfrozen => ?_
  refine (reads_ensure _ _).bind fun _ granted => ?_
  exact yields_fact ⟨holding, found, by simpa using unfrozen, granted⟩ _

theorem yields_movePiece_isChecked
    (token spender : Address)
    (leg : NftTransfer) :
    Yields (· = world) (movePiece token spender leg) fun _ _ =>
      (TokenLeg.piece token leg).IsChecked world := by
  refine (reads_piece _ _).bind fun found _ => ?_
  refine (reads_ensure _ _).bind fun _ _ => ?_
  dsimp only
  refine Reads.guarded (fun _ => reads_ensure _ _) fun _ => ?_
  refine (reads_ensureAccount _ _).bind fun _ hasReceiver => ?_
  refine (reads_relationship _ _).bind fun giving held => ?_
  refine (reads_relationship _ _).bind fun taking held' => ?_
  refine (reads_ensure _ _).bind fun _ unfrozen => ?_
  rw [Bool.and_eq_true, Bool.not_eq_true', Bool.not_eq_true'] at unfrozen
  obtain ⟨account, visible, _⟩ := hasReceiver
  exact yields_fact
    ⟨⟨account, visible⟩, ⟨giving, held, unfrozen.1⟩, ⟨taking, held', unfrozen.2⟩⟩ _

/-- A movement that is made has been checked in the world it was made in. -/
theorem isChecked_of_apply
    {spender : Address}
    {leg : TokenLeg}
    (applied : leg.apply spender world = .ok () after) :
    leg.IsChecked world := by
  cases leg with
  | amount token leg => exact (yields_applyLeg_isChecked token spender leg).of_ok applied rfl
  | piece token leg => exact (yields_movePiece_isChecked token spender leg).of_ok applied rfl

/-! ## All legs -/

/-- In a loop that succeeds every round does so in the world that those before it have left. -/
theorem exists_of_forM
    {α : Type}
    {step : α → TokenAction Unit}
    {earlier later : List α}
    {item : α}
    (done : (earlier ++ item :: later).forM step world = .ok () after) :
    ∃ moment next, earlier.forM step world = .ok () moment ∧ step item moment = .ok () next := by
  obtain ⟨moment, begun, goesOn⟩ := forM_append_eq_ok.mp done
  obtain ⟨_, next, applied, _⟩ := exists_of_run_eq_ok goesOn
  exact ⟨moment, next, begun, applied⟩

/-- A loop may be seen as one over other items that does at least as well in every round. -/
theorem forM_map_of_forM
    {α β : Type}
    {step : β → TokenAction Unit}
    {step' : α → TokenAction Unit}
    (view : β → α)
    (each :
      ∀ {item : β} {world after : World},
        step item world = .ok () after → step' (view item) world = .ok () after)
    {items : List β}
    (done : items.forM step world = .ok () after) :
    (items.map view).forM step' world = .ok () after := by
  induction items generalizing world with
  | nil => exact done
  | cons item rest inductionHypothesis =>
      obtain ⟨_, middle, first, others⟩ := exists_of_run_eq_ok done
      exact (bind_eq_of_ok (each first)).trans (inductionHypothesis others)

/-- The movements of one token are made one after the other. -/
theorem forM_legs_of_transferToken
    {spender : Address}
    {list : TokenTransfers}
    (accepted : transferToken spender list world = .ok () after) :
    list.legs.forM (TokenLeg.apply spender) world = .ok () after := by
  obtain ⟨token, begun, known, goesOn⟩ := exists_of_run_eq_ok accepted
  obtain ⟨rfl, _⟩ := (reads_liveToken list.token).of_ok known rfl
  have moves :
      (do
        list.transfers.forM (applyLeg list.token spender)
        list.nftTransfers.forM fun leg => do
          ensure token.isNonFungible .invalidTransactionBody
          movePiece list.token spender leg) begun = .ok () after := by
    dsimp only at goesOn
    split at goesOn
    · obtain ⟨_, _, fungible, balanced⟩ := exists_of_run_eq_ok goesOn
      obtain ⟨rfl, _⟩ := (reads_ensure _ _).of_ok fungible rfl
      obtain ⟨_, _, zero, moves⟩ := exists_of_run_eq_ok balanced
      obtain ⟨rfl, _⟩ := (reads_ensure _ _).of_ok zero rfl
      exact moves
    · exact goesOn
  obtain ⟨_, middle, amounts, pieces⟩ := exists_of_run_eq_ok moves
  refine forM_append_eq_ok.mpr ⟨middle, ?_, ?_⟩
  · exact forM_map_of_forM (TokenLeg.amount list.token) (fun moved => moved) amounts
  · refine forM_map_of_forM (TokenLeg.piece list.token) ?_ pieces
    intro leg world after done
    obtain ⟨_, _, checked, moved⟩ := exists_of_run_eq_ok done
    obtain ⟨rfl, _⟩ := (reads_ensure _ _).of_ok checked rfl
    exact moved

theorem forM_legs_of_transfer
    {spender : Address}
    {lists : List TokenTransfers}
    (accepted : lists.forM (transferToken spender) world = .ok () after) :
    (lists.flatMap TokenTransfers.legs).forM (TokenLeg.apply spender) world = .ok () after := by
  induction lists generalizing world with
  | nil => exact accepted
  | cons list rest inductionHypothesis =>
      obtain ⟨_, middle, first, others⟩ := exists_of_run_eq_ok accepted
      rw [List.flatMap_cons]
      exact forM_append_eq_ok.mpr
        ⟨middle, forM_legs_of_transferToken first, inductionHypothesis others⟩

/-- The leg is applied in a world that the currency and the legs before it have left. -/
def IsAppliedAt
    (body : CryptoTransfer)
    (spender : Address)
    (world : World)
    (leg : TokenLeg)
    (moment : World) :
    Prop :=
  ∃ funded earlier later,
    transferCurrency body.hbarTransfers world = .ok () funded ∧
      body.legs = earlier ++ leg :: later ∧
        earlier.forM (TokenLeg.apply spender) funded = .ok () moment

/--
Every leg of an accepted transfer is applied at some time, and what is looked at for its kind
is in order then.  All that take part in it are eligible exactly if what is not looked at is
in order as well: for an amount, that its account is visible; for a piece, that its sender is
visible and that KYC has been granted to its sender and its receiver.
-/
theorem accepted_legs_are_checked
    {body : CryptoTransfer}
    {spender : Address}
    (accepted : transfer body spender world = .ok () after) :
    (∀ leg ∈ body.legs, ∃ moment, IsAppliedAt body spender world leg moment) ∧
      ∀ leg moment,
        IsAppliedAt body spender world leg moment →
          leg.IsChecked moment ∧
            ((∀ party ∈ leg.parties, moment.IsEligible leg.token party) ↔
              leg.IsSpared moment) := by
  obtain ⟨_, funded, currency, tokens⟩ := exists_of_run_eq_ok accepted
  have applied : body.legs.forM (TokenLeg.apply spender) funded = .ok () after :=
    forM_legs_of_transfer tokens
  constructor
  · intro leg member
    obtain ⟨earlier, later, order⟩ := List.append_of_mem member
    rw [order] at applied
    obtain ⟨moment, _, begun, _⟩ := exists_of_forM applied
    exact ⟨moment, funded, earlier, later, currency, order, begun⟩
  · rintro leg moment ⟨funded', earlier, later, currency', order, begun⟩
    -- a loop has one outcome, so this moment is the one that the whole list came by
    cases currency.symm.trans currency'
    rw [order] at applied
    obtain ⟨moment', _, begun', made⟩ := exists_of_forM applied
    cases begun.symm.trans begun'
    have checked := isChecked_of_apply made
    exact ⟨checked, TokenLeg.forall_isEligible_iff checked⟩

/-- An account that pays units of a token to another has been checked. -/
theorem paying_account_is_checked :
    let payer := Address.ofNum 1001
    let payee := Address.ofNum 1002
    let token : Token := { address := Address.ofNum 2001, treasury := payer, totalSupply := 10 }
    let holding (account : Address) (balance : UInt64) : Relationship :=
      { account, token := token.address, balance, kycGranted := true }
    let contents : Snapshot.Contents :=
      { tokens := Table.ofList [(token.address, token)]
        relationships :=
          Table.ofList ([holding payer 10, holding payee 0].map fun holding =>
            (⟨holding.account, holding.token⟩, holding)) }
    let world := (World.ofSnapshot (.ofContents contents) false ⟨0⟩ 5000).push
    let debit : AccountAmount := ⟨payer, -1, false⟩
    let body : CryptoTransfer := ⟨[], [⟨token.address, [debit, ⟨payee, 1, false⟩], []⟩]⟩
    (∃ after, transfer body payer world = .ok () after) ∧
      IsAppliedAt body payer world (.amount token.address debit) world ∧
        (TokenLeg.amount token.address debit).IsChecked world := by
  intro payer payee token holding contents world debit body
  obtain ⟨after, accepted⟩ : ∃ after, transfer body payer world = .ok () after :=
    exists_of_answerOf_eq_ok (by decide +kernel)
  have applied : IsAppliedAt body payer world (.amount token.address debit) world :=
    ⟨world, [], [.amount token.address ⟨payee, 1, false⟩], rfl, rfl, rfl⟩
  exact ⟨⟨after, accepted⟩, applied, ((accepted_legs_are_checked accepted).2 _ _ applied).1⟩

/--
A piece is handed to an account without KYC, and units are paid to an account that has been
deleted: either transfer is accepted.
-/
theorem ineligible_accounts_take_part :
    let owner : Account := { address := Address.ofNum 1001 }
    let newcomer : Account := { address := Address.ofNum 1002 }
    let leaver : Account := { address := Address.ofNum 1003, deleted := true }
    let seats : Token :=
      { address := Address.ofNum 2001, kind := .nonFungible, treasury := owner.address
        totalSupply := 1, lastUsedSerial := 1 }
    let coins : Token :=
      { address := Address.ofNum 2002, treasury := owner.address, totalSupply := 10 }
    let holdings : List Relationship :=
      [{ account := owner.address, token := seats.address, balance := 1, kycGranted := true },
        { account := newcomer.address, token := seats.address, kycGranted := false },
        { account := owner.address, token := coins.address, balance := 10, kycGranted := true },
        { account := leaver.address, token := coins.address, kycGranted := true }]
    let contents : Snapshot.Contents :=
      { accounts :=
          Table.ofList ([owner, newcomer, leaver].map fun account => (account.address, account))
        tokens := Table.ofList ([seats, coins].map fun token => (token.address, token))
        relationships :=
          Table.ofList (holdings.map fun holding => (⟨holding.account, holding.token⟩, holding))
        nfts :=
          Table.ofList
            [(⟨seats.address, 1⟩,
              { token := seats.address, serial := 1, owner := owner.address
                spender := Address.zero, metadata := [] })] }
    let world := (World.ofSnapshot (.ofContents contents) false ⟨0⟩ 5000).push
    let move : NftTransfer := ⟨owner.address, newcomer.address, 1, false⟩
    let handing : CryptoTransfer := ⟨[], [⟨seats.address, [], [move]⟩]⟩
    let credit : AccountAmount := ⟨leaver.address, 1, false⟩
    let debit : AccountAmount := ⟨owner.address, -1, false⟩
    let paying : CryptoTransfer := ⟨[], [⟨coins.address, [credit, debit], []⟩]⟩
    ((∃ after, transfer handing owner.address world = .ok () after) ∧
        IsAppliedAt handing owner.address world (.piece seats.address move) world ∧
          ¬ world.IsEligible seats.address newcomer.address) ∧
      (∃ after, transfer paying owner.address world = .ok () after) ∧
        IsAppliedAt paying owner.address world (.amount coins.address credit) world ∧
          ¬ world.IsEligible coins.address leaver.address := by
  intro owner newcomer leaver seats coins holdings contents world move handing credit debit paying
  have ungranted :
      world.relationship newcomer.address seats.address =
        .ok (some { account := newcomer.address, token := seats.address }) := by
    decide +kernel
  have hidden : world.get leaver.address = .ok none := by
    decide +kernel
  have handed : ∃ after, transfer handing owner.address world = .ok () after :=
    exists_of_answerOf_eq_ok (by decide +kernel)
  have paid : ∃ after, transfer paying owner.address world = .ok () after :=
    exists_of_answerOf_eq_ok (by decide +kernel)
  refine ⟨⟨handed, ⟨world, [], [], rfl, rfl, rfl⟩, fun eligible => ?_⟩,
    paid, ⟨world, [], [.amount coins.address debit], rfl, rfl, rfl⟩, fun eligible => ?_⟩
  · obtain ⟨holding, found, granted⟩ := eligible.granted
    cases ungranted.symm.trans found
    cases granted
  · obtain ⟨account, visible⟩ := eligible.visible
    cases hidden.symm.trans visible

end TokenAction

end LedgerEvm
