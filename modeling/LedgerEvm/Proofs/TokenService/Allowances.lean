import LedgerEvm.Proofs.Clamp
import LedgerEvm.Proofs.Ledger.Allowances
import LedgerEvm.Proofs.TokenService.Effects

namespace LedgerEvm

/-!
# Authority over other accounts

A call may take a fungible token from another account than its sender's.  Every such debit
is made on approval, each one spends what the sender is still allowed, and nothing else is
written to the allowances.  An approval writes those of its sender only.
-/

open World (AllowancesSpent SameBelow)

/-! ## Debits -/

namespace AccountAmount

/-- What a leg takes from its account; a credit takes nothing. -/
def debit (leg : AccountAmount) : Nat :=
  (-leg.amount.toInt).toNat

/-- What a leg takes from its account on approval. -/
def debitOnApproval (leg : AccountAmount) : Nat :=
  if leg.isApproval then leg.debit else 0

theorem debitOnApproval_of_spends
    {leg : AccountAmount}
    (spends : leg.isApproval = true ∧ leg.amount < 0) :
    leg.debitOnApproval = leg.amount.toInt.natAbs := by
  have negative := Int64.lt_iff_toInt_lt.mp spends.2
  have zero : (0 : Int64).toInt = 0 := rfl
  rw [debitOnApproval, if_pos spends.1, debit]
  omega

theorem debit_of_credit
    {leg : AccountAmount}
    (credit : ¬ leg.amount < 0) :
    leg.debit = 0 := by
  have credit := Int64.le_iff_toInt_le.mp (Int64.not_lt.mp credit)
  have zero : (0 : Int64).toInt = 0 := rfl
  unfold debit
  omega

theorem debitOnApproval_of_not_spends
    {leg : AccountAmount}
    (keeps : ¬ (leg.isApproval = true ∧ leg.amount < 0)) :
    leg.debitOnApproval = 0 := by
  unfold debitOnApproval
  split
  · rename_i onApproval
    exact debit_of_credit fun negative => keeps ⟨onApproval, negative⟩
  · rfl

end AccountAmount

namespace TokenTransfers

/-- What the legs for an account come to, each counted in the same way. -/
def sumOf (list : TokenTransfers) (count : AccountAmount → Nat) (account : Address) : Nat :=
  (list.transfers.map fun leg => if leg.account = account then count leg else 0).sum

end TokenTransfers

namespace CryptoTransfer

/-- What the legs for an account come to in all lists of a token. -/
def sumOf
    (transfer : CryptoTransfer)
    (count : AccountAmount → Nat)
    (account token : Address) :
    Nat :=
  (transfer.tokenTransfers.map fun list =>
    if list.token = token then list.sumOf count account else 0).sum

/-- What all legs of a transfer together take of a token from an account. -/
def debits (transfer : CryptoTransfer) : Address → Address → Nat :=
  transfer.sumOf AccountAmount.debit

/-- What the legs that are made on approval take of a token from an account. -/
def debitsOnApproval (transfer : CryptoTransfer) : Address → Address → Nat :=
  transfer.sumOf AccountAmount.debitOnApproval

end CryptoTransfer

/-! ## Spending -/

namespace TokenAction

variable
  {α β : Type}
  {world : World}
  {spender : Address}
  {spent more : Address → Address → Nat}

/-- A frame is open, and all allowances are those of another world. -/
def SameAllowances (start world : World) : Prop :=
  world.IsOpen ∧ world.allowance = start.allowance

/-- The action leaves every allowance as it finds it. -/
def SparesAllowances (action : TokenAction α) : Prop :=
  ∀ start, Keeps (SameAllowances start) action

/-- Associations, balances and pieces matter to no allowance. -/
theorem keptByBalances_allowances
    (property : (Address → Address → Address → Except StateError UInt64) → Prop) :
    KeptByBalances fun world => world.IsOpen ∧ property world.allowance where
  count _ counted := by
    rintro ⟨isOpen, holds⟩
    refine ⟨(SameBelow.updateAccount counted).isOpen isOpen, ?_⟩
    rwa [World.allowance_updateAccount counted]
  putRelationship _ _ _ := by
    rintro ⟨isOpen, holds⟩
    refine ⟨isOpen.record _, ?_⟩
    rwa [World.allowance_putRelationship]
  putNft _ _ _ := by
    rintro ⟨isOpen, holds⟩
    refine ⟨isOpen.record _, ?_⟩
    rwa [World.allowance_putNft]

theorem keptByBalances_sameAllowances
    (start : World) :
    KeptByBalances (SameAllowances start) :=
  keptByBalances_allowances (· = start.allowance)

/--
If the action succeeds in an open frame, the spender has used up as much of each allowance
as described.
-/
def Spends
    (spender : Address)
    (spent : Address → Address → Nat)
    (action : TokenAction α) :
    Prop :=
  ∀ world : World,
    world.IsOpen →
      Yields (· = world) action fun _ after =>
        after.IsOpen ∧ AllowancesSpent spender spent world after

namespace Spends

theorem of_spares
    {action : TokenAction α}
    (spares : SparesAllowances action) :
    Spends spender (fun _ _ => 0) action := by
  intro world isOpen
  refine (Yields.of_keeps (spares world)).imp ?_ ?_
  · rintro _ rfl
    exact ⟨isOpen, rfl⟩
  · rintro _ after ⟨isOpen, same⟩
    exact ⟨isOpen, .of_same same⟩

/-- What is spent by two actions adds up. -/
theorem bind
    {first : TokenAction β}
    {next : β → TokenAction α}
    (begins : Spends spender spent first)
    (goesOn : ∀ answer, Spends spender more (next answer)) :
    Spends spender (fun owner token => spent owner token + more owner token)
      (first >>= next) := by
  intro world isOpen
  refine (begins world isOpen).bind fun answer => Yields.of_each fun middle reached => ?_
  refine (goesOn answer middle reached.1).imp (fun _ => id) ?_
  rintro _ after ⟨isOpen, goesOn⟩
  exact ⟨isOpen, reached.2.trans goesOn⟩

theorem of_eq
    {action : TokenAction α}
    (spends : Spends spender spent action)
    (same : ∀ owner token, spent owner token = more owner token) :
    Spends spender more action := by
  have same : spent = more := funext fun owner => funext (same owner)
  exact same ▸ spends

/-- What spares the allowances may come first. -/
theorem after
    {first : TokenAction β}
    {next : β → TokenAction α}
    (spares : SparesAllowances first)
    (goesOn : ∀ answer, Spends spender spent (next answer)) :
    Spends spender spent (first >>= next) :=
  (bind (of_spares spares) goesOn).of_eq fun _ _ => Nat.zero_add _

/-- What spares the allowances may come last. -/
theorem before
    {first : TokenAction β}
    {next : β → TokenAction α}
    (begins : Spends spender spent first)
    (spares : ∀ answer, SparesAllowances (next answer)) :
    Spends spender spent (first >>= next) :=
  bind begins fun answer => of_spares (spares answer)

/-- A loop spends what its rounds spend. -/
theorem forM
    {cost : β → Address → Address → Nat}
    {step : β → TokenAction PUnit}
    (round : ∀ item, Spends spender (cost item) (step item))
    (items : List β) :
    Spends spender (fun owner token => (items.map fun item => cost item owner token).sum)
      (items.forM step) := by
  induction items with
  | nil =>
      exact of_spares fun _ => Keeps.pure _
  | cons item rest inductionHypothesis =>
      exact ((round item).bind fun _ => inductionHypothesis).of_eq fun _ _ => rfl

end Spends

theorem spends_spendAllowance
    (token spender : Address)
    (leg : AccountAmount) :
    Spends spender
      (fun owner token' =>
        if leg.account = owner ∧ token = token' then leg.amount.toInt.natAbs else 0)
      (spendAllowance token spender leg) := by
  intro world isOpen
  have size : (UInt64.ofNat leg.amount.toInt.natAbs).toNat = leg.amount.toInt.natAbs := by
    have low := leg.amount.minValue_le_toInt
    have high := leg.amount.toInt_le
    have least : Int64.minValue.toInt = -2 ^ 63 := rfl
    have greatest : Int64.maxValue.toInt = 2 ^ 63 - 1 := rfl
    exact UInt64.toNat_ofNat_of_lt' (by rw [UInt64.size]; omega)
  refine (reads_ask _).bind fun allowed asked => ?_
  refine (reads_ensure _ _).bind fun _ _ => ?_
  refine (reads_ensure _ _).bind fun _ enough => ?_
  have enough : UInt64.ofNat leg.amount.toInt.natAbs ≤ allowed := by simpa using enough
  refine yields_change ?_
  rintro _ rfl
  refine ⟨isOpen.record _, ?_, ?_, ?_⟩
  · intro owner token'
    split
    · rename_i here
      obtain ⟨rfl, rfl⟩ := here
      rw [World.allowed, asked, ← size]
      exact UInt64.le_iff_toNat_le.mp enough
    · exact Nat.zero_le _
  · intro owner token'
    rw [World.allowance_setAllowance isOpen]
    by_cases here : leg.account = owner ∧ token = token'
    · obtain ⟨rfl, rfl⟩ := here
      simp only [and_self, if_true, asked, Except.map, Except.ok.injEq]
      rw [UInt64.toNat_sub_of_le _ _ enough, size]
      have enough := UInt64.le_iff_toNat_le.mp enough
      omega
    · rw [if_neg here, if_neg fun same => here ⟨same.1.symm, same.2.1.symm⟩]
      rfl
  · intro owner token' other different
    rw [World.allowance_setAllowance isOpen, if_neg fun same => different same.2.2]

theorem spends_applyLeg
    (token spender : Address)
    (leg : AccountAmount) :
    Spends spender
      (fun owner token' =>
        if leg.account = owner ∧ token = token' then leg.debitOnApproval else 0)
      (applyLeg token spender leg) := by
  have settled (holding : Relationship) :
      SparesAllowances (do
        let balance ← shifted holding.balance leg.amount .insufficientTokenBalance
        setBalance holding balance) := by
    intro start
    refine (keeps_shifted _ _ _).bind fun balance => ?_
    exact (keptByBalances_sameAllowances start).setBalance _ _
  refine .after (fun _ => keeps_relationship _ _) fun holding => ?_
  refine .after (fun _ => keeps_ensure _ _) fun _ => ?_
  refine .after (fun _ => keeps_ensure _ _) fun _ => ?_
  dsimp only
  split
  · rename_i spends
    simp only [AccountAmount.debitOnApproval_of_spends spends]
    exact (spends_spendAllowance token spender leg).before fun _ => settled holding
  · rename_i keeps
    simp only [AccountAmount.debitOnApproval_of_not_spends keeps, ite_self]
    exact .of_spares (settled holding)

theorem spends_transferToken
    (spender : Address)
    (list : TokenTransfers) :
    Spends spender
      (fun owner token =>
        if list.token = token then list.sumOf AccountAmount.debitOnApproval owner else 0)
      (transferToken spender list) := by
  have pieces (token : Token) :
      SparesAllowances (list.nftTransfers.forM fun leg => do
        ensure token.isNonFungible .invalidTransactionBody
        movePiece list.token spender leg) := by
    intro start
    refine Keeps.forM fun leg _ => (keeps_ensure _ _).bind fun _ => ?_
    exact (keptByBalances_sameAllowances start).movePiece _ _ leg
  have legs :
      Spends spender
        (fun owner token =>
          if list.token = token then list.sumOf AccountAmount.debitOnApproval owner else 0)
        (list.transfers.forM (applyLeg list.token spender)) := by
    refine (Spends.forM (spends_applyLeg list.token spender) list.transfers).of_eq
      fun owner token => ?_
    by_cases here : list.token = token <;> simp [here, TokenTransfers.sumOf]
  refine .after (fun _ => keeps_liveToken _) fun token => ?_
  dsimp only
  split
  · refine .after (fun _ => keeps_ensure _ _) fun _ => ?_
    refine .after (fun _ => keeps_ensure _ _) fun _ => ?_
    exact legs.before fun _ => pieces token
  · exact legs.before fun _ => pieces token

/-- A transfer spends what its legs take on approval. -/
theorem spends_transfer
    (transfer : CryptoTransfer)
    (spender : Address) :
    Spends spender transfer.debitsOnApproval (TokenAction.transfer transfer spender) := by
  have adjusts (address : Address) (update : Account → Account) :
      SparesAllowances (adjust address update) := by
    intro start
    refine keeps_adjust ?_
    rintro _ _ _ changed ⟨isOpen, same⟩
    exact ⟨(SameBelow.updateAccount changed).isOpen isOpen,
      (World.allowance_updateAccount changed).trans same⟩
  refine .after (fun start =>
    keeps_transferCurrency (fun address update => adjusts address update start) _) fun _ => ?_
  exact Spends.forM (spends_transferToken spender) transfer.tokenTransfers

end TokenAction

/-! ## Reading calls -/

/-- Serial numbers are not negative. -/
theorem AbiValue.nonneg_of_asSerial
    {value : AbiValue}
    {serial : Int64}
    (read : value.asSerial = .ok serial) :
    0 ≤ serial.toInt := by
  obtain ⟨number, _, read⟩ := exists_of_bind_eq_ok read
  cases converted : Int64.ofUInt64? number with
  | none =>
      rw [converted] at read
      cases read
  | some found =>
      rw [converted] at read
      cases read
      rw [Int64.toInt_of_ofInt? converted]
      exact Int.natCast_nonneg _

namespace CryptoTransfer

/-- Debits are made on approval where they are made for another account than the caller's. -/
def AsksApproval (transfer : CryptoTransfer) (caller : Address) : Prop :=
  ∀ list ∈ transfer.tokenTransfers, ∀ leg ∈ list.transfers,
    leg.amount < 0 → (leg.isApproval = true ↔ leg.account ≠ caller)

variable {transfer : CryptoTransfer} {caller : Address}

theorem sumOf_congr
    {count count' : AccountAmount → Nat}
    {account : Address}
    (same :
      ∀ list ∈ transfer.tokenTransfers, ∀ leg ∈ list.transfers,
        leg.account = account → count leg = count' leg)
    (token : Address) :
    transfer.sumOf count account token = transfer.sumOf count' account token := by
  refine congrArg List.sum (List.map_congr_left fun list member => ?_)
  split
  · refine congrArg List.sum (List.map_congr_left fun leg legMember => ?_)
    split
    · rename_i here
      exact same list member leg legMember here
    · rfl
  · rfl

/-- On approval a transfer takes all that it takes from others, and nothing from the caller. -/
theorem debitsOnApproval_eq
    (asks : transfer.AsksApproval caller)
    (account token : Address) :
    transfer.debitsOnApproval account token =
      if account = caller then 0 else transfer.debits account token := by
  have eachLeg :
      ∀ list ∈ transfer.tokenTransfers, ∀ leg ∈ list.transfers,
        leg.account = account →
          leg.debitOnApproval = if account = caller then 0 else leg.debit := by
    rintro list member leg legMember rfl
    have asks := asks list member leg legMember
    by_cases taking : leg.amount < 0
    · by_cases own : leg.account = caller
      · have noApproval : ¬ leg.isApproval = true := fun approved => (asks taking).mp approved own
        rw [if_pos own, AccountAmount.debitOnApproval, if_neg noApproval]
      · rw [if_neg own, AccountAmount.debitOnApproval, if_pos ((asks taking).mpr own)]
    · rw [AccountAmount.debitOnApproval_of_not_spends fun spends => taking spends.2,
        AccountAmount.debit_of_credit taking, ite_self]
  rw [debitsOnApproval, sumOf_congr eachLeg]
  split
  · simp [sumOf, TokenTransfers.sumOf]
  · rfl

theorem asksApproval_markApprovals
    (transfer : CryptoTransfer)
    (caller : Address) :
    (transfer.markApprovals caller).AsksApproval caller := by
  intro list member leg legMember debit
  obtain ⟨unmarked, _, rfl⟩ := List.mem_map.mp member
  obtain ⟨plain, _, rfl⟩ := List.mem_map.mp legMember
  have debit : plain.amount < 0 := debit
  simp [debit]

/-- A credit needs no approval, so only the debit of the source has to be marked. -/
theorem asksApproval_fungible
    {token source target : Address}
    {amount : Int64}
    {isApproval : Bool}
    (marked : isApproval = true ↔ source ≠ caller)
    (credit : 0 ≤ amount.toInt) :
    (fungible token source target amount isApproval).AsksApproval caller := by
  intro list member leg legMember debit
  obtain rfl := List.mem_singleton.mp member
  rcases List.mem_pair.mp legMember with rfl | rfl
  · exact marked
  · have debit : amount.toInt < 0 := Int64.lt_iff_toInt_lt.mp debit
    omega

/-- Moving a piece has no legs. -/
theorem asksApproval_piece
    (token source target : Address)
    (serial : Int64)
    (isApproval : Bool) :
    (piece token source target serial isApproval).AsksApproval caller := by
  intro list member leg legMember
  obtain rfl := List.mem_singleton.mp member
  cases legMember

end CryptoTransfer

namespace CallSetting

/-- The call is read on behalf of the account. -/
def IsFor (sender : Address) : CallSetting → Prop
  | .approval setting => setting.owner = sender
  | .transfer setting => setting.sender = sender
  | _ => True

end CallSetting

namespace SystemCall

theorem isFor_settingAt
    (call : SystemCall)
    (token : Token)
    (address : Address)
    (selector : Selector)
    (function : TokenFunction) :
    (call.settingAt token address selector function).IsFor call.sender := by
  unfold settingAt
  split <;> rfl

end SystemCall

namespace DispatchedCall

/-- A dispatched call is read on behalf of its sender. -/
theorem isFor_of_called?
    {dispatched : DispatchedCall}
    {world : World}
    {function : TokenFunction}
    {setting : CallSetting}
    (called : dispatched.called? world = some (function, setting)) :
    setting.IsFor dispatched.call.sender := by
  unfold called? at called
  cases known : (SystemCall.readSelector dispatched.input).toOption with
  | none =>
      rw [known] at called
      cases called
  | some selector =>
      simp only [known, Option.bind_eq_bind, Option.bind_some] at called
      cases target : dispatched.token? with
      | none =>
          simp only [target] at called
          obtain ⟨found, _, called⟩ := Option.bind_eq_some_iff.mp called
          cases called
          trivial
      | some address =>
          simp only [target] at called
          obtain ⟨found, _, called⟩ := Option.bind_eq_some_iff.mp called
          obtain ⟨token, _, called⟩ := Option.bind_eq_some_iff.mp called
          cases called
          exact SystemCall.isFor_settingAt _ _ _ _ _

end DispatchedCall

namespace TokenFunction

open ValueReader
  (Returns returns_pure returns_bind returns_bind_given returns_nextAs of_readFrom)

/-- The functions that move a token from one account to another. -/
def transfers : TokenFunction → Bool
  | .transferToken | .transferTokens | .transferNft | .ercTransfer | .ercTransferFrom => true
  | _ => false

/-- The functions that let another account move a token. -/
def approves : TokenFunction → Bool
  | .approve | .approveNft | .ercApprove => true
  | _ => false

variable
  {function : TokenFunction}
  {selector : Selector}
  {input : Bytes}
  {sender : Address}
  {read : TokenCall}

theorem asksApproval_transferAt
    {setting : TransferSetting}
    {source target : Address}
    {value : Int64}
    {isApproval : Bool}
    (marked : isApproval = true ↔ source ≠ sender)
    (credit : 0 ≤ value.toInt) :
    (transferAt setting source target value isApproval).AsksApproval sender := by
  unfold transferAt
  split
  · exact CryptoTransfer.asksApproval_piece _ _ _ _ _
  · exact CryptoTransfer.asksApproval_fungible marked credit

/--
A transfer that is read has its approvals marked for the caller, or it is read at a token's
address and made on approval unless the caller is the source.
-/
theorem exists_of_readTransferCall
    {property : CryptoTransfer → Prop}
    {setting : CallSetting}
    (transfers : function.transfers = true)
    (isFor : setting.IsFor sender)
    (marked : ∀ transfer : CryptoTransfer, property (transfer.markApprovals sender))
    (atToken :
      ∀ setting source target value isApproval,
        (isApproval = true ↔ source ≠ sender) →
        0 ≤ Int64.toInt value →
        property (transferAt setting source target value isApproval))
    (found : function.readCall input setting sender = .ok read) :
    ∃ transfer kind, read = .write (.cryptoTransfer transfer) kind ∧ property transfer := by
  cases function with
  | transferToken | transferTokens | transferNft =>
      obtain ⟨transfer, _, done⟩ := exists_of_bind_eq_ok found
      cases done
      exact ⟨_, _, rfl, marked _⟩
  | ercTransfer =>
      cases setting with
      | transfer setting =>
          obtain rfl := isFor
          obtain ⟨transfer, own, done⟩ := exists_of_bind_eq_ok found
          cases done
          refine ⟨_, _, rfl, of_readFrom (?_ : Returns _ property) own⟩
          refine returns_bind _ fun target => ?_
          refine returns_bind_given (returns_nextAs fun _ _ => AbiValue.nonneg_of_asSerial)
            fun value credit => returns_pure ?_
          exact atToken _ _ _ _ _ (by simp) credit
      | _ => cases found
  | ercTransferFrom =>
      cases setting with
      | transfer setting =>
          obtain rfl := isFor
          obtain ⟨transfer, forOwner, done⟩ := exists_of_bind_eq_ok found
          cases done
          refine ⟨_, _, rfl, of_readFrom (?_ : Returns _ property) forOwner⟩
          refine returns_bind _ fun source => returns_bind _ fun target => ?_
          refine returns_bind_given (returns_nextAs fun _ _ => AbiValue.nonneg_of_asSerial)
            fun value credit => returns_pure ?_
          exact atToken _ _ _ _ _ (by simp) credit
      | _ => cases found
  | _ =>
      cases transfers

/-- A transfer is read with approval asked for all that is taken from others. -/
theorem asksApproval_of_readCall
    {setting : CallSetting}
    (transfers : function.transfers = true)
    (isFor : setting.IsFor sender)
    (found : function.readCall input setting sender = .ok read) :
    ∃ transfer kind,
      read = .write (.cryptoTransfer transfer) kind ∧ transfer.AsksApproval sender :=
  exists_of_readTransferCall transfers isFor
    (fun transfer => CryptoTransfer.asksApproval_markApprovals transfer sender)
    (fun _ _ _ _ _ marked credit => asksApproval_transferAt marked credit) found

theorem returns_readGrant
    (setting : ApprovalSetting)
    (token : Address) :
    Returns (readGrant setting token) fun approval =>
      ∀ allowance ∈ approval.tokenAllowances, allowance.owner = setting.owner := by
  refine returns_bind _ fun spender => ?_
  split
  · refine returns_bind _ fun amount => returns_pure ?_
    intro allowance member
    obtain rfl := List.mem_singleton.mp member
    rfl
  · refine returns_bind _ fun serial => returns_pure ?_
    intro allowance member
    cases member

/-- An approval is read as one of the sender's. -/
theorem owner_of_readCall
    {setting : CallSetting}
    (approves : function.approves = true)
    (isFor : setting.IsFor sender)
    (found : function.readCall input setting sender = .ok read) :
    ∃ approval kind,
      read = .write (.cryptoApproveAllowance approval) kind ∧
        ∀ allowance ∈ approval.tokenAllowances, allowance.owner = sender := by
  cases function with
  | approve | approveNft =>
      obtain ⟨approval, named, done⟩ := exists_of_bind_eq_ok found
      cases done
      refine ⟨_, _, rfl,
        of_readFrom
          (?_ : Returns _ fun approval =>
            ∀ allowance ∈ approval.tokenAllowances, allowance.owner = sender)
          named⟩
      exact returns_bind _ fun token => returns_readGrant _ token
  | ercApprove =>
      cases setting with
      | approval setting =>
          obtain rfl := isFor
          obtain ⟨approval, atToken, done⟩ := exists_of_bind_eq_ok found
          cases done
          exact ⟨_, _, rfl, of_readFrom (returns_readGrant _ _) atToken⟩
      | _ => cases found
  | _ =>
      cases approves

end TokenFunction

/-! ## Dispatched calls -/

namespace TokenAction

variable {world after : World} {sender : Address} {result : TokenResult}

theorem allowancesSpent_of_framed
    {transfer : CryptoTransfer}
    (isOpen : world.IsOpen)
    (done : (run (.cryptoTransfer transfer) sender).framed world = .ok result after) :
    AllowancesSpent sender transfer.debitsOnApproval world after := by
  obtain ⟨inner, ran, rfl⟩ := exists_of_framed done
  have inside : SameBelow world.push inner :=
    Ensures.of_ok (keeps_run_sameBelow world.push _ sender) ran (.refl _)
  obtain ⟨_, middle, moved, answered⟩ := exists_of_run_eq_ok ran
  cases answered
  have spends := spends_transfer transfer sender world.push (World.isOpen_push world)
  have spent := (Ensures.of_ok spends moved rfl).2
  exact spent.congr (World.allowance_push world).symm (World.allowance_commit isOpen inside)

theorem allowance_of_framed_approve
    {approval : ApproveAllowance}
    {owner : Address}
    (isOpen : world.IsOpen)
    (done : (run (.cryptoApproveAllowance approval) sender).framed world = .ok result after)
    (foreign : ∀ allowance ∈ approval.tokenAllowances, allowance.owner ≠ owner)
    (token spender : Address) :
    after.allowance owner token spender = world.allowance owner token spender := by
  obtain ⟨inner, ran, rfl⟩ := exists_of_framed done
  have inside : SameBelow world.push inner :=
    Ensures.of_ok (keeps_run_sameBelow world.push _ sender) ran (.refl _)
  have kept := keptByBalances_allowances fun allowance =>
    ∀ token spender, allowance owner token spender = world.allowance owner token spender
  obtain ⟨_, middle, approved, answered⟩ := exists_of_run_eq_ok ran
  cases answered
  refine (congrFun (congrFun (congrFun (World.allowance_commit isOpen inside) owner) token)
    spender).trans ?_
  refine (Ensures.of_ok (kept.approve ?_) approved ?_).2 token spender
  · rintro allowance member granting ⟨isOpen, same⟩
    refine ⟨isOpen.record _, fun token spender => ?_⟩
    rw [World.allowance_setAllowance isOpen,
      if_neg fun here => foreign allowance member here.1.symm]
    exact same token spender
  · exact ⟨World.isOpen_push world, fun _ _ => by rw [World.allowance_push]⟩

end TokenAction

namespace World

/--
What a transfer by a caller does to the allowances: it takes no more from another account
than the caller was allowed, what it takes is no longer allowed, and no other allowance
changes.
-/
structure UsesAllowances
    (caller : Address)
    (transfer : CryptoTransfer)
    (before after : World) :
    Prop where
  within :
    ∀ owner token, owner ≠ caller →
      transfer.debits owner token ≤ before.allowed owner token caller
  exact :
    ∀ owner token, owner ≠ caller →
      (after.allowance owner token caller).map
          (fun rest => rest.toNat + transfer.debits owner token) =
        (before.allowance owner token caller).map UInt64.toNat
  others :
    ∀ owner token spender, owner = caller ∨ spender ≠ caller →
      after.allowance owner token spender = before.allowance owner token spender

/-- What is taken on approval is what is taken from others. -/
theorem UsesAllowances.of_spent
    {caller : Address}
    {transfer : CryptoTransfer}
    {before after : World}
    (asks : transfer.AsksApproval caller)
    (uses : AllowancesSpent caller transfer.debitsOnApproval before after) :
    UsesAllowances caller transfer before after where
  within owner token foreign := by
    have within := uses.within owner token
    rwa [CryptoTransfer.debitsOnApproval_eq asks, if_neg foreign] at within
  exact owner token foreign := by
    have exactly := uses.exact owner token
    rwa [CryptoTransfer.debitsOnApproval_eq asks, if_neg foreign] at exactly
  others owner token spender elsewhere := by
    by_cases own : spender = caller
    · subst own
      have owned : owner = spender := elsewhere.resolve_right fun different => different rfl
      exact uses.same (by rw [CryptoTransfer.debitsOnApproval_eq asks, if_pos owned])
    · exact uses.others owner token spender own

end World

namespace DispatchedCall

variable
  {dispatched : DispatchedCall}
  {world after : World}
  {answer : SystemAnswer}
  {function : TokenFunction}
  {setting : CallSetting}

/--
An answered call of a transferring function is read into a transfer that uses the
sender's allowances up, and one of an approving function writes the sender's own only.
-/
theorem allowances_of_answer
    (isOpen : world.IsOpen)
    (answered : dispatched.answer world = .ok answer after)
    (called : dispatched.called? world = some (function, setting)) :
    (function.transfers = true →
      ∃ transfer,
        dispatched.body? world = some (.cryptoTransfer transfer) ∧
          World.UsesAllowances dispatched.call.sender transfer world after) ∧
      (function.approves = true →
        ∀ owner token spender, owner ≠ dispatched.call.sender →
          after.allowance owner token spender = world.allowance owner token spender) := by
  obtain ⟨_, _, read, result, called', found, performed⟩ := exists_of_answer answered
  cases called.symm.trans called'
  have isFor := isFor_of_called? called
  constructor
  · intro transfers
    obtain ⟨transfer, kind, rfl, asks⟩ :=
      TokenFunction.asksApproval_of_readCall transfers isFor found
    have body : .cryptoTransfer transfer ∈ dispatched.body? world :=
      (mem_body?_iff called).mpr ⟨kind, found⟩
    obtain ⟨result, done⟩ := exists_of_body? answered body
    exact ⟨transfer, body, .of_spent asks (TokenAction.allowancesSpent_of_framed isOpen done)⟩
  · intro approves owner token spender foreign
    obtain ⟨approval, kind, rfl, own⟩ :=
      TokenFunction.owner_of_readCall approves isFor found
    obtain ⟨result, done⟩ := exists_of_body? answered ((mem_body?_iff called).mpr ⟨kind, found⟩)
    refine TokenAction.allowance_of_framed_approve isOpen done ?_ token spender
    intro allowance member same
    exact foreign (same ▸ own allowance member)

/--
A list takes from its owner twice; the caller was allowed fifty and is allowed twenty then.
-/
theorem two_debits_use_one_allowance :
    let owner := Address.ofNum 1001
    let caller := Address.ofNum 1002
    let token : Token := { address := Address.ofNum 2001, treasury := owner, totalSupply := 100 }
    let holding (account : Address) (balance : UInt64) : Relationship :=
      { account, token := token.address, balance, kycGranted := true }
    let contents : Snapshot.Contents :=
      { tokens := Table.ofList [(token.address, token)]
        relationships :=
          Table.ofList
            [(⟨owner, token.address⟩, holding owner 100),
              (⟨caller, token.address⟩, holding caller 0)]
        allowances := Table.ofList [(⟨owner, token.address, caller⟩, 50)] }
    let world := (World.ofSnapshot (.ofContents contents) false ⟨0⟩ 5000).push
    let source : PriceSource :=
      { schedule := FeeSchedule.empty.list ⟨0⟩ [.cryptoTransfer, .contractCall] { }
        rates := RateTable.empty.list ⟨0⟩ (.lasting 1 12) }
    let dispatched : DispatchedCall :=
      { call := ⟨caller, ⟨0⟩, 10000000, false⟩
        source
        token? := none
        input :=
          AbiValue.encodeCall TokenFunction.transferTokens.selector
            [.address token.address, .array [.address owner, .address caller, .address owner],
              .array [.int (-20), .int 30, .int (-10)]] }
    let transfer : CryptoTransfer :=
      .ofToken
        ⟨token.address, [⟨owner, -20, true⟩, ⟨caller, 30, false⟩, ⟨owner, -10, true⟩], []⟩
    ∃ answer after,
      world.IsOpen ∧
        dispatched.answer world = .ok answer after ∧
        dispatched.called? world = some (.transferTokens, .plain) ∧
        dispatched.body? world = some (.cryptoTransfer transfer) ∧
        transfer.debits owner token.address = 30 ∧
        world.allowance owner token.address caller = .ok 50 ∧
        after.allowance owner token.address caller = .ok 20 ∧
        World.UsesAllowances caller transfer world after := by
  intro owner caller token holding contents world source dispatched transfer
  have isOpen : world.IsOpen := World.isOpen_push _
  obtain ⟨called, body, left, succeeds⟩ :
      dispatched.called? world = some (.transferTokens, .plain) ∧
        dispatched.body? world = some (.cryptoTransfer transfer) ∧
          (leaves dispatched.answer world).allowance owner token.address caller = .ok 20 ∧
            (match dispatched.answer world with
              | .ok _ _ => true
              | .error _ _ => false) = true := by
    decide +kernel
  cases answered : dispatched.answer world with
  | error error after =>
      rw [answered] at succeeds
      cases succeeds
  | ok answer after =>
      obtain ⟨found, read, uses⟩ := (allowances_of_answer isOpen answered called).1 rfl
      cases read.symm.trans body
      rw [leaves, answered] at left
      exact ⟨answer, after, isOpen, rfl, called, body, by decide, by decide, left, uses⟩

end DispatchedCall

end LedgerEvm
