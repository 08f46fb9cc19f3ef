import Mathlib.Data.List.Forall2
import LedgerEvm.Proofs.Fee.Charges
import LedgerEvm.Proofs.Fee.Prices

namespace LedgerEvm

/-!
# Doing more

A body that has everything another one has, and more of it in one of its lists, uses no less of
any resource.  It is charged at the same prices, so it takes no less gas.
-/

/-! ## Bodies that grow -/

/-- More movements of the same token. -/
structure TokenTransfers.GrowsTo (list more : TokenTransfers) : Prop where
  token : list.token = more.token
  transfers : list.transfers.Sublist more.transfers
  nftTransfers : list.nftTransfers.Sublist more.nftTransfers

/-- More serial numbers for the same spender. -/
structure NftAllowance.GrowsTo (allowance more : NftAllowance) : Prop where
  token : allowance.token = more.token
  owner : allowance.owner = more.owner
  spender : allowance.spender = more.spender
  serials : allowance.serials.Sublist more.serials

namespace TransactionBody

/--
The second body has everything the first one has, in its order, and perhaps more of it in any
of the lists.
-/
inductive GrowsTo : TransactionBody → TransactionBody → Prop where
  | associate
      (account : Address) {tokens more : List Address}
      (listed : tokens.Sublist more) :
      GrowsTo (.tokenAssociateToAccount ⟨account, tokens⟩)
        (.tokenAssociateToAccount ⟨account, more⟩)
  | dissociate
      (account : Address) {tokens more : List Address}
      (listed : tokens.Sublist more) :
      GrowsTo (.tokenDissociateFromAccount ⟨account, tokens⟩)
        (.tokenDissociateFromAccount ⟨account, more⟩)
  | mint
      (token : Address) (amount : UInt64) {metadata more : List Bytes}
      (listed : metadata.SublistForall₂ List.Sublist more) :
      GrowsTo (.tokenMint ⟨token, amount, metadata⟩) (.tokenMint ⟨token, amount, more⟩)
  | burn
      (token : Address) (amount : UInt64) {serials more : List Int64}
      (listed : serials.Sublist more) :
      GrowsTo (.tokenBurn ⟨token, amount, serials⟩) (.tokenBurn ⟨token, amount, more⟩)
  | wipe
      (token account : Address) (amount : UInt64) {serials more : List Int64}
      (listed : serials.Sublist more) :
      GrowsTo (.tokenAccountWipe ⟨token, account, amount, serials⟩)
        (.tokenAccountWipe ⟨token, account, amount, more⟩)
  | transfer
      {transfer more : CryptoTransfer}
      (hbars : transfer.hbarTransfers.Sublist more.hbarTransfers)
      (tokens : transfer.tokenTransfers.SublistForall₂ TokenTransfers.GrowsTo more.tokenTransfers) :
      GrowsTo (.cryptoTransfer transfer) (.cryptoTransfer more)
  | approve
      {approval more : ApproveAllowance}
      (amounts : approval.tokenAllowances.Sublist more.tokenAllowances)
      (pieces : approval.nftAllowances.SublistForall₂ NftAllowance.GrowsTo more.nftAllowances) :
      GrowsTo (.cryptoApproveAllowance approval) (.cryptoApproveAllowance more)
  | create
      (creation : TokenCreate) {name symbol : String}
      (names : creation.name.toUTF8.data.toList.Sublist name.toUTF8.data.toList)
      (symbols : creation.symbol.toUTF8.data.toList.Sublist symbol.toUTF8.data.toList) :
      GrowsTo (.tokenCreate creation) (.tokenCreate { creation with name, symbol })

/--
The total sizes of the lists in a body: how many items of each kind there are, and how many
bytes where these count.
-/
def sizes : TransactionBody → List Nat
  | .tokenAssociateToAccount relations => [relations.tokens.length]
  | .tokenDissociateFromAccount relations => [relations.tokens.length]
  | .tokenMint mint => [mint.metadata.length, (mint.metadata.map List.length).sum]
  | .tokenBurn burn => [burn.serials.length]
  | .tokenAccountWipe wipe => [wipe.serials.length]
  | .cryptoTransfer transfer =>
      [transfer.hbarTransfers.length, transfer.tokenTransfers.length,
        (transfer.tokenTransfers.map fun list => list.transfers.length).sum,
        (transfer.tokenTransfers.map fun list => list.nftTransfers.length).sum]
  | .cryptoApproveAllowance approval =>
      [approval.tokenAllowances.length, approval.nftAllowances.length,
        (approval.nftAllowances.map fun allowance => allowance.serials.length).sum]
  | .tokenCreate creation => [creation.name.utf8ByteSize, creation.symbol.utf8ByteSize]
  | _ => []

/-- Larger items, and more of them, are no fewer in sum. -/
theorem sum_le_of_sublistForall₂
    {α : Type}
    {grows : α → α → Prop}
    {items more : List α}
    (listed : items.SublistForall₂ grows more)
    {measure : α → Nat}
    (each : ∀ item greater, grows item greater → measure item ≤ measure greater) :
    (items.map measure).sum ≤ (more.map measure).sum := by
  refine List.SublistForall₂.sum_le_sum ?_ fun _ _ => Nat.zero_le _
  rw [List.sublistForall₂_map_left_iff, List.sublistForall₂_map_right_iff]
  obtain ⟨among, pairs, sub⟩ := List.sublistForall₂_iff.mp listed
  exact List.sublistForall₂_iff.mpr ⟨among, pairs.imp each, sub⟩

theorem length_le_of_sublistForall₂
    {α : Type}
    {grows : α → α → Prop}
    {items more : List α}
    (listed : items.SublistForall₂ grows more) :
    items.length ≤ more.length := by
  obtain ⟨among, pairs, sub⟩ := List.sublistForall₂_iff.mp listed
  exact pairs.length_eq ▸ sub.length_le

namespace GrowsTo

variable {body more : TransactionBody}

theorem sizes_le
    (grows : body.GrowsTo more) :
    List.Forall₂ (· ≤ ·) body.sizes more.sizes := by
  cases grows with
  | associate _ listed => exact .cons listed.length_le .nil
  | dissociate _ listed => exact .cons listed.length_le .nil
  | mint _ _ listed =>
      have bytes := sum_le_of_sublistForall₂ listed fun _ _ sub => sub.length_le
      exact .cons (length_le_of_sublistForall₂ listed) (.cons bytes .nil)
  | burn _ _ listed => exact .cons listed.length_le .nil
  | wipe _ _ _ listed => exact .cons listed.length_le .nil
  | transfer hbars tokens =>
      have fungible := sum_le_of_sublistForall₂ tokens fun _ _ grows => grows.transfers.length_le
      have unique := sum_le_of_sublistForall₂ tokens fun _ _ grows => grows.nftTransfers.length_le
      exact .cons hbars.length_le
        (.cons (length_le_of_sublistForall₂ tokens) (.cons fungible (.cons unique .nil)))
  | approve amounts pieces =>
      have serials := sum_le_of_sublistForall₂ pieces fun _ _ grows => grows.serials.length_le
      exact .cons amounts.length_le
        (.cons (length_le_of_sublistForall₂ pieces) (.cons serials .nil))
  | create _ names symbols => exact .cons names.length_le (.cons symbols.length_le .nil)

/-- More of the same is listed under the same functionality. -/
theorem classify_eq
    (grows : body.GrowsTo more) :
    body.classify = more.classify := by
  cases grows <;> rfl

end GrowsTo

/-- The sizes count up to others, all of which are small. -/
def FitsIn (body more : TransactionBody) : Prop :=
  List.Forall₂ (fun size greater => size ≤ greater ∧ greater < 2 ^ 32) body.sizes more.sizes

theorem GrowsTo.fitsIn
    {body more : TransactionBody}
    (grows : body.GrowsTo more)
    (small : ∀ size ∈ more.sizes, size < 2 ^ 32) :
    body.FitsIn more := by
  have pairs := grows.sizes_le
  unfold FitsIn
  generalize body.sizes = sizes at pairs ⊢
  generalize more.sizes = greater at pairs small ⊢
  induction pairs with
  | nil => exact .nil
  | cons le _ inductionHypothesis =>
      refine .cons ⟨le, small _ List.mem_cons_self⟩ (inductionHypothesis fun size member => ?_)
      exact small size (List.mem_cons_of_mem _ member)

end TransactionBody

/-! ## Usage -/

namespace Assessment

/-- A sum of lengths that stays in range is exact. -/
theorem total_ofNatClamp
    {α : Type}
    (measure : α → Nat)
    {items : List α}
    (small : (items.map measure).sum < 2 ^ 32) :
    total (fun item => Int64.ofNatClamp (measure item)) items =
      Int64.ofNatClamp (items.map measure).sum := by
  induction items with
  | nil => rfl
  | cons item rest inductionHypothesis =>
      rw [List.map_cons, List.sum_cons] at small ⊢
      have before := inductionHypothesis (by omega)
      rw [total] at before
      have exact {count : Nat} (fits : count < 2 ^ 32) :
          (Int64.ofNatClamp count).toInt = count := by
        rw [Int64.ofNatClamp, Int64.toInt_ofIntClamp_of_nonneg (Int.natCast_nonneg _),
          Int64.toInt_maxValue]
        omega
      have here := exact (Nat.lt_of_le_of_lt (Nat.le_add_right ..) small)
      have later := exact (Nat.lt_of_le_of_lt (Nat.le_add_left ..) small)
      have low := Int64.toInt_minValue
      have high := Int64.toInt_maxValue
      rw [total, List.map_cons, List.sum_cons, before, ← Int64.toInt_inj, exact small,
        Int64.toInt_add_of_inRange (by omega) (by omega), here, later, Int.natCast_add]

variable
  {usage more : Usage}
  {size greater : Nat}

/-- A size as it is counted. -/
theorem counts_of_fits
    (fits : size ≤ greater ∧ greater < 2 ^ 32) :
    Int64.CountsWithin (2 ^ 32) (Int64.ofNatClamp size) (Int64.ofNatClamp greater) :=
  .ofNatClamp fits.1 fits.2

/-- A sum of sizes as it is counted. -/
theorem counts_of_sums_fit
    {α : Type}
    {measure : α → Nat}
    {items items' : List α}
    (fits : (items.map measure).sum ≤ (items'.map measure).sum ∧
      (items'.map measure).sum < 2 ^ 32) :
    Int64.CountsWithin (2 ^ 32) (total (fun item => Int64.ofNatClamp (measure item)) items)
      (total (fun item => Int64.ofNatClamp (measure item)) items') := by
  rw [total_ofNatClamp measure (Nat.lt_of_le_of_lt fits.1 fits.2), total_ofNatClamp measure fits.2]
  exact counts_of_fits fits

theorem counts_entityId :
    Int64.CountsWithin 24 Size.entityId Size.entityId :=
  .same rfl

theorem counts_long :
    Int64.CountsWithin 8 Size.long Size.long :=
  .same rfl

theorem counts_receiptSeconds :
    Int64.CountsWithin 180 Size.receiptSeconds Size.receiptSeconds :=
  .same rfl

theorem counts_threeMonths :
    Int64.CountsWithin 7776000 threeMonths threeMonths :=
  .same rfl

theorem countsUpTo_addTransfer
    (upTo : usage.CountsUpTo more)
    {transfer transfer' : CryptoTransfer}
    (fits : (TransactionBody.cryptoTransfer transfer).FitsIn (.cryptoTransfer transfer')) :
    (addTransfer usage transfer).CountsUpTo (addTransfer more transfer') := by
  obtain _ | ⟨hbars, _ | ⟨tokens, _ | ⟨fungible, _ | ⟨unique, _⟩⟩⟩⟩ := fits
  have leg : Int64.CountsWithin 32 accountAmountBytes accountAmountBytes := .same rfl
  have piece : Int64.CountsWithin 56 nftTransferBytes nftTransferBytes := .same rfl
  have hbar : Int64.CountsWithin 32 Size.accountAmount Size.accountAmount := .same rfl
  have lists := counts_entityId.mul (counts_of_fits tokens) (by decide)
  have legs := lists.add (leg.mul (counts_of_sums_fit fungible) (by decide)) (by decide)
  have bytes := legs.add (piece.mul (counts_of_sums_fit unique) (by decide)) (by decide)
  have stored := (hbar.mul (counts_of_fits hbars) (by decide)).mul counts_receiptSeconds (by decide)
  exact ((upTo.addBpt bytes.upTo).addRbs stored.upTo).addNftTransfers _ _

theorem countsUpTo_addApproval
    (upTo : usage.CountsUpTo more)
    {approval approval' : ApproveAllowance}
    (fits : (TransactionBody.cryptoApproveAllowance approval).FitsIn
      (.cryptoApproveAllowance approval')) :
    (addApproval usage approval).CountsUpTo (addApproval more approval') := by
  obtain _ | ⟨amounts, _ | ⟨pieces, _ | ⟨serials, _⟩⟩⟩ := fits
  have entry :
      Int64.CountsWithin 80 (3 * Size.entityId + Size.long) (3 * Size.entityId + Size.long) :=
    .same rfl
  have three : Int64.CountsWithin 3 3 3 := .same rfl
  have owned := ((counts_of_fits pieces).mul three (by decide)).mul counts_entityId (by decide)
  have unique := owned.add ((counts_of_sums_fit serials).mul counts_long (by decide)) (by decide)
  have bytes := ((counts_of_fits amounts).mul entry (by decide)).add unique (by decide)
  have stored := bytes.mul counts_threeMonths (by decide)
  exact (upTo.addBpt bytes.upTo).addRbs stored.upTo

/-- An amount and pieces are never compared. -/
theorem countsUpTo_addMint
    (upTo : usage.CountsUpTo more)
    {mint mint' : TokenMint}
    (fits : (TransactionBody.tokenMint mint).FitsIn (.tokenMint mint'))
    (sameVariant : mint.metadata.isEmpty = mint'.metadata.isEmpty) :
    (addMint usage mint).CountsUpTo (addMint more mint') := by
  obtain _ | ⟨pieces, _ | ⟨bytes, _⟩⟩ := fits
  unfold addMint
  rw [sameVariant]
  split
  · have bytes := counts_entityId.add counts_long (by decide)
    have listed := counts_long.mul counts_receiptSeconds (by decide)
    exact (upTo.addBpt bytes.upTo).addNetworkRbs listed.upTo
  · have piece : Int64.CountsWithin 40 Size.nft Size.nft := .same rfl
    have count := counts_of_fits pieces
    have metadata := counts_of_sums_fit bytes
    have named := counts_entityId.add metadata (by decide)
    have held := (piece.mul count (by decide)).add metadata (by decide)
    have stored := held.mul counts_threeMonths (by decide)
    have listed := (count.mul counts_long (by decide)).mul counts_receiptSeconds (by decide)
    exact ((upTo.addBpt named.upTo).addRbs stored.upTo).addNetworkRbs listed.upTo

theorem countsUpTo_addCreation
    (upTo : usage.CountsUpTo more)
    {creation creation' : TokenCreate}
    (fits : (TransactionBody.tokenCreate creation).FitsIn (.tokenCreate creation')) :
    (addCreation usage creation).CountsUpTo (addCreation more creation') := by
  obtain _ | ⟨name, _ | ⟨symbol, _⟩⟩ := fits
  have entry : Int64.CountsWithin 100 tokenEntity tokenEntity := .same rfl
  have relation : Int64.CountsWithin 88 Size.tokenRelation Size.tokenRelation := .same rfl
  have names := (counts_of_fits name).add (counts_of_fits symbol) (by decide)
  have bytes := entry.add names (by decide)
  have stored := (bytes.add relation (by decide)).mul counts_threeMonths (by decide)
  have listed := counts_entityId.mul counts_receiptSeconds (by decide)
  exact ((upTo.addBpt bytes.upTo).addRbs stored.upTo).addNetworkRbs listed.upTo

theorem counts_serialOrAmountBytes
    {serials serials' : List Int64}
    (fits : serials.length ≤ serials'.length ∧ serials'.length < 2 ^ 32)
    (sameVariant : serials.isEmpty = serials'.isEmpty) :
    Int64.CountsWithin (8 * 2 ^ 32) (serialOrAmountBytes serials)
      (serialOrAmountBytes serials') := by
  unfold serialOrAmountBytes
  rw [sameVariant]
  split
  · exact ⟨counts_long.upTo, by decide⟩
  · have counted := (counts_of_fits fits).mul counts_long (by decide)
    exact ⟨counted.upTo, Nat.mul_comm 8 _ ▸ counted.within⟩

end Assessment

/-- The variant tells whether there are any pieces. -/
theorem isEmpty_eq_of_variants
    {α β : Type}
    {items : List α}
    {more : List β}
    (same :
      (if items.isEmpty then PriceVariant.standard else .nonFungibleToken) =
        if more.isEmpty then .standard else .nonFungibleToken) :
    items.isEmpty = more.isEmpty := by
  cases items <;> cases more <;> simp_all

namespace Assessment

/-- A body that has more counts no less of anything, or neither is counted. -/
theorem rel_addBody?
    {usage usage' : Usage}
    (upTo : usage.CountsUpTo usage')
    {body more : TransactionBody}
    (grows : body.GrowsTo more)
    (variant : SignedTransaction.variantOf body = SignedTransaction.variantOf more)
    (fits : body.FitsIn more) :
    Option.Rel Usage.CountsUpTo (addBody? usage body) (addBody? usage' more) := by
  cases grows with
  | associate => exact .none
  | dissociate =>
      obtain _ | ⟨tokens, _⟩ := fits
      have one : Int64.CountsWithin 1 1 1 := .same rfl
      have entries := one.add (counts_of_fits tokens) (by decide)
      exact .some (upTo.addBpt (counts_entityId.mul entries (by decide)).upTo)
  | mint => exact .some (countsUpTo_addMint upTo fits (isEmpty_eq_of_variants variant))
  | burn =>
      obtain _ | ⟨serials, _⟩ := fits
      have bytes := counts_serialOrAmountBytes serials (isEmpty_eq_of_variants variant)
      have named := counts_entityId.add bytes (by decide)
      have listed := counts_long.mul counts_receiptSeconds (by decide)
      exact .some ((upTo.addBpt named.upTo).addNetworkRbs listed.upTo)
  | wipe =>
      obtain _ | ⟨serials, _⟩ := fits
      have bytes := counts_serialOrAmountBytes serials (isEmpty_eq_of_variants variant)
      have two : Int64.CountsWithin 2 2 2 := .same rfl
      have named := (two.mul counts_entityId (by decide)).add bytes (by decide)
      have listed := counts_long.mul counts_receiptSeconds (by decide)
      exact .some ((upTo.addBpt named.upTo).addNetworkRbs listed.upTo)
  | transfer => exact .some (countsUpTo_addTransfer upTo fits)
  | approve => exact .some (countsUpTo_addApproval upTo fits)
  | create => exact .some (countsUpTo_addCreation upTo fits)

end Assessment

/-! ## Fees -/

namespace SignedTransaction

/-- The same transaction with another body of its kind. -/
def withBody (signed : SignedTransaction) (body : TransactionBody) : SignedTransaction :=
  { signed with transaction := { signed.transaction with body } }

/-- What a transaction is charged for, counted or estimated. -/
def amounts
    (signed : SignedTransaction)
    (numPayerKeys : Int32)
    (world : World) :
    Except PricingError FeeData :=
  let signatures := signed.signatureUsage numPayerKeys
  if Assessment.counts signed.functionality then do
    return (← Assessment.assess signed signatures).amounts
  else
    (Estimator.forBody signed.transaction.body).amounts signed.transaction signatures world

/-- Both ways of pricing charge for listed amounts. -/
theorem fees_eq
    (signed : SignedTransaction)
    (numPayerKeys : Int32)
    (source : PriceSource)
    (world : World)
    (instant : Timestamp) :
    signed.fees numPayerKeys source world instant = do
      let prices ← source.schedule.variantPrices signed.functionality signed.variant instant
      let rate ← source.rates.rateAt instant
      rate.validate
      return Fees.ofAmounts prices (← signed.amounts numPayerKeys world) rate 1 := by
  unfold fees amounts countedFees
  dsimp only
  split
  · simp only [bind_assoc, pure_bind, Fees.ofUsage_eq_ofAmounts]
  · rfl

variable
  {signed : SignedTransaction}
  {body more : TransactionBody}
  {numPayerKeys : Int32}

/-- As many legs are counted as a 32-bit number holds. -/
theorem countsWithin_numTransfers
    (signed : SignedTransaction)
    (grows : body.GrowsTo more) :
    Int64.CountsWithin 2147483647 (signed.withBody body).baseUsage.numTransfers.toInt64
      (signed.withBody more).baseUsage.numTransfers.toInt64 := by
  cases grows with
  | transfer hbars =>
      have clamped (count : Nat) :
          (Int32.ofIntClamp count).toInt64.toInt = min (2 ^ 31 - 1) (count : Int) := by
        rw [Int32.toInt_toInt64, Int32.toInt_ofIntClamp_of_nonneg (Int.natCast_nonneg _),
          Int32.toInt_maxValue]
      have le := hbars.length_le
      refine ⟨⟨?_, ?_⟩, ?_⟩ <;> simp only [withBody, baseUsage, clamped] <;> omega
  | _ => exact (.ofInt32 (by decide) : Int64.CountsWithin _ (0 : Int32).toInt64 _)

theorem countsWithin_sigsSize
    (someSigs : 0 ≤ signed.numSigs.toInt)
    (numPayerKeys : Int32) :
    Int64.CountsWithin 2147483647 (signed.signatureUsage numPayerKeys).sigsSize.toInt64
      (signed.signatureUsage numPayerKeys).sigsSize.toInt64 :=
  .ofInt32 (Int32.ofIntClamp_nonneg (Int.mul_nonneg someSigs (by decide : 0 ≤ signatureSize)))

/-- The memo and the signatures are the same, and there are no fewer legs. -/
theorem countsUpTo_ofTransaction
    (grows : body.GrowsTo more)
    (someSigs : 0 ≤ signed.numSigs.toInt)
    (someKeys : 0 ≤ numPayerKeys.toInt) :
    (Usage.ofTransaction (signed.withBody body).baseUsage
        (signed.signatureUsage numPayerKeys)).CountsUpTo
      (Usage.ofTransaction (signed.withBody more).baseUsage
        (signed.signatureUsage numPayerKeys)) := by
  have body : Int64.CountsWithin 72 Size.transactionBody Size.transactionBody := .same rfl
  have leg : Int64.CountsWithin 32 Size.accountAmount Size.accountAmount := .same rfl
  have memo :=
    Int64.CountsWithin.ofInt32
      (Int32.ofIntClamp_nonneg (Int.natCast_nonneg signed.transaction.memo.utf8ByteSize))
  have sigs := countsWithin_sigsSize someSigs numPayerKeys
  have legs := countsWithin_numTransfers signed grows
  have kept :
      (positiveQuotient (Size.receipt * Size.receiptSeconds) Size.hour).CountsUpTo
        (positiveQuotient (Size.receipt * Size.receiptSeconds) Size.hour) :=
    .refl (by decide)
  have answered : Size.int.CountsUpTo Size.int := .refl (by decide)
  have nothing : (0 : Int64).CountsUpTo 0 := .refl (by decide)
  have bytes := (body.add memo (by decide)).add sigs (by decide)
  have moved := leg.mul legs (by decide)
  unfold Usage.ofTransaction
  exact Usage.CountsUpTo.addBpt
    { universalBpt := bytes.upTo
      networkVpt := (Int64.CountsWithin.ofInt32 someSigs).upTo
      networkRbh := kept
      nodeBpr := answered
      nodeSbpr := nothing
      nodeVpt := (Int64.CountsWithin.ofInt32 someKeys).upTo
      serviceRbh := nothing
      serviceSbh := nothing }
    moved.upTo

/-- An estimate begins with the memo and the signatures. -/
theorem countsUpTo_estimate
    (someSigs : 0 ≤ signed.numSigs.toInt)
    (someKeys : 0 ≤ numPayerKeys.toInt) :
    (Estimate.ofTransaction signed.transaction (signed.signatureUsage numPayerKeys)).CountsUpTo
      (Estimate.ofTransaction signed.transaction (signed.signatureUsage numPayerKeys)) := by
  have body : Size.transactionBody.CountsUpTo Size.transactionBody := .refl (by decide)
  have memo : (textLength signed.transaction.memo).CountsUpTo _ :=
    (Int64.CountsWithin.ofNatClamp (Nat.le_refl _) (Nat.lt_succ_self _)).upTo
  have sigs := (countsWithin_sigsSize someSigs numPayerKeys).upTo
  have bytes :
      (Estimate.ofTransaction signed.transaction
          (signed.signatureUsage numPayerKeys)).bpt.CountsUpTo
        (Estimate.ofTransaction signed.transaction (signed.signatureUsage numPayerKeys)).bpt := by
    simp only [Estimate.ofTransaction, Estimate.baseBpt]
    exact (body.addClamp memo).addClamp sigs
  have kept : Estimate.baseNetworkRbs.CountsUpTo Estimate.baseNetworkRbs := .refl (by decide)
  have nothing : (0 : Int64).CountsUpTo 0 := .refl (by decide)
  exact
    { payerKeys := (Int64.CountsWithin.ofInt32 someKeys).upTo
      bpt := bytes
      vpt := (Int64.CountsWithin.ofInt32 someSigs).upTo
      rbs := nothing
      sbs := nothing
      networkRbs := kept }

theorem relativeLifetime_nonneg
    (transaction : Transaction)
    (expiry : Int64) :
    0 ≤ (Estimate.relativeLifetime transaction expiry).toInt := by
  rw [Estimate.relativeLifetime, Int64.toInt_larger, Int64.toInt_zero]
  exact Int.le_max_right _ _

/-- An association is charged for each token; of no other body that grows is anything estimated. -/
theorem amountsAlike_of_estimate
    (grows : body.GrowsTo more)
    (fits : body.FitsIn more)
    (someSigs : 0 ≤ signed.numSigs.toInt)
    (someKeys : 0 ≤ numPayerKeys.toInt)
    (world : World) :
    AnswersAlike FeeData.CountsUpTo
      ((Estimator.forBody body).amounts (signed.withBody body).transaction
        (signed.signatureUsage numPayerKeys) world)
      ((Estimator.forBody more).amounts (signed.withBody more).transaction
        (signed.signatureUsage numPayerKeys) world) := by
  have base := countsUpTo_estimate someSigs someKeys
  cases grows with
  | @associate account tokens tokens' _ =>
      obtain _ | ⟨count, _⟩ := fits
      change
        AnswersAlike _
          (Estimator.tokenAssociate.amounts
            (signed.withBody (.tokenAssociateToAccount ⟨account, tokens⟩)).transaction
            (signed.signatureUsage numPayerKeys) world)
          (Estimator.tokenAssociate.amounts
            (signed.withBody (.tokenAssociateToAccount ⟨account, tokens'⟩)).transaction
            (signed.signatureUsage numPayerKeys) world)
      simp only [Estimator.amounts, withBody]
      cases world.accountEntry account with
      | error error => exact .error _
      | ok account? =>
          cases account? with
          | none => exact .ok .nothing
          | some entry =>
              have tokens := (Assessment.counts_of_fits count).upTo
              have one : (1 : Int64).CountsUpTo 1 := .refl (by decide)
              have entity := Assessment.counts_entityId.upTo
              have relation : Size.tokenRelation.CountsUpTo Size.tokenRelation :=
                .refl (by decide)
              have lifetime :=
                Int64.CountsUpTo.refl (relativeLifetime_nonneg signed.transaction entry.expiry)
              have stored := (relation.mulClamp tokens).mulClamp lifetime
              exact .ok
                ((base.addBpt (entity.mulClamp (tokens.addClamp one))).addRbs stored).amounts
  | _ => exact .ok base.amounts

theorem assess_withBody
    (signed : SignedTransaction)
    (body : TransactionBody)
    (signatures : SignatureUsage) :
    Assessment.assess (signed.withBody body) signatures =
      match Assessment.addBody?
          (Usage.ofTransaction (signed.withBody body).baseUsage signatures) body with
      | some usage => .ok usage
      | none => .error (.unknownFunction signed.functionality.name) :=
  rfl

theorem amounts_withBody
    (signed : SignedTransaction)
    (body : TransactionBody)
    (numPayerKeys : Int32)
    (world : World) :
    (signed.withBody body).amounts numPayerKeys world =
      if Assessment.counts signed.functionality then do
        return (← Assessment.assess (signed.withBody body)
          (signed.signatureUsage numPayerKeys)).amounts
      else
        (Estimator.forBody body).amounts (signed.withBody body).transaction
          (signed.signatureUsage numPayerKeys) world :=
  rfl

/-- With more in its body a transaction is charged for no less. -/
theorem amountsAlike
    (grows : body.GrowsTo more)
    (variant : variantOf body = variantOf more)
    (fits : body.FitsIn more)
    (someSigs : 0 ≤ signed.numSigs.toInt)
    (someKeys : 0 ≤ numPayerKeys.toInt)
    (world : World) :
    AnswersAlike FeeData.CountsUpTo ((signed.withBody body).amounts numPayerKeys world)
      ((signed.withBody more).amounts numPayerKeys world) := by
  have begun := countsUpTo_ofTransaction grows someSigs someKeys
  have counted := Assessment.rel_addBody? begun grows variant fits
  have assessed :
      AnswersAlike Usage.CountsUpTo
        (Assessment.assess (signed.withBody body) (signed.signatureUsage numPayerKeys))
        (Assessment.assess (signed.withBody more) (signed.signatureUsage numPayerKeys)) := by
    rw [assess_withBody, assess_withBody]
    generalize Assessment.addBody? _ body = usage at counted ⊢
    generalize Assessment.addBody? _ more = usage' at counted ⊢
    cases counted with
    | some upTo => exact .ok upTo
    | none => exact .error _
  rw [amounts_withBody, amounts_withBody]
  split
  · exact assessed.bind fun _ _ upTo => .ok upTo.amounts
  · exact amountsAlike_of_estimate grows fits someSigs someKeys world

/-- The prices of a variant are those of some row. -/
theorem mem_of_variantPrices
    {schedule : FeeSchedule}
    {functionality : Functionality}
    {variant : PriceVariant}
    {instant : Timestamp}
    {prices : FeeData}
    (found : schedule.variantPrices functionality variant instant = .ok prices) :
    ∃ row ∈ schedule.rows, row.prices = prices := by
  obtain ⟨listed, ofFunctionality, chosen⟩ := exists_of_bind_eq_ok found
  have isListed {wanted : PriceVariant}
      (last : FeeSchedule.ofVariant? listed wanted = some prices) : prices ∈ listed :=
    List.mem_of_mem_filter (List.mem_of_getLast? last)
  have member : prices ∈ listed := by
    split at chosen
    · rename_i either
      cases chosen
      rcases Option.or_eq_some_iff.mp either with own | ⟨_, standard⟩
      · exact isListed own
      · exact isListed standard
    · cases chosen
  unfold FeeSchedule.pricesOf at ofFunctionality
  dsimp only at ofFunctionality
  split at ofFunctionality
  · cases ofFunctionality
  · cases ofFunctionality
    obtain ⟨row, inEffect, rfl⟩ := List.mem_map.mp member
    exact ⟨row, List.mem_of_mem_filter inEffect, rfl⟩

/-- With more in its body a transaction costs no less, or fails alike. -/
theorem fees_alike
    {source : PriceSource}
    (listed : ∀ row ∈ source.schedule.rows, row.prices.All FeeComponents.IsPriceList)
    (grows : body.GrowsTo more)
    (variant : variantOf body = variantOf more)
    (fits : body.FitsIn more)
    (someSigs : 0 ≤ signed.numSigs.toInt)
    (someKeys : 0 ≤ numPayerKeys.toInt)
    (world : World)
    (instant : Timestamp) :
    AnswersAlike (fun fees greater => fees.total.toInt ≤ greater.total.toInt)
      ((signed.withBody body).fees numPayerKeys source world instant)
      ((signed.withBody more).fees numPayerKeys source world instant) := by
  have sameVariant : (signed.withBody body).variant = (signed.withBody more).variant := variant
  rw [fees_eq, fees_eq, ← sameVariant]
  refine .of_bind _ fun prices found => ?_
  obtain ⟨row, member, rfl⟩ := mem_of_variantPrices found
  refine .of_bind _ fun rate _ => .of_bind _ fun _ valid => ?_
  refine (amountsAlike grows variant fits someSigs someKeys world).bind fun _ _ upTo => .ok ?_
  exact Fees.total_ofAmounts_mono upTo (listed row member) valid (by decide)

end SignedTransaction

/-! ## Gas -/

namespace PriceSource

/--
A body that has more in its lists than another one of its functionality and variant takes no less
gas: at prices that are no debts, whoever sends it, whatever the minimum.  What keeps the one
from being priced keeps the other from it.
-/
theorem larger_body_takes_no_less_gas
    {source : PriceSource}
    (listed : ∀ row ∈ source.schedule.rows, row.prices.All FeeComponents.IsPriceList)
    {body more : TransactionBody}
    (grows : body.GrowsTo more)
    (variant : SignedTransaction.variantOf body = SignedTransaction.variantOf more)
    (small : ∀ size ∈ more.sizes, size < 2 ^ 32)
    (instant : Timestamp)
    (minimum : Int64)
    (sender : Address)
    (world : World) :
    (∀ error,
      source.operationGas instant minimum body sender world = .error error ↔
        source.operationGas instant minimum more sender world = .error error) ∧
      ∀ gas, source.operationGas instant minimum body sender world = .ok gas →
        ∃ greater, source.operationGas instant minimum more sender world = .ok greater ∧
          gas ≤ greater := by
  have fits := grows.fitsIn small
  have named : body.functionality = more.functionality := by
    unfold TransactionBody.functionality
    rw [grows.classify_eq]
  suffices alike :
      AnswersAlike (fun gas greater : UInt64 => gas ≤ greater)
        (source.operationGas instant minimum body sender world)
        (source.operationGas instant minimum more sender world) from
    alike.errors_and_answers
  refine .of_bind _ fun price priced => ?_
  simp only [SignedTransaction.ofTransaction, named, bind_assoc]
  refine .of_bind _ fun functionality _ => ?_
  let signed : SignedTransaction :=
    { transaction := { payer := sender, validStart := instant, memo := "", body }, functionality }
  have charged :=
    signed.fees_alike listed grows variant fits (by decide : 0 ≤ (1 : Int32).toInt)
      (by decide : 0 ≤ (0 : Int32).toInt) world instant
  refine charged.bind fun fees greater le => .ok ?_
  refine gasOfFee_mono (one_le_of_callGasPrice priced) ?_
  rw [Int64.toInt_larger, Int64.toInt_larger]
  omega

/-- A second token is charged for as well, here for the two hours that are left to the account. -/
theorem second_token_takes_no_less_gas :
    let prices : FeeData :=
      { node := { constant := 4000000, bpt := 20000, max := 1000000000 }
        network := { constant := 8000000, bpt := 30000, max := 1000000000 }
        service := { constant := 5000000, rbh := 30000, max := 1000000000 } }
    let source : PriceSource :=
      { schedule :=
          ⟨[⟨0, .contractCall, { service := { gas := 852000 } }⟩,
            ⟨0, .tokenAssociateToAccount, prices⟩]⟩
        rates := ⟨[(0, .lasting 1 12)]⟩ }
    let account : Account := { address := .ofNum 1001, expiry := 10800 }
    let snapshot : Snapshot := .ofContents { accounts := .ofList [(account.address, account)] }
    let world := World.ofSnapshot snapshot true (.ofSeconds 3600) 1002
    let gas tokens :=
      source.operationGas (.ofSeconds 3600) 1 (.tokenAssociateToAccount ⟨account.address, tokens⟩)
        account.address world
    gas [.ofNum 2001] = .ok 46 ∧
      ∃ greater, gas [.ofNum 2001, .ofNum 2002] = .ok greater ∧ 46 ≤ greater := by
  intro prices source account snapshot world gas
  have listed : ∀ row ∈ source.schedule.rows, row.prices.All FeeComponents.IsPriceList := by
    intro row member
    simp only [source, List.mem_cons, List.not_mem_nil, or_false] at member
    rcases member with rfl | rfl <;>
      refine ⟨⟨fun resource => ?_, by decide, by decide⟩,
        ⟨fun resource => ?_, by decide, by decide⟩,
        ⟨fun resource => ?_, by decide, by decide⟩⟩ <;>
      cases resource <;> decide
  have grows :
      TransactionBody.GrowsTo (.tokenAssociateToAccount ⟨account.address, [.ofNum 2001]⟩)
        (.tokenAssociateToAccount ⟨account.address, [.ofNum 2001, .ofNum 2002]⟩) :=
    .associate _ (List.sublist_append_left _ _)
  have one : gas [.ofNum 2001] = .ok 46 := by
    decide +kernel
  have larger :=
    larger_body_takes_no_less_gas listed grows rfl (by decide) (.ofSeconds 3600) 1 account.address
      world
  exact ⟨one, larger.2 46 one⟩

end PriceSource

end LedgerEvm
