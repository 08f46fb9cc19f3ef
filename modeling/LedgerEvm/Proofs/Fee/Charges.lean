import Mathlib.Algebra.Order.BigOperators.Group.List
import Mathlib.Algebra.Ring.Int.Defs
import LedgerEvm.Fee.Assessment
import LedgerEvm.Proofs.Clamp

namespace LedgerEvm

/-!
# What fees compute

A fee for listed amounts is what exact integer arithmetic makes of the amounts, the prices,
the rate and the multiplier, moved into range where the nominal charge, the conversion or the
scaling leaves it.  Counted usage costs what the list of its amounts costs, and both ways of
finding out what a transaction without currency legs uses begin with the same list.
-/

namespace FeeComponents

/-- No amount of a resource is negative. -/
def IsCount (components : FeeComponents) : Prop :=
  ∀ resource, 0 ≤ components.amount resource

/-- Prices are not negative, and the least fee is within the greatest, which is no debt. -/
structure IsPriceList (prices : FeeComponents) : Prop where
  count : prices.IsCount
  ordered : prices.min ≤ prices.max
  payable : 0 ≤ prices.max

end FeeComponents

namespace FeeData

/-- What holds of the lists of all three parties. -/
structure All (property : FeeComponents → Prop) (data : FeeData) : Prop where
  node : property data.node
  network : property data.network
  service : property data.service

end FeeData

namespace ExchangeRate

theorem validate_eq_ok_iff
    (rate : ExchangeRate) :
    rate.validate = .ok () ↔ 0 ≤ rate.hbarEquiv.toInt ∧ 0 < rate.centEquiv.toInt := by
  have zero : (0 : Int32).toInt = 0 := rfl
  simp only [validate, Int32.le_iff_toInt_le, Int32.lt_iff_toInt_lt, zero]
  split
  · rename_i refused
    constructor
    · nofun
    · omega
  · rename_i accepted
    exact ⟨fun _ => by omega, fun _ => rfl⟩

/-- At a valid rate an amount is converted exactly, unless that is out of range. -/
theorem toInt_tinybars
    {rate : ExchangeRate}
    (valid : rate.validate = .ok ())
    {tinycents : Int64}
    (nonneg : 0 ≤ tinycents.toInt) :
    (rate.tinybars tinycents).toInt =
      min Int64.maxValue.toInt
        (tinycents.toInt * rate.hbarEquiv.toInt / rate.centEquiv.toInt) := by
  obtain ⟨hbars, cents⟩ := (validate_eq_ok_iff rate).mp valid
  have zero : (0 : Int32).toInt = 0 := rfl
  have product : 0 ≤ tinycents.toInt * rate.hbarEquiv.toInt := Int.mul_nonneg nonneg hbars
  have notFree : ¬rate.centEquiv ≤ 0 := by
    rw [Int32.le_iff_toInt_le, zero]
    omega
  rw [tinybars, if_neg notFree, Int.tdiv_eq_ediv_of_nonneg product,
    Int64.toInt_ofIntClamp_of_nonneg (Int.ediv_nonneg product cents.le)]

end ExchangeRate

namespace Charge

/-- The exact products of amounts and prices, added up. -/
def products (terms : List (Int64 × Int64)) : Int :=
  (terms.map fun term => term.1.toInt * term.2.toInt).sum

/-- The exact products of listed amounts and prices, added up. -/
def nominal (amounts prices : FeeComponents) : Int :=
  (Resource.all.map fun resource =>
    (amounts.amount resource).toInt * (prices.amount resource).toInt).sum

/--
A nominal charge within the range, held between the least and the greatest fee, brought to
tinycents and converted, both rounded down, and scaled.
-/
def exact
    (nominal : Int)
    (prices : FeeComponents)
    (rate : ExchangeRate)
    (multiplier : Int64) :
    Int :=
  let greatest := Int64.maxValue.toInt
  let held := max prices.min.toInt (min prices.max.toInt (min greatest nominal))
  let converted := held / 1000 * rate.hbarEquiv.toInt / rate.centEquiv.toInt
  min greatest (multiplier.toInt * min greatest converted)

/-- Every amount and every price is at least zero. -/
def Nonneg (terms : List (Int64 × Int64)) : Prop :=
  ∀ term ∈ terms, 0 ≤ term.1.toInt ∧ 0 ≤ term.2.toInt

theorem products_nonneg
    {terms : List (Int64 × Int64)}
    (nonneg : Nonneg terms) :
    0 ≤ products terms := by
  refine List.sum_nonneg fun product listed => ?_
  obtain ⟨term, member, rfl⟩ := List.mem_map.mp listed
  exact Int.mul_nonneg (nonneg term member).1 (nonneg term member).2

/-- Stopping at the greatest number on the way gives what stopping there in the end gives. -/
theorem toInt_accumulate
    {base : Int64}
    {terms : List (Int64 × Int64)}
    (baseUp : 0 ≤ base.toInt)
    (nonneg : Nonneg terms) :
    (accumulate base terms).toInt =
      min Int64.maxValue.toInt (base.toInt + products terms) := by
  induction terms generalizing base with
  | nil =>
      have high := base.toInt_le
      rw [accumulate, List.foldl_nil, products, List.map_nil, List.sum_nil]
      omega
  | cons term rest ih =>
      obtain ⟨amountUp, priceUp⟩ := nonneg term (List.mem_cons_self ..)
      have restUp : Nonneg rest := fun other member =>
        nonneg other (List.mem_cons_of_mem _ member)
      have product := Int64.toInt_mulClamp_of_nonneg amountUp priceUp
      have productUp : 0 ≤ term.1.toInt * term.2.toInt := Int.mul_nonneg amountUp priceUp
      have high : 0 ≤ Int64.maxValue.toInt := by decide
      have termUp : 0 ≤ (term.1.mulClamp term.2).toInt := by omega
      have first := Int64.toInt_addClamp_of_nonneg baseUp termUp
      have firstUp : 0 ≤ (base.addClamp (term.1.mulClamp term.2)).toInt := by omega
      have sum := products_nonneg restUp
      have later := ih firstUp restUp
      have split : products (term :: rest) = term.1.toInt * term.2.toInt + products rest := by
        rw [products, List.map_cons, List.sum_cons, products]
      rw [accumulate, List.foldl_cons, ← accumulate, later, first, product, split]
      omega

/-- The charge is held and divided exactly. -/
theorem toInt_constrained
    {nominal least greatest : Int64}
    (nonneg : 0 ≤ nominal.toInt)
    (ordered : least ≤ greatest)
    (payable : 0 ≤ greatest) :
    (constrained nominal least greatest).toInt =
      max least.toInt (min greatest.toInt nominal.toInt) / 1000 := by
  have zero : (0 : Int64).toInt = 0 := rfl
  rw [Int64.le_iff_toInt_le] at ordered payable
  rw [zero] at payable
  have scale : priceScale.toInt = 1000 := rfl
  unfold constrained
  dsimp only
  rw [Int64.toInt_div_of_ne_right _ priceScale (by decide), scale]
  split
  · rename_i below
    rw [Int64.lt_iff_toInt_lt] at below
    rw [Int.tdiv_eq_ediv_of_nonneg (by omega)]
    omega
  · rename_i notBelow
    rw [Int64.lt_iff_toInt_lt] at notBelow
    split
    · rename_i above
      rw [Int64.lt_iff_toInt_lt] at above
      rw [Int.tdiv_eq_ediv_of_nonneg payable]
      omega
    · rename_i notAbove
      rw [Int64.lt_iff_toInt_lt] at notAbove
      rw [Int.tdiv_eq_ediv_of_nonneg nonneg]
      omega

/-- A charge for listed amounts is the exact one in tinycents, and no debt. -/
theorem toInt_components
    {amounts prices : FeeComponents}
    (counted : amounts.IsCount)
    (listed : prices.IsPriceList) :
    (components amounts prices).toInt =
        max prices.min.toInt
          (min prices.max.toInt (min Int64.maxValue.toInt (nominal amounts prices))) / 1000 ∧
      0 ≤ (components amounts prices).toInt := by
  let terms := Resource.all.map fun resource =>
    (amounts.amount resource, prices.amount resource)
  have nonneg : Nonneg terms := by
    intro term member
    obtain ⟨resource, -, rfl⟩ := List.mem_map.mp member
    exact ⟨Int64.le_iff_toInt_le.mp (counted resource),
      Int64.le_iff_toInt_le.mp (listed.count resource)⟩
  have sum := toInt_accumulate (Int.le_refl (0 : Int64).toInt) nonneg
  have sumUp := products_nonneg nonneg
  have listing : products terms = nominal amounts prices := by
    rw [products, List.map_map]
    rfl
  rw [Int64.toInt_zero, Int.zero_add, listing] at sum
  rw [listing] at sumUp
  have high : 0 ≤ Int64.maxValue.toInt := by decide
  have nominalUp := sum.symm ▸ le_min high sumUp
  have charge := toInt_constrained nominalUp listed.ordered listed.payable
  rw [sum] at charge
  refine ⟨charge, ?_⟩
  have payable : 0 ≤ prices.max.toInt := Int64.le_iff_toInt_le.mp listed.payable
  rw [components, charge]
  omega

/-- A charge for listed amounts in the ledger's currency is the exact one, and no debt. -/
theorem toInt_tinybars_components
    {amounts prices : FeeComponents}
    {rate : ExchangeRate}
    {multiplier : Int64}
    (counted : amounts.IsCount)
    (listed : prices.IsPriceList)
    (valid : rate.validate = .ok ())
    (scaling : 0 ≤ multiplier) :
    (tinybars (components amounts prices) rate multiplier).toInt =
        exact (nominal amounts prices) prices rate multiplier ∧
      0 ≤ (tinybars (components amounts prices) rate multiplier).toInt := by
  obtain ⟨charge, chargeUp⟩ := toInt_components counted listed
  obtain ⟨hbars, cents⟩ := (rate.validate_eq_ok_iff).mp valid
  rw [Int64.le_iff_toInt_le, Int64.toInt_zero] at scaling
  have high : 0 ≤ Int64.maxValue.toInt := by decide
  have converted := ExchangeRate.toInt_tinybars valid chargeUp
  have convertedUp : 0 ≤ (rate.tinybars (components amounts prices)).toInt := by
    rw [converted]
    exact le_min high (Int.ediv_nonneg (Int.mul_nonneg chargeUp hbars) cents.le)
  have scaled := Int64.toInt_mulClamp_of_nonneg convertedUp scaling
  constructor
  · rw [tinybars, scaled, converted, charge, Int.mul_comm]
    rfl
  · rw [tinybars, scaled]
    exact le_min high (Int.mul_nonneg convertedUp scaling)

end Charge

namespace Usage

/-- The counted usage as lists of amounts, with one constant for each party. -/
def amounts (usage : Usage) : FeeData where
  node :=
    { constant := 1
      bpt := usage.universalBpt
      vpt := usage.nodeVpt
      bpr := usage.nodeBpr
      sbpr := usage.nodeSbpr }
  network :=
    { constant := 1
      bpt := usage.universalBpt
      vpt := usage.networkVpt
      rbh := usage.networkRbh }
  service :=
    { constant := 1
      rbh := usage.serviceRbh
      sbh := usage.serviceSbh }

/-- No total that is charged for is negative. -/
structure IsCount (usage : Usage) : Prop where
  universalBpt : 0 ≤ usage.universalBpt
  networkVpt : 0 ≤ usage.networkVpt
  networkRbh : 0 ≤ usage.networkRbh
  nodeBpr : 0 ≤ usage.nodeBpr
  nodeSbpr : 0 ≤ usage.nodeSbpr
  nodeVpt : 0 ≤ usage.nodeVpt
  serviceRbh : 0 ≤ usage.serviceRbh
  serviceSbh : 0 ≤ usage.serviceSbh

theorem isCount_amounts
    {usage : Usage}
    (counted : usage.IsCount) :
    usage.amounts.All FeeComponents.IsCount := by
  obtain ⟨⟩ := counted
  have one : (0 : Int64) ≤ 1 := by decide
  constructor <;>
    intro resource <;>
    cases resource <;>
    assumption

end Usage

namespace Fees

/-- Each part of a fee is the exact one for its nominal charge, and the whole is their sum. -/
structure AreExact
    (fees : Fees)
    (prices : FeeData)
    (rate : ExchangeRate)
    (multiplier : Int64)
    (node network service : Int) :
    Prop where
  node : fees.node.toInt = Charge.exact node prices.node rate multiplier
  network : fees.network.toInt = Charge.exact network prices.network rate multiplier
  service : fees.service.toInt = Charge.exact service prices.service rate multiplier
  total :
    fees.total.toInt =
      min Int64.maxValue.toInt (fees.node.toInt + fees.network.toInt + fees.service.toInt)

/-- The clamped sum of parts that are no debts is the exact one or the greatest number. -/
theorem toInt_total
    {fees : Fees}
    (node : 0 ≤ fees.node.toInt)
    (network : 0 ≤ fees.network.toInt)
    (service : 0 ≤ fees.service.toInt) :
    fees.total.toInt =
      min Int64.maxValue.toInt (fees.node.toInt + fees.network.toInt + fees.service.toInt) := by
  have first := Int64.toInt_addClamp_of_nonneg node network
  have high : 0 ≤ Int64.maxValue.toInt := by decide
  have firstUp : 0 ≤ (fees.node.addClamp fees.network).toInt := by omega
  rw [total, Int64.toInt_addClamp_of_nonneg firstUp service, first]
  omega

theorem ofUsage_eq_ofAmounts
    (usage : Usage)
    (prices : FeeData)
    (rate : ExchangeRate)
    (multiplier : Int64) :
    ofUsage usage prices rate multiplier = ofAmounts prices usage.amounts rate multiplier := by
  simp [ofUsage, ofAmounts, Charge.node, Charge.network, Charge.service, Charge.components,
    Charge.accumulate, Resource.all, FeeComponents.amount, Usage.amounts]

/-- The fees for listed amounts are exact. -/
theorem areExact_ofAmounts
    {prices amounts : FeeData}
    {rate : ExchangeRate}
    {multiplier : Int64}
    (counted : amounts.All FeeComponents.IsCount)
    (listed : prices.All FeeComponents.IsPriceList)
    (valid : rate.validate = .ok ())
    (scaling : 0 ≤ multiplier) :
    (ofAmounts prices amounts rate multiplier).AreExact prices rate multiplier
      (Charge.nominal amounts.node prices.node)
      (Charge.nominal amounts.network prices.network)
      (Charge.nominal amounts.service prices.service) := by
  obtain ⟨node, nodeUp⟩ :=
    Charge.toInt_tinybars_components counted.node listed.node valid scaling
  obtain ⟨network, networkUp⟩ :=
    Charge.toInt_tinybars_components counted.network listed.network valid scaling
  obtain ⟨service, serviceUp⟩ :=
    Charge.toInt_tinybars_components counted.service listed.service valid scaling
  exact ⟨node, network, service, toInt_total nodeUp networkUp serviceUp⟩

/--
At prices that are no debts, a valid rate and a multiplier that is none either, every part of a
fee is exact arithmetic that stops at the greatest number in three places only: at the nominal
charge, at the conversion and at the scaling.  Counted usage is charged by party, listed amounts
by resource.
-/
theorem fees_are_exact
    {prices : FeeData}
    {rate : ExchangeRate}
    {multiplier : Int64}
    (listed : prices.All FeeComponents.IsPriceList)
    (valid : rate.validate = .ok ())
    (scaling : 0 ≤ multiplier) :
    (∀ usage : Usage, usage.IsCount →
      (ofUsage usage prices rate multiplier).AreExact prices rate multiplier
        (prices.node.constant.toInt + usage.universalBpt.toInt * prices.node.bpt.toInt +
          usage.nodeVpt.toInt * prices.node.vpt.toInt +
          usage.nodeBpr.toInt * prices.node.bpr.toInt +
          usage.nodeSbpr.toInt * prices.node.sbpr.toInt)
        (prices.network.constant.toInt + usage.universalBpt.toInt * prices.network.bpt.toInt +
          usage.networkVpt.toInt * prices.network.vpt.toInt +
          usage.networkRbh.toInt * prices.network.rbh.toInt)
        (prices.service.constant.toInt + usage.serviceRbh.toInt * prices.service.rbh.toInt +
          usage.serviceSbh.toInt * prices.service.sbh.toInt)) ∧
      ∀ amounts : FeeData, amounts.All FeeComponents.IsCount →
        (ofAmounts prices amounts rate multiplier).AreExact prices rate multiplier
          (Charge.nominal amounts.node prices.node)
          (Charge.nominal amounts.network prices.network)
          (Charge.nominal amounts.service prices.service) := by
  refine ⟨fun usage counted => ?_, fun amounts counted =>
    areExact_ofAmounts counted listed valid scaling⟩
  have exactly := areExact_ofAmounts (Usage.isCount_amounts counted) listed valid scaling
  rw [← ofUsage_eq_ofAmounts] at exactly
  simpa [Charge.nominal, Resource.all, FeeComponents.amount, Usage.amounts, Int.add_assoc]
    using exactly

/--
The most bytes there can be cost the greatest fee the prices allow; what is stored is charged for
exactly.
-/
theorem fees_are_exact_at_the_greatest_number :
    let prices : FeeData :=
      { node := { constant := 7, bpt := 2, max := Int64.maxValue }
        network := { constant := 7, bpt := 2, vpt := 5, min := 4000, max := 9000 }
        service := { constant := 999, sbh := 2001, max := 1000000 } }
    let usage : Usage := { universalBpt := Int64.maxValue, networkVpt := 3, serviceSbh := 4 }
    let fees := ofUsage usage prices (ExchangeRate.lasting 7 3) 2
    fees.node.toInt = 9223372036854775807 / 1000 * 7 / 3 * 2 ∧
      fees.network.toInt = 9 * 7 / 3 * 2 ∧
      fees.service.toInt = 9003 / 1000 * 7 / 3 * 2 := by
  intro prices usage fees
  have listed : prices.All FeeComponents.IsPriceList := by
    refine ⟨⟨fun resource => ?_, by decide, by decide⟩, ⟨fun resource => ?_, by decide, by decide⟩,
      ⟨fun resource => ?_, by decide, by decide⟩⟩ <;> cases resource <;> decide
  have exactly :=
    (@fees_are_exact prices (ExchangeRate.lasting 7 3) 2 listed rfl (by decide)).1 usage
      ⟨by decide, by decide, by decide, by decide, by decide, by decide, by decide, by decide⟩
  exact ⟨exactly.node.trans (by decide), exactly.network.trans (by decide),
    exactly.service.trans (by decide)⟩

end Fees

namespace SignedTransaction

/-- The body moves no currency by itself. -/
def HasNoLegs (signed : SignedTransaction) : Prop :=
  ∀ transfer, signed.transaction.body = .cryptoTransfer transfer → transfer.hbarTransfers = []

theorem numTransfers_baseUsage
    {signed : SignedTransaction}
    (noLegs : signed.HasNoLegs) :
    signed.baseUsage.numTransfers = 0 := by
  unfold baseUsage
  dsimp only
  split
  · rename_i transfer body
    rw [noLegs transfer body]
    rfl
  · rfl

/-- A memo that is short enough is counted in full, in both widths. -/
theorem toInt_memoBytes
    {signed : SignedTransaction}
    (short : signed.transaction.memo.utf8ByteSize < 2 ^ 31) :
    signed.baseUsage.memoBytes.toInt64.toInt = signed.transaction.memo.utf8ByteSize ∧
      textLength signed.transaction.memo = signed.baseUsage.memoBytes.toInt64 := by
  have narrow :
      signed.baseUsage.memoBytes.toInt64.toInt = signed.transaction.memo.utf8ByteSize := by
    rw [Int32.toInt_toInt64, baseUsage, Int32.toInt_ofIntClamp]
    · rw [Int32.toInt_minValue]
      omega
    · rw [Int32.toInt_maxValue]
      omega
  refine ⟨narrow, ?_⟩
  rw [← Int64.ofIntClamp_toInt signed.baseUsage.memoBytes.toInt64, narrow]
  rfl

/-- What every transaction is charged for cannot saturate on the way. -/
theorem baseBpt_eq
    {signed : SignedTransaction}
    (signatures : SignatureUsage)
    (short : signed.transaction.memo.utf8ByteSize < 2 ^ 31) :
    Estimate.baseBpt signed.transaction signatures =
      Size.transactionBody + signed.baseUsage.memoBytes.toInt64 +
        signatures.sigsSize.toInt64 := by
  obtain ⟨memo, wide⟩ := toInt_memoBytes short
  have body : Size.transactionBody.toInt = 72 := rfl
  have low := Int64.toInt_minValue
  have high := Int64.toInt_maxValue
  have first := @Int64.addClamp_of_inRange Size.transactionBody
    signed.baseUsage.memoBytes.toInt64 (by omega) (by omega)
  have firstValue :
      (Size.transactionBody + signed.baseUsage.memoBytes.toInt64).toInt =
        72 + signed.transaction.memo.utf8ByteSize := by
    rw [← first, Int64.addClamp, Int64.toInt_ofIntClamp (by omega) (by omega), body, memo]
  have sigsLow := signatures.sigsSize.minValue_le_toInt
  have sigsHigh := signatures.sigsSize.toInt_le
  rw [Int32.toInt_minValue] at sigsLow
  rw [Int32.toInt_maxValue] at sigsHigh
  have sigs := signatures.sigsSize.toInt_toInt64
  rw [Estimate.baseBpt, wide, first]
  exact Int64.addClamp_of_inRange (by omega) (by omega)

/-- Estimation and counting begin with the same amounts. -/
theorem amounts_ofTransaction
    {signed : SignedTransaction}
    (signatures : SignatureUsage)
    (noLegs : signed.HasNoLegs)
    (short : signed.transaction.memo.utf8ByteSize < 2 ^ 31) :
    (Estimate.ofTransaction signed.transaction signatures).amounts =
      (Usage.ofTransaction signed.baseUsage signatures).amounts := by
  have noBytes : Size.accountAmount * (0 : Int32).toInt64 = 0 := rfl
  have noHours : positiveQuotient 0 Size.hour = 0 := rfl
  simp only [Estimate.amounts, Estimate.ofTransaction, Usage.amounts, Usage.ofTransaction,
    Usage.addBpt, numTransfers_baseUsage noLegs, noBytes, noHours, Int64.addClamp_zero,
    baseBpt_eq signatures short, Estimate.baseNetworkRbs]

end SignedTransaction

namespace Fees

/--
Counted usage costs what the list of its amounts costs, saturated or not.  The list with which
the estimate of a transaction without currency legs begins is the list with which its count
begins.
-/
theorem pricing_routes_agree :
    (∀ (usage : Usage) (prices : FeeData) (rate : ExchangeRate) (multiplier : Int64),
      ofUsage usage prices rate multiplier = ofAmounts prices usage.amounts rate multiplier) ∧
      ∀ (signed : SignedTransaction) (signatures : SignatureUsage),
        signed.HasNoLegs →
        signed.transaction.memo.utf8ByteSize < 2 ^ 31 →
        (Estimate.ofTransaction signed.transaction signatures).amounts =
          (Usage.ofTransaction signed.baseUsage signatures).amounts :=
  ⟨ofUsage_eq_ofAmounts, fun _ signatures => SignedTransaction.amounts_ofTransaction signatures⟩

/-- A transfer of nothing with three bytes of memo and two signatures, counted or estimated. -/
theorem pricing_routes_agree_on_an_empty_transfer :
    let body : TransactionBody := .cryptoTransfer ⟨[], []⟩
    let signed : SignedTransaction :=
      ⟨⟨Address.ofNum 1001, ⟨5⟩, "fee", body⟩, .cryptoTransfer, 2⟩
    let signatures := signed.signatureUsage 1
    signed.HasNoLegs ∧
      signed.transaction.memo.utf8ByteSize < 2 ^ 31 ∧
      (Estimate.ofTransaction signed.transaction signatures).amounts =
        (Usage.ofTransaction signed.baseUsage signatures).amounts ∧
      (Usage.ofTransaction signed.baseUsage signatures).amounts.network =
        { constant := 1, bpt := 72 + 3 + 2 * 96, vpt := 2, rbh := 1 } := by
  intro body signed signatures
  have noLegs : signed.HasNoLegs := fun transfer same => by
    cases same
    rfl
  have short : signed.transaction.memo.utf8ByteSize < 2 ^ 31 := by decide
  exact ⟨noLegs, short, pricing_routes_agree.2 signed signatures noLegs short, by decide +kernel⟩

end Fees

/-!
## What more costs

Two usages are compared amount by amount.  Whatever is added to both, and whatever they are
charged for at the same prices, keeps the one below the other: sums and products that stop at
the end of the range, hours that are rounded up to one, bounds on a fee and the conversion.
-/

/-- Byte seconds as byte hours, at least one hour if there are any. -/
theorem toInt_hours
    {seconds : Int64}
    (nonneg : 0 ≤ seconds.toInt) :
    (positiveQuotient seconds Size.hour).toInt =
      if seconds.toInt = 0 then 0 else max (seconds.toInt / 3600) 1 := by
  have zero : seconds = 0 ↔ seconds.toInt = 0 := by
    rw [← Int64.toInt_inj, Int64.toInt_zero]
  have hour : Size.hour ≠ 0 := by decide
  have value : Size.hour.toInt = 3600 := rfl
  have one : (1 : Int64).toInt = 1 := rfl
  simp only [positiveQuotient, hour, or_false, zero]
  split
  · rfl
  · rw [Int64.toInt_larger, Int64.toInt_div_of_ne_right _ _ (by decide), value, one,
      Int.tdiv_eq_ediv_of_nonneg nonneg]

/-- More byte seconds are no fewer byte hours. -/
theorem countsUpTo_hours
    {seconds more : Int64}
    (upTo : seconds.CountsUpTo more) :
    (positiveQuotient seconds Size.hour).CountsUpTo (positiveQuotient more Size.hour) := by
  obtain ⟨nonneg, le⟩ := upTo
  constructor
  · rw [toInt_hours nonneg]
    split <;> omega
  · rw [toInt_hours nonneg, toInt_hours (by omega)]
    split <;> split <;> omega

/-! ### Charges -/

namespace FeeComponents

/-- Every amount of a resource counts up to the other list's amount. -/
def CountsUpTo (amounts more : FeeComponents) : Prop :=
  ∀ resource, (amounts.amount resource).CountsUpTo (more.amount resource)

variable {amounts more : FeeComponents}

theorem CountsUpTo.isCount
    (upTo : amounts.CountsUpTo more) :
    amounts.IsCount := fun resource =>
  Int64.le_iff_toInt_le.mpr (upTo resource).nonneg

theorem CountsUpTo.more_isCount
    (upTo : amounts.CountsUpTo more) :
    more.IsCount := fun resource =>
  Int64.le_iff_toInt_le.mpr (upTo resource).more_nonneg

end FeeComponents

/-- The amounts of all three parties count up to those of the other lists. -/
structure FeeData.CountsUpTo (amounts more : FeeData) : Prop where
  node : amounts.node.CountsUpTo more.node
  network : amounts.network.CountsUpTo more.network
  service : amounts.service.CountsUpTo more.service

/-- Nothing counts up to nothing. -/
theorem FeeData.CountsUpTo.nothing :
    ({ } : FeeData).CountsUpTo { } := by
  have zero : (0 : Int64).CountsUpTo 0 := .refl (by decide)
  constructor <;>
    intro resource <;>
    cases resource <;>
    exact zero

namespace Charge

variable {prices : FeeComponents} {rate : ExchangeRate} {multiplier : Int64}

/-- More amounts have no smaller nominal charge. -/
theorem nominal_mono
    {amounts more : FeeComponents}
    (upTo : amounts.CountsUpTo more)
    (listed : prices.IsCount) :
    nominal amounts prices ≤ nominal more prices :=
  List.sum_le_sum fun resource _ =>
    Int.mul_le_mul_of_nonneg_right (upTo resource).le (Int64.le_iff_toInt_le.mp (listed resource))

/--
A greater nominal charge is no smaller when it is held, brought to tinycents, converted and
scaled.
-/
theorem exact_mono
    (prices : FeeComponents)
    {nominal more : Int}
    (le : nominal ≤ more)
    (valid : rate.validate = .ok ())
    (scaling : 0 ≤ multiplier) :
    exact nominal prices rate multiplier ≤ exact more prices rate multiplier := by
  obtain ⟨hbars, cents⟩ := (rate.validate_eq_ok_iff).mp valid
  rw [Int64.le_iff_toInt_le, Int64.toInt_zero] at scaling
  have held :
      max prices.min.toInt (min prices.max.toInt (min Int64.maxValue.toInt nominal)) ≤
        max prices.min.toInt (min prices.max.toInt (min Int64.maxValue.toInt more)) := by
    omega
  have converted :=
    Int.ediv_le_ediv cents
      (Int.mul_le_mul_of_nonneg_right (Int.ediv_le_ediv (by decide : (0 : Int) < 1000) held)
        hbars)
  unfold exact
  dsimp only
  refine min_le_min (Int.le_refl _) (Int.mul_le_mul_of_nonneg_left ?_ scaling)
  exact min_le_min (Int.le_refl _) converted

end Charge

namespace Fees

/-- At the same prices, the whole fee for more amounts is no smaller. -/
theorem total_ofAmounts_mono
    {prices amounts more : FeeData}
    {rate : ExchangeRate}
    {multiplier : Int64}
    (upTo : amounts.CountsUpTo more)
    (listed : prices.All FeeComponents.IsPriceList)
    (valid : rate.validate = .ok ())
    (scaling : 0 ≤ multiplier) :
    (ofAmounts prices amounts rate multiplier).total.toInt ≤
      (ofAmounts prices more rate multiplier).total.toInt := by
  have exactly :=
    areExact_ofAmounts ⟨upTo.node.isCount, upTo.network.isCount, upTo.service.isCount⟩ listed
      valid scaling
  have exactly' :=
    areExact_ofAmounts
      ⟨upTo.node.more_isCount, upTo.network.more_isCount, upTo.service.more_isCount⟩ listed
      valid scaling
  have node :=
    Charge.exact_mono prices.node
      (Charge.nominal_mono upTo.node listed.node.count) valid scaling
  have network :=
    Charge.exact_mono prices.network
      (Charge.nominal_mono upTo.network listed.network.count) valid scaling
  have service :=
    Charge.exact_mono prices.service
      (Charge.nominal_mono upTo.service listed.service.count) valid scaling
  rw [exactly.total, exactly'.total, exactly.node, exactly'.node, exactly.network,
    exactly'.network, exactly.service, exactly'.service]
  omega

end Fees

/-! ### Usage -/

/-- Every total that is charged for counts up to the other usage's total. -/
structure Usage.CountsUpTo (usage more : Usage) : Prop where
  universalBpt : usage.universalBpt.CountsUpTo more.universalBpt
  networkVpt : usage.networkVpt.CountsUpTo more.networkVpt
  networkRbh : usage.networkRbh.CountsUpTo more.networkRbh
  nodeBpr : usage.nodeBpr.CountsUpTo more.nodeBpr
  nodeSbpr : usage.nodeSbpr.CountsUpTo more.nodeSbpr
  nodeVpt : usage.nodeVpt.CountsUpTo more.nodeVpt
  serviceRbh : usage.serviceRbh.CountsUpTo more.serviceRbh
  serviceSbh : usage.serviceSbh.CountsUpTo more.serviceSbh

namespace Usage.CountsUpTo

variable
  {usage more : Usage}
  {amount greater : Int64}

theorem addBpt
    (upTo : usage.CountsUpTo more)
    (adds : amount.CountsUpTo greater) :
    (usage.addBpt amount).CountsUpTo (more.addBpt greater) :=
  { upTo with universalBpt := upTo.universalBpt.addClamp adds }

theorem addRbs
    (upTo : usage.CountsUpTo more)
    (adds : amount.CountsUpTo greater) :
    (usage.addRbs amount).CountsUpTo (more.addRbs greater) :=
  { upTo with serviceRbh := upTo.serviceRbh.addClamp (countsUpTo_hours adds) }

theorem addNetworkRbs
    (upTo : usage.CountsUpTo more)
    (adds : amount.CountsUpTo greater) :
    (usage.addNetworkRbs amount).CountsUpTo (more.addNetworkRbs greater) :=
  { upTo with networkRbh := upTo.networkRbh.addClamp (countsUpTo_hours adds) }

/-- Moves of pieces are counted, but not charged for. -/
theorem addNftTransfers
    (upTo : usage.CountsUpTo more)
    (amount greater : Int64) :
    (usage.addNftTransfers amount).CountsUpTo (more.addNftTransfers greater) :=
  { upTo with }

theorem amounts
    (upTo : usage.CountsUpTo more) :
    usage.amounts.CountsUpTo more.amounts := by
  have zero : (0 : Int64).CountsUpTo 0 := .refl (by decide)
  have one : (1 : Int64).CountsUpTo 1 := .refl (by decide)
  obtain ⟨⟩ := upTo
  constructor <;>
    intro resource <;>
    cases resource <;>
    assumption

end Usage.CountsUpTo

/-- Every total that is estimated counts up to the other estimate's total. -/
structure Estimate.CountsUpTo (estimate more : Estimate) : Prop where
  payerKeys :
    estimate.signatures.numPayerKeys.toInt64.CountsUpTo more.signatures.numPayerKeys.toInt64
  bpt : estimate.bpt.CountsUpTo more.bpt
  vpt : estimate.vpt.CountsUpTo more.vpt
  rbs : estimate.rbs.CountsUpTo more.rbs
  sbs : estimate.sbs.CountsUpTo more.sbs
  networkRbs : estimate.networkRbs.CountsUpTo more.networkRbs

namespace Estimate.CountsUpTo

variable
  {estimate more : Estimate}
  {amount greater : Int64}

theorem addBpt
    (upTo : estimate.CountsUpTo more)
    (adds : amount.CountsUpTo greater) :
    (estimate.addBpt amount).CountsUpTo (more.addBpt greater) :=
  { upTo with bpt := upTo.bpt.addClamp adds }

theorem addRbs
    (upTo : estimate.CountsUpTo more)
    (adds : amount.CountsUpTo greater) :
    (estimate.addRbs amount).CountsUpTo (more.addRbs greater) :=
  { upTo with rbs := upTo.rbs.addClamp adds }

theorem amounts
    (upTo : estimate.CountsUpTo more) :
    estimate.amounts.CountsUpTo more.amounts := by
  have zero : (0 : Int64).CountsUpTo 0 := .refl (by decide)
  have one : (1 : Int64).CountsUpTo 1 := .refl (by decide)
  have perResponse : Size.int.CountsUpTo Size.int := .refl (by decide)
  have stored := countsUpTo_hours upTo.rbs
  have kept := countsUpTo_hours upTo.sbs
  have network := countsUpTo_hours upTo.networkRbs
  obtain ⟨⟩ := upTo
  constructor <;>
    intro resource <;>
    cases resource <;>
    assumption

end Estimate.CountsUpTo

end LedgerEvm
