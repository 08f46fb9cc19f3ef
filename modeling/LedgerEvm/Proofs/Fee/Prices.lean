import Mathlib.Algebra.Group.Int.Defs
import Mathlib.Algebra.Order.Floor.Div
import LedgerEvm.Fee.Prices
import LedgerEvm.TokenService.Pricing
import LedgerEvm.Proofs.Actions
import LedgerEvm.Proofs.Clamp

namespace LedgerEvm

/-!
# What unit prices compute

A unit price is what exact integer arithmetic makes of the listed amount, the rate and the
multiplier, moved to the greatest price where it is beyond that.  On the way every number
stays within the width it is computed in.
-/

namespace ExchangeRate

/-- A listed amount in tinybars, by exact integer arithmetic; only the result is moved into range. -/
def exactTinybars (rate : ExchangeRate) (listed : Int64) : Int :=
  if rate.centEquiv.toInt ≤ 0 then
    0
  else
    max Int64.minValue.toInt
      (min ((listed.toInt.tdiv 1000 * rate.hbarEquiv.toInt).tdiv rate.centEquiv.toInt)
        Int64.maxValue.toInt)

end ExchangeRate

namespace PriceSource

/-- The smallest price in tinybars, before it is scaled. -/
def unscaled (listed : Int64) (rate : ExchangeRate) : Int64 :=
  Int64.larger (rate.tinybars (listed / priceScale)) 1

/--
No step from a listed amount to a unit price leaves the width it is computed in: the amount
is divided in 64 bits and multiplied by the rate in 128, the bound of the multiplier is no
division by zero, and where the multiplier keeps to it the product has 64 bits.
-/
structure StaysInRange (listed : Int64) (rate : ExchangeRate) (multiplier : Int64) : Prop where
  divides : (listed / priceScale).toInt = listed.toInt.tdiv 1000
  converts :
    -2 ^ 127 ≤ (listed / priceScale).toInt * rate.hbarEquiv.toInt ∧
      (listed / priceScale).toInt * rate.hbarEquiv.toInt < 2 ^ 127
  bounds : 1 ≤ unscaled listed rate
  scales :
    multiplier ≤ Int64.maxValue / unscaled listed rate →
    (unscaled listed rate * multiplier).toInt =
      (unscaled listed rate).toInt * multiplier.toInt

/-- A listed amount is divided exactly. -/
theorem toInt_div_priceScale
    (listed : Int64) :
    (listed / priceScale).toInt = listed.toInt.tdiv 1000 :=
  Int64.toInt_div_of_ne_right listed priceScale (by decide)

theorem toInt_tinybars_of_listed
    (rate : ExchangeRate)
    (listed : Int64) :
    (rate.tinybars (listed / priceScale)).toInt = rate.exactTinybars listed := by
  have zero : (0 : Int32).toInt = 0 := rfl
  simp only [ExchangeRate.tinybars, ExchangeRate.exactTinybars, Int32.le_iff_toInt_le, zero]
  split
  · rfl
  · rw [Int64.toInt_ofIntClamp_eq, toInt_div_priceScale]

theorem toInt_unscaled
    (listed : Int64)
    (rate : ExchangeRate) :
    (unscaled listed rate).toInt = max 1 (rate.exactTinybars listed) := by
  have one : (1 : Int64).toInt = 1 := rfl
  rw [unscaled, Int64.toInt_larger, toInt_tinybars_of_listed, one, Int.max_comm]

/--
A multiplier is within the truncated quotient exactly when its product is within range, so
nothing is off by one at the greatest price.
-/
theorem le_quotient_iff
    {price : Int64}
    (positive : 1 ≤ price)
    (multiplier : Int64) :
    multiplier ≤ Int64.maxValue / price ↔
      price.toInt * multiplier.toInt ≤ Int64.maxValue.toInt := by
  have one : (1 : Int64).toInt = 1 := rfl
  rw [Int64.le_iff_toInt_le, one] at positive
  have nonneg : 0 ≤ Int64.maxValue.toInt := by decide
  rw [Int64.le_iff_toInt_le, Int64.toInt_div_of_ne_left _ _ (by decide),
    Int.tdiv_eq_ediv_of_nonneg nonneg, Int.le_ediv_iff_mul_le (by omega), Int.mul_comm]

/-- A scaled price is the exact product, or the greatest price where that is less. -/
theorem toInt_scaled
    (tinybars : Int64)
    {multiplier : Int64}
    (positive : 1 ≤ multiplier) :
    (scaled tinybars multiplier).toInt =
      min Int64.maxValue.toInt (max 1 tinybars.toInt * multiplier.toInt) := by
  have one : (1 : Int64).toInt = 1 := rfl
  have least : 1 ≤ Int64.larger tinybars 1 := by
    rw [Int64.le_iff_toInt_le, Int64.toInt_larger, one]
    exact Int.le_max_right _ _
  have value : max 1 tinybars.toInt = (Int64.larger tinybars 1).toInt := by
    rw [Int64.toInt_larger, one, Int.max_comm]
  have within := le_quotient_iff least multiplier
  unfold scaled
  dsimp only
  rw [value]
  split
  · rename_i beyond
    rw [← Int64.not_le, within] at beyond
    omega
  · rename_i fits
    rw [Int64.not_lt, within] at fits
    rw [Int64.toInt_mul_of_inRange ?_ fits, Int.min_eq_right fits]
    rw [Int64.le_iff_toInt_le, one] at positive least
    have nonneg : 0 ≤ (Int64.larger tinybars 1).toInt * multiplier.toInt :=
      Int.mul_nonneg (by omega) (by omega)
    have low : Int64.minValue.toInt ≤ 0 := by decide
    omega

theorem staysInRange
    (listed : Int64)
    (rate : ExchangeRate)
    {multiplier : Int64}
    (positive : 1 ≤ multiplier) :
    StaysInRange listed rate multiplier := by
  have one : (1 : Int64).toInt = 1 := rfl
  have least : 1 ≤ unscaled listed rate := by
    rw [Int64.le_iff_toInt_le, toInt_unscaled, one]
    exact Int.le_max_left _ _
  refine ⟨toInt_div_priceScale listed, ?_, least, fun within => ?_⟩
  · have amountLow := (listed / priceScale).minValue_le_toInt
    have amountHigh := (listed / priceScale).toInt_le
    have hbarLow := rate.hbarEquiv.minValue_le_toInt
    have hbarHigh := rate.hbarEquiv.toInt_le
    rw [Int64.toInt_minValue] at amountLow
    rw [Int64.toInt_maxValue] at amountHigh
    rw [Int32.toInt_minValue] at hbarLow
    rw [Int32.toInt_maxValue] at hbarHigh
    have product :
        ((listed / priceScale).toInt * rate.hbarEquiv.toInt).natAbs ≤ 2 ^ 63 * 2 ^ 31 := by
      rw [Int.natAbs_mul]
      exact Nat.mul_le_mul (by omega) (by omega)
    omega
  · have fits := (le_quotient_iff least multiplier).mp within
    rw [Int64.le_iff_toInt_le, one] at positive least
    have nonneg : 0 ≤ (unscaled listed rate).toInt * multiplier.toInt :=
      Int.mul_nonneg (by omega) (by omega)
    have low : Int64.minValue.toInt ≤ 0 := by decide
    exact Int64.toInt_mul_of_inRange (by omega) fits

/--
Where a price is listed and a rate is in effect there is a unit price.  It is the listed
amount over a thousand, converted and truncated toward zero in exact arithmetic, at least
one, times the multiplier, or the greatest price where that is less.
-/
theorem price_of_listed
    {source : PriceSource}
    {functionality : Functionality}
    {instant : Timestamp}
    {prices : FeeData}
    {rate : ExchangeRate}
    (listed : source.schedule.standardPrices functionality instant = .ok prices)
    (rated : source.rates.rateAt instant = .ok rate)
    (positive : 1 ≤ source.multiplier functionality instant)
    (resource : Resource) :
    let amount := prices.service.amount resource
    let multiplier := source.multiplier functionality instant
    StaysInRange amount rate multiplier ∧
      ∃ price,
        source.price functionality resource instant = .ok price ∧
          1 ≤ price ∧
          price.toInt =
            min Int64.maxValue.toInt (max 1 (rate.exactTinybars amount) * multiplier.toInt) := by
  intro amount multiplier
  have one : (1 : Int64).toInt = 1 := rfl
  have cents : source.tinycents functionality resource instant = .ok (amount / priceScale) := by
    rw [tinycents, listed]
    rfl
  have value := toInt_scaled (rate.tinybars (amount / priceScale)) positive
  rw [toInt_tinybars_of_listed] at value
  refine ⟨staysInRange amount rate positive, scaled _ multiplier, ?_, ?_, value⟩
  · rw [price, cents, rated]
    rfl
  · rw [Int64.le_iff_toInt_le, one] at positive
    have unscaledUp : 0 < max 1 (rate.exactTinybars amount) := by omega
    have scaledUp : 0 < max 1 (rate.exactTinybars amount) * multiplier.toInt :=
      Int.mul_pos unscaledUp (Int.lt_of_lt_of_le Int.zero_lt_one positive)
    have greatest : 1 ≤ Int64.maxValue.toInt := by decide
    rw [Int64.le_iff_toInt_le, value, one]
    exact Int.le_min.mpr ⟨greatest, scaledUp⟩

/--
A third of the greatest price, truncated, is the greatest multiplier of a price of three
that does not saturate.
-/
theorem price_of_three_at_greatest_multiplier :
    let prices : FeeData := { service := { gas := 4999 } }
    let rate := ExchangeRate.lasting 7 9
    let source (multiplier : Int64) : PriceSource :=
      ⟨.list .empty ⟨0⟩ [.contractCall] prices, .list .empty ⟨0⟩ rate, fun _ _ => multiplier⟩
    (∃ price,
        (source 3074457345618258602).price .contractCall .gas ⟨5⟩ = .ok price ∧
          price.toInt = 9223372036854775806) ∧
      ∃ price,
        (source 3074457345618258603).price .contractCall .gas ⟨5⟩ = .ok price ∧
          price.toInt = 9223372036854775807 := by
  intro prices rate source
  have exactly : rate.exactTinybars (prices.service.amount .gas) = 3 := by decide
  have greatest : Int64.maxValue.toInt = 9223372036854775807 := rfl
  constructor
  · obtain ⟨_, price, found, _, value⟩ :=
      @price_of_listed (source 3074457345618258602) .contractCall ⟨5⟩ prices rate rfl rfl
        (by decide) .gas
    refine ⟨price, found, value.trans ?_⟩
    rw [exactly, greatest]
    decide
  · obtain ⟨_, price, found, _, value⟩ :=
      @price_of_listed (source 3074457345618258603) .contractCall ⟨5⟩ prices rate rfl rfl
        (by decide) .gas
    refine ⟨price, found, value.trans ?_⟩
    rw [exactly, greatest]
    decide

end PriceSource

/-!
## Gas that pays for a fee

A fee becomes gas as the least number of units that pay for it, with a fifth of them on top.
Whatever the fee and the price, no step of this saturates: a fee has one bit less than the gas,
which is room enough for the fifth.
-/

namespace Gas

/-- The least number of units whose price reaches a fee; a debt takes none. -/
def units (fee : Int) (price : UInt64) : Nat :=
  fee.toNat ⌈/⌉ price.toNat

/-- The gas is what a fee takes at a price, and a fifth of it on top, all of it exact. -/
structure PaysFor (gas price : UInt64) (fee : Int) : Prop where
  priced : 1 ≤ price.toNat
  exact : gas.toNat = units fee price + units fee price / 5
  pays : fee ≤ (units fee price : Int) * price.toNat
  least : 0 < fee → ((units fee price : Int) - 1) * price.toNat < fee

variable {fee : Int} {price : UInt64}

/-- So many units are enough exactly if their price reaches the fee. -/
theorem units_le_iff
    (priced : 1 ≤ price.toNat)
    {count : Nat} :
    units fee price ≤ count ↔ fee ≤ (count : Int) * price.toNat := by
  rw [units, ceilDiv_le_iff_le_mul priced, Int.toNat_le, Nat.cast_mul, Int.mul_comm]

/-- A unit costs at least one, so the units are no more than the fee. -/
theorem units_le_toNat
    (priced : 1 ≤ price.toNat) :
    units fee price ≤ fee.toNat := by
  rw [units, ceilDiv_le_iff_le_mul priced]
  exact Nat.le_mul_of_pos_left _ priced

/-- A greater fee takes no fewer units. -/
theorem units_mono
    (priced : 1 ≤ price.toNat)
    {greater : Int}
    (less : fee ≤ greater) :
    units fee price ≤ units greater price :=
  (units_le_iff priced).mpr (less.trans ((units_le_iff priced).mp (Nat.le_refl _)))

/-- Gas pays for a fee as soon as it is the exact number. -/
theorem paysFor_of_exact
    {gas : UInt64}
    (priced : 1 ≤ price.toNat)
    (exact : gas.toNat = units fee price + units fee price / 5) :
    PaysFor gas price fee := by
  refine ⟨priced, exact, (units_le_iff priced).mp (Nat.le_refl _), fun positive => ?_⟩
  by_contra enough
  -- one unit less would do, although there is at least one
  cases counted : units fee price with
  | zero =>
      have reached := (units_le_iff priced).mp (Nat.le_of_eq counted)
      rw [Nat.cast_zero, Int.zero_mul] at reached
      omega
  | succ count =>
      rw [counted, Nat.cast_succ, Int.add_sub_cancel] at enough
      have fewer := (units_le_iff priced).mpr (Int.not_lt.mp enough)
      omega

end Gas

namespace PriceSource

/-- No more than the greatest 64-bit number with a sign is converted, so nothing saturates. -/
theorem toNat_gasOfFee
    (fee : Int64)
    {price : UInt64}
    (priced : 1 ≤ price.toNat) :
    (gasOfFee fee price).toNat =
      Gas.units fee.toInt price + Gas.units fee.toInt price / 5 := by
  have bound : Gas.units fee.toInt price ≤ fee.toInt.toNat := Gas.units_le_toNat priced
  have greatest := fee.toInt_le
  rw [Int64.toInt_maxValue] at greatest
  have width : UInt64.size = 2 ^ 64 := rfl
  have base :
      (UInt64.ofNat ((fee.toInt.toNat + price.toNat - 1) / price.toNat)).toNat =
        Gas.units fee.toInt price :=
    UInt64.toNat_ofNat_of_lt' (by
      change Gas.units fee.toInt price < _
      omega)
  rw [gasOfFee, UInt64.toNat_addClamp, UInt64.toNat_div, base]
  change min (_ + Gas.units fee.toInt price / 5) _ = _
  omega

example : gasOfFee Int64.maxValue 1 = 11068046444225730968 := by
  decide

/-- A greater fee is no less gas. -/
theorem gasOfFee_mono
    {fee greater : Int64}
    {price : UInt64}
    (priced : 1 ≤ price.toNat)
    (less : fee.toInt ≤ greater.toInt) :
    gasOfFee fee price ≤ gasOfFee greater price := by
  have units := Gas.units_mono priced less
  rw [UInt64.le_iff_toNat_le, toNat_gasOfFee fee priced, toNat_gasOfFee greater priced]
  omega

/-- What a fee is converted to is the one amount of gas that pays for it. -/
theorem gasOfFee_eq_iff
    (fee : Int64)
    {gas price : UInt64}
    (priced : 1 ≤ price.toNat) :
    gasOfFee fee price = gas ↔ Gas.PaysFor gas price (max fee.toInt 0) := by
  have same : Gas.units (max fee.toInt 0) price = Gas.units fee.toInt price := by
    rw [Gas.units, Gas.units]
    congr 1
    omega
  have exact := toNat_gasOfFee fee priced
  rw [← same] at exact
  constructor
  · rintro rfl
    exact Gas.paysFor_of_exact priced exact
  · intro pays
    rw [← UInt64.toNat_inj, exact, pays.exact]

/-- The price of gas is at least one, whatever the multiplier. -/
theorem one_le_of_callGasPrice
    {source : PriceSource}
    {instant : Timestamp}
    {price : UInt64}
    (found : source.callGasPrice instant = .ok price) :
    1 ≤ price.toNat := by
  obtain ⟨listed, -, found⟩ := exists_of_bind_eq_ok found
  cases found
  have one : (1 : Int64).toInt = 1 := rfl
  have least : 1 ≤ (Int64.larger listed 1).toInt := by
    rw [Int64.toInt_larger, one]
    exact Int.le_max_right _ _
  have same := Int64.toNat_toUInt64_of_nonneg (Int.le_trans Int.one_nonneg least)
  omega

variable
  {source : PriceSource}
  {instant : Timestamp}
  {gas : UInt64}

theorem operationGas_eq_ok_iff
    (minimum : Int64)
    (body : TransactionBody)
    (sender : Address)
    (world : World) :
    source.operationGas instant minimum body sender world = .ok gas ↔
      ∃ price signed fees,
        source.callGasPrice instant = .ok price ∧
          SignedTransaction.ofTransaction
              { payer := sender, validStart := instant, memo := "", body } = .ok signed ∧
          signed.fees 0 source world instant = .ok fees ∧
          Gas.PaysFor gas price (max (max minimum.toInt fees.total.toInt) 0) := by
  simp only [operationGas, bind_eq_ok_iff, pure, Except.pure, Except.ok.injEq]
  constructor
  · rintro ⟨price, priced, signed, named, fees, charged, rfl⟩
    have least := one_le_of_callGasPrice priced
    refine ⟨price, signed, fees, priced, named, charged, ?_⟩
    rw [← Int64.toInt_larger]
    exact (gasOfFee_eq_iff _ least).mp rfl
  · rintro ⟨price, signed, fees, priced, named, charged, pays⟩
    have least := one_le_of_callGasPrice priced
    rw [← Int64.toInt_larger] at pays
    exact ⟨price, priced, signed, named, fees, charged, (gasOfFee_eq_iff _ least).mpr pays⟩

theorem minimumGas_eq_ok_iff
    (kind : OperationKind) :
    source.minimumGas instant kind = .ok gas ↔
      ∃ price minimum,
        source.callGasPrice instant = .ok price ∧
          source.minimumPrice kind instant = .ok minimum ∧
          Gas.PaysFor gas price (max minimum.toInt 0) := by
  simp only [minimumGas, bind_eq_ok_iff, pure, Except.pure, Except.ok.injEq]
  constructor
  · rintro ⟨price, priced, minimum, converted, rfl⟩
    have least := one_le_of_callGasPrice priced
    exact ⟨price, minimum, priced, converted, (gasOfFee_eq_iff _ least).mp rfl⟩
  · rintro ⟨price, minimum, priced, converted, pays⟩
    have least := one_le_of_callGasPrice priced
    exact ⟨price, priced, minimum, converted, (gasOfFee_eq_iff _ least).mpr pays⟩

/-- The price of so much gas stops at the greatest number that a fee can be. -/
theorem toInt_larger_ofNatClamp
    (amount : Nat)
    (listed : Int64) :
    max (Int64.larger (Int64.ofNatClamp amount) listed).toInt 0 =
      max (min (amount : Int) Int64.maxValue.toInt) listed.toInt := by
  have nonneg : (0 : Int) ≤ amount := Int.natCast_nonneg amount
  have greatest : 0 ≤ Int64.maxValue.toInt := by decide
  rw [Int64.toInt_larger, Int64.ofNatClamp, Int64.toInt_ofIntClamp_of_nonneg nonneg]
  omega

theorem queryGas_eq_ok_iff
    (minimumGas : UInt64) :
    source.queryGas instant minimumGas = .ok gas ↔
      ∃ price listed,
        source.callGasPrice instant = .ok price ∧
          source.price .tokenGetInfo .constant instant = .ok listed ∧
          Gas.PaysFor gas price
            (max (min (minimumGas.toNat * price.toNat : Int) Int64.maxValue.toInt)
              listed.toInt) := by
  simp only [queryGas, bind_eq_ok_iff, pure, Except.pure, Except.ok.injEq]
  constructor
  · rintro ⟨price, priced, listed, asked, rfl⟩
    have least := one_le_of_callGasPrice priced
    refine ⟨price, listed, priced, asked, ?_⟩
    rw [← Nat.cast_mul, ← toInt_larger_ofNatClamp]
    exact (gasOfFee_eq_iff _ least).mp rfl
  · rintro ⟨price, listed, priced, asked, pays⟩
    have least := one_le_of_callGasPrice priced
    rw [← Nat.cast_mul, ← toInt_larger_ofNatClamp] at pays
    exact ⟨price, priced, listed, asked, (gasOfFee_eq_iff _ least).mpr pays⟩

/--
The gas of an operation pays for the fee of its transaction or for the minimum, whichever is
greater; the gas of a question pays for so much gas or for the listed price, and that of an
operation without a transaction for its minimum price.  Gas is answered exactly where its prices
are, and it is exact: as many units as it takes and no fewer, with their fifth in full.
-/
theorem gas_pays_for_fee
    (source : PriceSource)
    (instant : Timestamp) :
    (∀ minimum body sender world gas,
      source.operationGas instant minimum body sender world = .ok gas ↔
        ∃ price signed fees,
          source.callGasPrice instant = .ok price ∧
            SignedTransaction.ofTransaction
                { payer := sender, validStart := instant, memo := "", body } = .ok signed ∧
            signed.fees 0 source world instant = .ok fees ∧
            Gas.PaysFor gas price (max (max minimum.toInt fees.total.toInt) 0)) ∧
      (∀ minimumGas gas,
        source.queryGas instant minimumGas = .ok gas ↔
          ∃ price listed,
            source.callGasPrice instant = .ok price ∧
              source.price .tokenGetInfo .constant instant = .ok listed ∧
              Gas.PaysFor gas price
                (max (min (minimumGas.toNat * price.toNat : Int) Int64.maxValue.toInt)
                  listed.toInt)) ∧
      ∀ kind gas,
        source.minimumGas instant kind = .ok gas ↔
          ∃ price minimum,
            source.callGasPrice instant = .ok price ∧
              source.minimumPrice kind instant = .ok minimum ∧
              Gas.PaysFor gas price (max minimum.toInt 0) :=
  ⟨fun minimum body sender world _ => operationGas_eq_ok_iff minimum body sender world,
    fun minimumGas _ => queryGas_eq_ok_iff minimumGas, fun kind _ => minimumGas_eq_ok_iff kind⟩

end PriceSource

end LedgerEvm
