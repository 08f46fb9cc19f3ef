import Mathlib.Algebra.Order.Field.Rat
import Mathlib.Algebra.Order.Field.Basic
import LedgerEvm.TokenService.Dispatch
import LedgerEvm.Proofs.Abi.RoundTrip
import LedgerEvm.Proofs.Clamp

namespace LedgerEvm

/-!
# Conversions at the exchange rate

Currency and cents are converted into each other by contract, truncated and held below 2^63 in
either direction.  Whoever converts an amount and converts the result back never has more than
before, and loses less than what one unit of the other side is worth, and one unit.
-/

/-! ## There and back -/

/-- An amount at a rate of two numbers, truncated and held below 2^63. -/
def converted (factor divisor amount : Nat) : Nat :=
  min (amount * factor / divisor) (2 ^ 63 - 1)

theorem converted_lt
    (factor divisor amount : Nat) :
    converted factor divisor amount < 2 ^ 63 := by
  unfold converted
  omega

theorem converted_mono
    (factor divisor : Nat) :
    Monotone (converted factor divisor) := by
  intro less more ordered
  have quotients : less * factor / divisor ≤ more * factor / divisor :=
    Nat.div_le_div_right (Nat.mul_le_mul_right _ ordered)
  unfold converted
  omega

section

variable {factor divisor : Nat}

theorem quotient_of_quotient_le
    (amount : Nat) :
    amount * factor / divisor * divisor / factor ≤ amount := by
  refine Nat.div_le_of_le_mul ?_
  rw [Nat.mul_comm factor]
  exact Nat.div_mul_le_self _ _

/-- What is converted back is no more than there was. -/
theorem converted_converted_le
    (amount : Nat) :
    converted divisor factor (converted factor divisor amount) ≤ amount := by
  have there : converted factor divisor amount * divisor ≤ amount * factor / divisor * divisor :=
    Nat.mul_le_mul_right _ (Nat.min_le_left _ _)
  calc
    converted divisor factor (converted factor divisor amount)
    _ ≤ converted factor divisor amount * divisor / factor := Nat.min_le_left _ _
    _ ≤ amount * factor / divisor * divisor / factor := Nat.div_le_div_right there
    _ ≤ amount := quotient_of_quotient_le amount

/-- Either truncation loses less than one unit of what it truncates to. -/
theorem mul_lt_of_converted
    (factorUp : 1 ≤ factor)
    (divisorUp : 1 ≤ divisor)
    {amount : Nat}
    (small : amount < 2 ^ 63)
    (fits : amount * factor / divisor < 2 ^ 63) :
    amount * factor <
      (converted divisor factor (converted factor divisor amount) + 1) * factor + divisor := by
  have back : amount * factor / divisor * divisor / factor < 2 ^ 63 :=
    Nat.lt_of_le_of_lt (quotient_of_quotient_le amount) small
  have exact :
      converted divisor factor (converted factor divisor amount) =
        amount * factor / divisor * divisor / factor := by
    have there : converted factor divisor amount = amount * factor / divisor := by
      unfold converted
      omega
    rw [there, converted]
    omega
  rw [exact]
  calc
    amount * factor
    _ < divisor * (amount * factor / divisor + 1) := Nat.lt_mul_div_succ _ divisorUp
    _ = amount * factor / divisor * divisor + divisor := by rw [Nat.mul_comm, Nat.succ_mul]
    _ < factor * (amount * factor / divisor * divisor / factor + 1) + divisor :=
      Nat.add_lt_add_right (Nat.lt_mul_div_succ _ factorUp) _
    _ = (amount * factor / divisor * divisor / factor + 1) * factor + divisor := by
      rw [Nat.mul_comm factor]

/-- Less is lost than one unit of the other side is worth, and one unit. -/
theorem lost_lt
    (factorUp : 1 ≤ factor)
    (divisorUp : 1 ≤ divisor)
    {amount : Nat}
    (small : amount < 2 ^ 63)
    (fits : amount * factor / divisor < 2 ^ 63) :
    (amount : ℚ) - converted divisor factor (converted factor divisor amount) <
      divisor / factor + 1 := by
  have positive : (0 : ℚ) < factor := by exact_mod_cast factorUp
  have bound :
      (amount * factor : ℚ) <
        (converted divisor factor (converted factor divisor amount) + 1) * factor + divisor := by
    exact_mod_cast mul_lt_of_converted factorUp divisorUp small fits
  rw [add_mul, one_mul, add_assoc, add_comm (factor : ℚ)] at bound
  rwa [div_add_one positive.ne', lt_div_iff₀ positive, sub_mul, sub_lt_iff_lt_add']

end

/-! ## What the contract answers -/

/-- A value is read as a conversion understands it. -/
theorem ValueReader.readFrom_nextAs
    {α : Type}
    {convert : AbiValue → Except AbiError α}
    {value : AbiValue}
    {result : α}
    (understood : convert value = .ok result)
    (rest : List AbiValue) :
    readFrom (.ok (value :: rest)) (nextAs convert) = .ok result := by
  have reads : (nextAs convert).run (value :: rest) = .ok (result, rest) := by
    -- all but the conversion computes
    conv_lhs => whnf
    rw [understood]
    rfl
  unfold readFrom
  dsimp only
  rw [reads]
  rfl

namespace SystemCall

/-- What is sent to ask for the conversion of an amount. -/
def conversionRequest (selector : Selector) (amount : Nat) : Bytes :=
  AbiValue.encodeCall selector [.uint (BitVec.ofNat 256 amount)]

/-- The exchange rate answers that an amount is converted to another. -/
def Converts
    (call : SystemCall)
    (source : PriceSource)
    (selector : Selector)
    (amount result : Nat) :
    Prop :=
  call.answerExchangeRate source (conversionRequest selector amount) =
    .ok
      { gasCost := exchangeRateGas
        output := AbiValue.encode [.uint (BitVec.ofNat 256 result)]
        stateChanged := false }

variable
  {call : SystemCall}
  {source : PriceSource}
  {rate : ExchangeRate}
  {selector : Selector}
  {amount : Nat}

theorem toTinycents_ne_toTinybars : toTinycents ≠ toTinybars := by
  decide +kernel

theorem readSelector_conversionRequest :
    readSelector (conversionRequest selector amount) = .ok selector := by
  rw [readSelector, conversionRequest, AbiValue.encodeCall, Selector.ofInput?_toBytes_append]

/-- One number is read as it was sent. -/
theorem decodeCall_conversionRequest :
    AbiValue.decodeCall selector [.uint] (conversionRequest selector amount) =
      .ok [.uint (BitVec.ofNat 256 amount)] := by
  rw [conversionRequest, AbiValue.decodeCall_encodeCall]
  have typed : List.Forall₂ AbiValue.HasType [.uint (BitVec.ofNat 256 amount)] [.uint] :=
    .cons (.uint _) .nil
  refine AbiValue.decode_encode_of_areReadable typed (AbiValue.areReadable_of_length_encode ?_)
  rw [AbiValue.length_encode]
  change 32 * 1 + 0 < 2 ^ 32
  decide

/-- An amount below 2^63 is read as it was sent. -/
theorem readAmount_conversionRequest
    (small : amount < 2 ^ 63) :
    readAmount selector (conversionRequest selector amount) = .ok (Int64.ofInt amount) := by
  have word : (BitVec.ofNat 256 amount).toNat = amount := by
    rw [BitVec.toNat_ofNat, Nat.mod_eq_of_lt (by omega)]
  have unsigned : UInt64.ofNat? amount = some (UInt64.ofNat amount) :=
    if_pos (by unfold UInt64.size; omega)
  have signed : Int64.ofUInt64? (UInt64.ofNat amount) = some (Int64.ofInt amount) := by
    have same : (UInt64.ofNat amount).toNat = amount :=
      UInt64.toNat_ofNat_of_lt' (by unfold UInt64.size; omega)
    rw [Int64.ofUInt64?, same, Int64.ofInt?, if_pos]
    rw [Int64.toInt_minValue, Int64.toInt_maxValue]
    omega
  have read : AbiValue.asUInt64 (.uint (BitVec.ofNat 256 amount)) = .ok (UInt64.ofNat amount) := by
    simp only [AbiValue.asUInt64, AbiValue.asWord, bind, Except.bind, word, unsigned]
    rfl
  have next :
      TokenFunction.readArguments selector [.uint] (conversionRequest selector amount)
          (ValueReader.nextAs AbiValue.asUInt64) =
        .ok (UInt64.ofNat amount) := by
    rw [TokenFunction.readArguments, decodeCall_conversionRequest]
    exact ValueReader.readFrom_nextAs read []
  simp only [readAmount, next, bind, Except.bind, signed]
  rfl

/-- A conversion that is paid for and asked for below 2^63 is made at the rate in effect. -/
theorem converts_of_rateAt
    (paid : exchangeRateGas ≤ call.gasLimit)
    (rated : source.rates.rateAt call.timestamp = .ok rate)
    (known : selector = toTinybars ∨ selector = toTinycents)
    (small : amount < 2 ^ 63) :
    let value := Int64.ofInt amount
    let result := if selector = toTinybars then rate.tinybars value else tinycentsAt rate value
    call.Converts source selector amount result.toInt.toNat := by
  intro value result
  have enough : call.checkGas exchangeRateGas = .ok () :=
    if_neg (UInt64.not_lt.mpr paid)
  have listed : ¬(selector ≠ toTinybars ∧ selector ≠ toTinycents) :=
    fun ⟨notTinybars, notTinycents⟩ => known.elim notTinybars notTinycents
  unfold Converts answerExchangeRate
  rw [enough, readSelector_conversionRequest]
  change (if selector ≠ toTinybars ∧ selector ≠ toTinycents then _ else _) = _
  rw [if_neg listed, readAmount_conversionRequest small, rated]
  rfl

/-! ## The rate in exact arithmetic -/

/-- What is divided is not negative, and is divided as natural numbers are. -/
theorem tdiv_eq_natCast
    {factor divisor : Int32}
    (factorUp : 1 ≤ factor.toInt)
    (divisorUp : 1 ≤ divisor.toInt)
    (amount : Nat) :
    (amount * factor.toInt).tdiv divisor.toInt =
      ((amount * factor.toInt.toNat / divisor.toInt.toNat : Nat) : Int) := by
  have factor_eq : factor.toInt = (factor.toInt.toNat : Int) :=
    (Int.toNat_of_nonneg (by omega)).symm
  have divisor_eq : divisor.toInt = (divisor.toInt.toNat : Int) :=
    (Int.toNat_of_nonneg (by omega)).symm
  rw [Int.ofNat_tdiv, Int.natCast_mul, ← factor_eq, ← divisor_eq]

theorem toInt_ofInt_of_small
    (small : amount < 2 ^ 63) :
    (Int64.ofInt amount).toInt = amount :=
  Int64.toInt_ofInt_of_le (by omega) (by omega)

theorem toNat_tinybars
    (hbarUp : 1 ≤ rate.hbarEquiv.toInt)
    (centUp : 1 ≤ rate.centEquiv.toInt)
    (small : amount < 2 ^ 63) :
    (rate.tinybars (Int64.ofInt amount)).toInt.toNat =
      converted rate.hbarEquiv.toInt.toNat rate.centEquiv.toInt.toNat amount := by
  have cents : ¬ rate.centEquiv ≤ 0 := by
    rw [Int32.le_iff_toInt_le, Int32.toInt_zero]
    omega
  rw [ExchangeRate.tinybars, if_neg cents, toInt_ofInt_of_small small,
    tdiv_eq_natCast hbarUp centUp, Int64.toInt_ofIntClamp_of_nonneg (Int.natCast_nonneg _),
    Int64.toInt_maxValue, converted]
  generalize amount * rate.hbarEquiv.toInt.toNat / rate.centEquiv.toInt.toNat = quotient
  omega

theorem toNat_tinycentsAt
    (hbarUp : 1 ≤ rate.hbarEquiv.toInt)
    (centUp : 1 ≤ rate.centEquiv.toInt)
    (small : amount < 2 ^ 63) :
    (tinycentsAt rate (Int64.ofInt amount)).toInt.toNat =
      converted rate.centEquiv.toInt.toNat rate.hbarEquiv.toInt.toNat amount := by
  have hbar : max rate.hbarEquiv.toInt 1 = rate.hbarEquiv.toInt := by omega
  unfold tinycentsAt
  dsimp only
  rw [hbar, toInt_ofInt_of_small small, tdiv_eq_natCast centUp hbarUp, converted]
  generalize amount * rate.centEquiv.toInt.toNat / rate.hbarEquiv.toInt.toNat = quotient
  split
  · rename_i inRange
    rw [Int64.toInt_minValue, Int64.toInt_maxValue] at inRange
    rw [Int64.toInt_ofInt_of_le (by omega) (by omega)]
    omega
  · rename_i beyond
    rw [Int64.toInt_minValue, Int64.toInt_maxValue] at beyond
    rw [Int64.toInt_maxValue]
    omega

theorem converts_toTinybars
    (paid : exchangeRateGas ≤ call.gasLimit)
    (rated : source.rates.rateAt call.timestamp = .ok rate)
    (hbarUp : 1 ≤ rate.hbarEquiv.toInt)
    (centUp : 1 ≤ rate.centEquiv.toInt)
    (small : amount < 2 ^ 63) :
    call.Converts source toTinybars amount
      (converted rate.hbarEquiv.toInt.toNat rate.centEquiv.toInt.toNat amount) := by
  have made := converts_of_rateAt paid rated (.inl rfl) small
  dsimp only at made
  rwa [if_pos rfl, toNat_tinybars hbarUp centUp small] at made

theorem converts_toTinycents
    (paid : exchangeRateGas ≤ call.gasLimit)
    (rated : source.rates.rateAt call.timestamp = .ok rate)
    (hbarUp : 1 ≤ rate.hbarEquiv.toInt)
    (centUp : 1 ≤ rate.centEquiv.toInt)
    (small : amount < 2 ^ 63) :
    call.Converts source toTinycents amount
      (converted rate.centEquiv.toInt.toNat rate.hbarEquiv.toInt.toNat amount) := by
  have made := converts_of_rateAt paid rated (.inr rfl) small
  dsimp only at made
  rwa [if_neg toTinycents_ne_toTinybars, toNat_tinycentsAt hbarUp centUp small] at made

/--
Both conversions of every amount below 2^63 are answered, and no greater amount is converted to
less.  Where the first of two conversions there and back does not stop at the greatest amount,
nothing is won by them, and less is lost than a unit of the other side is worth, and one unit.
-/
theorem conversions_create_no_value
    (paid : exchangeRateGas ≤ call.gasLimit)
    (rated : source.rates.rateAt call.timestamp = .ok rate)
    (hbarUp : 1 ≤ rate.hbarEquiv.toInt)
    (centUp : 1 ≤ rate.centEquiv.toInt) :
    let hbar := rate.hbarEquiv.toInt.toNat
    let cent := rate.centEquiv.toInt.toNat
    let cents (amount : Nat) := min (amount * cent / hbar) (2 ^ 63 - 1)
    let bars (amount : Nat) := min (amount * hbar / cent) (2 ^ 63 - 1)
    (∀ amount < 2 ^ 63,
        call.Converts source toTinycents amount (cents amount) ∧
          call.Converts source toTinybars amount (bars amount)) ∧
      (∀ amount < 2 ^ 63, amount * cent / hbar < 2 ^ 63 →
        call.Converts source toTinybars (cents amount) (bars (cents amount)) ∧
          bars (cents amount) ≤ amount ∧
            (amount : ℚ) - bars (cents amount) < hbar / cent + 1) ∧
        (∀ amount < 2 ^ 63, amount * hbar / cent < 2 ^ 63 →
          call.Converts source toTinycents (bars amount) (cents (bars amount)) ∧
            cents (bars amount) ≤ amount ∧
              (amount : ℚ) - cents (bars amount) < cent / hbar + 1) ∧
          Monotone cents ∧ Monotone bars := by
  intro hbar cent cents bars
  have someHbar : 1 ≤ hbar := by omega
  have someCent : 1 ≤ cent := by omega
  refine ⟨fun amount small => ⟨?_, ?_⟩, fun amount small fits => ⟨?_, ?_, ?_⟩,
    fun amount small fits => ⟨?_, ?_, ?_⟩, converted_mono cent hbar, converted_mono hbar cent⟩
  · exact converts_toTinycents paid rated hbarUp centUp small
  · exact converts_toTinybars paid rated hbarUp centUp small
  · exact converts_toTinybars paid rated hbarUp centUp (converted_lt cent hbar amount)
  · exact converted_converted_le amount
  · exact lost_lt someCent someHbar small fits
  · exact converts_toTinycents paid rated hbarUp centUp (converted_lt hbar cent amount)
  · exact converted_converted_le amount
  · exact lost_lt someHbar someCent small fits

/-- At seven to nine, five tinybars are six tinycents, and those are four tinybars. -/
theorem five_tinybars_come_back_as_four :
    let call : SystemCall := ⟨Address.ofNum 1001, ⟨5⟩, 100, false⟩
    let rate := ExchangeRate.lasting 7 9
    let source : PriceSource := ⟨.empty, .list .empty ⟨0⟩ rate, fun _ _ => 1⟩
    exchangeRateGas ≤ call.gasLimit ∧ source.rates.rateAt call.timestamp = .ok rate ∧
      call.Converts source toTinycents 5 6 ∧ call.Converts source toTinybars 6 4 ∧
        (5 : ℚ) - 4 < 7 / 9 + 1 := by
  intro call rate source
  have paid : exchangeRateGas ≤ call.gasLimit := by decide
  have rated : source.rates.rateAt call.timestamp = .ok rate := by decide +kernel
  have cents :
      min (5 * rate.centEquiv.toInt.toNat / rate.hbarEquiv.toInt.toNat) (2 ^ 63 - 1) = 6 := by
    decide
  have bars :
      min (6 * rate.hbarEquiv.toInt.toNat / rate.centEquiv.toInt.toNat) (2 ^ 63 - 1) = 4 := by
    decide
  obtain ⟨answered, back, -⟩ :=
    conversions_create_no_value paid rated (by decide) (by decide)
  have there := (answered 5 (by decide)).1
  obtain ⟨returned, _, lost⟩ := back 5 (by decide) (by decide)
  dsimp only at there returned lost
  rw [cents] at there returned lost
  rw [bars] at returned lost
  exact ⟨paid, rated, there, returned, lost⟩

end SystemCall

end LedgerEvm
