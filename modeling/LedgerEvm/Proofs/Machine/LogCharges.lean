import LedgerEvm.Proofs.Machine.MemoryContents
import LedgerEvm.Proofs.Machine.Operands

namespace LedgerEvm

/-!
# What a log is charged

A log is charged by its topics and its data, or by what it costs to keep its record when that is
more.  The cost of keeping is divided twice and truncated both times, which comes to one exact
quotient in whatever order the divisions are made, and no product on the way is too wide.
-/

namespace Gas

/-- A record so short is kept at a cost that is computed within the widths that are used for it. -/
structure LogStaysInRange (rbhTinybars : Int64) (bytes topics : Nat) : Prop where
  standard : (standardLog bytes topics).toNat = 375 + 375 * topics + 8 * bytes
  size : logRecordSize bytes topics < 2 ^ 64
  kept : logSeconds * rbhTinybars.toInt.toNat * logRecordSize bytes topics < 2 ^ 128

/-- What a log is charged in exact arithmetic: only the cost of keeping it is moved into range. -/
def exactLog (rbhTinybars gasPrice bytes topics : Nat) : Nat :=
  max (375 + 375 * topics + 8 * bytes)
    (min (2 ^ 64 - 1)
      (logRecordSize bytes topics * rbhTinybars * 180 /
        (3600 * max 1 (min gasPrice (2 ^ 64 - 1)))))

variable
  {source : PriceSource}
  {now : Timestamp}
  {gasPrice : Word}
  {price : Int64}
  {bytes topics : Nat}

theorem toNat_standardLog
    (few : topics ≤ 4)
    (short : bytes < 2 ^ 33) :
    (standardLog bytes topics).toNat = 375 + 375 * topics + 8 * bytes := by
  have base : (375 : UInt64).toNat = 375 := rfl
  have byte : (8 : UInt64).toNat = 8 := rfl
  simp only [standardLog, UInt64.toNat_addClamp, UInt64.toNat_mulClamp, UInt64.toNat_ofNatClamp,
    base, byte]
  unfold UInt64.size
  omega

theorem logStaysInRange
    (few : topics ≤ 4)
    (short : bytes < 2 ^ 33) :
    LogStaysInRange price bytes topics := by
  have greatest := price.toInt_le
  rw [Int64.toInt_maxValue] at greatest
  have size : logRecordSize bytes topics < 2 ^ 34 := by
    unfold logRecordSize
    omega
  refine ⟨toNat_standardLog few short, by omega, ?_⟩
  calc
    logSeconds * price.toInt.toNat * logRecordSize bytes topics
    _ ≤ 180 * 2 ^ 63 * 2 ^ 34 :=
      Nat.mul_le_mul (Nat.mul_le_mul_left _ (by omega)) (Nat.le_of_lt size)
    _ < 2 ^ 128 := by decide

/-- Two truncated divisions come to one exact quotient. -/
theorem toNat_logStorage
    (rbhTinybars : Int64)
    (gasPrice : UInt64)
    (bytes topics : Nat) :
    (logStorage rbhTinybars gasPrice bytes topics).toNat =
      min (2 ^ 64 - 1)
        (logRecordSize bytes topics * rbhTinybars.toInt.toNat * 180 /
          (3600 * max 1 gasPrice.toNat)) := by
  have product :
      logSeconds * rbhTinybars.toInt.toNat * logRecordSize bytes topics =
        logRecordSize bytes topics * rbhTinybars.toInt.toNat * 180 := by
    rw [Nat.mul_comm, Nat.mul_comm logSeconds, ← Nat.mul_assoc]
    rfl
  have divisor : Nat.max gasPrice.toNat 1 = max 1 gasPrice.toNat := Nat.max_comm ..
  rw [logStorage, UInt64.toNat_ofNatClamp, Nat.div_div_eq_div_mul, product, divisor, Nat.min_comm]
  rfl

/-- The greater of two charges is charged. -/
theorem toNat_greater
    (standard storage : UInt64) :
    (if standard < storage then storage else standard).toNat =
      max standard.toNat storage.toNat := by
  rcases UInt64.lt_or_le standard storage with less | enough
  · rw [if_pos less]
    exact (Nat.max_eq_right (Nat.le_of_lt (UInt64.lt_iff_toNat_lt.mp less))).symm
  · rw [if_neg (UInt64.not_lt.mpr enough)]
    exact (Nat.max_eq_left (UInt64.le_iff_toNat_le.mp enough)).symm

/-- A log is charged wherever there is a unit price for keeping it, and exactly. -/
theorem log_eq_ok_iff
    (few : topics ≤ 4)
    (short : bytes < 2 ^ 33)
    {charge : UInt64} :
    log source (.contractCall now gasPrice) bytes topics = .ok charge ↔
      ∃ price,
        source.price .contractCall .rbh now = .ok price ∧
          charge.toNat = exactLog price.toInt.toNat gasPrice.toNat bytes topics := by
  have clamped : gasPrice.toUInt64Clamp.toNat = min gasPrice.toNat (2 ^ 64 - 1) :=
    UInt64.toNat_ofNatClamp _
  refine bind_eq_ok_iff.trans (exists_congr fun price => and_congr_right fun _ => ?_)
  rw [exactLog, ← clamped, ← toNat_logStorage, ← toNat_standardLog few short, ← toNat_greater,
    UInt64.toNat_inj]
  exact ⟨fun charged => (Except.ok.inj charged).symm, fun charged => congrArg _ charged.symm⟩

/--
The charge of a log is by its topics and data, or the exact cost of keeping its record in gas, to
the greatest number there is, when that is more.  Whether the hour or the price of gas divides
first does not matter, and nothing on the way leaves its range.
-/
theorem log_is_charged_exactly
    (few : topics ≤ 4)
    (short : bytes < 2 ^ 33)
    (priced : source.price .contractCall .rbh now = .ok price) :
    let size := 280 + 32 * topics + bytes
    let kept := size * price.toInt.toNat * 180
    let divisor := max 1 (min gasPrice.toNat (2 ^ 64 - 1))
    LogStaysInRange price bytes topics ∧
      kept / divisor / 3600 = kept / (3600 * divisor) ∧
        ∃ charge,
          log source (.contractCall now gasPrice) bytes topics = .ok charge ∧
            charge.toNat =
              max (375 + 375 * topics + 8 * bytes)
                (min (2 ^ 64 - 1) (kept / (3600 * divisor))) := by
  intro size kept divisor
  obtain ⟨charge, charged⟩ : ∃ charge,
      log source (.contractCall now gasPrice) bytes topics = .ok charge := by
    rw [log, LogContext.contractCall, priced]
    exact ⟨_, rfl⟩
  obtain ⟨found, same, exact⟩ := (log_eq_ok_iff few short).mp charged
  cases priced.symm.trans same
  refine ⟨logStaysInRange few short, ?_, charge, charged, exact⟩
  rw [Nat.div_div_eq_div_mul, Nat.mul_comm]

/-- A record of no topics and no data, at a price of gas of zero, which counts as one. -/
theorem empty_log_is_charged_for_storage :
    let source : PriceSource :=
      ⟨.list .empty ⟨0⟩ [.contractCall] { service := { rbh := 2400000 } },
        .list .empty ⟨0⟩ (.lasting 1 12), fun _ _ => 1⟩
    source.price .contractCall .rbh ⟨5⟩ = .ok 200 ∧
      ∃ charge, log source (.contractCall ⟨5⟩ 0) 0 0 = .ok charge ∧ charge.toNat = 2800 := by
  intro source
  have priced : source.price .contractCall .rbh ⟨5⟩ = .ok 200 := by decide +kernel
  obtain ⟨_, _, charge, charged, exact⟩ :=
    @log_is_charged_exactly source ⟨5⟩ 0 200 0 0 (by decide) (by decide) priced
  exact ⟨priced, charge, charged, exact⟩

end Gas

namespace Exec

open Gas

variable {source : PriceSource} {machine after : Machine} {topics : Fin 5}

/-- A log that is left has been paid for on top of the memory that its data took. -/
theorem gas_of_log
    (done : log source topics.val machine = .ok () after) :
    ∃ offset size rest price,
      machine.frame.stack.words = offset :: size :: rest ∧
        source.price .contractCall .rbh machine.frame.context.block.timestamp = .ok price ∧
          after.frame.gas.toNat +
              (machine.frame.memory.costUpTo (Window.reach ⟨offset, size⟩)).toNat +
              exactLog price.toInt.toNat machine.frame.context.gasPrice.toNat size.toNat topics =
            machine.frame.gas.toNat := by
  obtain ⟨⟨offset, size⟩, popped, pops, done⟩ := exists_of_run_eq_ok done
  obtain ⟨rest, words, rfl⟩ := of_pop2_eq_ok pops
  obtain ⟨named, taken, pops, done⟩ := exists_of_run_eq_ok done
  obtain ⟨-, others, -, rfl⟩ := of_popList_eq_ok pops
  obtain ⟨window, grown, grows, done⟩ := exists_of_run_eq_ok done
  obtain ⟨gas, memory, rfl, -, -, length, -⟩ := contents_of_expand grows
  obtain ⟨granted, -, same⟩ := of_expand_eq_ok grows
  obtain ⟨context, _, contexts, done⟩ := exists_of_run_eq_ok done
  cases contexts
  dsimp only at done
  cases priced :
      Gas.log source
        (.contractCall machine.frame.context.block.timestamp machine.frame.context.gasPrice)
        window.2 topics.val with
  | error error =>
      rw [priced] at done
      cases done
  | ok charge =>
      rw [priced] at done
      obtain ⟨_, paid, charges, done⟩ := exists_of_run_eq_ok done
      obtain ⟨enough, rfl⟩ := of_charge_eq_ok charges
      cases done
      -- what can be grown to has fewer than 2 ^ 32 bytes, so the charge is within its range
      have short : size.toNat < 2 ^ 32 := by
        rcases of_granted granted with rfl | ⟨-, short, -, -⟩
        · decide
        · exact short
      rw [length] at priced
      obtain ⟨price, found, charged⟩ := (log_eq_ok_iff (by omega) (by omega)).mp priced
      refine ⟨offset, size, rest.words, price, words, found, ?_⟩
      have affordable :
          machine.frame.memory.costUpTo (Window.reach ⟨offset, size⟩) ≤ machine.frame.gas :=
        costUpTo_le_of_granted granted
      have left :
          gas =
            machine.frame.gas - machine.frame.memory.costUpTo (Window.reach ⟨offset, size⟩) :=
        congrArg (fun machine => machine.frame.gas) same
      have grown := UInt64.toNat_sub_add_cancel affordable
      rw [← left] at grown
      have kept : (gas - charge).toNat + charge.toNat = gas.toNat :=
        UInt64.toNat_sub_add_cancel enough
      change (gas - charge).toNat + _ + _ = _
      omega

end Exec

end LedgerEvm
