import Mathlib.Algebra.Order.Ring.Nat
import Mathlib.Data.Nat.Bitwise
import Mathlib.Data.Nat.Digits.Lemmas
import Mathlib.Data.Nat.ModEq
import Mathlib.Logic.Function.Iterate
import Mathlib.Tactic.Ring
import LedgerEvm.Word

namespace LedgerEvm

/-!
# Arithmetic on words

A word stands for an integer in two's complement.  The signed operations work on magnitudes,
signs and masks; here each of them is shown to give the encoding of what it is to compute on
the integers themselves.
-/

namespace Word

/-- The encoding of an integer is the word that stands for it, modulo the word size. -/
theorem eq_ofInt_of_toInt
    {word : Word}
    {value : Int}
    (stands : word.toInt = value.bmod (2 ^ 256)) :
    word = BitVec.ofInt 256 value := by
  apply BitVec.eq_of_toInt_eq
  rw [stands, BitVec.toInt_ofInt]

theorem toInt_eq_zero_iff
    (word : Word) :
    word.toInt = 0 ↔ word = 0 := by
  constructor
  · exact fun zero => BitVec.eq_of_toInt_eq zero
  · rintro rfl
    rfl

/-! ## Division -/

theorem negate_eq_neg
    (word : Word) :
    negate word = -word :=
  (BitVec.neg_eq_not_add word).symm

theorem magnitude_eq
    (word : Word) :
    magnitude word = if word.msb then -word else word := by
  rw [magnitude, negate_eq_neg]

/-- Division of magnitudes is truncated division of the integers. -/
theorem signedDiv_eq_ofInt
    (dividend divisor : Word) :
    signedDiv dividend divisor =
      BitVec.ofInt 256
        (if divisor.toInt = 0 then 0 else dividend.toInt.tdiv divisor.toInt) := by
  by_cases zero : divisor = 0
  · rw [signedDiv, if_pos zero, if_pos ((toInt_eq_zero_iff divisor).mpr zero)]
    rfl
  · have nonzero : divisor.toInt ≠ 0 := fun none => zero ((toInt_eq_zero_iff divisor).mp none)
    have signed : signedDiv dividend divisor = dividend.sdiv divisor := by
      simp only [signedDiv, if_neg zero, magnitude_eq, negate_eq_neg, BitVec.sdiv]
      cases dividend.msb <;> cases divisor.msb <;> rfl
    apply eq_ofInt_of_toInt
    rw [if_neg nonzero, signed]
    exact BitVec.toInt_sdiv dividend divisor

/-- The remainder of magnitudes is that of truncated division of the integers. -/
theorem signedMod_eq_ofInt
    (dividend divisor : Word) :
    signedMod dividend divisor =
      BitVec.ofInt 256
        (if divisor.toInt = 0 then 0 else dividend.toInt.tmod divisor.toInt) := by
  by_cases zero : divisor = 0
  · rw [signedMod, if_pos zero, if_pos ((toInt_eq_zero_iff divisor).mpr zero)]
    rfl
  · have nonzero : divisor.toInt ≠ 0 := fun none => zero ((toInt_eq_zero_iff divisor).mp none)
    have signed : signedMod dividend divisor = dividend.srem divisor := by
      simp only [signedMod, if_neg zero, magnitude_eq, negate_eq_neg, BitVec.srem]
      cases dividend.msb <;> cases divisor.msb <;> rfl
    rw [if_neg nonzero, signed, ← BitVec.toInt_srem, BitVec.ofInt_toInt]

/-! ## Order -/

/-- Comparison by signs and then by size is comparison of the integers. -/
theorem signedLess_iff
    (left right : Word) :
    signedLess left right = true ↔ left.toInt < right.toInt := by
  have leftFits := left.isLt
  have rightFits := right.isLt
  rw [BitVec.toInt_eq_msb_cond left, BitVec.toInt_eq_msb_cond right]
  unfold signedLess
  cases left.msb <;> cases right.msb <;> simp [BitVec.lt_def] <;> omega

theorem signedLess_eq_decide
    (left right : Word) :
    signedLess left right = decide (left.toInt < right.toInt) := by
  rw [Bool.eq_iff_iff, signedLess_iff, decide_eq_true_iff]

/-! ## Shifts -/

/-- A negative word is shifted by filling the places that are left free. -/
theorem fill_eq_sshiftRight
    {word : Word}
    (negative : word.msb = true)
    {places : Nat}
    (few : places < 256) :
    word >>> places ||| BitVec.allOnes 256 <<< (256 - places) = word.sshiftRight places := by
  apply BitVec.eq_of_getLsbD_eq
  intro place inWord
  have within : ¬ 256 ≤ place := Nat.not_le.mpr inWord
  rw [BitVec.getLsbD_sshiftRight, BitVec.getLsbD_or, BitVec.getLsbD_shiftLeft,
    BitVec.getLsbD_allOnes, negative]
  by_cases stays : places + place < 256
  · have below : place < 256 - places := by omega
    simp [stays, below, within]
  · have filled : ¬ place < 256 - places := by omega
    have inMask : place - (256 - places) < 256 := by omega
    simp [stays, filled, inMask, inWord, within]

/-- The bits that a shift leaves free are filled with the sign. -/
theorem arithmeticShiftRight_eq_sshiftRight
    (amount word : Word) :
    arithmeticShiftRight amount word = word.sshiftRight amount.toNat := by
  unfold arithmeticShiftRight
  cases negative : word.msb with
  | false =>
      rw [BitVec.sshiftRight_eq_of_msb_false negative]
      by_cases short : amount.toNat < 256
      · rw [if_pos short, if_neg fun both => Bool.false_ne_true both.1]
      · rw [if_neg short, if_neg Bool.false_ne_true,
          BitVec.ushiftRight_eq_zero (Nat.not_lt.mp short)]
        rfl
  | true =>
      by_cases short : amount.toNat < 256
      · by_cases shifts : 0 < amount.toNat
        · rw [if_pos short, if_pos ⟨rfl, shifts⟩, fill_eq_sshiftRight negative short]
        · have still : amount.toNat = 0 := Nat.eq_zero_of_not_pos shifts
          rw [if_pos short, if_neg fun both => shifts both.2, still, BitVec.ushiftRight_zero,
            BitVec.sshiftRight_zero]
      · rw [if_neg short, if_pos rfl, BitVec.sshiftRight_eq_of_msb_true negative,
          BitVec.ushiftRight_eq_zero (Nat.not_lt.mp short)]
        rfl

/-- An arithmetic shift is division by a power of two, rounded down. -/
theorem arithmeticShiftRight_eq_ofInt
    (amount word : Word) :
    arithmeticShiftRight amount word =
      BitVec.ofInt 256 (word.toInt.fdiv (2 ^ amount.toNat)) := by
  have positive : (0 : Int) ≤ 2 ^ amount.toNat := Int.pow_nonneg (by decide)
  have shifted : (word.sshiftRight amount.toNat).toInt = word.toInt.fdiv (2 ^ amount.toNat) := by
    rw [BitVec.toInt_sshiftRight, Int.shiftRight_eq_div_pow, Int.fdiv_eq_ediv_of_nonneg _ positive]
    norm_cast
  rw [arithmeticShiftRight_eq_sshiftRight, ← shifted, BitVec.ofInt_toInt]

/-! ## Sign extension -/

theorem toNat_lowMask
    {places : Nat}
    (few : places < 256) :
    (lowMask places).toNat = 2 ^ places - 1 := by
  have power : ((1 : Word) <<< places).toNat = 2 ^ places := by
    rw [BitVec.toNat_shiftLeft, show (1 : Word).toNat = 1 from rfl, Nat.one_shiftLeft]
    exact Nat.mod_eq_of_lt (Nat.pow_lt_pow_right (by decide) few)
  have positive : (1 : Word) ≤ (1 : Word) <<< places := by
    rw [BitVec.le_def, power]
    exact Nat.one_le_two_pow
  rw [lowMask, BitVec.toNat_sub_of_le positive, power]
  rfl

theorem getElem_lowMask
    {places : Nat}
    (few : places < 256)
    {place : Nat}
    (inWord : place < 256) :
    (lowMask places)[place] = decide (place < places) := by
  rw [← BitVec.getLsbD_eq_getElem, BitVec.getLsbD, toNat_lowMask few,
    Nat.testBit_two_pow_sub_one]

/-- Filling with the bit on top extends the sign of what lies below. -/
theorem fill_eq_signExtend
    (word : Word)
    {top : Nat}
    (few : top < 256) :
    (if word.getLsbD top then word ||| ~~~lowMask top else word &&& lowMask top) =
      (word.setWidth (top + 1)).signExtend 256 := by
  apply BitVec.eq_of_getLsbD_eq
  intro place inWord
  have sign : (word.setWidth (top + 1)).msb = word.getLsbD top := by
    rw [BitVec.msb_setWidth, Nat.add_sub_cancel]
    simp
  have mask := getElem_lowMask few inWord
  rw [BitVec.getLsbD_signExtend, BitVec.getLsbD_setWidth, sign]
  rcases Nat.lt_trichotomy place top with below | rfl | above
  · have inside : place < top + 1 := Nat.lt_succ_of_lt below
    cases word.getLsbD top <;> simp [inWord, mask, below, inside]
  · cases filled : word.getLsbD place <;> simp_all
  · have outside : ¬ place < top + 1 := Nat.not_lt.mpr above
    cases word.getLsbD top <;> simp [inWord, mask, outside, Nat.lt_asymm above]

/-- Sign extension reads the lowest bytes as a signed number; all bytes are the word itself. -/
theorem signExtend_eq_ofInt
    (index word : Word) :
    signExtend index word =
      if index.toNat < 31 then
        BitVec.ofInt 256 (word.setWidth (8 * (index.toNat + 1))).toInt
      else
        word := by
  by_cases short : index.toNat < 31
  · have few : index.toNat * 8 + 7 < 256 := by omega
    have bits : index.toNat * 8 + 7 + 1 = 8 * (index.toNat + 1) := by omega
    have fits : 8 * (index.toNat + 1) ≤ 256 := by omega
    rw [if_pos short, signExtend, if_pos short]
    dsimp only
    rw [fill_eq_signExtend word few, bits, ← BitVec.toInt_signExtend_of_le fits,
      BitVec.ofInt_toInt]
  · rw [if_neg short, signExtend, if_neg short]

end Word

/-!
## Modular arithmetic on words

Sums and products are taken on words of twice the width, on which they are exact, and powers by
square-and-multiply, which keeps what its power, square and exponent stand for modulo the word
size.
-/

namespace Word

/-! ### Wide words -/

theorem toNat_widen
    (word : Word) :
    (widen word).toNat = word.toNat :=
  BitVec.toNat_setWidth_of_le (by decide)

theorem toNat_narrow
    {wide : WideWord}
    (fits : wide.toNat < 2 ^ 256) :
    (narrow wide).toNat = wide.toNat := by
  rw [narrow, BitVec.toNat_setWidth, Nat.mod_eq_of_lt fits]

/-- A sum of words is exact on wide words. -/
theorem toNat_widen_add
    (left right : Word) :
    (widen left + widen right).toNat = left.toNat + right.toNat := by
  have leftFits := left.isLt
  have rightFits := right.isLt
  rw [BitVec.toNat_add, toNat_widen, toNat_widen]
  omega

/-- A product is exact on twice the width. -/
theorem toNat_mul_of_doubled
    {width : Nat}
    (left right : BitVec width) :
    (left.setWidth (width + width) * right.setWidth (width + width)).toNat =
      left.toNat * right.toNat := by
  have fits : left.toNat * right.toNat < 2 ^ (width + width) := by
    rw [Nat.pow_add]
    exact Nat.mul_lt_mul'' left.isLt right.isLt
  have doubled : width ≤ width + width := Nat.le_add_right width width
  rw [BitVec.toNat_mul, BitVec.toNat_setWidth_of_le doubled, BitVec.toNat_setWidth_of_le doubled,
    Nat.mod_eq_of_lt fits]

/-- A product of words is exact on wide words. -/
theorem toNat_widen_mul
    (left right : Word) :
    (widen left * widen right).toNat = left.toNat * right.toNat :=
  toNat_mul_of_doubled left right

/-- What is left of a wide word modulo a word that is not zero is a word. -/
theorem toNat_narrow_mod
    (wide : WideWord)
    {modulus : Word}
    (nonzero : modulus ≠ 0) :
    (narrow (wide % widen modulus)).toNat = wide.toNat % modulus.toNat := by
  have positive : 0 < modulus.toNat :=
    Nat.pos_of_ne_zero fun zero => nonzero (BitVec.eq_of_toNat_eq zero)
  have rest : (wide % widen modulus).toNat = wide.toNat % modulus.toNat := by
    rw [BitVec.toNat_umod, toNat_widen]
  rw [toNat_narrow, rest]
  rw [rest]
  exact Nat.lt_trans (Nat.mod_lt _ positive) modulus.isLt

theorem addMod_eq_ofNat
    (left right modulus : Word) :
    addMod left right modulus =
      BitVec.ofNat 256 (if modulus = 0 then 0 else (left.toNat + right.toNat) % modulus.toNat) := by
  unfold addMod
  by_cases zero : modulus = 0
  · rw [if_pos zero, if_pos zero]
    rfl
  · rw [if_neg zero, if_neg zero, ← toNat_widen_add, ← toNat_narrow_mod _ zero,
      BitVec.ofNat_toNat, BitVec.setWidth_eq]

theorem mulMod_eq_ofNat
    (left right modulus : Word) :
    mulMod left right modulus =
      BitVec.ofNat 256 (if modulus = 0 then 0 else left.toNat * right.toNat % modulus.toNat) := by
  unfold mulMod
  by_cases zero : modulus = 0
  · rw [if_pos zero, if_pos zero]
    rfl
  · rw [if_neg zero, if_neg zero, ← toNat_widen_mul, ← toNat_narrow_mod _ zero,
      BitVec.ofNat_toNat, BitVec.setWidth_eq]

/-! ### Square-and-multiply -/

namespace PowerLoop

/-- The number that the loop comes to, modulo the word size. -/
def goal (loop : PowerLoop) : Nat :=
  loop.power.toNat * loop.square.toNat ^ loop.exponent.toNat

theorem getLsbD_zero
    (word : Word) :
    word.getLsbD 0 = decide (word.toNat % 2 = 1) := by
  rw [BitVec.getLsbD, Nat.testBit_zero]

/-- A round keeps what the loop comes to. -/
theorem goal_round
    (loop : PowerLoop) :
    loop.round.goal ≡ loop.goal [MOD 2 ^ 256] := by
  obtain ⟨power, square, exponent⟩ := loop
  have squared : (square * square).toNat ≡ square.toNat * square.toNat [MOD 2 ^ 256] := by
    rw [BitVec.toNat_mul]
    exact Nat.mod_modEq _ _
  have halves := Nat.div_add_mod exponent.toNat 2
  simp only [goal, toNat_exponent_round]
  simp only [round, getLsbD_zero]
  rcases Nat.mod_two_eq_zero_or_one exponent.toNat with even | odd
  · rw [even, Nat.add_zero] at halves
    have powers :
        power.toNat * (square.toNat * square.toNat) ^ (exponent.toNat / 2) =
          power.toNat * square.toNat ^ exponent.toNat := by
      rw [← Nat.pow_two, ← Nat.pow_mul, halves]
    rw [even, ← powers]
    exact (squared.pow _).mul_left _
  · rw [odd] at halves
    have powers :
        power.toNat * square.toNat * (square.toNat * square.toNat) ^ (exponent.toNat / 2) =
          power.toNat * square.toNat ^ exponent.toNat := by
      rw [← Nat.pow_two, ← Nat.pow_mul, Nat.mul_assoc, ← Nat.pow_succ', Nat.succ_eq_add_one,
        halves]
    have multiplied : (power * square).toNat ≡ power.toNat * square.toNat [MOD 2 ^ 256] := by
      rw [BitVec.toNat_mul]
      exact Nat.mod_modEq _ _
    rw [odd, ← powers]
    exact multiplied.mul (squared.pow _)

theorem run_of_done
    {loop : PowerLoop}
    (done : loop.exponent = 0) :
    loop.run = loop.power := by
  rw [run, if_pos done]

/-- One more round, needed or not, does not change what the loop gives. -/
theorem run_round
    (loop : PowerLoop) :
    loop.round.run = loop.run := by
  by_cases done : loop.exponent = 0
  · have stays : loop.round.exponent = 0 := by rw [round, done]; rfl
    rw [run_of_done done, run_of_done stays, round, done]
    rfl
  · rw [run.eq_def loop, if_neg done]

variable
  (loop : PowerLoop)
  (rounds : Nat)

theorem run_iterate :
    (round^[rounds] loop).run = loop.run := by
  induction rounds with
  | zero => rfl
  | succ rounds inductionHypothesis =>
      rw [Function.iterate_succ_apply', run_round, inductionHypothesis]

theorem goal_iterate :
    (round^[rounds] loop).goal ≡ loop.goal [MOD 2 ^ 256] := by
  induction rounds with
  | zero => rfl
  | succ rounds inductionHypothesis =>
      rw [Function.iterate_succ_apply']
      exact (goal_round _).trans inductionHypothesis

theorem toNat_exponent_iterate :
    (round^[rounds] loop).exponent.toNat = loop.exponent.toNat / 2 ^ rounds := by
  induction rounds with
  | zero => rw [Function.iterate_zero_apply, Nat.pow_zero, Nat.div_one]
  | succ rounds inductionHypothesis =>
      rw [Function.iterate_succ_apply', toNat_exponent_round, inductionHypothesis,
        Nat.div_div_eq_div_mul, Nat.pow_succ]

/-- The loop is left after so many rounds, and gives the power that it has then. -/
def EndsAfter : Prop :=
  (∀ earlier < rounds, (round^[earlier] loop).exponent ≠ 0) ∧
    (round^[rounds] loop).exponent = 0 ∧ loop.run = (round^[rounds] loop).power

/-- An exponent has at most 256 digits, so the loop is left after as many rounds at most. -/
theorem exists_endsAfter :
    ∃ rounds ≤ 256, loop.EndsAfter rounds := by
  have last : (round^[256] loop).exponent = 0 := by
    apply BitVec.eq_of_toNat_eq
    rw [toNat_exponent_iterate, Nat.div_eq_of_lt loop.exponent.isLt]
    rfl
  have ends : ∃ rounds, (round^[rounds] loop).exponent = 0 := ⟨256, last⟩
  have done := Nat.find_spec ends
  refine ⟨Nat.find ends, Nat.find_min' ends last, fun _ earlier => Nat.find_min ends earlier,
    done, ?_⟩
  rw [← run_iterate loop (Nat.find ends), run_of_done done]

end PowerLoop

/-- Square-and-multiply gives the power modulo the word size; zero to the zero is one. -/
theorem pow_eq_ofNat
    (base exponent : Word) :
    pow base exponent = BitVec.ofNat 256 (base.toNat ^ exponent.toNat) := by
  let loop := PowerLoop.start base exponent
  obtain ⟨rounds, -, -, done, given⟩ := loop.exists_endsAfter
  have kept := loop.goal_iterate rounds
  have begun : loop.goal = base.toNat ^ exponent.toNat := Nat.one_mul _
  have ended : (PowerLoop.round^[rounds] loop).goal = (pow base exponent).toNat := by
    rw [PowerLoop.goal, done, pow, given]
    exact Nat.mul_one _
  rw [begun, ended] at kept
  apply BitVec.eq_of_toNat_eq
  rw [BitVec.toNat_ofNat, ← kept, Nat.mod_eq_of_lt (pow base exponent).isLt]

/-! ### The bytes of a word -/

/-- As many bytes are paid for as the number has digits to the base of a byte. -/
theorem byteLength_eq
    (word : Word) :
    word.byteLength = (Nat.digits 256 word.toNat).length := by
  unfold byteLength
  by_cases zero : word = 0
  · rw [if_pos zero, zero]
    rfl
  · have nonzero : word.toNat ≠ 0 := fun none => zero (BitVec.eq_of_toNat_eq none)
    have bytes : Nat.log 256 word.toNat = Nat.log 2 word.toNat / 8 := Nat.log_pow_left 2 8 _
    rw [if_neg zero, Nat.length_digits 256 _ (by decide) nonzero, Nat.log2_eq_log_two, bytes]

end Word

end LedgerEvm
