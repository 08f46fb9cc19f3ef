import Mathlib.Data.FinEnum
import Mathlib.Data.Fintype.EquivFin
import Mathlib.Data.Nat.ModEq
import Mathlib.Data.Nat.Prime.Basic
import LedgerEvm.Machine.Block

namespace LedgerEvm

/-!
# No two hashes are mixed to one seed

Each round of the mixing takes different words to different words: to add a shifted copy is
to multiply by an odd number, and an exclusive or with a copy shifted down leaves the highest
bit in which two words differ.  Words of 64 bits are finitely many, so the rounds, and what
they are composed to, reach every word.

The random value of a block is mixed from the quarters of its hash one by one.  Hence the
hash can be found again from it and from the number of the block, unless there was no hash.
-/

namespace Mixing

variable {amount : UInt64}

theorem toNat_addShifted
    (amount word : UInt64) :
    (addShifted amount word).toNat = word.toNat * (1 + 2 ^ (amount.toNat % 64)) % 2 ^ 64 := by
  rw [addShifted, UInt64.toNat_add, UInt64.toNat_shiftLeft, Nat.shiftLeft_eq, Nat.add_mod_mod,
    Nat.mul_add, Nat.mul_one]

/-- An odd factor is cancelled modulo 2^64. -/
theorem addShifted_injective
    (moves : amount.toNat % 64 ≠ 0) :
    Function.Injective (addShifted amount) := by
  intro word other same
  have odd : Odd (1 + 2 ^ (amount.toNat % 64)) :=
    odd_one.add_even (Nat.even_pow.mpr ⟨even_two, moves⟩)
  have coprime : Nat.Coprime (2 ^ 64) (1 + 2 ^ (amount.toNat % 64)) :=
    (Nat.coprime_two_left.mpr odd).pow_left 64
  have products : word.toNat * (1 + 2 ^ (amount.toNat % 64)) ≡
      other.toNat * (1 + 2 ^ (amount.toNat % 64)) [MOD 2 ^ 64] := by
    have numbers := congrArg UInt64.toNat same
    rwa [toNat_addShifted, toNat_addShifted] at numbers
  have words := Nat.ModEq.cancel_right_of_coprime coprime products
  exact UInt64.toNat_inj.mp (words.eq_of_lt_of_lt word.toNat_lt other.toNat_lt)

/-- Only zero is its own copy shifted down. -/
theorem eq_zero_of_shiftRight_eq
    {word : UInt64}
    (moves : amount.toNat % 64 ≠ 0)
    (same : word >>> amount = word) :
    word = 0 := by
  have quotient : word.toNat / 2 ^ (amount.toNat % 64) = word.toNat := by
    rw [← Nat.shiftRight_eq_div_pow, ← UInt64.toNat_shiftRight, same]
  have steep : 1 < 2 ^ (amount.toNat % 64) := Nat.one_lt_two_pow moves
  apply UInt64.toNat_inj.mp
  by_contra left
  have less := Nat.div_lt_self (Nat.pos_of_ne_zero left) steep
  omega

theorem xorShifted_injective
    (moves : amount.toNat % 64 ≠ 0) :
    Function.Injective (xorShifted amount) := by
  intro word other same
  -- Shifting commutes with the exclusive or, so the difference of the words is a fixed point.
  have shifted : (word ^^^ other) >>> amount = word ^^^ other := by
    have none := UInt64.xor_eq_zero_iff.mpr same
    rw [UInt64.shiftRight_xor, ← UInt64.xor_eq_zero_iff, ← none]
    simp only [xorShifted]
    ac_rfl
  exact UInt64.xor_eq_zero_iff.mp (eq_zero_of_shiftRight_eq moves shifted)

theorem addShifted_bijective
    (moves : amount.toNat % 64 ≠ 0) :
    Function.Bijective (addShifted amount) :=
  Finite.injective_iff_bijective.mp (addShifted_injective moves)

theorem xorShifted_bijective
    (moves : amount.toNat % 64 ≠ 0) :
    Function.Bijective (xorShifted amount) :=
  Finite.injective_iff_bijective.mp (xorShifted_injective moves)

theorem permute_eq_comp :
    permute =
      addShifted 30 ∘ xorShifted 24 ∘ addShifted 10 ∘ xorShifted 18 ∘ addShifted 5 ∘
        xorShifted 20 ∘ addShifted 16 ∘ xorShifted 27 ∘ addShifted 30 :=
  rfl

/-- No shift amount of the nine rounds is a multiple of the width. -/
theorem permute_bijective : Function.Bijective permute := by
  rw [permute_eq_comp]
  refine (addShifted_bijective ?_).comp <| (xorShifted_bijective ?_).comp <|
    (addShifted_bijective ?_).comp <| (xorShifted_bijective ?_).comp <|
    (addShifted_bijective ?_).comp <| (xorShifted_bijective ?_).comp <|
    (addShifted_bijective ?_).comp <| (xorShifted_bijective ?_).comp <|
    addShifted_bijective ?_
  all_goals decide

end Mixing

namespace Block

/-! ## Quarters -/

theorem mixLane_bijective
    (number : UInt64) :
    Function.Bijective (mixLane number) := by
  have masked : Function.Involutive fun lane : UInt64 => lane ^^^ number := by
    intro lane
    dsimp only
    rw [UInt64.xor_assoc, UInt64.xor_self, UInt64.xor_zero]
  exact Mixing.permute_bijective.comp masked.bijective

/-- The lowest quarter is the one appended last. -/
theorem extract_append_lane
    (word : Word)
    (lane : UInt64) :
    ((word <<< (64 : Nat)) ||| lane.toBitVec.setWidth 256).extractLsb' 0 64 = lane.toBitVec := by
  apply BitVec.eq_of_getLsbD_eq
  intro index inside
  have within : index < 256 := Nat.lt_trans inside (by decide)
  simp only [BitVec.getLsbD_extractLsb', BitVec.getLsbD_or, BitVec.getLsbD_shiftLeft,
    BitVec.getLsbD_setWidth, Nat.zero_add, inside, within, decide_true, Bool.not_true,
    Bool.true_and, Bool.and_false, Bool.false_and, Bool.false_or]

/-- The other quarters have moved up by one. -/
theorem extract_append_above
    (word : Word)
    (lane : UInt64)
    (place : Nat)
    (room : place + 128 ≤ 256) :
    ((word <<< (64 : Nat)) ||| lane.toBitVec.setWidth 256).extractLsb' (place + 64) 64 =
      word.extractLsb' place 64 := by
  apply BitVec.eq_of_getLsbD_eq
  intro index inside
  have within : place + 64 + index < 256 := by omega
  have above : ¬ place + 64 + index < 64 := by omega
  have moved : place + 64 + index - 64 = place + index := by omega
  have none : lane.toBitVec.getLsbD (place + 64 + index) = false :=
    BitVec.getLsbD_of_ge _ _ (Nat.le_of_not_lt above)
  simp only [BitVec.getLsbD_extractLsb', BitVec.getLsbD_or, BitVec.getLsbD_shiftLeft,
    BitVec.getLsbD_setWidth, inside, within, above, moved, none, decide_true, decide_false,
    Bool.true_and, Bool.not_false, Bool.and_false, Bool.or_false]

/-- A word of four quarters has these quarters. -/
theorem lanes_ofLanes
    {quarters : List UInt64}
    (four : quarters.length = 4) :
    lanes (ofLanes quarters) = quarters := by
  match quarters, four with
  | [first, second, third, fourth], _ =>
      have low := extract_append_lane
      have middle (word lane) := extract_append_above word lane 0 (by decide)
      have high (word lane) := extract_append_above word lane 64 (by decide)
      have top (word lane) := extract_append_above word lane 128 (by decide)
      simp only [Nat.zero_add, Nat.reduceAdd] at middle high top
      simp only [lanes, ofLanes, List.map_cons, List.map_nil, List.foldl_cons, List.foldl_nil,
        low, middle, high, top]

/-- A word is known by its quarters. -/
theorem lanes_injective : Function.Injective lanes := by
  intro word other same
  apply BitVec.eq_of_getLsbD_eq
  intro index inside
  have place : 64 * (index / 64) + index % 64 = index := Nat.div_add_mod index 64
  have near : index % 64 < 64 := Nat.mod_lt index (by decide)
  have listed : 64 * (index / 64) ∈ [192, 128, 64, 0] := by
    simp only [List.mem_cons, List.not_mem_nil, or_false]
    omega
  have quarter := List.map_inj_left.mp same _ listed
  have bit := congrArg (fun lane => lane.toBitVec.getLsbD (index % 64)) quarter
  simpa only [BitVec.getLsbD_extractLsb', near, place, decide_true, Bool.true_and] using bit

/-! ## Seeds -/

theorem lanes_randomSeed
    {block : Block}
    (hashed : block.hash.isZero = false) :
    lanes block.randomSeed.word = (lanes block.hash.word).map (mixLane block.number) := by
  have four : ((lanes block.hash.word).map (mixLane block.number)).length = 4 := rfl
  rw [randomSeed, hashed, if_neg Bool.false_ne_true, lanes_ofLanes four]

/--
The mixing permutes the words, and two blocks of one number that both have a hash have the
same random value only if they have the same hash.
-/
theorem mixing_loses_no_entropy :
    Function.Bijective Mixing.permute ∧
      ∀ block other : Block,
        block.number = other.number → block.hash.isZero = false → other.hash.isZero = false →
          (block.randomSeed = other.randomSeed ↔ block.hash = other.hash) := by
  refine ⟨Mixing.permute_bijective, fun block other sameNumber hashed hashed' => ⟨?_, ?_⟩⟩
  · intro sameSeed
    have quarters := congrArg (fun seed => lanes seed.word) sameSeed
    rw [lanes_randomSeed hashed, lanes_randomSeed hashed', sameNumber] at quarters
    have words := List.map_injective_iff.mpr (mixLane_bijective other.number).injective quarters
    exact congrArg Hash.mk (lanes_injective words)
  · intro sameHash
    simp only [randomSeed, sameHash, sameNumber]

end Block

end LedgerEvm
