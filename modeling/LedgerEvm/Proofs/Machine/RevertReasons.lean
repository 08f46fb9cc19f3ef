import LedgerEvm.Machine.Call
import LedgerEvm.Proofs.Abi.RoundTrip

namespace LedgerEvm

/-!
# Reasons of reverted calls

A system contract that refuses a call with a text leaves a call of `Error(string)` as the
output of its frame.  The text is read back from it unchanged.  Output that a program leaves
may hold anything: the reader takes no slice that reaches past its end, and a text that it
finds is a part of it.
-/

/--
The text that reverted output carries, read in slices.  A slice that reaches past the end of
the data leaves no answer at all; only the last one may be asked for in vain.
-/
def revertTextBySlices? (data : Bytes) : Option (Option String) := do
  if data.length < 68 then
    return none
  let selector ← data.window? 0 4
  if selector ≠ revertSelector.toBytes then
    return none
  let length := Bytes.toNat (← data.window? 36 32)
  if data.length < length then
    return none
  return (data.window? 68 length).bind Bytes.toString?

namespace Bytes

/-- Whether a text stands in the data behind so many bytes. -/
def HoldsTextAt (data : Bytes) (offset : Nat) (text : String) : Prop :=
  ∃ before after : Bytes, before.length = offset ∧ data = before ++ ofString text ++ after

variable {data content : Bytes} {offset size : Nat}

/-- A window that lies inside the data is a part of it. -/
theorem eq_append_of_window?_eq_some
    (inside : data.window? offset size = some content) :
    ∃ before after, before.length = offset ∧ data = before ++ content ++ after := by
  unfold window? at inside
  split at inside
  · rename_i within
    obtain rfl := Option.some.inj inside
    refine ⟨data.take offset, (data.drop offset).drop size, ?_, ?_⟩
    · rw [List.length_take, Nat.min_eq_left (by omega)]
    · rw [List.append_assoc, List.take_append_drop, List.take_append_drop]
  · cases inside

theorem toNat_toBytes
    (word : Word) :
    toNat word.toBytes = word.toNat :=
  toNat_ofNat_of_lt word.isLt

end Bytes

/-! ## Reading -/

/-- Every slice lies inside the data, and comparing the lengths first changes no answer. -/
theorem revertTextBySlices?_eq
    (data : Bytes) :
    revertTextBySlices? data = some (revertText? data) := by
  unfold revertTextBySlices? revertText?
  by_cases short : data.length < 68
  · rw [if_pos short, if_pos short]
    rfl
  · have selector : data.window? 0 4 = some (data.take Selector.size) :=
      Bytes.window?_eq_some (by omega)
    have length : data.window? 36 32 = some ((data.drop 36).take 32) :=
      Bytes.window?_eq_some (by omega)
    simp only [if_neg short, selector, length, Option.bind_eq_bind, Option.bind_some]
    by_cases other : data.take Selector.size ≠ revertSelector.toBytes
    · rw [if_pos other, if_pos other]
      rfl
    · rw [if_neg other, if_neg other]
      by_cases long : data.length < Bytes.toNat ((data.drop 36).take 32)
      · rw [Bytes.window?_eq_none (by omega)]
        simp [long]
      · simp [long]

/-- A text that is read stands in the data behind selector, offset and length. -/
theorem holdsTextAt_of_revertText?_eq_some
    {data : Bytes}
    {text : String}
    (read : revertText? data = some text) :
    data.HoldsTextAt 68 text := by
  unfold revertText? at read
  split at read
  · cases read
  · split at read
    · cases read
    · obtain ⟨content, inside, decoded⟩ := Option.bind_eq_some_iff.mp read
      rw [Bytes.HoldsTextAt, Bytes.ofString_of_toString?_eq_some decoded]
      exact Bytes.eq_append_of_window?_eq_some inside

/-! ## Writing -/

/-- The selector is the one of the signature. -/
theorem revertSelector_eq_ofSignature :
    revertSelector = Selector.ofSignature "Error(string)" := by
  decide +kernel

/-- Of what stands between selector and length nothing is read. -/
theorem revertText?_of_layout
    {passedOver : Bytes}
    {length : Word}
    {text : String}
    (word : passedOver.length = 32)
    (counted : length.toNat = (Bytes.ofString text).length)
    (rest : Bytes) :
    revertText?
        (revertSelector.toBytes ++ (passedOver ++ (length.toBytes ++
          (Bytes.ofString text ++ rest)))) =
      some text := by
  have four : revertSelector.toBytes.length = 4 := revertSelector.length_toBytes
  have thirtyTwo : length.toBytes.length = 32 := length.length_toBytes
  generalize layout : revertSelector.toBytes ++ (passedOver ++ (length.toBytes ++
    (Bytes.ofString text ++ rest))) = data
  have long : 68 ≤ data.length := by
    simp only [← layout, List.length_append]
    omega
  have selector : data.take Selector.size = revertSelector.toBytes := by
    rw [← layout, List.take_left' revertSelector.length_toBytes]
  have behindSelector : data.drop 4 =
      passedOver ++ (length.toBytes ++ (Bytes.ofString text ++ rest)) := by
    rw [← layout, List.drop_left' four]
  have behindPassedOver : data.drop (4 + 32) =
      length.toBytes ++ (Bytes.ofString text ++ rest) := by
    rw [← List.drop_drop, behindSelector, List.drop_left' word]
  have behindLength : data.drop (4 + 32 + 32) = Bytes.ofString text ++ rest := by
    rw [← List.drop_drop, behindPassedOver, List.drop_left' thirtyTwo]
  have content := Bytes.window?_of_drop_eq long behindLength
  unfold revertText?
  rw [if_neg (Nat.not_lt.mpr long), if_neg (not_not_intro selector)]
  dsimp only
  rw [behindPassedOver, List.take_left' thirtyTwo, Bytes.toNat_toBytes, counted, content,
    Option.bind_some, Bytes.toString?_ofString]

namespace SimAction

theorem revertOutput_eq
    (reason : String) :
    revertOutput reason =
      revertSelector.toBytes ++ ((AbiPart.sizeWord 32).toBytes ++
        AbiValue.counted (Bytes.ofString reason)) := by
  simp only [revertOutput, AbiValue.encodeCall, AbiValue.encode, AbiValue.parts_eq_map,
    List.map_cons, List.map_nil, AbiValue.part, AbiPart.assemble, AbiPart.heads, AbiPart.tails,
    AbiPart.wordSize, List.length_singleton, Nat.mul_one, List.append_nil]

/-- The text of a refusal is read back from the output that it leaves. -/
theorem revertText?_revertOutput
    {reason : String}
    (short : (Bytes.ofString reason).length < 2 ^ 256) :
    revertText? (revertOutput reason) = some reason := by
  have counted : (AbiPart.sizeWord (Bytes.ofString reason).length).toNat =
      (Bytes.ofString reason).length := by
    rw [AbiPart.sizeWord, BitVec.toNat_ofNat, Nat.mod_eq_of_lt short]
  rw [revertOutput_eq, AbiValue.counted, List.append_assoc]
  exact revertText?_of_layout (Word.length_toBytes _) counted _

/-- A frame reverts with the text of the refusal and keeps its gas. -/
theorem answered_of_ofPrecompile_eq_revert
    {error : PrecompileError}
    {reason : String}
    (refused : VmError.ofPrecompile error = .revert reason)
    (gasLimit : UInt64) :
    answered (.error error) gasLimit =
      pure (Outcome.reverted (revertOutput reason) gasLimit) := by
  simp only [answered, refused]

end SimAction

/-- What is promised of the texts by which calls are refused. -/
structure RevertReasonsSurvive : Prop where
  /-- A call that a system contract refuses with a text reverts, and leaves the text behind. -/
  payload :
    ∀ (error : PrecompileError) (reason : String) (gasLimit : UInt64) (simulation : Simulation),
      VmError.ofPrecompile error = .revert reason →
        SimAction.answered (.error error) gasLimit simulation =
          .ok
            (Outcome.reverted
              (AbiValue.encodeCall (Selector.ofSignature "Error(string)") [.string reason])
              gasLimit)
            simulation
  /-- What a text is left behind as is read as that text. -/
  readBack :
    ∀ reason : String,
      (Bytes.ofString reason).length < 2 ^ 32 →
        revertText?
            (AbiValue.encodeCall (Selector.ofSignature "Error(string)") [.string reason]) =
          some reason
  /-- No slice of any data reaches past its end. -/
  inBounds : ∀ data : Bytes, revertTextBySlices? data = some (revertText? data)
  /-- A text that is read from any data is a part of it. -/
  inside :
    ∀ (data : Bytes) (text : String), revertText? data = some text → data.HoldsTextAt 68 text

/-- Reasons of reverted calls are read back, and reading them stays inside the data. -/
theorem revert_reasons_survive : RevertReasonsSurvive where
  payload error reason gasLimit simulation refused := by
    rw [SimAction.answered_of_ofPrecompile_eq_revert refused gasLimit, SimAction.revertOutput,
      revertSelector_eq_ofSignature]
    rfl
  readBack reason short := by
    have bound : (2 : Nat) ^ 32 ≤ 2 ^ 256 := by decide
    rw [← revertSelector_eq_ofSignature]
    exact SimAction.revertText?_revertOutput (Nat.lt_of_lt_of_le short bound)
  inBounds := revertTextBySlices?_eq
  inside _ _ := holdsTextAt_of_revertText?_eq_some

end LedgerEvm
