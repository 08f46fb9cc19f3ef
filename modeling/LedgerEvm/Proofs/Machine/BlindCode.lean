import LedgerEvm.Proofs.Machine.GasBounds
import LedgerEvm.Proofs.Machine.InstructionStarts
import LedgerEvm.Proofs.Machine.StartedFrames
import LedgerEvm.Proofs.Machine.StaticEntries
import LedgerEvm.Proofs.TokenService.SystemContracts

namespace LedgerEvm

/-!
# Code that does not see its gas

Code can look at the gas that is left, and what it hands on to the frames that it starts is
a share of that.  Code that does neither can only run out of gas.  So if it succeeds with some
gas limit it does the same with every greater one, and uses as much.
-/

/-- Whether an instruction looks at the gas that is left or hands on a share of it. -/
def Instruction.seesGas : Instruction → Bool
  | .gas => true
  | .create => true
  | .call => true
  | .callCode => true
  | .delegateCall => true
  | .create2 => true
  | .staticCall => true
  | _ => false

/-! ## More gas -/

/-- Gas that can pay a charge can pay it with more, and has so much more left. -/
theorem Gas.pays_with_more
    {gas cost extra : UInt64}
    (room : gas.toNat + extra.toNat < UInt64.size)
    (pays : ¬ gas < cost) :
    ¬ gas + extra < cost ∧
      gas + extra - cost = gas - cost + extra ∧
      (gas - cost).toNat + extra.toNat < UInt64.size := by
  rw [UInt64.lt_iff_toNat_lt] at pays
  have sum : (gas + extra).toNat = gas.toNat + extra.toNat := UInt64.toNat_add_of_lt room
  have rest : (gas - cost).toNat = gas.toNat - cost.toNat :=
    UInt64.toNat_sub_of_le gas cost (UInt64.le_iff_toNat_le.mpr (Nat.not_lt.mp pays))
  refine ⟨?_, by grind, by omega⟩
  rw [UInt64.lt_iff_toNat_lt]
  omega

/-- The context of a frame that is given so much more gas. -/
def FrameContext.enriched (extra : UInt64) (context : FrameContext) : FrameContext :=
  { context with gasLimit := context.gasLimit + extra }

/-- The frame as it were if it had been given so much more gas. -/
def Frame.enriched (extra : UInt64) (frame : Frame) : Frame :=
  { frame with
    context := frame.context.enriched extra
    gas := frame.gas + extra }

/-- The machine as it were if its frame had been given so much more gas. -/
def Machine.enriched (extra : UInt64) (machine : Machine) : Machine :=
  ⟨machine.frame.enriched extra, machine.simulation⟩

/-- Nothing is recorded, and so much more gas can be counted. -/
structure Machine.HasRoom (extra : UInt64) (machine : Machine) : Prop where
  untraced : machine.simulation.trace = Trace.off
  room : machine.frame.gas.toNat + extra.toNat < UInt64.size

namespace Exec

variable
  {extra : UInt64}
  {α β : Type}

/--
The action does not see how much gas there is: if it succeeds with some gas, it does and answers
the same with more.
-/
def Blind (extra : UInt64) (action : Exec α) : Prop :=
  ∀ (machine after : Machine) (answer : α),
    machine.HasRoom extra →
    action machine = .ok answer after →
    after.HasRoom extra ∧ action (machine.enriched extra) = .ok answer (after.enriched extra)

/-! ## Parts of instructions -/

namespace Blind

theorem pure
    (answer : α) :
    Blind extra (Pure.pure answer : Exec α) := by
  intro machine after answer' room done
  cases done
  exact ⟨room, rfl⟩

/-- What fails in any case is no matter. -/
theorem throw
    (error : VmError) :
    Blind extra (throwThe VmError error : Exec α) := by
  intro machine after answer _ done
  cases done

theorem throw_bind
    (error : VmError)
    (next : α → Exec β) :
    Blind extra (throwThe VmError error >>= next) := by
  intro machine after answer _ done
  cases done

theorem bind
    {action : Exec α}
    {next : α → Exec β}
    (begins : Blind extra action)
    (goesOn : ∀ answer, Blind extra (next answer)) :
    Blind extra (action >>= next) := by
  intro machine after answer room done
  obtain ⟨value, middle, begun, done⟩ := exists_of_run_eq_ok done
  obtain ⟨room, begun⟩ := begins _ _ _ room begun
  obtain ⟨room, done⟩ := goesOn value _ _ _ room done
  exact ⟨room, (bind_eq_of_ok begun).trans done⟩

/-- An action that is only taken under a condition, and then what follows in any case. -/
theorem guarded
    {condition : Prop}
    [Decidable condition]
    {action : Exec α}
    {rest : Exec β}
    (begins : Blind extra action)
    (goesOn : Blind extra rest) :
    Blind extra (if condition then action >>= fun _ => rest else rest) := by
  split
  · exact begins.bind fun _ => goesOn
  · exact goesOn

/-- What is read of the frame and does not depend on its gas. -/
theorem frame_bind
    {next : Frame → Exec α}
    (same : ∀ frame, next (frame.enriched extra) = next frame)
    (goesOn : ∀ frame, Blind extra (next frame)) :
    Blind extra (frame >>= next) := by
  intro machine after answer room done
  obtain ⟨room, done⟩ := goesOn machine.frame _ _ _ room done
  refine ⟨room, ?_⟩
  rw [← same] at done
  exact done

/-- What is read of the context and does not depend on its gas limit. -/
theorem context_bind
    {next : FrameContext → Exec α}
    (same : ∀ context, next (context.enriched extra) = next context)
    (goesOn : ∀ context, Blind extra (next context)) :
    Blind extra (context >>= next) := by
  intro machine after answer room done
  obtain ⟨room, done⟩ := goesOn machine.frame.context _ _ _ room done
  refine ⟨room, ?_⟩
  rw [← same] at done
  exact done

end Blind

theorem blind_updateFrame
    {update : Frame → Frame}
    (keepsGas : ∀ frame, (update frame).gas = frame.gas)
    (same : ∀ frame, update (frame.enriched extra) = (update frame).enriched extra) :
    Blind extra (updateFrame update) := by
  rintro ⟨frame, simulation⟩ after answer ⟨untraced, room⟩ done
  cases done
  refine ⟨⟨untraced, (keepsGas frame).symm ▸ room⟩, ?_⟩
  simp only [updateFrame, Machine.enriched, same]

theorem blind_updateMemory
    (update : Memory → Memory) :
    Blind extra (updateMemory update) :=
  blind_updateFrame (fun _ => rfl) fun _ => rfl

theorem blind_ask
    (question : World → Except StateError α) :
    Blind extra (ask question) := by
  intro machine after answer room done
  unfold ask at done ⊢
  split at done
  · rename_i found
    cases done
    refine ⟨room, ?_⟩
    simp only [Machine.enriched, found]
  · cases done

theorem blind_updateWorld
    (update : World → World) :
    Blind extra (updateWorld update) := by
  rintro ⟨frame, simulation⟩ after answer ⟨untraced, room⟩ done
  cases done
  exact ⟨⟨untraced, room⟩, rfl⟩

/-- Where nothing is recorded, no access is. -/
theorem blind_recordStorage
    (key value : Word) :
    Blind extra (updateTrace fun trace => trace.recordStorage key value) := by
  rintro ⟨frame, ⟨world, trace, steps⟩⟩ after answer ⟨untraced, room⟩ done
  cases done
  cases untraced
  exact ⟨⟨rfl, room⟩, rfl⟩

theorem blind_change
    (update : World → Except VmError (α × World)) :
    Blind extra (onSimulation (SimAction.change update)) := by
  rintro ⟨frame, simulation⟩ after answer ⟨untraced, room⟩ done
  unfold onSimulation SimAction.change at done ⊢
  dsimp only at done
  cases changed : update simulation.world with
  | error error =>
      rw [changed] at done
      cases done
  | ok result =>
      rw [changed] at done
      cases done
      refine ⟨⟨untraced, room⟩, ?_⟩
      simp only [Machine.enriched, changed]

theorem blind_updateStack
    (update : OperandStack → Except VmError OperandStack) :
    Blind extra (updateStack update) := by
  rintro ⟨frame, simulation⟩ after answer ⟨untraced, room⟩ done
  unfold updateStack at done ⊢
  dsimp only at done
  cases updated : update frame.stack with
  | error error =>
      rw [updated] at done
      cases done
  | ok stack =>
      rw [updated] at done
      cases done
      refine ⟨⟨untraced, room⟩, ?_⟩
      simp only [Machine.enriched, Frame.enriched, updated]

theorem blind_push
    (word : Word) :
    Blind extra (push word) :=
  blind_updateStack fun stack => stack.push word

theorem blind_pop :
    Blind extra pop := by
  rintro ⟨frame, simulation⟩ after answer ⟨untraced, room⟩ done
  unfold pop at done ⊢
  dsimp only at done
  cases popped : frame.stack.pop with
  | error error =>
      rw [popped] at done
      cases done
  | ok result =>
      rw [popped] at done
      cases done
      refine ⟨⟨untraced, room⟩, ?_⟩
      simp only [Machine.enriched, Frame.enriched, popped]

theorem blind_popAddress :
    Blind extra popAddress :=
  blind_pop.bind fun _ => .pure _

theorem blind_pop2 :
    Blind extra pop2 :=
  blind_pop.bind fun _ => blind_pop.bind fun _ => .pure _

theorem blind_pop3 :
    Blind extra pop3 :=
  blind_pop.bind fun _ => blind_pop.bind fun _ => blind_pop.bind fun _ => .pure _

theorem blind_popList
    (count : Nat) :
    Blind extra (popList count) := by
  induction count with
  | zero => exact .pure _
  | succ count inductionHypothesis =>
      exact blind_pop.bind fun _ => inductionHypothesis.bind fun _ => .pure _

/-- A charge that can be paid can be paid with more gas. -/
theorem blind_charge
    (cost : UInt64) :
    Blind extra (charge cost) := by
  rintro ⟨frame, simulation⟩ after answer ⟨untraced, room⟩ done
  unfold charge at done ⊢
  dsimp only at done room
  split at done
  · cases done
  · rename_i pays
    cases done
    obtain ⟨pays, rest, room⟩ := Gas.pays_with_more room pays
    refine ⟨⟨untraced, room⟩, ?_⟩
    simp only [Machine.enriched, Frame.enriched, if_neg pays, rest]

theorem blind_memoryOperand
    (word : Word) :
    Blind extra (memoryOperand word) := by
  unfold memoryOperand
  split
  · exact .pure _
  · exact .throw _

theorem blind_neededWords
    (offset size : Nat) :
    Blind extra (neededWords offset size) := by
  intro machine after answer room done
  unfold neededWords at done ⊢
  cases needs : machine.frame.memory.requiredWords offset size with
  | error error =>
      rw [needs] at done
      cases done
  | ok needed =>
      rw [needs] at done
      cases done
      refine ⟨room, ?_⟩
      simp only [Machine.enriched, Frame.enriched, needs]

theorem blind_expand
    (offset size : Word) :
    Blind extra (expand offset size) := by
  unfold expand
  split
  · exact .pure _
  · refine (blind_memoryOperand offset).bind fun offset => ?_
    refine (blind_memoryOperand size).bind fun size => ?_
    refine (blind_neededWords offset size).bind fun ⟨present, needed⟩ => ?_
    refine (blind_charge _).bind fun _ => ?_
    exact (blind_updateMemory _).bind fun _ => .pure _

theorem blind_readMemory
    (offset size : Nat) :
    Blind extra (readMemory offset size) := by
  intro machine after answer room done
  cases done
  exact ⟨room, rfl⟩

theorem blind_copyToMemory
    (destination offset size : Word)
    (source : Bytes) :
    Blind extra (copyToMemory destination offset size source) := by
  refine (blind_expand _ _).bind fun ⟨target, length⟩ => ?_
  exact (blind_charge _).bind fun _ => blind_updateMemory _

theorem blind_jump
    (destination : Word) :
    Blind extra (jump destination) := by
  rintro ⟨frame, simulation⟩ after answer ⟨untraced, room⟩ done
  unfold jump at done ⊢
  dsimp only at done
  split at done
  · rename_i marked
    cases done
    exact ⟨⟨untraced, room⟩, if_pos marked⟩
  · cases done

theorem blind_finish
    (ending : FrameEnding) :
    Blind extra (finish ending) :=
  blind_updateFrame (fun _ => rfl) fun _ => rfl

/-! ## Instructions -/

theorem blind_binary
    (operation : Word → Word → Word) :
    Blind extra (binary operation) :=
  blind_pop2.bind fun _ => blind_push _

theorem blind_relation
    (test : Word → Word → Bool) :
    Blind extra (relation test) :=
  blind_pop2.bind fun _ => blind_push _

theorem blind_pushContext
    {read : FrameContext → Word}
    (same : ∀ context, read (context.enriched extra) = read context) :
    Blind extra (pushContext read) :=
  .context_bind (fun context => congrArg push (same context)) fun _ => blind_push _

theorem blind_hashMemory :
    Blind extra hashMemory := by
  refine blind_pop2.bind fun ⟨offset, size⟩ => ?_
  refine (blind_expand _ _).bind fun ⟨start, length⟩ => ?_
  refine (blind_charge _).bind fun _ => ?_
  exact (blind_readMemory _ _).bind fun _ => blind_push _

theorem blind_inspect
    (rule : AddressRule)
    (address : Address) :
    Blind extra (inspect rule address) := by
  refine (blind_ask _).bind fun verdict => ?_
  cases verdict with
  | systemAccount => exact (blind_charge _).bind fun _ => .pure _
  | invalid => exact .throw _
  | regular =>
      refine Blind.bind ?_ fun _ => .pure _
      refine (blind_ask _).bind fun wasWarm => ?_
      exact (blind_updateWorld _).bind fun _ => blind_charge _

theorem blind_lookUp
    (rule : AddressRule)
    (address : Address)
    (default : α)
    (question : World → Except StateError α) :
    Blind extra (lookUp rule address default question) := by
  refine (blind_inspect rule address).bind fun regular => ?_
  split
  · exact blind_ask question
  · exact .pure _

theorem blind_extCodeCopy
    (rule : AddressRule) :
    Blind extra (extCodeCopy rule) := by
  refine blind_popAddress.bind fun address => ?_
  refine blind_pop3.bind fun ⟨destination, offset, size⟩ => ?_
  exact (blind_lookUp _ _ _ _).bind fun _ => blind_copyToMemory _ _ _ _

theorem blind_returnDataCopy :
    Blind extra returnDataCopy := by
  refine blind_pop3.bind fun ⟨destination, offset, size⟩ => ?_
  refine .frame_bind (fun _ => rfl) fun frame => ?_
  dsimp only
  exact .guarded (.throw _) (blind_copyToMemory _ _ _ _)

theorem blind_memoryLoad :
    Blind extra memoryLoad := by
  refine blind_pop.bind fun offset => ?_
  refine (blind_expand _ _).bind fun ⟨start, _⟩ => ?_
  exact .frame_bind (fun _ => rfl) fun _ => blind_push _

theorem blind_memoryStore :
    Blind extra memoryStore := by
  refine blind_pop2.bind fun ⟨offset, word⟩ => ?_
  exact (blind_expand _ _).bind fun ⟨start, _⟩ => blind_updateMemory _

theorem blind_memoryStoreByte :
    Blind extra memoryStoreByte := by
  refine blind_pop2.bind fun ⟨offset, word⟩ => ?_
  exact (blind_expand _ _).bind fun ⟨start, _⟩ => blind_updateMemory _

theorem blind_memoryCopy :
    Blind extra memoryCopy := by
  refine blind_pop3.bind fun ⟨destination, source, size⟩ => ?_
  refine (blind_expand _ _).bind fun ⟨_, length⟩ => ?_
  refine (blind_charge _).bind fun _ => ?_
  split
  · exact blind_updateMemory _
  · exact .pure _

theorem blind_storageLoad :
    Blind extra storageLoad := by
  refine blind_pop.bind fun key => ?_
  refine .context_bind (fun _ => rfl) fun context => ?_
  refine (blind_ask _).bind fun wasWarm => ?_
  refine (blind_updateWorld _).bind fun _ => ?_
  refine (blind_charge _).bind fun _ => ?_
  refine (blind_ask _).bind fun value => ?_
  exact (blind_recordStorage _ _).bind fun _ => blind_push _

/-- A frame that has enough gas to write storage has so with more. -/
theorem blind_sentry
    {rest : Exec α}
    (goesOn : Blind extra rest) :
    Blind extra (frame >>= fun frame =>
      if frame.gas ≤ Gas.storageSentry then throwThe VmError .outOfGas >>= fun _ : Unit => rest
      else rest) := by
  intro machine after answer room done
  have more : (machine.frame.gas + extra).toNat = machine.frame.gas.toNat + extra.toNat :=
    UInt64.toNat_add_of_lt room.room
  by_cases short : machine.frame.gas ≤ Gas.storageSentry
  · change (if machine.frame.gas ≤ Gas.storageSentry then _ else _ : Exec α) machine = _ at done
    rw [if_pos short] at done
    cases done
  · have enough : ¬ machine.frame.gas + extra ≤ Gas.storageSentry := by
      rw [UInt64.le_iff_toNat_le] at short ⊢
      omega
    change (if machine.frame.gas ≤ Gas.storageSentry then _ else _ : Exec α) machine = _ at done
    rw [if_neg short] at done
    obtain ⟨room, done⟩ := goesOn _ _ _ room done
    refine ⟨room, ?_⟩
    change (if machine.frame.gas + extra ≤ Gas.storageSentry then _ else _ : Exec α) _ = _
    rw [if_neg enough]
    exact done

theorem blind_storageStore :
    Blind extra storageStore := by
  refine blind_sentry ?_
  refine blind_pop2.bind fun ⟨key, value⟩ => ?_
  refine .context_bind (fun _ => rfl) fun context => ?_
  refine (blind_ask _).bind fun initial => ?_
  refine (blind_ask _).bind fun current => ?_
  refine (blind_ask _).bind fun wasWarm => ?_
  refine (blind_updateWorld _).bind fun _ => ?_
  refine (blind_charge _).bind fun _ => ?_
  refine Blind.bind ?_ fun _ => (blind_updateWorld _).bind fun _ => blind_recordStorage _ _
  exact blind_updateFrame (fun _ => rfl) fun _ => rfl

theorem blind_jumpIf :
    Blind extra jumpIf := by
  refine blind_pop2.bind fun ⟨destination, condition⟩ => ?_
  dsimp only
  split
  · exact blind_jump _
  · exact .pure _

theorem blind_pushImmediate
    (size : Nat) :
    Blind extra (pushImmediate size) := by
  refine .frame_bind (fun _ => rfl) fun frame => Blind.bind ?_ fun _ => blind_push _
  exact blind_updateFrame (fun _ => rfl) fun _ => rfl

theorem blind_finishWith
    (ending : FrameEnding) :
    Blind extra (finishWith ending) := by
  refine blind_pop2.bind fun ⟨offset, size⟩ => ?_
  refine (blind_expand _ _).bind fun ⟨start, length⟩ => ?_
  refine (blind_readMemory _ _).bind fun output => Blind.bind ?_ fun _ => blind_finish ending
  exact blind_updateFrame (fun _ => rfl) fun _ => rfl

theorem blind_log
    (prices : PriceSource)
    (count : Nat) :
    Blind extra (log prices count) := by
  refine blind_pop2.bind fun ⟨offset, size⟩ => ?_
  refine (blind_popList count).bind fun topics => ?_
  refine (blind_expand _ _).bind fun ⟨start, length⟩ => ?_
  refine .context_bind (fun _ => rfl) fun context => ?_
  dsimp only
  split
  · refine (blind_charge _).bind fun _ => (blind_readMemory _ _).bind fun data => ?_
    exact blind_updateFrame (fun _ => rfl) fun _ => rfl
  · exact .throw_bind _ _

theorem blind_selfDestruct
    (rule : SelfDestructRule) :
    Blind extra (selfDestruct rule) := by
  refine .context_bind (fun _ => rfl) fun context => ?_
  refine blind_popAddress.bind fun beneficiary => ?_
  refine (blind_ask _).bind fun objection? => ?_
  cases objection? with
  | some reason => exact .throw_bind (.halt reason) _
  | none =>
      refine (blind_ask _).bind fun wasWarm => ?_
      refine (blind_updateWorld _).bind fun _ => ?_
      refine (blind_ask _).bind fun balance => ?_
      refine (blind_ask _).bind fun beneficiaryAccount => ?_
      refine (blind_charge _).bind fun _ => ?_
      refine (blind_change _).bind fun _ => ?_
      refine (blind_ask _).bind fun isCreated => ?_
      exact .guarded (blind_change _) (blind_finish _)

/-- Whatever an instruction does that neither looks at gas nor hands it on is blind. -/
theorem blind_execute
    (environment : Environment)
    (runner : Runner)
    {instruction : Instruction}
    (blind : instruction.seesGas = false) :
    Blind extra (execute environment runner instruction) := by
  have pushed (word : Word) : Blind extra (push word) := blind_push word
  cases instruction with
  | gas | create | call | callCode | delegateCall | create2 | staticCall => cases blind
  | stop => exact blind_finish _
  | pow => exact blind_pop2.bind fun _ => (blind_charge _).bind fun _ => pushed _
  | addMod | mulMod => exact blind_pop3.bind fun _ => pushed _
  | isZero | bitNot | blobHash => exact blind_pop.bind fun _ => pushed _
  | less => exact blind_relation fun left right => decide (left < right)
  | greater => exact blind_relation fun left right => decide (right < left)
  | signedLess => exact blind_relation Word.signedLess
  | signedGreater => exact blind_relation fun left right => Word.signedLess right left
  | equal => exact blind_relation fun left right => left == right
  | keccak => exact blind_hashMemory
  | address | origin | caller | callValue | callDataSize | gasPrice | coinbase | timestamp | number
  | gasLimit | chainId | baseFee => exact blind_pushContext fun _ => rfl
  | balance | extCodeSize | extCodeHash =>
      exact blind_popAddress.bind fun _ => (blind_lookUp _ _ _ _).bind fun _ => pushed _
  | callDataLoad => exact blind_pop.bind fun _ => blind_pushContext fun _ => rfl
  | callDataCopy =>
      refine blind_pop3.bind fun ⟨destination, offset, size⟩ => ?_
      exact .context_bind (fun _ => rfl) fun _ => blind_copyToMemory _ _ _ _
  | codeSize | returnDataSize | position | memorySize =>
      exact .frame_bind (fun _ => rfl) fun _ => pushed _
  | codeCopy =>
      refine blind_pop3.bind fun ⟨destination, offset, size⟩ => ?_
      exact .frame_bind (fun _ => rfl) fun _ => blind_copyToMemory _ _ _ _
  | extCodeCopy => exact blind_extCodeCopy _
  | returnDataCopy => exact blind_returnDataCopy
  | blockHash => exact blind_pop.bind fun _ => .context_bind (fun _ => rfl) fun _ => pushed _
  | prevRandao => exact .context_bind (fun _ => rfl) fun _ => pushed _
  | selfBalance =>
      exact .context_bind (fun _ => rfl) fun _ => (blind_ask _).bind fun _ => pushed _
  | blobBaseFee => exact pushed 0
  | pop => exact blind_pop.bind fun _ => .pure _
  | memoryLoad => exact blind_memoryLoad
  | memoryStore => exact blind_memoryStore
  | memoryStoreByte => exact blind_memoryStoreByte
  | storageLoad => exact blind_storageLoad
  | storageStore => exact blind_storageStore
  | jump => exact blind_pop.bind fun _ => blind_jump _
  | jumpIf => exact blind_jumpIf
  | jumpDest => exact .pure _
  | transientLoad =>
      refine blind_pop.bind fun key => .context_bind (fun _ => rfl) fun context => ?_
      exact (blind_ask _).bind fun _ => pushed _
  | transientStore =>
      refine blind_pop2.bind fun ⟨key, value⟩ => ?_
      exact .context_bind (fun _ => rfl) fun context => blind_updateWorld _
  | memoryCopy => exact blind_memoryCopy
  | push size => exact blind_pushImmediate _
  | dup depth => exact blind_updateStack fun stack => stack.dup depth.val
  | swap depth => exact blind_updateStack fun stack => stack.swap (depth.val + 1)
  | log => exact blind_log _ _
  | output | revert => exact blind_finishWith _
  | invalid => exact .throw _
  | selfDestruct => exact blind_selfDestruct _
  | _ => exact blind_binary _

/-- What starts no frame is done alike by all runners. -/
theorem execute_of_blind
    (environment : Environment)
    (runner runner' : Runner)
    {instruction : Instruction}
    (blind : instruction.seesGas = false) :
    execute environment runner instruction = execute environment runner' instruction := by
  cases instruction with
  | create | call | callCode | delegateCall | create2 | staticCall => cases blind
  | _ => rfl

/-! ## Steps -/

/-- Where nothing is recorded, an instruction is not. -/
theorem blind_recordStep
    (instruction : Instruction) :
    Blind extra (recordStep instruction) := by
  rintro ⟨frame, ⟨world, trace, steps⟩⟩ after answer ⟨untraced, room⟩ done
  cases untraced
  cases done
  exact ⟨⟨rfl, room⟩, rfl⟩

theorem blind_countStep
    (environment : Environment) :
    Blind extra (countStep environment) := by
  rintro ⟨frame, ⟨world, trace, steps⟩⟩ after answer ⟨untraced, room⟩ done
  unfold countStep at done ⊢
  dsimp only at done
  split at done
  · cases done
  · rename_i goesOn
    split at done
    · cases done
    · rename_i inTime
      cases done
      exact ⟨⟨untraced, room⟩, (if_neg goesOn).trans (if_neg inTime)⟩

theorem blind_advance :
    Blind extra advance :=
  blind_updateFrame (fun _ => rfl) fun _ => rfl

theorem blind_fetch
    (environment : Environment) :
    Blind extra (fetch environment) := by
  refine .frame_bind (fun _ => rfl) fun frame => ?_
  dsimp only
  split
  · exact .guarded (.throw _) (.pure _)
  · exact .throw _

/-- Where no place in the trace is to be corrected, none is. -/
theorem amending_none
    (gasBefore : UInt64)
    (action : Exec Unit)
    (machine : Machine) :
    amending none gasBefore action machine = action machine := by
  unfold amending
  cases action machine <;> rfl

/-- A step of a frame that does not see its gas is taken alike with more. -/
theorem enriched_step
    {environment : Environment}
    {runner runner' : Runner}
    {machine after : Machine}
    (room : machine.HasRoom extra)
    (blind :
      ∀ instruction,
        machine.frame.instruction? environment.rules = some instruction →
        instruction.seesGas = false)
    (steps : step environment runner machine = .ok () after) :
    after.HasRoom extra ∧
      step environment runner' (machine.enriched extra) = .ok () (after.enriched extra) := by
  obtain ⟨_, counted, counts, steps⟩ := exists_of_run_eq_ok steps
  obtain ⟨instruction, fetched, fetches, steps⟩ := exists_of_run_eq_ok steps
  obtain ⟨_, _, got, steps⟩ := exists_of_run_eq_ok steps
  obtain ⟨place, recorded, records, steps⟩ := exists_of_run_eq_ok steps
  obtain ⟨_, paid, pays, steps⟩ := exists_of_run_eq_ok steps
  obtain ⟨_, advanced, advances, acts⟩ := exists_of_run_eq_ok steps
  cases got
  have keepsFrame :
      Keeps (fun state : Machine => state.frame = machine.frame) (countStep environment) :=
    keeps_countStep (fun same => same) environment
  have same : counted.frame = machine.frame := keepsFrame.of_ok counts rfl
  obtain ⟨rfl, found⟩ := (reads_fetch environment counted).of_ok fetches rfl
  have blind := blind instruction (same ▸ found)
  obtain ⟨room, counts⟩ := blind_countStep environment _ _ _ room counts
  obtain ⟨room, fetches⟩ := blind_fetch environment _ _ _ room fetches
  have unplaced : place = none := by
    obtain ⟨frame, ⟨world, trace, steps⟩⟩ := fetched
    cases room.untraced
    cases records
    rfl
  subst unplaced
  rw [amending_none] at acts
  obtain ⟨room, records⟩ := blind_recordStep instruction _ _ _ room records
  obtain ⟨room, pays⟩ := blind_charge _ _ _ _ room pays
  obtain ⟨room, advances⟩ := blind_advance _ _ _ room advances
  obtain ⟨room, acts⟩ := blind_execute environment runner blind _ _ _ room acts
  have reads :
      frame (fetched.enriched extra) =
        .ok (fetched.enriched extra).frame (fetched.enriched extra) :=
    rfl
  refine ⟨room, ?_⟩
  rw [step, bind_eq_of_ok counts, bind_eq_of_ok fetches, bind_eq_of_ok reads,
    bind_eq_of_ok records, bind_eq_of_ok pays, bind_eq_of_ok advances, amending_none,
    execute_of_blind environment runner' runner blind]
  exact acts

end Exec

/-! ## Code -/

namespace Program

/-- No instruction of the code sees gas. -/
def IsBlind (code : Bytes) : Prop :=
  ∀ {position : Nat} {byte : UInt8} {instruction : Instruction},
    StartsAt code position →
    code[position]? = some byte →
    Instruction.ofByte? byte = some instruction →
    instruction.seesGas = false

/-- Whether an instruction sees gas behind so many bytes that belong to the one before. -/
def seesGasFrom : Nat → Bytes → Bool
  | _, [] => false
  | 0, byte :: rest =>
      (Instruction.ofByte? byte).any Instruction.seesGas || seesGasFrom (immediateSize byte) rest
  | skip + 1, _ :: rest => seesGasFrom skip rest

/-- What is looked at is what instructions start with. -/
theorem seesGasFrom_eq_false_iff
    (skip : Nat)
    (bytes : Bytes) :
    seesGasFrom skip bytes = false ↔
      ∀ position byte,
        StartsAt (bytes.drop skip) position →
        (bytes.drop skip)[position]? = some byte →
        (Instruction.ofByte? byte).any Instruction.seesGas = false := by
  induction bytes generalizing skip with
  | nil => simp [seesGasFrom]
  | cons byte rest inductionHypothesis =>
      cases skip with
      | succ skip => exact inductionHypothesis skip
      | zero =>
          rw [seesGasFrom, Bool.or_eq_false_iff, inductionHypothesis, List.drop_zero]
          have behind (further : Nat) :
              (byte :: rest)[1 + immediateSize byte + further]? =
                (rest.drop (immediateSize byte))[further]? := by
            rw [List.getElem?_drop, Nat.add_assoc, Nat.add_comm, List.getElem?_cons_succ]
          constructor
          · rintro ⟨here, later⟩ position found starts read
            rcases StartsAt.cons_iff.mp starts with rfl | ⟨further, rfl, startsLater⟩
            · cases read
              exact here
            · exact later further found startsLater (behind further ▸ read)
          · intro all
            refine ⟨all 0 byte .first rfl, fun further found starts read => ?_⟩
            exact all _ found starts.behind ((behind further).trans read)

theorem isBlind_iff
    (code : Bytes) :
    IsBlind code ↔ seesGasFrom 0 code = false := by
  rw [seesGasFrom_eq_false_iff]
  constructor
  · intro blind position byte starts read
    cases found : Instruction.ofByte? byte with
    | none => rfl
    | some instruction => exact blind starts read found
  · intro blind position byte _ starts read found
    have unseen := blind position byte starts read
    rwa [found] at unseen

instance (code : Bytes) : Decidable (IsBlind code) :=
  decidable_of_iff _ (isBlind_iff code).symm

end Program

/-! ## Runs -/

/-- What a frame hands back if so much more gas is left. -/
def Outcome.enriched (extra : UInt64) (outcome : Outcome) : Outcome :=
  { outcome with gas := outcome.gas + extra }

/--
A frame that completes with some gas does so with more, and so much more is left.  What becomes
of failures is no matter.
-/
def Outcome.Grows
    (extra : UInt64)
    (ended ended' : EStateM.Result VmError Simulation Outcome) : Prop :=
  ∀ outcome after,
    ended = .ok outcome after →
    outcome.isSuccess = true →
    outcome.gas.toNat + extra.toNat < UInt64.size ∧
      ended' = .ok (outcome.enriched extra) after

namespace Frame

variable
  {environment : Environment}
  {extra : UInt64}
  {code : Bytes}

/-- A frame that fails does not complete. -/
theorem isSuccess_of_failWith
    {error : VmError}
    {gas : UInt64}
    {simulation after : Simulation}
    {outcome : Outcome}
    (failed : failWith error gas simulation = .ok outcome after) :
    outcome.isSuccess = false := by
  unfold failWith at failed
  split at failed
  · cases failed
  · cases failed
    rfl

/-- A frame that has ended with more gas hands back what it would, and more gas. -/
theorem outcome_enriched
    (frame : Frame) :
    (frame.enriched extra).outcome = frame.outcome.enriched extra := by
  unfold outcome
  change (if frame.ending = some .reverted then _ else _) = _
  split <;> rfl

/-- No instruction that a frame of blind code executes sees gas. -/
theorem seesGas_of_isBlind
    (blind : Program.IsBlind code)
    {frame : Frame}
    (isAtStart : frame.IsAtStart code)
    (runs : frame.isOver = false)
    {rules : Ruleset}
    {instruction : Instruction}
    (found : frame.instruction? rules = some instruction) :
    instruction.seesGas = false := by
  obtain ⟨byte, there, fetched⟩ := exists_byte isAtStart.1 runs
  rw [instruction?, isAtStart.1, fetched] at found
  exact blind isAtStart.2 there (Option.filter_eq_some_iff.mp found).1

/-- Step by step the run with more gas follows the one that completes, within any greater bound. -/
theorem grows_run
    (blind : Program.IsBlind code)
    {fuel fuel' : Nat}
    {frame : Frame}
    {simulation : Simulation}
    (isAtStart : frame.IsAtStart code)
    (room : Machine.HasRoom extra ⟨frame, simulation⟩)
    (enough : fuel ≤ fuel') :
    Outcome.Grows extra (run environment fuel frame simulation)
      (run environment fuel' (frame.enriched extra) simulation) := by
  intro outcome after ran completed
  induction fuel generalizing fuel' frame simulation with
  | zero => cases ran
  | succ fuel inductionHypothesis =>
      obtain ⟨fuel', rfl⟩ : ∃ fewer, fuel' = fewer + 1 := ⟨fuel' - 1, by omega⟩
      rw [run_succ] at ran ⊢
      change _ ∧ (if frame.isOver then _ else _) = _
      cases finished : frame.isOver with
      | true =>
          rw [if_pos finished] at ran
          cases ran
          rw [if_pos rfl, outcome_enriched]
          exact ⟨(gas_outcome frame).symm ▸ room.room, rfl⟩
      | false =>
          rw [if_neg (by rw [finished]; exact Bool.false_ne_true)] at ran
          rw [if_neg Bool.false_ne_true]
          split at ran
          · rename_i middle steps
            have unseen (instruction : Instruction) :=
              @seesGas_of_isBlind _ blind _ isAtStart finished environment.rules instruction
            obtain ⟨room, steps'⟩ :=
              @Exec.enriched_step _ _ _ (environment.runnerWithin fun _ => fuel') _ _ room unseen
                steps
            have stepped := Exec.isAtStart_of_step finished steps isAtStart
            have fewer := Nat.le_of_succ_le_succ enough
            obtain ⟨left, ran⟩ := @inductionHypothesis fuel' _ _ stepped room fewer ran
            refine ⟨left, ?_⟩
            rw [show (⟨frame.enriched extra, simulation⟩ : Machine) =
              Machine.enriched extra ⟨frame, simulation⟩ from rfl, steps']
            exact ran
          · rw [isSuccess_of_failWith ran] at completed
            cases completed

end Frame

/-! ## Answers without code -/

/-- With more gas so much more is left of it when a cost has been paid. -/
theorem Gas.subClamp_of_more
    {gas cost extra : UInt64}
    (pays : cost ≤ gas)
    (room : gas.toNat + extra.toNat < UInt64.size) :
    (gas + extra).subClamp cost = gas.subClamp cost + extra := by
  have more : (gas + extra).toNat = gas.toNat + extra.toNat := UInt64.toNat_add_of_lt room
  have rest : (gas.subClamp cost).toNat = gas.toNat - cost.toNat := UInt64.toNat_subClamp gas cost
  rw [UInt64.le_iff_toNat_le] at pays
  rw [← UInt64.toNat_inj, UInt64.toNat_subClamp, more, UInt64.toNat_add_of_lt (by omega), rest]
  omega

/-- What answers without code and costs no more than there is. -/
theorem Outcome.completed_of_more
    {gas cost extra : UInt64}
    (output : Bytes)
    (pays : cost ≤ gas)
    (room : gas.toNat + extra.toNat < UInt64.size) :
    let outcome := Outcome.completed output (gas.subClamp cost)
    outcome.gas.toNat + extra.toNat < UInt64.size ∧
      Outcome.completed output ((gas + extra).subClamp cost) = outcome.enriched extra := by
  have rest : (gas.subClamp cost).toNat = gas.toNat - cost.toNat := UInt64.toNat_subClamp gas cost
  refine ⟨?_, ?_⟩
  · change (gas.subClamp cost).toNat + extra.toNat < UInt64.size
    omega
  · rw [Gas.subClamp_of_more pays room]
    rfl

/-- A fixed contract that has its gas answers the same with more. -/
theorem FixedContract.execute_of_more
    {contract : FixedContract}
    {input output : Bytes}
    {gasLimit limit cost : UInt64}
    (more : gasLimit ≤ limit)
    (executed : contract.execute input gasLimit = .ok (cost, output)) :
    cost ≤ gasLimit ∧ contract.execute input limit = .ok (cost, output) := by
  unfold execute at executed ⊢
  dsimp only at executed ⊢
  split at executed
  · cases executed
  · rename_i pays
    cases executed
    have pays := UInt64.not_lt.mp pays
    exact ⟨pays, if_neg (UInt64.not_lt.mpr (UInt64.le_trans pays more))⟩

namespace SimAction

variable
  {environment : Environment}
  {extra : UInt64}
  {context : FrameContext}
  {simulation : Simulation}

/-- What has been answered leaves everything as it is. -/
theorem of_ask_eq_ok
    {α : Type}
    {question : World → Except StateError α}
    {answer : α}
    {after : Simulation}
    (asked : ask question simulation = .ok answer after) :
    question simulation.world = .ok answer ∧ after = simulation := by
  unfold ask at asked
  cases found : question simulation.world with
  | error error =>
      rw [found] at asked
      cases asked
  | ok answer =>
      rw [found] at asked
      cases asked
      exact ⟨rfl, rfl⟩

/-- A call that completes without code has been answered, at a cost. -/
theorem exists_of_answered
    {result : Except PrecompileError (UInt64 × Bytes)}
    {gasLimit : UInt64}
    {after : Simulation}
    {outcome : Outcome}
    (ended : answered result gasLimit simulation = .ok outcome after)
    (completed : outcome.isSuccess = true) :
    ∃ cost output,
      result = .ok (cost, output) ∧
        outcome = Outcome.completed output (gasLimit.subClamp cost) ∧ after = simulation := by
  have answers :
      Yields (· = simulation) (answered result gasLimit) fun outcome after =>
        outcome.isSuccess = true →
        ∃ cost output,
          result = .ok (cost, output) ∧
            outcome = Outcome.completed output (gasLimit.subClamp cost) ∧
            after = simulation := by
    unfold answered
    cases result with
    | ok answer => exact Ensures.pure fun _ same _ => ⟨_, _, rfl, rfl, same⟩
    | error error =>
        dsimp only
        split
        · exact Ensures.pure nofun
        · split
          · exact fun _ _ => trivial
          · exact Ensures.pure nofun
  exact answers.of_ok ended rfl completed

/-- With more gas an answer that is the same, and within the gas, leaves so much more. -/
theorem grows_answered
    {result result' : Except PrecompileError (UInt64 × Bytes)}
    {gasLimit : UInt64}
    (room : gasLimit.toNat + extra.toNat < UInt64.size)
    (same :
      ∀ cost output, result = .ok (cost, output) →
        cost ≤ gasLimit ∧ result' = .ok (cost, output)) :
    Outcome.Grows extra (answered result gasLimit simulation)
      (answered result' (gasLimit + extra) simulation) := by
  intro outcome after ended completed
  obtain ⟨cost, output, rfl, rfl, rfl⟩ := exists_of_answered ended completed
  obtain ⟨pays, rfl⟩ := same cost output rfl
  obtain ⟨left, more⟩ := Outcome.completed_of_more output pays room
  refine ⟨left, ?_⟩
  rw [← more]
  rfl

/-- So does an answer of a system contract. -/
theorem grows_answeredBy
    {result result' : Except PrecompileError SystemAnswer}
    {gasLimit : UInt64}
    (room : gasLimit.toNat + extra.toNat < UInt64.size)
    (same :
      ∀ answer, result = .ok answer → answer.gasCost ≤ gasLimit ∧ result' = .ok answer) :
    Outcome.Grows extra (answeredBy result gasLimit simulation)
      (answeredBy result' (gasLimit + extra) simulation) := by
  refine grows_answered room fun cost output found => ?_
  cases result with
  | error error => cases found
  | ok answer =>
      cases found
      obtain ⟨pays, rfl⟩ := same answer rfl
      exact ⟨pays, rfl⟩

/-- So does an action of the token service that answers alike. -/
theorem grows_attempt
    {action action' : TokenAction SystemAnswer}
    {gasLimit : UInt64}
    (room : gasLimit.toNat + extra.toNat < UInt64.size)
    (same :
      ∀ answer world, action simulation.world = .ok answer world →
        answer.gasCost ≤ gasLimit ∧ action' simulation.world = .ok answer world) :
    Outcome.Grows extra
      ((attempt action >>= fun result => answeredBy result gasLimit) simulation)
      ((attempt action' >>= fun result => answeredBy result (gasLimit + extra)) simulation) := by
  intro outcome after ended completed
  obtain ⟨result, middle, attempted, ended⟩ := exists_of_run_eq_ok ended
  cases ran : action simulation.world with
  | error error world =>
      simp only [attempt, ran] at attempted
      cases attempted
      obtain ⟨_, _, found, _⟩ := exists_of_answered ended completed
      cases found
  | ok answer world =>
      simp only [attempt, ran] at attempted
      cases attempted
      obtain ⟨pays, ran'⟩ := same answer world ran
      have attempted' :
          attempt action' simulation = .ok (.ok answer) { simulation with world } := by
        simp only [attempt, ran']
      rw [bind_eq_of_ok attempted']
      refine grows_answeredBy room (fun answer' found => ?_) outcome after ended completed
      cases found
      exact ⟨pays, rfl⟩

/-- Code that is blind is run alike with a greater limit. -/
theorem grows_runner
    {code : Bytes}
    (blind : Program.IsBlind code)
    (untraced : simulation.trace = Trace.off)
    (room : context.gasLimit.toNat + extra.toNat < UInt64.size) :
    Outcome.Grows extra (environment.runner context code simulation)
      (environment.runner (context.enriched extra) code simulation) := by
  refine Frame.grows_run blind (Frame.isAtStart_start _ _ _) ⟨untraced, room⟩ ?_
  have more : (context.gasLimit + extra).toNat = context.gasLimit.toNat + extra.toNat :=
    UInt64.toNat_add_of_lt room
  change context.gasLimit.toNat + 2 ≤ (context.gasLimit + extra).toNat + 2
  omega

/-- So is the code at an address, which completes at once where there is none. -/
theorem grows_runCode
    (blind :
      ∀ code, simulation.world.code context.codeAddress = .ok code → Program.IsBlind code)
    (untraced : simulation.trace = Trace.off)
    (room : context.gasLimit.toNat + extra.toNat < UInt64.size) :
    Outcome.Grows extra (runCode environment.runner context simulation)
      (runCode environment.runner (context.enriched extra) simulation) := by
  intro outcome after ended completed
  obtain ⟨code, _, asked, answers⟩ := exists_of_run_eq_ok ended
  obtain ⟨found, rfl⟩ := of_ask_eq_ok asked
  rw [runCode, show (context.enriched extra).codeAddress = context.codeAddress from rfl,
    bind_eq_of_ok asked]
  by_cases empty : code.isEmpty = true
  · rw [if_pos empty] at answers ⊢
    cases answers
    exact ⟨room, rfl⟩
  · rw [if_neg empty] at answers ⊢
    exact grows_runner (blind code found) untraced room _ _ answers completed

/-- Whatever answers a call answers it alike with a greater limit. -/
theorem grows_runTarget
    (blind :
      ∀ code, simulation.world.code context.codeAddress = .ok code → Program.IsBlind code)
    (untraced : simulation.trace = Trace.off)
    (room : context.gasLimit.toNat + extra.toNat < UInt64.size) :
    Outcome.Grows extra (runTarget environment environment.runner context simulation)
      (runTarget environment environment.runner (context.enriched extra) simulation) := by
  have more : context.gasLimit ≤ context.gasLimit + extra := by
    rw [UInt64.le_iff_toNat_le, UInt64.toNat_add_of_lt room]
    omega
  let call : SystemCall :=
    { sender := context.caller
      timestamp := context.block.timestamp
      gasLimit := context.gasLimit
      isStatic := context.isStatic }
  have sameAddress : (context.enriched extra).codeAddress = context.codeAddress := rfl
  cases contract : FixedContract.at? context.codeAddress with
  | some contract' =>
      simp only [runTarget, sameAddress, contract]
      exact grows_answered room fun cost output executed =>
        FixedContract.execute_of_more more executed
  | none =>
      by_cases service : context.codeAddress = Address.tokenService
      · simp only [runTarget, sameAddress, contract, if_pos service]
        refine grows_attempt room fun answer world answered => ?_
        have promised := (@SystemCall.answersAsPromised_answerService call _ _ _).of_ok answered rfl
        exact ⟨promised.withinGas,
          @SystemCall.answerService_of_more call _ _ _ _ _ more _ answered⟩
      · by_cases rate : context.codeAddress = Address.exchangeRate
        · simp only [runTarget, sameAddress, contract, if_neg service, if_pos rate]
          refine grows_answeredBy room fun answer answered => ?_
          exact ⟨@SystemCall.withinGas_answerExchangeRate call _ _ _ answered,
            @SystemCall.answerExchangeRate_of_more call _ _ _ _ more answered⟩
        · by_cases seed : context.codeAddress = Address.randomSeed
          · simp only [runTarget, sameAddress, contract, if_neg service, if_neg rate, if_pos seed]
            refine grows_answeredBy room fun answer answered => ?_
            exact ⟨@SystemCall.withinGas_answerRandomSeed call _ _ _ _ answered,
              @SystemCall.answerRandomSeed_of_more call _ _ _ _ more _ answered⟩
          · simp only [runTarget, sameAddress, contract, if_neg service, if_neg rate, if_neg seed]
            intro outcome after ended completed
            obtain ⟨isToken, _, asked, ended⟩ := exists_of_run_eq_ok ended
            rw [bind_eq_of_ok asked]
            obtain ⟨_, rfl⟩ := of_ask_eq_ok asked
            cases isToken with
            | true =>
                refine grows_attempt room (fun answer world answered => ?_) _ _ ended completed
                have promised :=
                  (@SystemCall.answersAsPromised_answerToken call _ _ _ _).of_ok answered rfl
                exact ⟨promised.withinGas,
                  @SystemCall.answerToken_of_more call _ _ _ _ _ more _ _ answered⟩
            | false => exact grows_runCode blind untraced room _ _ ended completed

/-! ## First frames -/

/-- Closing the frame of the world makes no difference. -/
theorem grows_closeFrame
    {ended ended' : EStateM.Result VmError Simulation Outcome}
    (grows : Outcome.Grows extra ended ended') :
    Outcome.Grows extra (closeFrame Outcome.isSuccess ended)
      (closeFrame Outcome.isSuccess ended') := by
  intro outcome after closed completed
  obtain ⟨inner, rfl, rfl⟩ := exists_of_closeFrame closed
  obtain ⟨left, rfl⟩ := grows outcome inner rfl completed
  exact ⟨left, rfl⟩

/-- Code that can be paid for can be paid for with more gas. -/
theorem deploy_of_more
    {limits : Limits}
    {address : Address}
    {code : Bytes}
    {gas cost : UInt64}
    {world deployed : World}
    (room : gas.toNat + extra.toNat < UInt64.size)
    (deploys : deploy limits address code gas world = .ok (cost, deployed)) :
    deploy limits address code (gas + extra) world = .ok (cost, deployed) ∧
      gas + extra - cost = gas - cost + extra ∧
      (gas - cost).toNat + extra.toNat < UInt64.size := by
  obtain ⟨small, allowed, rfl, pays, -⟩ := deploy_cases deploys
  have pays := UInt64.not_lt.mpr pays
  obtain ⟨pays', rest, left⟩ := Gas.pays_with_more room pays
  refine ⟨?_, rest, left⟩
  unfold deploy at deploys ⊢
  dsimp only at deploys ⊢
  rw [if_neg (Nat.not_lt.mpr small), if_neg allowed] at deploys ⊢
  rw [if_neg pays] at deploys
  rw [if_neg pays']
  exact deploys

/-- So can what a creation has returned. -/
theorem grows_settle
    {limits : Limits}
    {address : Address}
    {ended ended' : EStateM.Result VmError Simulation Outcome}
    (grows : Outcome.Grows extra ended ended') :
    Outcome.Grows extra ((Awaited.creation address).settle limits ended)
      ((Awaited.creation address).settle limits ended') := by
  intro outcome after settles completed
  obtain ⟨ran, inner, cost, deployed, rfl, success, deploys, rfl, rfl⟩ :=
    exists_of_settle settles completed
  obtain ⟨left, rfl⟩ := grows ran inner rfl success
  obtain ⟨deploys', rest, left⟩ := deploy_of_more left deploys
  refine ⟨left, ?_⟩
  have success' : (ran.enriched extra).isSuccess = true := success
  simp only [Awaited.settle, if_pos success', deployOutput]
  rw [show (ran.enriched extra).output = ran.output from rfl,
    show (ran.enriched extra).gas = ran.gas + extra from rfl, deploys']
  dsimp only
  rw [rest]
  rfl

/-- The value of a call that completes could be moved. -/
theorem exists_of_messageCall
    {outcome : Outcome}
    {after : Simulation}
    (called :
      messageCall environment environment.runner .call context simulation = .ok outcome after)
    (completed : outcome.isSuccess = true) :
    ∃ opened, opened? .call context simulation = some opened := by
  rw [messageCall, framed_eq, if_pos rfl] at called
  obtain ⟨inner, answered, _⟩ := exists_of_closeFrame called
  unfold withTransfer at answered
  unfold opened?
  dsimp only at answered ⊢
  rw [if_pos rfl]
  cases moved :
      simulation.world.push.transfer context.caller context.address context.value with
  | ok world => exact ⟨_, rfl⟩
  | error error =>
      rw [moved] at answered
      dsimp only at answered
      split at answered
      · cases answered
      · cases answered
        cases completed

/-- A call whose target is blind is answered alike with a greater limit. -/
theorem grows_messageCall
    (blind :
      ∀ code, simulation.world.code context.codeAddress = .ok code → Program.IsBlind code)
    (untraced : simulation.trace = Trace.off)
    (room : context.gasLimit.toNat + extra.toNat < UInt64.size) :
    Outcome.Grows extra (messageCall environment environment.runner .call context simulation)
      (messageCall environment environment.runner .call (context.enriched extra) simulation) := by
  intro outcome after called completed
  obtain ⟨opened, opens⟩ := exists_of_messageCall called completed
  have opens' : opened? .call (context.enriched extra) simulation = some opened := opens
  rw [messageCall_of_opened? opens] at called
  rw [messageCall_of_opened? opens']
  obtain ⟨world, rfl, ⟨noCall, _⟩ | ⟨_, moved⟩⟩ := opened?_cases opens
  · exact absurd rfl noCall
  · have same : world.code context.codeAddress = simulation.world.code context.codeAddress := by
      rw [World.code_transfer (World.isOpen_push _) moved]
      simp only [World.code, (World.OnlyWarmed.push simulation.world).get_eq]
    have answers :=
      @grows_runTarget environment extra context { simulation with world }
        (fun code found => blind code (same ▸ found)) untraced room
    exact grows_closeFrame answers _ _ called completed

/-- A contract is founded alike whatever gas its init code is given. -/
theorem found_enriched
    {creator : Address}
    {context' : FrameContext}
    {founded : Simulation}
    (founds : found creator context simulation = .ok context' founded) :
    found creator (context.enriched extra) simulation = .ok (context'.enriched extra) founded := by
  obtain ⟨address, _, draws, founds⟩ := exists_of_run_eq_ok founds
  obtain ⟨_, _, counts, founds⟩ := exists_of_run_eq_ok founds
  obtain ⟨_, _, opens, founds⟩ := exists_of_run_eq_ok founds
  obtain ⟨_, _, puts, founds⟩ := exists_of_run_eq_ok founds
  obtain ⟨_, _, pays, founds⟩ := exists_of_run_eq_ok founds
  cases founds
  rw [found, bind_eq_of_ok draws, bind_eq_of_ok counts, bind_eq_of_ok opens, bind_eq_of_ok puts]
  exact bind_eq_of_ok pays

/-- Blind init code is run alike with a greater limit, and its output can be paid for as well. -/
theorem grows_createContract
    {creator : Address}
    {initCode : Bytes}
    (blind : Program.IsBlind initCode)
    (untraced : simulation.trace = Trace.off)
    (room : context.gasLimit.toNat + extra.toNat < UInt64.size) :
    Outcome.Grows extra
      (createContract environment environment.runner creator context initCode simulation)
      (createContract environment environment.runner creator (context.enriched extra) initCode
        simulation) := by
  intro outcome after created completed
  obtain ⟨context', founded, founds⟩ := exists_of_createContract created completed
  rw [createContract_of_found founds] at created
  rw [createContract_of_found (found_enriched founds)]
  obtain ⟨address, drawn, _, counted, paid, _, _, _, rfl, rfl⟩ := exists_of_found founds
  have runs :=
    @grows_runner environment extra
      { context with caller := creator, address, codeAddress := address }
      { simulation with world := paid } initCode blind untraced room
  exact grows_closeFrame (grows_settle runs) _ _ created completed

end SimAction

/-! ## Transactions -/

namespace Environment

variable
  {environment : Environment}
  {context : FrameContext}
  {isCreation : Bool}
  {world : World}

/-- The code that a transaction begins with does not see its gas. -/
def BeginsBlind (context : FrameContext) (isCreation : Bool) (world : World) : Prop :=
  if isCreation then
    Program.IsBlind context.data
  else
    ∀ code, world.code context.codeAddress = .ok code → Program.IsBlind code

/-- The first frame of a transaction that begins with blind code. -/
theorem grows_firstFrame
    {extra : UInt64}
    (blind : BeginsBlind context isCreation world)
    (room : context.gasLimit.toNat + extra.toNat < UInt64.size) :
    Outcome.Grows extra
      (environment.firstFrame context isCreation { world := warmed context isCreation world })
      (environment.firstFrame (context.enriched extra) isCreation
        { world := warmed context isCreation world }) := by
  unfold BeginsBlind at blind
  cases isCreation with
  | true => exact SimAction.grows_createContract blind rfl room
  | false =>
      have same :
          (warmed context false world).code context.codeAddress =
            world.code context.codeAddress := by
        simp only [World.code, (onlyWarmed_warmed context false world).get_eq]
      exact SimAction.grows_messageCall (fun code found => blind code (same ▸ found)) rfl room

/-- What is used is what is not left. -/
theorem settle_enriched
    {gasLimit extra : UInt64}
    {outcome : Outcome}
    (room : gasLimit.toNat + extra.toNat < UInt64.size)
    (left : outcome.gas.toNat + extra.toNat < UInt64.size) :
    settle (gasLimit + extra) (outcome.enriched extra) = settle gasLimit outcome := by
  have same :
      (gasLimit + extra).subClamp (outcome.enriched extra).gas =
        gasLimit.subClamp outcome.gas := by
    change (gasLimit + extra).subClamp (outcome.gas + extra) = _
    rw [← UInt64.toNat_inj, UInt64.toNat_subClamp, UInt64.toNat_subClamp,
      UInt64.toNat_add_of_lt room, UInt64.toNat_add_of_lt left]
    omega
  unfold settle
  dsimp only
  rw [same]
  rfl

/--
A transaction that begins with blind code and succeeds comes to the very same result with every
greater limit.
-/
theorem transact_of_more
    {result : CallResult}
    {limit : UInt64}
    (blind : BeginsBlind context isCreation world)
    (transacted : environment.transact context isCreation world Trace.off = .ok result)
    (succeeded : result.success = true)
    (more : context.gasLimit ≤ limit) :
    environment.transact { context with gasLimit := limit } isCreation world Trace.off =
      .ok result := by
  obtain ⟨extra, rfl, room⟩ :
      ∃ extra, limit = context.gasLimit + extra ∧
        context.gasLimit.toNat + extra.toNat < UInt64.size := by
    refine ⟨limit - context.gasLimit, by grind, ?_⟩
    rw [UInt64.toNat_sub_of_le _ _ more, ← Nat.add_sub_assoc (UInt64.le_iff_toNat_le.mp more),
      Nat.add_sub_cancel_left]
    exact limit.toNat_lt
  unfold transact at transacted ⊢
  dsimp only at transacted ⊢
  split at transacted
  · cases transacted
    cases succeeded
  · rename_i pays
    obtain ⟨pays', rest, room'⟩ := Gas.pays_with_more room pays
    rw [if_neg pays', rest]
    split at transacted
    · rename_i outcome after runs
      cases transacted
      have completed : outcome.isSuccess = true := (success_settle _ outcome).symm.trans succeeded
      obtain ⟨left, grown⟩ :=
        @grows_firstFrame environment
          { context with
            gasLimit := context.gasLimit - Gas.intrinsic context.data isCreation }
          isCreation world extra blind room' outcome after runs completed
      have runs' :
          environment.firstFrame
              { context with
                gasLimit := context.gasLimit - Gas.intrinsic context.data isCreation + extra }
              isCreation
              { world :=
                  warmed { context with gasLimit := context.gasLimit + extra } isCreation world
                trace := Trace.off } =
            .ok (outcome.enriched extra) after :=
        grown
      rw [runs', ← settle_enriched room left]
    · cases transacted

end Environment

end LedgerEvm
