import LedgerEvm.Proofs.Machine.FrameInvariants
import LedgerEvm.Proofs.Machine.MemoryGrowth
import LedgerEvm.Proofs.Machine.Operands
import LedgerEvm.Proofs.Machine.StartedFrames

namespace LedgerEvm

/-!
# Init code

Where the rules limit init code, an instruction that creates a contract refuses more than the
limit and pays for every word of what it takes, before the frame of the new contract starts.
What it pays is told to the last unit of gas.
-/

namespace Gas

/-- The whole words that so many bytes fill. -/
def words (bytes : Nat) : Nat :=
  (bytes + 31) / 32

/-- As many bytes as operands can ask for are paid for exactly; nothing is clamped. -/
theorem toNat_perWord
    {cost : UInt64}
    {bytes : Nat}
    (cheap : cost.toNat < UInt32.size)
    (few : bytes < UInt32.size) :
    (perWord cost bytes).toNat = cost.toNat * words bytes := by
  have fewWords : words bytes ≤ 2 ^ 27 := by
    unfold words UInt32.size at *
    omega
  have product : cost.toNat * words bytes ≤ UInt32.size * 2 ^ 27 :=
    Nat.mul_le_mul (Nat.le_of_lt cheap) fewWords
  have count : (wordCount bytes).toNat = words bytes := by
    rw [wordCount, UInt64.toNat_ofNatClamp]
    unfold words UInt32.size UInt64.size at *
    omega
  rw [perWord, UInt64.toNat_mulClamp, count]
  unfold UInt32.size UInt64.size at *
  omega

end Gas

namespace Exec

variable
  {environment : Environment}
  {machine after : Machine}

/-! ## Before the frame starts -/

/-- An expansion takes what the words cost that memory has more, for a window of 32 bits. -/
theorem gas_of_expand_eq_ok
    {offset size : Word}
    {window : Nat × Nat}
    (grown : expand offset size machine = .ok window after) :
    machine.frame.gas.toNat =
        after.frame.gas.toNat +
          (Memory.expansionCost machine.frame.memory.words after.frame.memory.words).toNat ∧
      window.2 < UInt32.size := by
  have bytes : window.2 = size.toNat := (window_of_expand grown).2.1
  obtain ⟨granted, -, rfl⟩ := of_expand_eq_ok grown
  rw [words_grownUpTo, bytes]
  rcases of_granted granted with rfl | ⟨-, short, -, paid⟩
  · rw [Window.reach_of_empty, grownUpTo_zero]
    have same : machine.frame.memory.wordsUpTo 0 = machine.frame.memory.words :=
      Nat.max_eq_right (Nat.zero_le _)
    rw [same, Memory.expansionCost, if_pos (Nat.le_refl _)]
    exact ⟨rfl, by decide⟩
  · exact ⟨(UInt64.toNat_sub_add_cancel paid).symm, short⟩

/-- A charge takes exactly what is charged. -/
theorem gas_of_charge_eq_ok
    {gas : UInt64}
    (done : charge gas machine = .ok () after) :
    machine.frame.gas.toNat = after.frame.gas.toNat + gas.toNat ∧
      after.frame.memory = machine.frame.memory := by
  obtain ⟨enough, rfl⟩ := of_charge_eq_ok done
  exact ⟨(UInt64.toNat_sub_add_cancel enough).symm, rfl⟩

/-- Where init code is limited it is within the limit, and its words are paid for. -/
theorem of_chargeInitCode_eq_ok
    {length : Nat}
    (limited : environment.rules.spec.limitsInitCode = true)
    (done : chargeInitCode environment length machine = .ok () after) :
    length ≤ environment.limits.maxInitCodeSize ∧
      charge (Gas.initCode length) machine = .ok () after := by
  unfold chargeInitCode at done
  rw [if_pos limited] at done
  dsimp only at done
  split at done
  · cases done
  · rename_i small
    exact ⟨Nat.not_lt.mp small, done⟩

/-- The salt of a creation is hashed with its init code, which is paid for by the word. -/
def hashCost (salted : Bool) (bytes : Nat) : Nat :=
  if salted then 6 * Gas.words bytes else 0

/-- What has been set aside for the frame of a creation is what the creator's frame lacks. -/
theorem of_launchCreation_eq_ok
    {limits : Limits}
    {value : Word}
    {start length : Nat}
    {launch : CreationLaunch}
    (launches : launchCreation limits value start length machine = .ok (some launch) after) :
    launch.initCode.length = length ∧
      after.frame.memory = machine.frame.memory ∧
      machine.frame.gas.toNat = after.frame.gas.toNat + launch.context.gasLimit.toNat := by
  obtain ⟨starts, checked, checks, launches⟩ := exists_of_run_eq_ok launches
  have same : checked.frame = machine.frame :=
    (@Quiet.canStart (fun checked => checked.frame = machine.frame) limits value true).of_ok
      checks rfl
  cases starts with
  | false => cases launches
  | true =>
      obtain ⟨frame, _, frames, launches⟩ := exists_of_run_eq_ok launches
      cases frames
      obtain ⟨_, paid, charges, launches⟩ := exists_of_run_eq_ok launches
      obtain ⟨enough, rfl⟩ := of_charge_eq_ok charges
      cases launches
      have left := UInt64.toNat_sub_add_cancel enough
      refine ⟨Memory.length_read _ _ _, by rw [same], ?_⟩
      rw [← same]
      exact left.symm

/--
What an instruction that creates a contract does until the frame starts: it takes init code
within the limit, pays for memory, for the words of init code and for the hash, and sets aside
what the new frame gets.
-/
theorem of_prepareCreation_eq_ok
    {salted : Bool}
    {launch : CreationLaunch}
    (limited : environment.rules.spec.limitsInitCode = true)
    (prepares : prepareCreation environment salted machine = .ok (some launch) after) :
    launch.initCode.length ≤ environment.limits.maxInitCodeSize ∧
      machine.frame.gas.toNat =
        after.frame.gas.toNat + launch.context.gasLimit.toNat +
          (Memory.expansionCost machine.frame.memory.words after.frame.memory.words).toNat +
          2 * Gas.words launch.initCode.length + hashCost salted launch.initCode.length := by
  have inits {length : Nat} (few : length < UInt32.size) :
      (Gas.initCode length).toNat = 2 * Gas.words length :=
    Gas.toNat_perWord (by decide) few
  have hashes {length : Nat} (few : length < UInt32.size) :
      (Gas.keccakWords length).toNat = 6 * Gas.words length :=
    Gas.toNat_perWord (by decide) few
  obtain ⟨⟨value, offset, size⟩, taken, pops, prepares⟩ := exists_of_run_eq_ok prepares
  obtain ⟨rest, _, rfl⟩ := of_pop3_eq_ok pops
  cases salted with
  | false =>
      obtain ⟨⟨start, length⟩, grown, grows, prepares⟩ := exists_of_run_eq_ok prepares
      obtain ⟨memory, few⟩ := gas_of_expand_eq_ok grows
      obtain ⟨_, charged, charges, prepares⟩ := exists_of_run_eq_ok prepares
      obtain ⟨small, charges⟩ := of_chargeInitCode_eq_ok limited charges
      obtain ⟨words, same⟩ := gas_of_charge_eq_ok charges
      obtain ⟨_, _, cleared, launches⟩ := exists_of_run_eq_ok prepares
      cases cleared
      obtain ⟨rfl, same', left⟩ := of_launchCreation_eq_ok launches
      rw [inits few] at words
      rw [← same, ← same'] at memory
      refine ⟨small, ?_⟩
      dsimp only [hashCost] at memory words left ⊢
      rw [if_neg Bool.false_ne_true]
      omega
  | true =>
      obtain ⟨salt, salted, pops, prepares⟩ := exists_of_run_eq_ok prepares
      obtain ⟨rest', _, rfl⟩ := of_pop_eq_ok pops
      obtain ⟨⟨start, length⟩, grown, grows, prepares⟩ := exists_of_run_eq_ok prepares
      obtain ⟨memory, few⟩ := gas_of_expand_eq_ok grows
      obtain ⟨_, charged, charges, prepares⟩ := exists_of_run_eq_ok prepares
      obtain ⟨small, charges⟩ := of_chargeInitCode_eq_ok limited charges
      obtain ⟨words, same⟩ := gas_of_charge_eq_ok charges
      obtain ⟨_, hashed, charges, prepares⟩ := exists_of_run_eq_ok prepares
      obtain ⟨hash, same'⟩ := gas_of_charge_eq_ok charges
      obtain ⟨_, _, cleared, launches⟩ := exists_of_run_eq_ok prepares
      cases cleared
      obtain ⟨rfl, same'', left⟩ := of_launchCreation_eq_ok launches
      rw [inits few] at words
      rw [hashes few] at hash
      rw [← same, ← same', ← same''] at memory
      refine ⟨small, ?_⟩
      dsimp only [hashCost] at memory words hash left ⊢
      rw [if_pos rfl]
      omega

/-- Before an instruction acts its static cost is paid. -/
theorem gas_of_begin_eq_ok
    {instruction : Instruction}
    {place : Option Nat}
    {gasBefore : UInt64}
    (begun : begin environment machine = .ok (instruction, place, gasBefore) after) :
    machine.frame.gas.toNat = after.frame.gas.toNat + instruction.staticCost.toNat := by
  let same (reached : Machine) : Prop := reached.frame = machine.frame
  obtain ⟨_, counted, counts, begun⟩ := exists_of_run_eq_ok begun
  have begins : same counted := (keeps_countStep id environment).of_ok counts rfl
  obtain ⟨fetched, ready, fetches, begun⟩ := exists_of_run_eq_ok begun
  have begins : same ready := (keeps_fetch environment).of_ok fetches begins
  obtain ⟨frame, _, frames, begun⟩ := exists_of_run_eq_ok begun
  cases frames
  obtain ⟨_, recorded, records, begun⟩ := exists_of_run_eq_ok begun
  have begins : same recorded := by
    cases records
    exact begins
  obtain ⟨_, paid, charges, begun⟩ := exists_of_run_eq_ok begun
  have pays := (gas_of_charge_eq_ok charges).1
  cases begun
  rwa [show recorded.frame = machine.frame from begins] at pays

/-- What a step pays that creates a contract, from before the step to the start of the frame. -/
theorem of_creation_launch?
    {launch : FrameLaunch}
    {address : Address}
    (limited : environment.rules.spec.limitsInitCode = true)
    (found : launch? environment machine = some launch)
    (creates : launch.waiting.awaited = .creation address) :
    ∃ salted,
      machine.frame.instruction? environment.rules =
          some (if salted then .create2 else .create) ∧
        launch.code.length ≤ environment.limits.maxInitCodeSize ∧
        machine.frame.gas.toNat =
          launch.waiting.frame.gas.toNat + launch.context.gasLimit.toNat + 32000 +
            (Memory.expansionCost machine.frame.memory.words
              launch.waiting.frame.memory.words).toNat +
            2 * Gas.words launch.code.length + hashCost salted launch.code.length := by
  obtain ⟨instruction, place, gasBefore, ready, begun, found⟩ := exists_of_launch? found
  obtain ⟨fetched, frame, -⟩ := (yields_begin environment machine).of_ok begun rfl
  have static := gas_of_begin_eq_ok begun
  have created
      {salted : Bool}
      (price : instruction.staticCost.toNat = 32000)
      (found : creationLaunch? environment salted place gasBefore ready = some launch) :
      launch.code.length ≤ environment.limits.maxInitCodeSize ∧
        machine.frame.gas.toNat =
          launch.waiting.frame.gas.toNat + launch.context.gasLimit.toNat + 32000 +
            (Memory.expansionCost machine.frame.memory.words
              launch.waiting.frame.memory.words).toNat +
            2 * Gas.words launch.code.length + hashCost salted launch.code.length := by
    obtain ⟨prepared, paid, context, founded, prepares, founds, rfl⟩ :=
      exists_of_creationLaunch? found
    obtain ⟨small, pays⟩ := of_prepareCreation_eq_ok limited prepares
    obtain ⟨_, same⟩ := SimAction.context_of_found founds
    refine ⟨small, ?_⟩
    have memory : ready.frame.memory = machine.frame.memory := by rw [frame]
    rw [memory] at pays
    rw [same]
    dsimp only
    omega
  cases instruction with
  | call | callCode | delegateCall | staticCall =>
      obtain ⟨prepared, paid, code, opened, _, _, rfl⟩ := exists_of_callLaunch? found
      cases creates
  | create => exact ⟨false, fetched, created rfl found⟩
  | create2 => exact ⟨true, fetched, created rfl found⟩
  | _ => cases found

end Exec

/-! ## Runs -/

namespace CallStack

variable
  {environment : Environment}
  {context : FrameContext}
  {world : World}
  {trace : Trace}
  {start : CallStack}

/-- The first frame of a transaction begins with all its gas, whether it runs code or init code. -/
theorem Begins.exists_first
    (begins : start.Begins environment context world trace) :
    ∃ first : Machine, start = ⟨.running first, []⟩ ∧ first.frame.gas = context.gasLimit := by
  cases begins with
  | call launches => exact ⟨_, rfl, rfl⟩
  | creation founds =>
      obtain ⟨_, rfl⟩ := SimAction.context_of_found founds
      exact ⟨_, rfl, rfl⟩

/--
Where the rules limit init code, whatever frame of a run was started by an instruction that
creates a contract has init code within the limit, and the instruction has paid for its words:
from before its step to the start of the frame, the gas of the creating frame drops by what the
new frame gets, by the static cost, by the cost of memory, by two for each word of init code, and
by six for each word of it that is hashed with a salt.  A transaction is not charged for words of
its own: whatever the rules, and whether it calls or creates, its first frame begins with all its
gas.
-/
theorem init_code_is_limited_and_paid
    (begins : start.Begins environment context world trace) :
    (environment.rules.spec.limitsInitCode = true →
        ∀ {machine : Machine} {below : WaitingFrame} {waiting : List WaitingFrame}
            {address : Address} {count : Nat},
          Leads (Moves environment) count start ⟨.running machine, below :: waiting⟩ →
          below.awaited = .creation address →
          machine.frame.program.size ≤ environment.limits.maxInitCodeSize ∧
            ∃ count starter launch salted,
              Leads (Moves environment) count start ⟨.running starter, waiting⟩ ∧
                Exec.launch? environment starter = some launch ∧
                launch.waiting = below ∧
                launch.IsServedBy machine.frame ∧
                starter.frame.instruction? environment.rules =
                  some (if salted then .create2 else .create) ∧
                starter.frame.gas.toNat =
                  below.frame.gas.toNat + machine.frame.context.gasLimit.toNat + 32000 +
                    (Memory.expansionCost starter.frame.memory.words
                      below.frame.memory.words).toNat +
                    2 * Gas.words machine.frame.program.size +
                    Exec.hashCost salted machine.frame.program.size) ∧
      ∃ first : Machine,
        start = ⟨.running first, []⟩ ∧
          first.frame.gas = context.gasLimit ∧
          ∀ isCreation,
            first.frame.gas = context.gasLimit - Gas.intrinsic context.data isCreation := by
  obtain ⟨first, shape, gas⟩ := begins.exists_first
  have free (isCreation : Bool) :
      first.frame.gas = context.gasLimit - Gas.intrinsic context.data isCreation :=
    gas.trans (UInt64.sub_zero _).symm
  refine ⟨?_, first, shape, gas, free⟩
  intro limited machine below waiting address count leads creates
  have descends : Descends environment start machine.frame (below :: waiting) :=
    hasDescent_of_leads shape leads
  cases descends with
  | @started starter launch _ frame _ reached runs found serves descends =>
      have size : machine.frame.program.size = launch.code.length := by
        rw [serves.2]
        exact List.size_toArray
      obtain ⟨salted, instructed, small, pays⟩ :=
        Exec.of_creation_launch? limited found creates
      rw [size, serves.1]
      exact ⟨small, _, starter, launch, salted, reached, found, rfl, serves, instructed, pays⟩

/--
A contract that is called with all the gas of a transaction creates another one from 33 bytes of
init code, which are two words.
-/
theorem contract_pays_for_two_words :
    let environment : Environment :=
      { rules := ⟨⟨0, 50, 0⟩, .cancun, ⟨true, true⟩, ⟨true, true⟩⟩
        prices := ⟨.empty, .empty, fun _ _ => 1⟩ }
    let creator :=
      Account.newContract (Address.ofNum 1001) [0x60, 0x21, 0x60, 0x00, 0x60, 0x00, 0xf0]
    let contents : Snapshot.Contents :=
      { accounts := Table.ofList [(creator.address, creator)] }
    let world := World.ofSnapshot (.ofContents contents) true ⟨0⟩ 5000
    let context :=
      FrameContext.ofTransaction (Address.ofNum 1003) creator.address 0 [] 100000 1 { }
    environment.rules.spec.limitsInitCode = true ∧
      ∃ start count machine below waiting,
        start.Begins environment context world Trace.off ∧
          Leads (Moves environment) count start ⟨.running machine, below :: waiting⟩ ∧
          below.awaited = .creation (Address.ofNum 5000) ∧
          machine.frame.program.size = 33 ∧
          machine.frame.program.size ≤ environment.limits.maxInitCodeSize ∧
          (∃ (starter : Machine) (salted : Bool),
            starter.frame.gas.toNat =
              below.frame.gas.toNat + machine.frame.context.gasLimit.toNat + 32000 +
                (Memory.expansionCost starter.frame.memory.words
                  below.frame.memory.words).toNat +
                2 * 2 + Exec.hashCost salted 33) ∧
          ∃ first : Machine, start = ⟨.running first, []⟩ ∧ first.frame.gas = 100000 := by
  intro environment creator contents world context
  obtain ⟨start, count, machine, waiting, begins, leads, checked⟩ :=
    @exists_running_of_advance environment context world
      (fun machine waiting =>
        decide
          (waiting.map WaitingFrame.awaited = [.creation (Address.ofNum 5000)] ∧
            machine.frame.program.size = 33))
      4 (by decide +kernel)
  obtain ⟨alone, size⟩ := of_decide_eq_true checked
  obtain ⟨below, rfl, creates⟩ := List.map_eq_singleton_iff.mp alone
  obtain ⟨nested, first, shape, gas, _⟩ := init_code_is_limited_and_paid begins
  obtain ⟨small, _, starter, _, salted, _, _, _, _, _, pays⟩ := nested rfl leads creates
  rw [size] at pays
  exact ⟨rfl, start, count, machine, below, [], begins, leads, creates, size, small,
    ⟨starter, salted, pays⟩, first, shape, gas⟩

/--
Under rules that limit init code a transaction creates a contract from one byte of init code,
which is within the limit.  Its frame runs, and nothing has been paid for the word.
-/
theorem deployment_pays_for_no_word :
    let environment : Environment :=
      { rules := ⟨⟨0, 50, 0⟩, .cancun, ⟨true, true⟩, ⟨true, true⟩⟩
        prices := ⟨.empty, .empty, fun _ _ => 1⟩ }
    let sender : Account := { address := Address.ofNum 1001, balance := 1 }
    let contents : Snapshot.Contents := { accounts := Table.ofList [(sender.address, sender)] }
    let world := World.ofSnapshot (.ofContents contents) true ⟨0⟩ 5000
    let context :=
      FrameContext.ofTransaction sender.address Address.zero 0 [0x00] 100000 1 { }
    environment.rules.spec.limitsInitCode = true ∧
      context.data.length ≤ environment.limits.maxInitCodeSize ∧
      Gas.initCode context.data.length = 2 ∧
      (environment.transact context true world Trace.off).map
          (fun result => (result.success, result.created, result.gasUsed)) =
        .ok (true, some (Address.ofNum 5000), 0) := by
  decide +kernel

end CallStack

end LedgerEvm
