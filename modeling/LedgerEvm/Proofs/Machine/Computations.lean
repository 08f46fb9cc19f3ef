import LedgerEvm.Proofs.Machine.FrameInvariants
import LedgerEvm.Proofs.Machine.MemoryGrowth
import LedgerEvm.Proofs.WordArithmetic

namespace LedgerEvm

/-!
# Instructions that compute

An instruction that computes takes its operands, pays and leaves its result.  What a step
of a frame does at such an instruction follows from the operation on words: the result is in
the place of the operands, and the gas is less by the cost or does not suffice.
-/

/--
What a step that computes makes of a machine: the result is on top of the words that are no
operands, the cost has been paid, and the frame goes on at the next byte.
-/
structure Machine.HasComputed
    (result : Word)
    (rest : List Word)
    (cost : Nat)
    (before after : Machine) : Prop where
  words : after.frame.stack.words = result :: rest
  gas : after.frame.gas.toNat + cost = before.frame.gas.toNat
  others :
    after.frame =
      { before.frame with
        stack := after.frame.stack
        gas := after.frame.gas
        position := before.frame.position + 1 }
  world : after.simulation.world = before.simulation.world

/--
The frame of a machine is at the instruction, finds the operands on top of its stack, and is
not cut off before its next step.
-/
structure Machine.Faces
    (environment : Environment)
    (instruction : Instruction)
    (operands rest : List Word)
    (machine : Machine) : Prop where
  here : machine.frame.instruction? environment.rules = some instruction
  words : machine.frame.stack.words = operands ++ rest
  counts : ∃ counted, Exec.countStep environment machine = .ok () counted

namespace Exec

/--
A step at the instruction turns the operands into the result at this cost in all, and fails for
want of gas if there is less.
-/
def Computes
    (environment : Environment)
    (instruction : Instruction)
    (operands : List Word)
    (result : Word)
    (cost : Nat) : Prop :=
  ∀ (runner : Runner) {machine : Machine} {rest : List Word},
    machine.Faces environment instruction operands rest →
    (cost ≤ machine.frame.gas.toNat →
      ∃ after,
        step environment runner machine = .ok () after ∧
          Machine.HasComputed result rest cost machine after) ∧
    (machine.frame.gas.toNat < cost →
      ∃ after, step environment runner machine = .error .outOfGas after)

variable
  {environment : Environment}
  {instruction : Instruction}
  {machine : Machine}
  {first second third : Word}
  {operands rest : List Word}

/-! ## Operands and results -/

theorem pop_eq_ok
    (words : machine.frame.stack.words = first :: rest) :
    ∃ stack : OperandStack,
      stack.words = rest ∧
        pop machine = .ok first ⟨{ machine.frame with stack }, machine.simulation⟩ := by
  obtain ⟨frame, simulation⟩ := machine
  obtain ⟨context, program, position, ⟨taken, bound⟩, memory⟩ := frame
  obtain rfl : taken = first :: rest := words
  exact ⟨⟨rest, Nat.le_of_succ_le bound⟩, rfl, rfl⟩

theorem pop2_eq_ok
    (words : machine.frame.stack.words = first :: second :: rest) :
    ∃ stack : OperandStack,
      stack.words = rest ∧
        pop2 machine =
          .ok (first, second) ⟨{ machine.frame with stack }, machine.simulation⟩ := by
  obtain ⟨stack, left, pops⟩ := pop_eq_ok words
  obtain ⟨stack', left', pops'⟩ :=
    @pop_eq_ok ⟨{ machine.frame with stack }, machine.simulation⟩ _ _ left
  refine ⟨stack', left', ?_⟩
  rw [pop2, bind_eq_of_ok pops, bind_eq_of_ok pops']
  rfl

theorem pop3_eq_ok
    (words : machine.frame.stack.words = first :: second :: third :: rest) :
    ∃ stack : OperandStack,
      stack.words = rest ∧
        pop3 machine =
          .ok (first, second, third) ⟨{ machine.frame with stack }, machine.simulation⟩ := by
  obtain ⟨stack, left, pops⟩ := pop_eq_ok words
  obtain ⟨stack', left', pops'⟩ :=
    @pop_eq_ok ⟨{ machine.frame with stack }, machine.simulation⟩ _ _ left
  obtain ⟨stack'', left'', pops''⟩ :=
    @pop_eq_ok ⟨{ machine.frame with stack := stack' }, machine.simulation⟩ _ _ left'
  refine ⟨stack'', left'', ?_⟩
  rw [pop3, bind_eq_of_ok pops, bind_eq_of_ok pops', bind_eq_of_ok pops'']
  rfl

/-- A word fits on a stack from which one has been taken. -/
theorem push_eq_ok
    (word : Word)
    (words : machine.frame.stack.words = rest)
    (room : rest.length < OperandStack.capacity) :
    ∃ stack : OperandStack,
      stack.words = word :: rest ∧
        push word machine = .ok () ⟨{ machine.frame with stack }, machine.simulation⟩ := by
  subst words
  obtain ⟨frame, simulation⟩ := machine
  have pushes :
      frame.stack.push word = .ok ⟨word :: frame.stack.words, Nat.succ_le_of_lt room⟩ :=
    dif_pos room
  refine ⟨⟨word :: frame.stack.words, Nat.succ_le_of_lt room⟩, rfl, ?_⟩
  simp only [push, pushes]

/-- The words that are left when some have been taken leave room for one. -/
theorem length_lt_capacity
    (words : machine.frame.stack.words = first :: operands ++ rest) :
    rest.length < OperandStack.capacity := by
  have bound := machine.frame.stack.length_le
  rw [words, List.cons_append, List.length_cons, List.length_append] at bound
  exact Nat.lt_of_lt_of_le (Nat.lt_succ_of_le (Nat.le_add_left _ _)) bound

/-- An action that leaves a word does so after taking its operands. -/
theorem leaves_of_takes
    {α : Type}
    {take : Exec α}
    {taken : α}
    {next : α → Exec Unit}
    (word : Word)
    (takes :
      ∃ stack : OperandStack,
        stack.words = rest ∧
          take machine = .ok taken ⟨{ machine.frame with stack }, machine.simulation⟩)
    (room : rest.length < OperandStack.capacity)
    (leaves : next taken = push word) :
    ∃ stack : OperandStack,
      stack.words = word :: rest ∧
        (take >>= next) machine = .ok () ⟨{ machine.frame with stack }, machine.simulation⟩ := by
  obtain ⟨stack, left, takes⟩ := takes
  obtain ⟨stack', words, pushes⟩ :=
    @push_eq_ok ⟨{ machine.frame with stack }, machine.simulation⟩ _ word left room
  refine ⟨stack', words, ?_⟩
  rw [bind_eq_of_ok takes, leaves, pushes]

theorem binary_eq_ok
    (operation : Word → Word → Word)
    (words : machine.frame.stack.words = [first, second] ++ rest) :
    ∃ stack : OperandStack,
      stack.words = operation first second :: rest ∧
        binary operation machine =
          .ok () ⟨{ machine.frame with stack }, machine.simulation⟩ :=
  leaves_of_takes _ (pop2_eq_ok words) (length_lt_capacity words) rfl

theorem relation_eq_ok
    (test : Word → Word → Bool)
    (words : machine.frame.stack.words = [first, second] ++ rest) :
    ∃ stack : OperandStack,
      stack.words = Word.ofBool (test first second) :: rest ∧
        relation test machine =
          .ok () ⟨{ machine.frame with stack }, machine.simulation⟩ :=
  leaves_of_takes _ (pop2_eq_ok words) (length_lt_capacity words) rfl

theorem ternary_eq_ok
    (operation : Word → Word → Word → Word)
    (words : machine.frame.stack.words = [first, second, third] ++ rest) :
    ∃ stack : OperandStack,
      stack.words = operation first second third :: rest ∧
        ternary operation machine =
          .ok () ⟨{ machine.frame with stack }, machine.simulation⟩ :=
  leaves_of_takes _ (pop3_eq_ok words) (length_lt_capacity words) rfl

/-! ## Steps -/

theorem of_countStep_eq_ok
    {counted : Machine}
    (counts : countStep environment machine = .ok () counted) :
    counted.frame = machine.frame ∧
      counted.simulation.world = machine.simulation.world := by
  obtain ⟨frame, world, trace, steps⟩ := machine
  simp only [countStep] at counts
  split at counts
  · cases counts
  · split at counts
    · cases counts
    · cases counts
      exact ⟨rfl, rfl⟩

/-- Correcting the trace of an action that succeeded leaves the frame and the world. -/
theorem exists_of_acted
    {action : Exec Unit}
    {acted : Machine}
    (place : Option Nat)
    (gasBefore : UInt64)
    (done : action machine = .ok () acted) :
    ∃ after,
      amending place gasBefore action machine = .ok () after ∧
        after.frame = acted.frame ∧
        after.simulation.world = acted.simulation.world :=
  ⟨amending.amend place gasBefore acted, by simp only [amending, done], rfl, rfl⟩

/-- An instruction that modifies nothing is fetched in every frame. -/
theorem fetch_eq_ok
    (found : machine.frame.instruction? environment.rules = some instruction)
    (reads : instruction.modifiesState = false) :
    fetch environment machine = .ok instruction machine := by
  have fetched : environment.rules.instruction?
      (machine.frame.program.code.getD machine.frame.position 0) = some instruction :=
    found
  have refused : ¬ (machine.frame.context.isStatic = true ∧ instruction.modifiesState = true) := by
    rw [reads]
    exact fun both => Bool.false_ne_true both.2
  have frames : frame machine = .ok machine.frame machine := rfl
  rw [fetch, bind_eq_of_ok frames]
  simp only [fetched, if_neg refused]
  rfl

/-- Before an instruction that modifies nothing acts, its static cost is paid. -/
theorem begin_of_faces
    (faces : machine.Faces environment instruction operands rest)
    (reads : instruction.modifiesState = false) :
    (instruction.staticCost ≤ machine.frame.gas →
      ∃ place ready,
        begin environment machine = .ok (instruction, place, machine.frame.gas) ready ∧
          ready.frame =
            { machine.frame with
              gas := machine.frame.gas - instruction.staticCost
              position := machine.frame.position + 1 } ∧
          ready.simulation.world = machine.simulation.world) ∧
    (machine.frame.gas < instruction.staticCost →
      ∃ after, begin environment machine = .error .outOfGas after) := by
  obtain ⟨counted, counts⟩ := faces.counts
  obtain ⟨same, sameWorld⟩ := of_countStep_eq_ok counts
  have fetches : fetch environment counted = .ok instruction counted :=
    fetch_eq_ok (same ▸ faces.here) reads
  have frames : frame counted = .ok counted.frame counted := rfl
  obtain ⟨place, recorded, records, sameFrame, stillWorld⟩ :
      ∃ place recorded,
        recordStep instruction counted = .ok place recorded ∧
          recorded.frame = machine.frame ∧
          recorded.simulation.world = machine.simulation.world :=
    ⟨_, _, rfl, same, sameWorld⟩
  have begins :
      begin environment machine =
        (do
          charge instruction.staticCost
          advance
          return (instruction, place, counted.frame.gas) : Exec _) recorded := by
    rw [begin, bind_eq_of_ok counts, bind_eq_of_ok fetches, bind_eq_of_ok frames,
      bind_eq_of_ok records]
  rw [begins, same]
  constructor
  · intro enough
    have pays := charge_eq_ok (sameFrame ▸ enough)
    rw [bind_eq_of_ok pays]
    refine ⟨place, _, rfl, ?_, stillWorld⟩
    rw [sameFrame]
  · intro short
    have fails := charge_eq_error (sameFrame ▸ short)
    exact ⟨_, bind_eq_of_error fails⟩

/--
A step computes what its instruction does, if the instruction takes the operands, leaves the
result and takes no more than so much gas beyond its static cost.
-/
theorem computes_of_execute
    {result : Word}
    {extra : UInt64}
    (reads : instruction.modifiesState = false)
    (executes :
      ∀ (runner : Runner) {machine : Machine} {rest : List Word},
        machine.frame.stack.words = operands ++ rest →
        (extra ≤ machine.frame.gas →
          ∃ stack : OperandStack,
            stack.words = result :: rest ∧
              execute environment runner instruction machine =
                .ok ()
                  ⟨{ machine.frame with stack, gas := machine.frame.gas - extra },
                    machine.simulation⟩) ∧
        (machine.frame.gas < extra →
          ∃ after, execute environment runner instruction machine = .error .outOfGas after)) :
    Computes environment instruction operands result
      (instruction.staticCost.toNat + extra.toNat) := by
  intro runner machine rest faces
  obtain ⟨begins, fails⟩ := begin_of_faces faces reads
  rw [step_eq]
  by_cases short : machine.frame.gas < instruction.staticCost
  · obtain ⟨after, failed⟩ := fails short
    have tooMuch : machine.frame.gas.toNat < instruction.staticCost.toNat :=
      UInt64.lt_iff_toNat_lt.mp short
    exact ⟨fun enough => absurd enough (by omega), fun _ => ⟨after, bind_eq_of_error failed⟩⟩
  · have covers : instruction.staticCost ≤ machine.frame.gas := UInt64.not_lt.mp short
    obtain ⟨place, ready, begun, shape, world⟩ := begins covers
    rw [bind_eq_of_ok begun]
    have left := UInt64.toNat_sub_add_cancel covers
    have readyGas : ready.frame.gas = machine.frame.gas - instruction.staticCost := by rw [shape]
    have words : ready.frame.stack.words = operands ++ rest := by
      rw [shape]
      exact faces.words
    obtain ⟨acts, failsLate⟩ := executes runner words
    rw [readyGas] at acts failsLate
    constructor
    · intro enough
      have within : extra ≤ machine.frame.gas - instruction.staticCost :=
        UInt64.le_iff_toNat_le.mpr (by omega)
      obtain ⟨stack, computed, executed⟩ := acts within
      have paid := UInt64.toNat_sub_add_cancel within
      obtain ⟨after, amended, sameFrame, sameWorld⟩ :=
        exists_of_acted place machine.frame.gas executed
      refine ⟨after, amended, ?_⟩
      exact
        { words := sameFrame ▸ computed
          gas := by
            rw [sameFrame]
            change (machine.frame.gas - instruction.staticCost - extra).toNat + _ = _
            omega
          others := by
            rw [sameFrame, shape]
          world := sameWorld.trans world }
    · intro tooLittle
      have beyond : machine.frame.gas - instruction.staticCost < extra :=
        UInt64.lt_iff_toNat_lt.mpr (by omega)
      obtain ⟨after, failed⟩ := failsLate beyond
      simp only [amending, failed]
      exact ⟨_, rfl⟩

/-- A step computes what its instruction does, if the instruction costs nothing further. -/
theorem computes_of_leaves
    {result : Word}
    (reads : instruction.modifiesState = false)
    (executes :
      ∀ (runner : Runner) {machine : Machine} {rest : List Word},
        machine.frame.stack.words = operands ++ rest →
        ∃ stack : OperandStack,
          stack.words = result :: rest ∧
            execute environment runner instruction machine =
              .ok () ⟨{ machine.frame with stack }, machine.simulation⟩) :
    Computes environment instruction operands result instruction.staticCost.toNat := by
  change Computes environment instruction operands result
    (instruction.staticCost.toNat + UInt64.toNat 0)
  refine computes_of_execute reads fun runner machine rest words => ?_
  obtain ⟨stack, computed, executed⟩ := executes runner words
  constructor
  · intro _
    rw [UInt64.sub_zero]
    exact ⟨stack, computed, executed⟩
  · exact fun less => absurd less (UInt64.not_lt.mpr (UInt64.zero_le))

theorem computes_binary
    {operation : Word → Word → Word}
    (reads : instruction.modifiesState = false)
    (acts : ∀ runner, execute environment runner instruction = binary operation) :
    Computes environment instruction [first, second] (operation first second)
      instruction.staticCost.toNat :=
  computes_of_leaves reads fun runner _ _ words => acts runner ▸ binary_eq_ok operation words

theorem computes_relation
    {test : Word → Word → Bool}
    (reads : instruction.modifiesState = false)
    (acts : ∀ runner, execute environment runner instruction = relation test) :
    Computes environment instruction [first, second] (Word.ofBool (test first second))
      instruction.staticCost.toNat :=
  computes_of_leaves reads fun runner _ _ words => acts runner ▸ relation_eq_ok test words

theorem computes_ternary
    {operation : Word → Word → Word → Word}
    (reads : instruction.modifiesState = false)
    (acts : ∀ runner, execute environment runner instruction = ternary operation) :
    Computes environment instruction [first, second, third] (operation first second third)
      instruction.staticCost.toNat :=
  computes_of_leaves reads fun runner _ _ words => acts runner ▸ ternary_eq_ok operation words

/-! ## Powers -/

/-- Beyond the static share a power costs 50 for each byte of the exponent. -/
theorem toNat_pow_subClamp
    (exponent : Word) :
    ((Gas.pow exponent).subClamp Gas.powBase).toNat = 50 * exponent.byteLength := by
  have whole := Gas.toNat_pow exponent
  have share : Gas.powBase.toNat = 10 := rfl
  rw [UInt64.toNat_subClamp, whole, share, Nat.add_sub_cancel_left]

theorem computes_pow :
    Computes environment .pow [first, second] (Word.pow first second)
      (10 + 50 * second.byteLength) := by
  have whole :
      Instruction.pow.staticCost.toNat + ((Gas.pow second).subClamp Gas.powBase).toNat =
        10 + 50 * second.byteLength := by
    rw [toNat_pow_subClamp]
    rfl
  rw [← whole]
  refine computes_of_execute rfl fun runner machine rest words => ?_
  obtain ⟨stack, left, pops⟩ := pop2_eq_ok words
  have room : rest.length < OperandStack.capacity := length_lt_capacity words
  constructor
  · intro enough
    have pays := @charge_eq_ok _ ⟨{ machine.frame with stack }, machine.simulation⟩ enough
    obtain ⟨stack', computed, pushes⟩ :=
      @push_eq_ok
        ⟨{ machine.frame with
            stack
            gas := machine.frame.gas - (Gas.pow second).subClamp Gas.powBase },
          machine.simulation⟩
        _ (Word.pow first second) left room
    refine ⟨stack', computed, ?_⟩
    change power machine = _
    rw [power, bind_eq_of_ok pops]
    exact (bind_eq_of_ok pays).trans pushes
  · intro short
    have fails := @charge_eq_error _ ⟨{ machine.frame with stack }, machine.simulation⟩ short
    have failed :
        power machine =
          .error .outOfGas ⟨{ machine.frame with stack, gas := 0 }, machine.simulation⟩ := by
      rw [power, bind_eq_of_ok pops]
      exact bind_eq_of_error fails
    exact ⟨_, failed⟩

/-! ## Exact instructions -/

/--
The signed instructions compute on the integers that words stand for in two's complement, and
leave the words that stand for the results: a quotient rounded toward zero, a remainder with
the dividend's sign, comparisons, a quotient by a power of two rounded down for every amount
of a shift, and the number that the lowest bytes stand for.
-/
theorem signed_instructions_are_exact
    (environment : Environment)
    (first second : Word) :
    Computes environment .signedDiv [first, second]
        (BitVec.ofInt 256
          (if second.toInt = 0 then 0 else first.toInt.tdiv second.toInt)) 5 ∧
      Computes environment .signedMod [first, second]
        (BitVec.ofInt 256
          (if second.toInt = 0 then 0 else first.toInt.tmod second.toInt)) 5 ∧
      Computes environment .signedLess [first, second]
        (Word.ofBool (decide (first.toInt < second.toInt))) 3 ∧
      Computes environment .signedGreater [first, second]
        (Word.ofBool (decide (second.toInt < first.toInt))) 3 ∧
      Computes environment .arithmeticShiftRight [first, second]
        (BitVec.ofInt 256 (second.toInt.fdiv (2 ^ first.toNat))) 3 ∧
      Computes environment .signExtend [first, second]
        (if first.toNat < 31 then
          BitVec.ofInt 256 (second.setWidth (8 * (first.toNat + 1))).toInt
        else
          second) 5 := by
  rw [← Word.signedDiv_eq_ofInt, ← Word.signedMod_eq_ofInt, ← Word.signedLess_eq_decide,
    ← Word.signedLess_eq_decide, ← Word.arithmeticShiftRight_eq_ofInt,
    ← Word.signExtend_eq_ofInt]
  refine ⟨?_, ?_, ?_, ?_, ?_, ?_⟩
  · exact computes_binary rfl fun _ => rfl
  · exact computes_binary rfl fun _ => rfl
  · exact @computes_relation environment .signedLess _ _ Word.signedLess rfl fun _ => rfl
  · exact @computes_relation environment .signedGreater _ _
      (fun left right => Word.signedLess right left) rfl fun _ => rfl
  · exact computes_binary rfl fun _ => rfl
  · exact computes_binary rfl fun _ => rfl

/-- Dividing the least signed word by minus one gives the least signed word again. -/
theorem least_word_over_minus_one :
    let code : Bytes := [0x05]
    let environment : Environment :=
      { rules := ⟨⟨0, 50, 0⟩, .cancun, ⟨true, true⟩, ⟨true, true⟩⟩
        prices := ⟨.empty, .empty, fun _ _ => 1⟩ }
    let context :=
      FrameContext.ofTransaction (Address.ofNum 1001) (Address.ofNum 1002) 0 [] 100 1 { }
    let simulation : Simulation :=
      { world := World.ofSnapshot (Snapshot.ofContents { }) true ⟨0⟩ 5000
        trace := Trace.off }
    let least : Word := BitVec.intMin 256
    let machine : Machine :=
      ⟨{ Frame.start { } context code with stack := ⟨[least, -1], by decide⟩ }, simulation⟩
    ∃ after,
      step environment Runner.idle machine = .ok () after ∧
        after.frame.stack.words = [least] ∧ after.frame.gas = 95 := by
  intro code environment context simulation least machine
  have faces : machine.Faces environment .signedDiv [least, -1] [] :=
    ⟨by decide, rfl, _, rfl⟩
  obtain ⟨divides, -⟩ := signed_instructions_are_exact environment least (-1)
  obtain ⟨after, steps, computed⟩ := (divides Runner.idle faces).1 (by decide)
  refine ⟨after, steps, computed.words.trans (by decide), ?_⟩
  exact UInt64.toNat_inj.mp (Nat.add_right_cancel computed.gas)

/--
Sums and products modulo a word are taken over all natural numbers, a zero modulus giving zero,
and no wide word that they pass through is cut short.  A power is the power of the numbers
modulo the word size, found in at most 256 rounds, and costs 10 and another 50 for each byte
that the exponent has.
-/
theorem modular_instructions_are_exact
    (environment : Environment)
    (first second third : Word) :
    Computes environment .addMod [first, second, third]
        (BitVec.ofNat 256
          (if third = 0 then 0 else (first.toNat + second.toNat) % third.toNat)) 8 ∧
      Computes environment .mulMod [first, second, third]
        (BitVec.ofNat 256
          (if third = 0 then 0 else first.toNat * second.toNat % third.toNat)) 8 ∧
      Computes environment .pow [first, second]
        (BitVec.ofNat 256 (first.toNat ^ second.toNat))
        (10 + 50 * (Nat.digits 256 second.toNat).length) ∧
      (∃ rounds ≤ 256, (Word.PowerLoop.start first second).EndsAfter rounds) ∧
      (Word.widen first + Word.widen second).toNat = first.toNat + second.toNat ∧
      (Word.widen first * Word.widen second).toNat = first.toNat * second.toNat ∧
      ∀ wide : Word.WideWord, third ≠ 0 →
        (Word.narrow (wide % Word.widen third)).toNat = wide.toNat % third.toNat := by
  rw [← Word.addMod_eq_ofNat, ← Word.mulMod_eq_ofNat, ← Word.pow_eq_ofNat,
    ← Word.byteLength_eq]
  refine ⟨?_, ?_, computes_pow, ?_, ?_, ?_, ?_⟩
  · exact computes_ternary rfl fun _ => rfl
  · exact computes_ternary rfl fun _ => rfl
  · exact Word.PowerLoop.exists_endsAfter _
  · exact Word.toNat_widen_add first second
  · exact Word.toNat_widen_mul first second
  · exact fun wide nonzero => Word.toNat_narrow_mod wide nonzero

/-- The third power of two costs one byte of exponent beyond the static share. -/
theorem two_cubed_costs_sixty :
    let code : Bytes := [0x0a]
    let environment : Environment :=
      { rules := ⟨⟨0, 50, 0⟩, .cancun, ⟨true, true⟩, ⟨true, true⟩⟩
        prices := ⟨.empty, .empty, fun _ _ => 1⟩ }
    let context :=
      FrameContext.ofTransaction (Address.ofNum 1001) (Address.ofNum 1002) 0 [] 100 1 { }
    let simulation : Simulation :=
      { world := World.ofSnapshot (Snapshot.ofContents { }) true ⟨0⟩ 5000
        trace := Trace.off }
    let machine : Machine :=
      ⟨{ Frame.start { } context code with stack := ⟨[2, 3], by decide⟩ }, simulation⟩
    ∃ after,
      step environment Runner.idle machine = .ok () after ∧
        after.frame.stack.words = [8] ∧ after.frame.gas = 40 := by
  intro code environment context simulation machine
  have faces : machine.Faces environment .pow [2, 3] [] := ⟨by decide, rfl, _, rfl⟩
  obtain ⟨-, -, raises, -⟩ := modular_instructions_are_exact environment 2 3 0
  obtain ⟨after, steps, computed⟩ := (raises Runner.idle faces).1 (by decide)
  refine ⟨after, steps, computed.words.trans (by decide), ?_⟩
  exact UInt64.toNat_inj.mp (Nat.add_right_cancel computed.gas)

end Exec

end LedgerEvm
