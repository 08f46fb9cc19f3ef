import LedgerEvm.Proofs.Machine.FrameInvariants

namespace LedgerEvm

/-!
# Where instructions start

From the first byte of a program on, each instruction starts behind the bytes that belong to
the one before.  The marks of a program are the jump destinations among these positions, and
a frame, which goes on behind its instruction or at a mark, is never at another one.
-/

/-- An instruction starts at a position: the first one, or the one behind an instruction. -/
inductive StartsAt (bytes : Bytes) : Nat → Prop where
  | first :
      StartsAt bytes 0
  | next
      {position : Nat}
      {byte : UInt8}
      (starts : StartsAt bytes position)
      (found : bytes[position]? = some byte) :
      StartsAt bytes (position + 1 + immediateSize byte)

namespace StartsAt

/-- The rest of the code behind an instruction has its own starts. -/
theorem behind
    {byte : UInt8}
    {rest : Bytes}
    {position : Nat}
    (starts : StartsAt (rest.drop (immediateSize byte)) position) :
    StartsAt (byte :: rest) (1 + immediateSize byte + position) := by
  induction starts with
  | first =>
      have second : StartsAt (byte :: rest) (0 + 1 + immediateSize byte) := .next .first rfl
      rwa [Nat.zero_add] at second
  | @next position following _ found inductionHypothesis =>
      have same : (byte :: rest)[1 + immediateSize byte + position]? = some following := by
        rw [Nat.add_assoc, Nat.add_comm, List.getElem?_cons_succ, ← List.getElem?_drop]
        exact found
      have further := inductionHypothesis.next same
      rwa [Nat.add_assoc, Nat.add_assoc, ← Nat.add_assoc position] at further

/-- Instructions start at the first byte and in the rest of the code behind its instruction. -/
theorem cons_iff
    {byte : UInt8}
    {rest : Bytes}
    {position : Nat} :
    StartsAt (byte :: rest) position ↔
      position = 0 ∨
        ∃ further,
          position = 1 + immediateSize byte + further ∧
            StartsAt (rest.drop (immediateSize byte)) further := by
  constructor
  · intro starts
    induction starts with
    | first => exact .inl rfl
    | @next position following _ found inductionHypothesis =>
        refine .inr ?_
        rcases inductionHypothesis with rfl | ⟨further, rfl, starts⟩
        · cases found
          exact ⟨0, by omega, .first⟩
        · refine ⟨further + 1 + immediateSize following, by omega, starts.next ?_⟩
          rw [List.getElem?_drop, ← List.getElem?_cons_succ (a := byte), ← found]
          congr 1
          omega
  · rintro (rfl | ⟨further, rfl, starts⟩)
    · exact .first
    · exact starts.behind

end StartsAt

namespace Program

/-! ## Marks -/

/-- Marks that have been made stay. -/
theorem getElem?_marksFrom_of_lt
    (marks : Array Bool)
    (skip : Nat)
    (bytes : Bytes)
    {position : Nat}
    (made : position < marks.size) :
    (marksFrom marks skip bytes)[position]? = marks[position]? := by
  induction bytes generalizing marks skip with
  | nil => rfl
  | cons byte rest inductionHypothesis =>
      have more (mark : Bool) : position < (marks.push mark).size := by
        rw [Array.size_push]
        exact Nat.lt_succ_of_lt made
      have stays (mark : Bool) : (marks.push mark)[position]? = marks[position]? := by
        rw [Array.getElem?_push, if_neg (Nat.ne_of_lt made)]
      cases skip with
      | zero => exact (inductionHypothesis _ _ (more _)).trans (stays _)
      | succ skip => exact (inductionHypothesis _ _ (more _)).trans (stays _)

/-- The marks of code are the destinations that instructions start at. -/
theorem getElem?_marksFrom
    (marks : Array Bool)
    (skip : Nat)
    (bytes : Bytes)
    (position : Nat) :
    (marksFrom marks skip bytes)[marks.size + position]? = some true ↔
      bytes[position]? = some jumpDestByte ∧
        ∃ further, position = skip + further ∧ StartsAt (bytes.drop skip) further := by
  induction bytes generalizing marks skip position with
  | nil =>
      simp [marksFrom]
  | cons byte rest inductionHypothesis =>
      cases skip with
      | zero =>
          rw [marksFrom]
          cases position with
          | zero =>
              rw [Nat.add_zero, getElem?_marksFrom_of_lt _ _ _ (by simp),
                Array.getElem?_push_size]
              simp [StartsAt.first]
          | succ position =>
              have others := inductionHypothesis (marks.push (byte == jumpDestByte))
                (immediateSize byte) position
              rw [Array.size_push, Nat.add_assoc, Nat.add_comm 1] at others
              rw [others, List.getElem?_cons_succ, List.drop_zero]
              refine and_congr_right fun _ => ?_
              simp only [Nat.zero_add, exists_eq_left', StartsAt.cons_iff, Nat.succ_ne_zero,
                false_or]
              refine exists_congr fun further => and_congr_left fun _ => ?_
              omega
      | succ skip =>
          rw [marksFrom]
          cases position with
          | zero =>
              rw [Nat.add_zero, getElem?_marksFrom_of_lt _ _ _ (by simp),
                Array.getElem?_push_size]
              simp only [Option.some.injEq, Bool.false_eq_true, false_iff, not_and, not_exists]
              omega
          | succ position =>
              have others := inductionHypothesis (marks.push false) skip position
              rw [Array.size_push, Nat.add_assoc, Nat.add_comm 1] at others
              rw [others, List.getElem?_cons_succ, List.drop_succ_cons]
              refine and_congr_right fun _ => exists_congr fun further => and_congr_left fun _ => ?_
              omega

/-- The positions that may be jumped to are the destinations that instructions start at. -/
theorem isJumpDest_ofBytes
    (bytes : Bytes)
    (position : Nat) :
    (ofBytes bytes).isJumpDest position = true ↔
      bytes[position]? = some jumpDestByte ∧ StartsAt bytes position := by
  have marks := getElem?_marksFrom #[] 0 bytes position
  simp only [Array.size_empty, Nat.zero_add, exists_eq_left', List.drop_zero] at marks
  rw [← marks, isJumpDest, ofBytes, Array.getD_eq_getD_getElem?]
  cases (marksFrom #[] 0 bytes)[position]? with
  | none => simp
  | some mark => simp

end Program

namespace Exec

variable
  {environment : Environment}
  {program : Program}
  {position : Nat}

/-! ## Going on -/

/-- The frame executes a program and is at a position of it. -/
def IsAt (program : Program) (position : Nat) (frame : Frame) : Prop :=
  frame.program = program ∧ frame.position = position

/-- The frame executes a program and is at a position or at a mark of it. -/
def GoesTo (program : Program) (position : Nat) (frame : Frame) : Prop :=
  frame.program = program ∧
    (frame.position = position ∨ program.isJumpDest frame.position = true)

theorem keptWithin_isAt
    (program : Program)
    (position : Nat) :
    Frame.KeptWithin false true (IsAt program position) where
  move moved same _ isAt := ⟨moved.program_eq.trans isAt.1, (same rfl).trans isAt.2⟩
  gas _ isAt := isAt

theorem yields_jump
    (destination : Word) :
    Yields (Machine.Has (IsAt program position)) (jump destination) fun _ =>
      Machine.Has (GoesTo program position) := by
  rintro ⟨frame, simulation⟩ ⟨executes, _⟩
  by_cases marked :
      destination.toNat < UInt32.size ∧ frame.program.isJumpDest destination.toNat = true
  · simp only [jump, if_pos marked]
    exact ⟨executes, .inr (executes ▸ marked.2)⟩
  · simp only [jump, if_neg marked]

/-- An instruction goes on behind the bytes that belong to it, or at a mark. -/
theorem yields_execute_goesTo
    (environment : Environment)
    (runner : Runner)
    (instruction : Instruction) :
    Yields (Machine.Has (IsAt program position)) (execute environment runner instruction)
      fun _ => Machine.Has (GoesTo program (position + instruction.immediateSize)) := by
  have stays {size : Nat} (none : size = 0) (frame : Frame) (isAt : IsAt program position frame) :
      GoesTo program (position + size) frame :=
    ⟨isAt.1, .inl (none ▸ isAt.2)⟩
  have calm (place : Nat) := (keptWithin_isAt program place).calm
  cases flows : instruction.isFlow with
  | false =>
      have none : instruction.immediateSize = 0 := by
        cases instruction with
        | push => cases flows
        | _ => rfl
      have kept := (keptWithin_isAt program position).execute environment runner
        (fun goes => by rw [flows] at goes; cases goes) fun _ => rfl
      exact (Yields.of_keeps kept).imp (fun _ => id) fun _ machine => stays none machine.frame
  | true =>
      cases instruction with
      | jump =>
          exact Yields.bind_kept (Yields.of_keeps (calm _).pop) fun _ => yields_jump _
      | jumpIf =>
          refine Yields.bind_kept (Yields.of_keeps (calm _).pop2) fun ⟨_, condition⟩ => ?_
          dsimp only
          split
          · exact yields_jump _
          · exact Ensures.pure fun machine => stays rfl machine.frame
      | push size =>
          have skips :
              Yields (Machine.Has (IsAt program position))
                (updateFrame fun frame => { frame with position := frame.position + size.val })
                fun _ => Machine.Has (IsAt program (position + size.val)) :=
            fun machine isAt => ⟨isAt.1, congrArg (· + size.val) isAt.2⟩
          refine Yields.bind_kept (Yields.of_keeps keeps_frame) fun _ => skips.bind fun _ => ?_
          exact (Yields.of_keeps ((calm _).push _)).imp (fun _ => id)
            fun _ _ isAt => ⟨isAt.1, .inl isAt.2⟩
      | _ => cases flows

/-- The bytes that belong to an instruction of the rules are those that its byte tells. -/
theorem immediateSize_of_instruction?
    {rules : Ruleset}
    {byte : UInt8}
    {instruction : Instruction}
    (found : rules.instruction? byte = some instruction) :
    immediateSize byte = instruction.immediateSize := by
  have read := (Option.filter_eq_some_iff.mp found).1
  rw [immediateSize, read]
  rfl

/-- A step goes on behind the bytes that belong to its instruction, or at a mark. -/
theorem yields_step_goesTo
    (environment : Environment)
    (runner : Runner) :
    Yields (Machine.Has (IsAt program position)) (step environment runner) fun _ =>
      Machine.Has
        (GoesTo program (position + 1 + immediateSize (program.code.getD position 0))) := by
  have begins :
      Yields (Machine.Has (IsAt program position)) (begin environment) fun begun machine =>
        machine.Has (IsAt program (position + 1)) ∧
          environment.rules.instruction? (program.code.getD position 0) = some begun.1 := by
    refine Yields.of_each fun start isAt => (yields_begin environment start).imp (fun _ => id) ?_
    obtain ⟨rfl, rfl⟩ := isAt
    rintro begun machine ⟨found, moved, -⟩
    refine ⟨?_, found⟩
    rw [Machine.Has, moved]
    exact ⟨rfl, rfl⟩
  rw [step_eq]
  refine begins.bind fun begun => Ensures.of_fact fun found => ?_
  rw [immediateSize_of_instruction? found]
  exact Yields.of_ensures (ensures_amending _ _ (yields_execute_goesTo environment runner begun.1)
    (fun _ => id) fun _ _ => trivial)

end Exec

/-! ## Executions -/

namespace Frame

/-- The frame executes code and is where an instruction of it starts. -/
def IsAtStart (code : Bytes) (frame : Frame) : Prop :=
  frame.program = Program.ofBytes code ∧ StartsAt code frame.position

theorem isAtStart_start
    (limits : Limits)
    (context : FrameContext)
    (code : Bytes) :
    (start limits context code).IsAtStart code :=
  ⟨rfl, .first⟩

/-- A frame that is not over is at a byte of its code. -/
theorem exists_byte
    {code : Bytes}
    {frame : Frame}
    (executes : frame.program = Program.ofBytes code)
    (runs : frame.isOver = false) :
    ∃ byte,
      code[frame.position]? = some byte ∧
        (Program.ofBytes code).code.getD frame.position 0 = byte := by
  have inside : frame.position < code.length := by
    simp only [isOver, executes, Program.size, Program.ofBytes, List.size_toArray,
      Bool.or_eq_false_iff, decide_eq_false_iff_not, Nat.not_le] at runs
    exact runs.2
  refine ⟨_, List.getElem?_eq_getElem inside, ?_⟩
  simp [Program.ofBytes, inside]

end Frame

/-- A step that a frame takes where an instruction starts leads to where one starts. -/
theorem Exec.isAtStart_of_step
    {environment : Environment}
    {runner : Runner}
    {code : Bytes}
    {machine after : Machine}
    (runs : machine.frame.isOver = false)
    (steps : Exec.step environment runner machine = .ok () after)
    (isAtStart : machine.frame.IsAtStart code) :
    after.frame.IsAtStart code := by
  obtain ⟨executes, starts⟩ := isAtStart
  obtain ⟨byte, found, fetched⟩ := Frame.exists_byte executes runs
  obtain ⟨same, next⟩ :=
    (Exec.yields_step_goesTo environment runner).of_ok steps ⟨executes, rfl⟩
  refine ⟨same, ?_⟩
  rcases next with behind | marked
  · rw [behind, fetched]
    exact starts.next found
  · exact ((Program.isJumpDest_ofBytes code _).mp marked).2

/--
Jumps lead to the jump destinations among the starts of instructions, and to no other byte of
the code; and whatever jumps a frame takes, from its first step on it is always where an
instruction starts.
-/
theorem frames_stay_at_instruction_starts
    (code : Bytes) :
    (∀ position,
      (Program.ofBytes code).isJumpDest position = true ↔
        code[position]? = some Program.jumpDestByte ∧ StartsAt code position) ∧
      ∀ {environment : Environment} {limits : Limits} {context : FrameContext}
          {simulation : Simulation} {machine : Machine},
        Machine.Reaches environment ⟨Frame.start limits context code, simulation⟩ machine →
        machine.frame.program = Program.ofBytes code ∧
          StartsAt code machine.frame.position := by
  refine ⟨Program.isJumpDest_ofBytes code, fun {_ limits context _ machine} reaches => ?_⟩
  have isAtStart : Machine.Has (Frame.IsAtStart code) machine :=
    reaches.keeps (fun _ runs steps => Exec.isAtStart_of_step runs steps)
      (Frame.isAtStart_start limits context code)
  exact isAtStart

/-- A frame jumps over a push whose data looks like a jump destination. -/
theorem frame_jumps_over_push_data :
    let code : Bytes := [0x60, 0x05, 0x56, 0x60, 0x5b, 0x5b, 0x00]
    let environment : Environment :=
      { rules := ⟨⟨0, 50, 0⟩, .cancun, ⟨true, true⟩, ⟨true, true⟩⟩
        prices := ⟨.empty, .empty, fun _ _ => 1⟩ }
    let context :=
      FrameContext.ofTransaction (Address.ofNum 1001) (Address.ofNum 1002) 0 [] 100 1 { }
    let start : Machine :=
      ⟨Frame.start { } context code,
        { world := World.ofSnapshot (Snapshot.ofContents { }) true ⟨0⟩ 5000
          trace := Trace.off }⟩
    let pushed := stateOf (Exec.step environment Runner.idle start)
    let jumped := stateOf (Exec.step environment Runner.idle pushed)
    code[4]? = some Program.jumpDestByte ∧
      (Program.ofBytes code).isJumpDest 4 = false ∧
      ¬ StartsAt code 4 ∧
      Machine.Reaches environment start jumped ∧
      jumped.frame.position = 5 ∧
      StartsAt code jumped.frame.position := by
  intro code environment context start pushed jumped
  have pushes : Exec.step environment Runner.idle start = .ok () pushed :=
    eq_ok_of_answerOf (by decide +kernel)
  have jumps : Exec.step environment Runner.idle pushed = .ok () jumped :=
    eq_ok_of_answerOf (by decide +kernel)
  have reaches : Machine.Reaches environment start jumped :=
    (Machine.Reaches.start.step (by decide) _ pushes).step (by decide) _ jumps
  obtain ⟨marked, starts⟩ := frames_stay_at_instruction_starts code
  have unmarked : (Program.ofBytes code).isJumpDest 4 = false := by decide
  refine ⟨rfl, unmarked, fun begins => ?_, reaches, by decide, (starts reaches).2⟩
  cases unmarked.symm.trans ((marked 4).mpr ⟨rfl, begins⟩)

end LedgerEvm
