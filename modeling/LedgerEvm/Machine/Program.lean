import LedgerEvm.Bytes
import LedgerEvm.Machine.Instruction

namespace LedgerEvm

/-!
# Programs

A program is the code of a frame with the marks of its jump destinations.  A
destination byte that belongs to a push is data and is not marked.
-/

/-- Code prepared for execution. -/
structure Program where
  bytes : Bytes
  code : Array UInt8
  marks : Array Bool
  deriving Repr, DecidableEq

namespace Program

/-- The byte of the jump destination instruction. -/
def jumpDestByte : UInt8 :=
  0x5b

/--
Append one mark for each byte of the code that follows, of which the first `skip`
bytes belong to a push.
-/
def marksFrom (marks : Array Bool) : Nat → Bytes → Array Bool
  | _, [] => marks
  | 0, byte :: rest =>
      marksFrom (marks.push (byte == jumpDestByte)) (immediateSize byte) rest
  | skip + 1, _ :: rest => marksFrom (marks.push false) skip rest

/-- Prepare code. -/
def ofBytes (bytes : Bytes) : Program where
  bytes
  code := bytes.toArray
  marks := marksFrom #[] 0 bytes

/-- The number of bytes. -/
def size (program : Program) : Nat :=
  program.code.size

/-- Whether a position may be jumped to. -/
def isJumpDest (program : Program) (position : Nat) : Bool :=
  program.marks.getD position false

/-- The word that the bytes of a push write; bytes past the end of the code are zero. -/
def immediate (program : Program) (position size : Nat) : Word :=
  let inside := (program.code.extract position (position + size)).toList
  Word.ofBytes (inside ++ List.replicate (size - inside.length) 0)

@[simp] theorem size_marksFrom
    (marks : Array Bool)
    (skip : Nat)
    (bytes : Bytes) :
    (marksFrom marks skip bytes).size = marks.size + bytes.length := by
  induction bytes generalizing marks skip with
  | nil =>
      simp [marksFrom]
  | cons byte rest inductionHypothesis =>
      cases skip <;> simp [marksFrom, inductionHypothesis] <;> omega

/-- Every byte of a program has a mark. -/
@[simp] theorem size_marks_ofBytes
    (bytes : Bytes) :
    (ofBytes bytes).marks.size = bytes.length := by
  simp [ofBytes]

end Program

end LedgerEvm
