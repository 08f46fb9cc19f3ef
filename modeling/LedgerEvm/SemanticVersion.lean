import LedgerEvm.Range
import LedgerEvm.Text.Blank
import LedgerEvm.Text.Decimal

namespace LedgerEvm

/-!
# Semantic versions

A version is three 32-bit numbers, compared from the first to the last.  Its text
may carry blanks around it, a leading `v`, a suffix behind a minus or plus sign, and
may leave out the last number.
-/

/-- A protocol version. -/
structure SemanticVersion where
  major : UInt32
  minor : UInt32
  patch : UInt32
  deriving Repr, DecidableEq

namespace SemanticVersion

instance : Inhabited SemanticVersion := ⟨⟨0, 0, 0⟩⟩

/-- Lexicographic comparison, the first number weighing most. -/
def compare (left right : SemanticVersion) : Ordering :=
  (Ord.compare left.major.toNat right.major.toNat).then
    ((Ord.compare left.minor.toNat right.minor.toNat).then
      (Ord.compare left.patch.toNat right.patch.toNat))

/-- The three numbers between points. -/
def text (version : SemanticVersion) : String :=
  toString version.major.toNat ++ "." ++ toString version.minor.toNat ++ "." ++
    toString version.patch.toNat

/-- One number of a version text. -/
def component? (text : List Char) : Option UInt32 :=
  (Text.natural? text).bind UInt32.ofNat?

/-- The part of a version text without blanks, leading marks and suffix. -/
def core (text : List Char) : List Char :=
  let unmarked := (Text.trim text).dropWhile fun character =>
    character == 'v' || character == 'V'
  unmarked.takeWhile fun character => !(character == '-' || character == '+')

/-- The version that a list of characters writes. -/
def parseChars? (text : List Char) : Option SemanticVersion :=
  match Text.fields (· == '.') (core text) with
  | [major, minor] => do
      return ⟨← component? major, ← component? minor, 0⟩
  | [major, minor, patch] => do
      return ⟨← component? major, ← component? minor, ← component? patch⟩
  | _ => none

/-- The version that a text writes. -/
def parse? (text : String) : Option SemanticVersion :=
  parseChars? text.toList

/-- The message about a text that writes no version. -/
def invalidMessage (text : String) : String :=
  "invalid semantic version: " ++ text

/-- A version compares equal to itself. -/
@[simp] theorem compare_self
    (version : SemanticVersion) :
    compare version version = .eq := by
  simp [compare, Ordering.then]

end SemanticVersion

end LedgerEvm
