import LedgerEvm.Clamp

namespace LedgerEvm

/-!
# Timestamps

An instant is a signed number of nanoseconds.  The second it lies in is found by
rounding toward the past, also before the epoch.
-/

/-- Nanoseconds since the epoch. -/
structure Timestamp where
  nanos : Int64
  deriving Repr, DecidableEq

namespace Timestamp

instance : Inhabited Timestamp := ⟨⟨0⟩⟩

/-- The nanoseconds of one second. -/
def nanosPerSecond : Int :=
  1000000000

/-- The start of a second, moved into the range of nanoseconds. -/
def ofSeconds (seconds : Int64) : Timestamp :=
  ⟨Int64.ofIntClamp (seconds.toInt * nanosPerSecond)⟩

/-- The second an instant lies in. -/
def seconds (timestamp : Timestamp) : Int64 :=
  Int64.ofInt (timestamp.nanos.toInt / nanosPerSecond)

/-- A number with leading zeros up to nine digits. -/
def nineDigits (value : Nat) : String :=
  let digits := toString value
  String.ofList (List.replicate (9 - digits.length) '0') ++ digits

/-- The second and the nanoseconds inside it. -/
def text (timestamp : Timestamp) : String :=
  toString (timestamp.nanos.toInt / nanosPerSecond) ++ "." ++
    nineDigits (timestamp.nanos.toInt % nanosPerSecond).toNat

end Timestamp

end LedgerEvm
