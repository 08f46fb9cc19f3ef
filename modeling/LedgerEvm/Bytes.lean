import LedgerEvm.Word

namespace LedgerEvm

/-!
# Byte strings

Call data, code, output and log data are finite byte strings.  Reading a window
that reaches past the end continues with zeros, which is what every copying
instruction asks for.
-/

/-- A finite byte string. -/
abbrev Bytes := List UInt8

namespace Bytes

/-- The lower-case hexadecimal digit of a number below sixteen. -/
def hexDigit (value : Nat) : Char :=
  if value < 10 then Char.ofNat (48 + value) else Char.ofNat (87 + value)

/-- Two hexadecimal digits per byte, high digit first. -/
def hexDigits (bytes : Bytes) : List Char :=
  bytes.flatMap fun byte =>
    [hexDigit (byte.toNat / 16), hexDigit (byte.toNat % 16)]

/-- Two upper-case hexadecimal digits. -/
def upperHex (byte : UInt8) : String :=
  String.ofList ((hexDigits [byte]).map Char.toUpper)

/-- The hexadecimal text without a leading mark. -/
def hexText (bytes : Bytes) : String :=
  String.ofList bytes.hexDigits

/-- The hexadecimal text behind the mark `0x`. -/
def toHex (bytes : Bytes) : String :=
  "0x" ++ bytes.hexText

/--
The short text of a byte string: all of it up to eight bytes, otherwise the first
four and the length.
-/
def summary (bytes : Bytes) : String :=
  if bytes.length ≤ 8 then
    bytes.toHex
  else
    toHex (bytes.take 4) ++ "..(" ++ toString bytes.length ++ " bytes)"

/-- The number that the bytes write in base 256, most significant byte first. -/
def toNat (bytes : Bytes) : Nat :=
  bytes.foldl (fun value byte => value * 256 + byte.toNat) 0

/-- The lowest `count` base-256 digits of a number, most significant first. -/
def ofNat : Nat → Nat → Bytes
  | 0, _ => []
  | count + 1, value => ofNat count (value / 256) ++ [UInt8.ofNat value]

/-- The window of `size` bytes from `offset`, with zeros past the end. -/
def window (bytes : Bytes) (offset size : Nat) : Bytes :=
  let inside := (bytes.drop offset).take size
  inside ++ List.replicate (size - inside.length) 0

/-- The window of `size` bytes from `offset`, when it lies inside the string. -/
def window? (bytes : Bytes) (offset size : Nat) : Option Bytes :=
  if offset + size ≤ bytes.length then
    some ((bytes.drop offset).take size)
  else
    none

/-- The bytes of a text in UTF-8. -/
def ofString (text : String) : Bytes :=
  text.toUTF8.toList

/-- The text that the bytes write in UTF-8, when they write one. -/
def toString? (bytes : Bytes) : Option String :=
  String.fromUTF8? (ByteArray.mk bytes.toArray)

@[simp] theorem length_ofNat
    (count value : Nat) :
    (ofNat count value).length = count := by
  induction count generalizing value with
  | zero =>
      rfl
  | succ count inductionHypothesis =>
      simp [ofNat, inductionHypothesis]

@[simp] theorem length_window
    (bytes : Bytes)
    (offset size : Nat) :
    (bytes.window offset size).length = size := by
  simp only [window, List.length_append, List.length_take, List.length_drop,
    List.length_replicate]
  omega

end Bytes

namespace Word

/-- The word that at most 32 big-endian bytes write. -/
def ofBytes (bytes : Bytes) : Word :=
  BitVec.ofNat 256 bytes.toNat

/-- The 32 big-endian bytes of a word. -/
def toBytes (word : Word) : Bytes :=
  Bytes.ofNat 32 word.toNat

@[simp] theorem length_toBytes
    (word : Word) :
    word.toBytes.length = 32 := by
  simp [toBytes]

end Word

end LedgerEvm
