import LedgerEvm.Bytes

namespace LedgerEvm

/-!
# Hashes

A hash is a 256-bit word that is only compared and shown, never computed with.
-/

/-- A 32-byte hash. -/
structure Hash where
  word : Word
  deriving Repr, DecidableEq

namespace Hash

instance : Inhabited Hash := ⟨⟨0⟩⟩

/-- The hash of zero bytes, which stands for no hash. -/
def zero : Hash :=
  ⟨0⟩

/-- The hash that exactly 32 bytes write. -/
def ofBytes? (bytes : Bytes) : Option Hash :=
  if bytes.length = 32 then some ⟨Word.ofBytes bytes⟩ else none

/-- The 32 big-endian bytes of a hash. -/
def toBytes (hash : Hash) : Bytes :=
  hash.word.toBytes

/-- All bytes of the hash in hexadecimal. -/
def text (hash : Hash) : String :=
  hash.toBytes.toHex

/-- The first and the last four bytes of the hash. -/
def shortText (hash : Hash) : String :=
  Bytes.toHex (hash.toBytes.take 4) ++ "..." ++ Bytes.hexText (hash.toBytes.drop 28)

/-- Whether every byte is zero. -/
def isZero (hash : Hash) : Bool :=
  hash.word == 0

end Hash

end LedgerEvm
