import LedgerEvm.Address
import LedgerEvm.Hash
import LedgerEvm.Timestamp

namespace LedgerEvm

/-!
# Blocks

What a program can ask about the block it runs in, and the hashes of the blocks
before it.  The random value of a block is mixed from its hash and number, so a
replay sees the same value: rounds add a shifted copy of a 64-bit word to it or take
the exclusive or with one.
-/

namespace Mixing

/-- Add the word shifted toward its high end. -/
def addShifted (amount word : UInt64) : UInt64 :=
  word + (word <<< amount)

/-- Take the exclusive or with the word shifted toward its low end. -/
def xorShifted (amount word : UInt64) : UInt64 :=
  word ^^^ (word >>> amount)

/-- Nine alternating rounds with fixed shift amounts. -/
def permute (word : UInt64) : UInt64 :=
  let word := xorShifted 27 (addShifted 30 word)
  let word := xorShifted 20 (addShifted 16 word)
  let word := xorShifted 18 (addShifted 5 word)
  let word := xorShifted 24 (addShifted 10 word)
  addShifted 30 word

end Mixing

/-- The block a transaction runs in. -/
structure Block where
  number : UInt64 := 0
  timestamp : Timestamp := ⟨0⟩
  coinbase : Address := Address.ofNum 98
  gasLimit : UInt64 := 15000000
  baseFee : Word := 0
  chainId : UInt64 := 0x128
  hash : Hash := Hash.zero
  deriving Repr, DecidableEq

namespace Block

/-- The second of the block, zero before the epoch. -/
def seconds (block : Block) : Nat :=
  block.timestamp.seconds.toInt.toNat

/-- One quarter of a hash mixed with a block number. -/
def mixLane (number : UInt64) (lane : UInt64) : UInt64 :=
  Mixing.permute (lane ^^^ number)

/-- The four quarters of a word, the highest first. -/
def lanes (word : Word) : List UInt64 :=
  [192, 128, 64, 0].map fun place => ⟨word.extractLsb' place 64⟩

/-- The word of four quarters, the highest first. -/
def ofLanes (lanes : List UInt64) : Word :=
  lanes.foldl (fun word lane => (word <<< (64 : Nat)) ||| lane.toBitVec.setWidth 256) 0

/-- The random value of the block; a block without a hash has none but zero. -/
def randomSeed (block : Block) : Hash :=
  if block.hash.isZero then
    Hash.zero
  else
    ⟨ofLanes ((lanes block.hash.word).map (mixLane block.number))⟩

end Block

/-- The known hashes of blocks, by number. -/
structure BlockHashes where
  entries : List (UInt64 × Hash)
  deriving Repr, DecidableEq

namespace BlockHashes

/-- How far back hashes can be asked for. -/
def reach : Nat :=
  256

/-- The known hash of a block; of two entries the later one counts. -/
def get? (hashes : BlockHashes) (number : UInt64) : Option Hash :=
  (hashes.entries.reverse.find? fun entry => entry.1 == number).map Prod.snd

/-- The hash that a program in the current block may read. -/
def visible? (hashes : BlockHashes) (number current : UInt64) : Option Hash :=
  if number < current ∧ current.toNat - number.toNat ≤ reach then
    hashes.get? number
  else
    none

end BlockHashes

end LedgerEvm
