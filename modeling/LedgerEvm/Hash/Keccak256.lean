import LedgerEvm.Hash

namespace LedgerEvm.Keccak

/-!
# Keccak-256

The sponge over the 1600-bit permutation, with the padding byte 1 and 136 bytes
per block.  The state is five planes of five 64-bit lanes; each step of a round is
an operation on whole planes.
-/

/-- Five lanes with the same vertical coordinate. -/
structure Plane where
  lane0 : UInt64
  lane1 : UInt64
  lane2 : UInt64
  lane3 : UInt64
  lane4 : UInt64
  deriving Repr, DecidableEq

namespace Plane

/-- The plane of zero lanes. -/
def zero : Plane :=
  ⟨0, 0, 0, 0, 0⟩

/-- The lane-wise exclusive or. -/
def xor (left right : Plane) : Plane :=
  ⟨left.lane0 ^^^ right.lane0, left.lane1 ^^^ right.lane1, left.lane2 ^^^ right.lane2,
    left.lane3 ^^^ right.lane3, left.lane4 ^^^ right.lane4⟩

/-- A lane turned toward its high end. -/
def turn (lane : UInt64) (amount : UInt64) : UInt64 :=
  (lane <<< amount) ||| (lane >>> (64 - amount))

/-- Every lane mixed with the two lanes after it. -/
def chi (plane : Plane) : Plane :=
  ⟨plane.lane0 ^^^ (~~~plane.lane1 &&& plane.lane2),
    plane.lane1 ^^^ (~~~plane.lane2 &&& plane.lane3),
    plane.lane2 ^^^ (~~~plane.lane3 &&& plane.lane4),
    plane.lane3 ^^^ (~~~plane.lane4 &&& plane.lane0),
    plane.lane4 ^^^ (~~~plane.lane0 &&& plane.lane1)⟩

/-- The mask that a plane of column parities puts on every plane. -/
def parityMask (parity : Plane) : Plane :=
  ⟨parity.lane4 ^^^ turn parity.lane1 1,
    parity.lane0 ^^^ turn parity.lane2 1,
    parity.lane1 ^^^ turn parity.lane3 1,
    parity.lane2 ^^^ turn parity.lane4 1,
    parity.lane3 ^^^ turn parity.lane0 1⟩

end Plane

/-- The state of the permutation. -/
structure State where
  plane0 : Plane
  plane1 : Plane
  plane2 : Plane
  plane3 : Plane
  plane4 : Plane
  deriving Repr, DecidableEq

namespace State

/-- The state before any input. -/
def zero : State :=
  ⟨.zero, .zero, .zero, .zero, .zero⟩

/-- Every column mixed with the parities of its two neighbours. -/
def theta (state : State) : State :=
  let parity :=
    state.plane0.xor (state.plane1.xor (state.plane2.xor (state.plane3.xor state.plane4)))
  let mask := parity.parityMask
  ⟨state.plane0.xor mask, state.plane1.xor mask, state.plane2.xor mask,
    state.plane3.xor mask, state.plane4.xor mask⟩

/-- Every lane turned by its own amount. -/
def rho (state : State) : State :=
  let ⟨a, b, c, d, e⟩ := state
  ⟨⟨a.lane0, Plane.turn a.lane1 1, Plane.turn a.lane2 62, Plane.turn a.lane3 28,
      Plane.turn a.lane4 27⟩,
    ⟨Plane.turn b.lane0 36, Plane.turn b.lane1 44, Plane.turn b.lane2 6, Plane.turn b.lane3 55,
      Plane.turn b.lane4 20⟩,
    ⟨Plane.turn c.lane0 3, Plane.turn c.lane1 10, Plane.turn c.lane2 43, Plane.turn c.lane3 25,
      Plane.turn c.lane4 39⟩,
    ⟨Plane.turn d.lane0 41, Plane.turn d.lane1 45, Plane.turn d.lane2 15, Plane.turn d.lane3 21,
      Plane.turn d.lane4 8⟩,
    ⟨Plane.turn e.lane0 18, Plane.turn e.lane1 2, Plane.turn e.lane2 61, Plane.turn e.lane3 56,
      Plane.turn e.lane4 14⟩⟩

/-- Every lane moved to its new place. -/
def pi (state : State) : State :=
  let ⟨a, b, c, d, e⟩ := state
  ⟨⟨a.lane0, b.lane1, c.lane2, d.lane3, e.lane4⟩,
    ⟨a.lane3, b.lane4, c.lane0, d.lane1, e.lane2⟩,
    ⟨a.lane1, b.lane2, c.lane3, d.lane4, e.lane0⟩,
    ⟨a.lane4, b.lane0, c.lane1, d.lane2, e.lane3⟩,
    ⟨a.lane2, b.lane3, c.lane4, d.lane0, e.lane1⟩⟩

/-- Every plane mixed within itself. -/
def chi (state : State) : State :=
  ⟨state.plane0.chi, state.plane1.chi, state.plane2.chi, state.plane3.chi, state.plane4.chi⟩

/-- The constant of a round mixed into the first lane. -/
def iota (constant : UInt64) (state : State) : State :=
  { state with plane0 := { state.plane0 with lane0 := state.plane0.lane0 ^^^ constant } }

/-- One round of the permutation. -/
def round (state : State) (constant : UInt64) : State :=
  state.theta.rho.pi.chi.iota constant

end State

/-- The constants of the twenty-four rounds. -/
def roundConstants : List UInt64 :=
  [0x0000000000000001, 0x0000000000008082, 0x800000000000808a, 0x8000000080008000,
   0x000000000000808b, 0x0000000080000001, 0x8000000080008081, 0x8000000000008009,
   0x000000000000008a, 0x0000000000000088, 0x0000000080008009, 0x000000008000000a,
   0x000000008000808b, 0x800000000000008b, 0x8000000000008089, 0x8000000000008003,
   0x8000000000008002, 0x8000000000000080, 0x000000000000800a, 0x800000008000000a,
   0x8000000080008081, 0x8000000000008080, 0x0000000080000001, 0x8000000080008008]

/-- The permutation of the state. -/
def permute (state : State) : State :=
  roundConstants.foldl State.round state

/-- Eight bytes as a lane, least significant byte first. -/
def lane (bytes : List UInt8) : UInt64 :=
  bytes.foldr (fun byte value => value * 256 + byte.toUInt64) 0

/-- The lanes that consecutive groups of eight bytes write, behind those already read. -/
def lanesFrom (read : List UInt64) : List UInt8 → List UInt64
  | b0 :: b1 :: b2 :: b3 :: b4 :: b5 :: b6 :: b7 :: rest =>
      lanesFrom (lane [b0, b1, b2, b3, b4, b5, b6, b7] :: read) rest
  | _ => read.reverse

/-- The lanes that consecutive groups of eight bytes write. -/
def lanes (bytes : List UInt8) : List UInt64 :=
  lanesFrom [] bytes

/-- Mix whole blocks of seventeen lanes into the state, one after the other. -/
def absorb (state : State) : List UInt64 → State
  | a0 :: a1 :: a2 :: a3 :: a4 :: b0 :: b1 :: b2 :: b3 :: b4 ::
      c0 :: c1 :: c2 :: c3 :: c4 :: d0 :: d1 :: rest =>
      let mixed : State :=
        { state with
          plane0 := state.plane0.xor ⟨a0, a1, a2, a3, a4⟩
          plane1 := state.plane1.xor ⟨b0, b1, b2, b3, b4⟩
          plane2 := state.plane2.xor ⟨c0, c1, c2, c3, c4⟩
          plane3 := state.plane3.xor ⟨d0, d1, 0, 0, 0⟩ }
      absorb (permute mixed) rest
  | _ => state

/-- The number of bytes in a block. -/
def blockSize : Nat :=
  136

/-- The input followed by its padding, a whole number of blocks. -/
def pad (bytes : Bytes) : Bytes :=
  let missing := blockSize - bytes.length % blockSize
  if missing = 1 then
    bytes ++ [0x81]
  else
    bytes ++ 0x01 :: List.replicate (missing - 2) 0 ++ [0x80]

/-- A lane as eight bytes, least significant byte first. -/
def laneBytes (value : UInt64) : Bytes :=
  (Bytes.ofNat 8 value.toNat).reverse

/-- The Keccak-256 hash of a byte string. -/
def keccak256 (bytes : Bytes) : Hash :=
  let state := absorb .zero (lanes (pad bytes))
  let first := state.plane0
  ⟨Word.ofBytes
    (laneBytes first.lane0 ++ laneBytes first.lane1 ++ laneBytes first.lane2 ++
      laneBytes first.lane3)⟩

/-- The padded input fills its last block. -/
theorem length_pad
    (bytes : Bytes) :
    (pad bytes).length % blockSize = 0 := by
  have below : bytes.length % blockSize < blockSize :=
    Nat.mod_lt _ (by decide)
  simp only [blockSize] at below
  by_cases last : 136 - bytes.length % 136 = 1
  · simp only [pad, blockSize, last, ↓reduceIte, List.length_append, List.length_cons,
      List.length_nil]
    omega
  · simp only [pad, blockSize, last, ↓reduceIte, List.length_append, List.length_cons,
      List.length_replicate, List.length_nil]
    omega

end LedgerEvm.Keccak
