import LedgerEvm.Hash

namespace LedgerEvm.Sha256

/-!
# SHA-256

The standard compression of 64-byte blocks into eight 32-bit words.
-/

/-- The eight chaining words. -/
structure State where
  a : UInt32
  b : UInt32
  c : UInt32
  d : UInt32
  e : UInt32
  f : UInt32
  g : UInt32
  h : UInt32
  deriving Repr, DecidableEq

/-- The chaining words before any block. -/
def initialState : State :=
  ⟨0x6a09e667, 0xbb67ae85, 0x3c6ef372, 0xa54ff53a,
    0x510e527f, 0x9b05688c, 0x1f83d9ab, 0x5be0cd19⟩

/-- The constants of the sixty-four steps. -/
def stepConstants : List UInt32 :=
  [0x428a2f98, 0x71374491, 0xb5c0fbcf, 0xe9b5dba5, 0x3956c25b, 0x59f111f1, 0x923f82a4, 0xab1c5ed5,
   0xd807aa98, 0x12835b01, 0x243185be, 0x550c7dc3, 0x72be5d74, 0x80deb1fe, 0x9bdc06a7, 0xc19bf174,
   0xe49b69c1, 0xefbe4786, 0x0fc19dc6, 0x240ca1cc, 0x2de92c6f, 0x4a7484aa, 0x5cb0a9dc, 0x76f988da,
   0x983e5152, 0xa831c66d, 0xb00327c8, 0xbf597fc7, 0xc6e00bf3, 0xd5a79147, 0x06ca6351, 0x14292967,
   0x27b70a85, 0x2e1b2138, 0x4d2c6dfc, 0x53380d13, 0x650a7354, 0x766a0abb, 0x81c2c92e, 0x92722c85,
   0xa2bfe8a1, 0xa81a664b, 0xc24b8b70, 0xc76c51a3, 0xd192e819, 0xd6990624, 0xf40e3585, 0x106aa070,
   0x19a4c116, 0x1e376c08, 0x2748774c, 0x34b0bcb5, 0x391c0cb3, 0x4ed8aa4a, 0x5b9cca4f, 0x682e6ff3,
   0x748f82ee, 0x78a5636f, 0x84c87814, 0x8cc70208, 0x90befffa, 0xa4506ceb, 0xbef9a3f7, 0xc67178f2]

/-- A word turned toward its low end. -/
def turn (word amount : UInt32) : UInt32 :=
  (word >>> amount) ||| (word <<< (32 - amount))

/-- One step with its constant and its schedule word. -/
def step (state : State) (constant scheduled : UInt32) : State :=
  let mixE := turn state.e 6 ^^^ turn state.e 11 ^^^ turn state.e 25
  let choice := (state.e &&& state.f) ^^^ (~~~state.e &&& state.g)
  let first := state.h + mixE + choice + constant + scheduled
  let mixA := turn state.a 2 ^^^ turn state.a 13 ^^^ turn state.a 22
  let majority := (state.a &&& state.b) ^^^ (state.a &&& state.c) ^^^ (state.b &&& state.c)
  ⟨first + (mixA + majority), state.a, state.b, state.c, state.d + first,
    state.e, state.f, state.g⟩

/--
Run the steps whose constants remain.  The window holds the sixteen schedule
words from the current step on; each step drops the first and appends the next.
-/
def steps : List UInt32 → List UInt32 → State → State
  | constant :: constants,
    w0 :: w1 :: w2 :: w3 :: w4 :: w5 :: w6 :: w7 :: w8 :: w9 :: w10 :: w11 :: w12 :: w13 ::
      w14 :: w15 :: _, state =>
      let low := turn w1 7 ^^^ turn w1 18 ^^^ (w1 >>> 3)
      let high := turn w14 17 ^^^ turn w14 19 ^^^ (w14 >>> 10)
      let next := w0 + low + w9 + high
      steps constants
        [w1, w2, w3, w4, w5, w6, w7, w8, w9, w10, w11, w12, w13, w14, w15, next]
        (step state constant w0)
  | _, _, state => state

/-- Add the result of the steps on one block to the chaining words. -/
def compress (state : State) (block : List UInt32) : State :=
  let final := steps stepConstants block state
  ⟨state.a + final.a, state.b + final.b, state.c + final.c, state.d + final.d,
    state.e + final.e, state.f + final.f, state.g + final.g, state.h + final.h⟩

/-- The big-endian words that groups of four bytes write, behind those already read. -/
def wordsFrom (read : List UInt32) : List UInt8 → List UInt32
  | b0 :: b1 :: b2 :: b3 :: rest =>
      wordsFrom (UInt32.ofNat (Bytes.toNat [b0, b1, b2, b3]) :: read) rest
  | _ => read.reverse

/-- The big-endian words that consecutive groups of four bytes write. -/
def words (bytes : List UInt8) : List UInt32 :=
  wordsFrom [] bytes

/-- Compress whole blocks of sixteen words, one after the other. -/
def absorb (state : State) : List UInt32 → State
  | w0 :: w1 :: w2 :: w3 :: w4 :: w5 :: w6 :: w7 :: w8 :: w9 :: w10 :: w11 :: w12 :: w13 ::
      w14 :: w15 :: rest =>
      absorb
        (compress state
          [w0, w1, w2, w3, w4, w5, w6, w7, w8, w9, w10, w11, w12, w13, w14, w15])
        rest
  | _ => state

/-- The input, the marking byte, zeros and the bit length: a whole number of blocks. -/
def pad (bytes : Bytes) : Bytes :=
  let zeros := (119 - bytes.length % 64) % 64
  bytes ++ 0x80 :: List.replicate zeros 0 ++ Bytes.ofNat 8 (8 * bytes.length)

/-- The SHA-256 hash of a byte string. -/
def sha256 (bytes : Bytes) : Hash :=
  let final := absorb initialState (words (pad bytes))
  ⟨Word.ofBytes
    ([final.a, final.b, final.c, final.d, final.e, final.f, final.g, final.h].flatMap
      fun word => Bytes.ofNat 4 word.toNat)⟩

/-- The padded input fills its last block. -/
theorem length_pad
    (bytes : Bytes) :
    (pad bytes).length % 64 = 0 := by
  simp only [pad, List.length_append, List.length_cons, List.length_replicate,
    Bytes.length_ofNat]
  omega

end LedgerEvm.Sha256
