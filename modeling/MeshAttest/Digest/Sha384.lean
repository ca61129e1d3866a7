import MeshAttest.Bytes

/-!
# The SHA-384 digest

The message is padded with a one bit, zeros and its length in bits to blocks of sixteen words of 64
bits. Every block goes through eighty rounds on a state of eight words; the digest is six of them.

The rounds keep a window of sixteen words of the message schedule: its first word is used in the
round, and the word that follows the window is appended.
-/

set_option autoImplicit false

namespace MeshAttest.Sha384

/-- The round constants. -/
def roundConstants : List UInt64 :=
  [0x428a2f98d728ae22, 0x7137449123ef65cd, 0xb5c0fbcfec4d3b2f, 0xe9b5dba58189dbbc,
   0x3956c25bf348b538, 0x59f111f1b605d019, 0x923f82a4af194f9b, 0xab1c5ed5da6d8118,
   0xd807aa98a3030242, 0x12835b0145706fbe, 0x243185be4ee4b28c, 0x550c7dc3d5ffb4e2,
   0x72be5d74f27b896f, 0x80deb1fe3b1696b1, 0x9bdc06a725c71235, 0xc19bf174cf692694,
   0xe49b69c19ef14ad2, 0xefbe4786384f25e3, 0x0fc19dc68b8cd5b5, 0x240ca1cc77ac9c65,
   0x2de92c6f592b0275, 0x4a7484aa6ea6e483, 0x5cb0a9dcbd41fbd4, 0x76f988da831153b5,
   0x983e5152ee66dfab, 0xa831c66d2db43210, 0xb00327c898fb213f, 0xbf597fc7beef0ee4,
   0xc6e00bf33da88fc2, 0xd5a79147930aa725, 0x06ca6351e003826f, 0x142929670a0e6e70,
   0x27b70a8546d22ffc, 0x2e1b21385c26c926, 0x4d2c6dfc5ac42aed, 0x53380d139d95b3df,
   0x650a73548baf63de, 0x766a0abb3c77b2a8, 0x81c2c92e47edaee6, 0x92722c851482353b,
   0xa2bfe8a14cf10364, 0xa81a664bbc423001, 0xc24b8b70d0f89791, 0xc76c51a30654be30,
   0xd192e819d6ef5218, 0xd69906245565a910, 0xf40e35855771202a, 0x106aa07032bbd1b8,
   0x19a4c116b8d2d0c8, 0x1e376c085141ab53, 0x2748774cdf8eeb99, 0x34b0bcb5e19b48a8,
   0x391c0cb3c5c95a63, 0x4ed8aa4ae3418acb, 0x5b9cca4f7763e373, 0x682e6ff3d6b2b8a3,
   0x748f82ee5defb2fc, 0x78a5636f43172f60, 0x84c87814a1f0ab72, 0x8cc702081a6439ec,
   0x90befffa23631e28, 0xa4506cebde82bde9, 0xbef9a3f7b2c67915, 0xc67178f2e372532b,
   0xca273eceea26619c, 0xd186b8c721c0c207, 0xeada7dd6cde0eb1e, 0xf57d4f7fee6ed178,
   0x06f067aa72176fba, 0x0a637dc5a2c898a6, 0x113f9804bef90dae, 0x1b710b35131c471b,
   0x28db77f523047d84, 0x32caab7b40c72493, 0x3c9ebe0a15c9bebc, 0x431d67c49c100d4c,
   0x4cc5d4becb3e42b6, 0x597f299cfc657e2a, 0x5fcb6fab3ad6faec, 0x6c44198c4a475817]

/-- The eight words that a block changes. -/
structure State where
  a : UInt64
  b : UInt64
  c : UInt64
  d : UInt64
  e : UInt64
  f : UInt64
  g : UInt64
  h : UInt64
deriving DecidableEq, Repr

/-- The words before the first block. -/
def initial : State :=
  ⟨0xcbbb9d5dc1059ed8, 0x629a292a367cd507, 0x9159015a3070dd17,
   0x152fecd8f70e5939, 0x67332667ffc00b31, 0x8eb44a8768581511,
   0xdb0c2e0d64f98fa7, 0x47b5481dbefa4fa4⟩

/-- A word rotated to the right. -/
def rotate (word : UInt64) (count : UInt64) : UInt64 :=
  (word >>> count) ||| (word <<< (64 - count))

/-- The mixing function of the first state word. -/
def sum0 (x : UInt64) : UInt64 := rotate x 28 ^^^ rotate x 34 ^^^ rotate x 39

/-- The mixing function of the fifth state word. -/
def sum1 (x : UInt64) : UInt64 := rotate x 14 ^^^ rotate x 18 ^^^ rotate x 41

/-- The mixing function of the schedule word fifteen places back. -/
def sigma0 (x : UInt64) : UInt64 := rotate x 1 ^^^ rotate x 8 ^^^ (x >>> 7)

/-- The mixing function of the schedule word two places back. -/
def sigma1 (x : UInt64) : UInt64 := rotate x 19 ^^^ rotate x 61 ^^^ (x >>> 6)

/-- The word that follows sixteen consecutive words of the schedule. -/
def nextWord (window : List UInt64) : UInt64 :=
  sigma1 (window.getD 14 0) + window.getD 9 0 + sigma0 (window.getD 1 0) + window.getD 0 0

/-- One round, with a constant and a word of the schedule. -/
def round (state : State) (constant word : UInt64) : State :=
  let choice := (state.e &&& state.f) ^^^ (~~~state.e &&& state.g)
  let majority := (state.a &&& state.b) ^^^ (state.a &&& state.c) ^^^ (state.b &&& state.c)
  let first := state.h + sum1 state.e + choice + constant + word
  let second := sum0 state.a + majority
  ⟨first + second, state.a, state.b, state.c, state.d + first, state.e, state.f, state.g⟩

/-- The rounds for a list of constants, starting with a window of the schedule. -/
def rounds (state : State) (window : List UInt64) : List UInt64 → State
  | [] => state
  | constant :: rest =>
    rounds (round state constant (window.getD 0 0)) (window.drop 1 ++ [nextWord window]) rest

/-- The state after a block of sixteen words. -/
def compress (state : State) (block : List UInt64) : State :=
  let after := rounds state block roundConstants
  ⟨state.a + after.a, state.b + after.b, state.c + after.c, state.d + after.d,
   state.e + after.e, state.f + after.f, state.g + after.g, state.h + after.h⟩

/-- The words of whole groups of eight octets, most significant octet first. -/
def words : Bytes → List UInt64
  | a :: b :: c :: d :: e :: f :: g :: h :: rest =>
    UInt64.ofNat (Bytes.toNatBE [a, b, c, d, e, f, g, h]) :: words rest
  | _ => []

/-- A message with its padding: a one bit, as few zeros as fill the last block, and the length. -/
def pad (message : Bytes) : Bytes :=
  let zeros := (239 - message.length % 128) % 128
  message ++ 0x80 :: (List.replicate zeros 0 ++ Bytes.ofNatBE 16 (8 * message.length))

/-- The state after all blocks of a list of words. -/
def compressAll (state : State) : List UInt64 → State
  | [] => state
  | word :: rest => compressAll (compress state (word :: rest.take 15)) (rest.drop 15)
termination_by words => words.length
decreasing_by
  simp only [List.length_drop, List.length_cons]
  omega

/-- The digest of a message: 48 octets. -/
def digest (message : Bytes) : Bytes :=
  let state := compressAll initial (words (pad message))
  [state.a, state.b, state.c, state.d, state.e, state.f].flatMap fun word ↦
    Bytes.ofNatBE 8 word.toNat

end MeshAttest.Sha384
