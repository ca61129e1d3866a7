import MeshAttest.Curve.Multiple
import MeshAttest.Curve.Named
import MeshAttest.Digest.Sha384

/-!
# Elliptic-curve signatures

A signature is a pair of numbers below the order of the base point. `Es384.verify` checks one that
is written as two numbers of 48 octets, on the curve secp384r1 over the SHA-384 digest of the
message.
-/

set_option autoImplicit false

namespace MeshAttest

namespace Curve

/-- Whether `(r, s)` is a signature of a digest under a public key. The digest is given as a number
that has no more bits than the order. -/
def verifies (curve : Curve) (key : Point) (digest r s : Nat) : Bool :=
  let n := curve.order
  if r = 0 ∨ n ≤ r ∨ s = 0 ∨ n ≤ s then false
  else
    let w := Modular.inverse n s
    let sum := curve.combination (digest * w % n) curve.base (r * w % n) key
    match curve.abscissa? sum with
    | some x => x % n == r
    | none => false

end Curve

namespace Es384

/-- The number of octets of a signature. -/
def signatureSize : Nat := 96

/-- Whether octets are a signature of a message under a public key. -/
def verify (key : Point) (message signature : Bytes) : Bool :=
  signature.length == signatureSize
    && Curve.secp384r1.verifies key (Bytes.toNatBE (Sha384.digest message))
      (Bytes.toNatBE (signature.take 48)) (Bytes.toNatBE (signature.drop 48))

end Es384

end MeshAttest
