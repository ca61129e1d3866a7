import MeshAttest.Bytes

/-!
# Keys that are octets

The public keys of some algorithms have no structure in a certificate: they are strings of octets of
a length that the algorithm fixes. In a key for agreeing on a secret by lattices the octets are the
coordinates of a vector, twelve bits each, which are below the modulus, and a seed. What is checked
of them is what `cryptography` 50 checks.
-/

set_option autoImplicit false

namespace MeshAttest

/-- A kind of key that is a string of octets. -/
inductive OctetKey where
  | ed25519
  | ed448
  | x25519
  | x448
  | mlDsa44
  | mlDsa65
  | mlDsa87
  | mlKem768
  | mlKem1024
deriving DecidableEq, Repr

namespace OctetKey

/-- The name of a kind of key. -/
def name : OctetKey → String
  | .ed25519 => "Ed25519PublicKey"
  | .ed448 => "Ed448PublicKey"
  | .x25519 => "X25519PublicKey"
  | .x448 => "X448PublicKey"
  | .mlDsa44 => "MLDSA44PublicKey"
  | .mlDsa65 => "MLDSA65PublicKey"
  | .mlDsa87 => "MLDSA87PublicKey"
  | .mlKem768 => "MLKEM768PublicKey"
  | .mlKem1024 => "MLKEM1024PublicKey"

/-- The number of octets of a key. -/
def size : OctetKey → Nat
  | .ed25519 => 32
  | .ed448 => 57
  | .x25519 => 32
  | .x448 => 56
  | .mlDsa44 => 1312
  | .mlDsa65 => 1952
  | .mlDsa87 => 2592
  | .mlKem768 => 1184
  | .mlKem1024 => 1568

/-- The modulus of the coordinates of lattice vectors. -/
def modulus : Nat := 3329

/-- Whether all numbers of twelve bits in a row are below the modulus. Three octets hold two. -/
def isReduced : Bytes → Bool
  | first :: second :: third :: rest =>
    first.toNat + 256 * (second.toNat % 16) < modulus
      && second.toNat / 16 + 16 * third.toNat < modulus && isReduced rest
  | _ => true

/-- The number of octets of the seed behind a vector. -/
def seedSize : Nat := 32

/-- Whether octets are a key of a kind. -/
def isKey (kind : OctetKey) (octets : Bytes) : Bool :=
  octets.length == kind.size && match kind with
    | .mlKem768 | .mlKem1024 => isReduced (octets.take (kind.size - seedSize))
    | _ => true

end OctetKey

end MeshAttest
