import MeshAttest.Certificate.Basic
import MeshAttest.Curve.Named

/-!
# The key of a certificate

`Certificate.verificationKey` takes from a certificate the key that signatures are checked with, a
point on the curve secp384r1. All other keys are refused: those that cannot be read, and those of
another kind or on another curve, which are named.

When a version or a key is refused, and as what, is as in `cryptography` 50: the version is judged
before the key, and a key may have a known algorithm and still be no key.
-/

set_option autoImplicit false

namespace MeshAttest

/-- Why a certificate has no key to check signatures with. -/
inductive CertificateFault where
  /-- The octets are no certificate. -/
  | malformed
  /-- The version of the certificate is unknown. -/
  | version (version : Nat)
  /-- The algorithm of the key, or its curve, is unknown. -/
  | unsupportedAlgorithm
  /-- The key is none of its algorithm. -/
  | invalidKey
  /-- The key is of another kind. -/
  | keyType (name : String)
  /-- The key lies on another curve. -/
  | curve (name : String)
deriving DecidableEq, Repr

/-- The message of a fault. -/
def CertificateFault.message : CertificateFault → String
  | .malformed => "Failed to parse certificate"
  | .version number => s!"{number} is not a valid X509 version"
  | .unsupportedAlgorithm => "Unsupported key algorithm"
  | .invalidKey => "Invalid key"
  | .keyType name => s!"Unsupported public key type: {name}"
  | .curve name => s!"Unsupported curve: {name}"

/-- A public key that can be read. -/
inductive PublicKey where
  | point (curve : Curve) (point : Point)
  /-- A key of a kind that no signature of a verdict is checked with. -/
  | other (kind : String)
deriving DecidableEq, Repr

namespace PublicKeyInfo

/-- The value that octets encode as fields in one element of a type. -/
def decode? {α : Type} (fields : Der.Fields α) (octets : Bytes) : Option α :=
  (Der.elements? octets).bind fields.fill?

/-- Whether octets are an RSA key: a modulus, and an odd exponent from three on below it. -/
def isRsaKey (octets : Bytes) : Bool :=
  let key : Der.Fields (Nat × Nat) := do return (← Der.Fields.natural, ← Der.Fields.natural)
  match decode? key.sequence octets with
  | some (modulus, exponent) => 3 ≤ exponent && exponent < modulus && exponent % 2 == 1
  | none => false

/-- Whether octets are a power of a generator. -/
def isPower (octets : Bytes) : Bool := (decode? Der.Fields.natural octets).isSome

/-- A key of another kind, if its octets are right. -/
def other (kind : String) (isRight : Bool) : Except CertificateFault PublicKey :=
  if isRight then .ok (.other kind) else .error .invalidKey

/-- The key that whole octets are under an algorithm. -/
def keyOfOctets (octets : Bytes) : Algorithm → Except CertificateFault PublicKey
  | .ellipticCurve parameters =>
    match parameters.curve? with
    | none => .error .unsupportedAlgorithm
    | some curve =>
      match curve.decodePoint? octets with
      | none => .error .invalidKey
      | some point => .ok (.point curve point)
  | .rsa => other "RSAPublicKey" (isRsaKey octets)
  | .dsa => other "DSAPublicKey" (isPower octets)
  | .diffieHellman => other "DHPublicKey" (isPower octets)
  | .octets kind => other kind.name (kind.isKey octets)
  | .other => .error .unsupportedAlgorithm

/-- Reads the key. No key has unused bits. -/
def publicKey (info : PublicKeyInfo) : Except CertificateFault PublicKey :=
  if info.key.unused ≠ 0 then .error .invalidKey
  else keyOfOctets info.key.octets info.algorithm

end PublicKeyInfo

namespace Certificate

/-- The key that signatures are checked with. The versions one and three are known. -/
def verificationKey (octets : Bytes) : Except CertificateFault Point :=
  match ofOctets? octets with
  | none => .error .malformed
  | some certificate =>
    if certificate.version ≠ 0 ∧ certificate.version ≠ 2 then
      .error (.version certificate.version)
    else match certificate.publicKey.publicKey with
      | .error fault => .error fault
      | .ok (.other kind) => .error (.keyType kind)
      | .ok (.point curve point) =>
        if curve = Curve.secp384r1 then .ok point else .error (.curve curve.name)

end Certificate

end MeshAttest
