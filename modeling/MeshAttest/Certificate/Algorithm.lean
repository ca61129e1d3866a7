import MeshAttest.Certificate.OctetKey
import MeshAttest.Certificate.Parameters

/-!
# Algorithms of keys

`Algorithm.ofElement?` reads an algorithm identifier and tells what kind of keys the algorithm has.
The algorithms that are known, and what they are called, are those of `cryptography` 50.
-/

set_option autoImplicit false

namespace MeshAttest

/-- An algorithm, as far as keys are told apart by it. -/
inductive Algorithm where
  | ellipticCurve (parameters : CurveParameters)
  | rsa
  /-- Signatures by discrete logarithms. -/
  | dsa
  /-- Key agreement by discrete logarithms. -/
  | diffieHellman
  /-- The keys are strings of octets. -/
  | octets (kind : OctetKey)
  | other
deriving DecidableEq, Repr

namespace Algorithm

/-- The name of keys on elliptic curves. -/
def ellipticCurveId : List Nat := [1, 2, 840, 10045, 2, 1]

/-- The names of all other keys that are known. -/
def known : List (List Nat × Algorithm) :=
  [([1, 2, 840, 113549, 1, 1, 1], .rsa),
   ([1, 2, 840, 113549, 1, 1, 10], .rsa),
   ([1, 2, 840, 10040, 4, 1], .dsa),
   ([1, 2, 840, 113549, 1, 3, 1], .diffieHellman),
   ([1, 2, 840, 10046, 2, 1], .diffieHellman),
   ([1, 3, 101, 110], .octets .x25519),
   ([1, 3, 101, 111], .octets .x448),
   ([1, 3, 101, 112], .octets .ed25519),
   ([1, 3, 101, 113], .octets .ed448),
   ([2, 16, 840, 1, 101, 3, 4, 3, 17], .octets .mlDsa44),
   ([2, 16, 840, 1, 101, 3, 4, 3, 18], .octets .mlDsa65),
   ([2, 16, 840, 1, 101, 3, 4, 3, 19], .octets .mlDsa87),
   ([2, 16, 840, 1, 101, 3, 4, 4, 2], .octets .mlKem768),
   ([2, 16, 840, 1, 101, 3, 4, 4, 3], .octets .mlKem1024)]

/-- The algorithm of an identifier. -/
def ofIdentifier (identifier : AlgorithmIdentifier) : Algorithm :=
  if identifier.name = ellipticCurveId then
    match identifier.parameters.head?.bind CurveParameters.ofElement? with
    | some parameters => .ellipticCurve parameters
    | none => .other
  else (known.lookup identifier.name).getD .other

/-- Reads an algorithm identifier. -/
def ofElement? (element : Der.Element) : Option Algorithm :=
  (AlgorithmIdentifier.ofElement? element).map ofIdentifier

end Algorithm

end MeshAttest
