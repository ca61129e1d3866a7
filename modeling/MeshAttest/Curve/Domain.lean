import MeshAttest.Curve.Named
import MeshAttest.Der.Primitive

/-!
# Curves that are given by their parameters

Instead of naming its curve a key may spell out the field, the coefficients, the base point and its
order. `Curve.ofDomain?` recognizes three curves in this form; no other curve is known by its
parameters alone.
-/

set_option autoImplicit false

namespace MeshAttest

/-- The parameters of a curve. -/
structure CurveDomain where
  version : Nat
  /-- The prime of the field, unless the field is of another kind. -/
  prime : Option Nat
  a : Bytes
  b : Bytes
  /-- The seed that the coefficients are derived from. -/
  seed : Option Der.BitString
  base : Bytes
  order : Nat
  cofactor : Option Nat
deriving DecidableEq, Repr

namespace Curve

/-- The parameters of a curve of prime order. Coefficients take as many octets as coordinates. -/
def domain (curve : Curve) (seed : Option Der.BitString) : CurveDomain where
  version := 1
  prime := some curve.prime
  a := Bytes.ofNatBE curve.coordinateSize curve.a
  b := Bytes.ofNatBE curve.coordinateSize curve.b
  seed := seed
  base := curve.encodePoint curve.base
  order := curve.order
  cofactor := some 1

/-- The curves that are recognized by their parameters, with their seeds. -/
def recognized : List (Curve × Nat) :=
  [(secp256r1, 0xc49d360886e704936a6678e1139d26b7819f7e90),
   (secp384r1, 0xa335926aa319a27a1d00896a6773a4827acdac73),
   (secp521r1, 0xd09e8800291cb85396cc6717393284aaa0da64ba)]

/-- The curve of parameters. Its seed may be left out. -/
def ofDomain? (domain : CurveDomain) : Option Curve :=
  (recognized.find? fun (curve, seed) ↦
    decide (domain = curve.domain none)
      || decide (domain = curve.domain (some ⟨0, Bytes.ofNatBE 20 seed⟩))).map (·.1)

end Curve

end MeshAttest
