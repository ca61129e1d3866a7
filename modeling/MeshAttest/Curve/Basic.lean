import MeshAttest.Bytes
import MeshAttest.Curve.Modular

/-!
# Elliptic curves and their points

A curve is the set of solutions of `y² = x³ + a x + b` over a prime field, with a base point of
prime order. `Curve.decodePoint?` reads the octets of a point: both coordinates, or one coordinate
and the parity of the other, or both coordinates and the parity. `Curve.encodePoint` writes both
coordinates.
-/

set_option autoImplicit false

namespace MeshAttest

/-- A curve over a prime field. -/
structure Curve where
  name : String
  prime : Nat
  a : Nat
  b : Nat
  baseX : Nat
  baseY : Nat
  order : Nat
  /-- The exponent of two in the factorization of `prime - 1`. -/
  twoPower : Nat
  /-- A residue without a square root. -/
  nonResidue : Nat
deriving DecidableEq, Repr

/-- A point with coordinates. -/
structure Point where
  x : Nat
  y : Nat
deriving DecidableEq, Repr

namespace Curve

/-- The base point. -/
def base (curve : Curve) : Point := ⟨curve.baseX, curve.baseY⟩

/-- The number of octets of a coordinate. -/
def coordinateSize (curve : Curve) : Nat := curve.prime.log2 / 8 + 1

/-- The right-hand side of the equation of a curve. -/
def cubic (curve : Curve) (x : Nat) : Nat :=
  ((x * x + curve.a) % curve.prime * x + curve.b) % curve.prime

/-- Whether a point has coordinates in the field and satisfies the equation. -/
def contains (curve : Curve) (point : Point) : Bool :=
  point.x < curve.prime && point.y < curve.prime
    && point.y * point.y % curve.prime == curve.cubic point.x

/-- The point with a given first coordinate whose second coordinate has a given parity. -/
def lift? (curve : Curve) (x : Nat) (parity : Nat) : Option Point :=
  if curve.prime ≤ x then none
  else match Modular.sqrt? curve.prime curve.twoPower curve.nonResidue (curve.cubic x) with
    | none => none
    | some root =>
      if root % 2 = parity then some ⟨x, root⟩
      else if root = 0 then none
      else some ⟨x, curve.prime - root⟩

/-- Reads a point. -/
def decodePoint? (curve : Curve) (octets : Bytes) : Option Point :=
  match octets with
  | [] => none
  | form :: coordinates =>
    let size := curve.coordinateSize
    let x := Bytes.toNatBE (coordinates.take size)
    let y := Bytes.toNatBE (coordinates.drop size)
    let checked := if curve.contains ⟨x, y⟩ then some ⟨x, y⟩ else none
    if form = 2 ∨ form = 3 then
      if coordinates.length = size then curve.lift? x (form.toNat % 2) else none
    else if coordinates.length ≠ 2 * size then none
    else if form = 4 then checked
    else if form = 6 ∨ form = 7 then if y % 2 = form.toNat % 2 then checked else none
    else none

/-- Writes both coordinates of a point. -/
def encodePoint (curve : Curve) (point : Point) : Bytes :=
  4 :: (Bytes.ofNatBE curve.coordinateSize point.x
    ++ Bytes.ofNatBE curve.coordinateSize point.y)

end Curve

end MeshAttest
