import MeshAttest.Curve.Basic

/-!
# Multiples of points

Points are added in projective coordinates, where `(x, y, z)` stands for the point with the
coordinates `x / z²` and `y / z³`, and for the neutral point if `z` is zero. `Curve.combination`
computes the sum of multiples of two points in one pass over the bits of both factors.
-/

set_option autoImplicit false

namespace MeshAttest

/-- A point in projective coordinates. -/
structure ProjectivePoint where
  x : Nat
  y : Nat
  z : Nat
deriving DecidableEq, Repr

namespace ProjectivePoint

/-- The neutral point. -/
def neutral : ProjectivePoint := ⟨1, 1, 0⟩

/-- A point with coordinates. -/
def ofPoint (point : Point) : ProjectivePoint := ⟨point.x, point.y, 1⟩

end ProjectivePoint

namespace Curve

/-- Twice a point. -/
def double (curve : Curve) (point : ProjectivePoint) : ProjectivePoint :=
  let p := curve.prime
  if point.z = 0 ∨ point.y = 0 then .neutral
  else
    let ySquare := point.y * point.y % p
    let zSquare := point.z * point.z % p
    let s := 4 * point.x * ySquare % p
    let m := (3 * point.x * point.x + curve.a * (zSquare * zSquare % p)) % p
    let x := Modular.sub p (m * m) (2 * s)
    let y := Modular.sub p (m * Modular.sub p s x) (8 * ySquare * ySquare)
    ⟨x, y, 2 * point.y * point.z % p⟩

/-- The sum of two points. -/
def add (curve : Curve) (first second : ProjectivePoint) : ProjectivePoint :=
  let p := curve.prime
  if first.z = 0 then second
  else if second.z = 0 then first
  else
    let firstSquare := first.z * first.z % p
    let secondSquare := second.z * second.z % p
    let u₁ := first.x * secondSquare % p
    let u₂ := second.x * firstSquare % p
    let s₁ := first.y * (secondSquare * second.z % p) % p
    let s₂ := second.y * (firstSquare * first.z % p) % p
    if u₁ = u₂ then
      if s₁ = s₂ then curve.double first else .neutral
    else
      let h := Modular.sub p u₂ u₁
      let r := Modular.sub p s₂ s₁
      let hSquare := h * h % p
      let hCube := hSquare * h % p
      let v := u₁ * hSquare % p
      let x := Modular.sub p (r * r) (hCube + 2 * v)
      let y := Modular.sub p (r * Modular.sub p v x) (s₁ * hCube)
      ⟨x, y, h * first.z % p * second.z % p⟩

/-- Goes through the bits of two factors below `2 ^ count`, most significant first. The points are
those to be added for a one bit of the first factor only, of the second only, and of both. -/
def combineFrom (curve : Curve) (first second both : ProjectivePoint) (m n : Nat) :
    Nat → ProjectivePoint → ProjectivePoint
  | 0, sum => sum
  | count + 1, sum =>
    let twice := curve.double sum
    let next := match m.testBit count, n.testBit count with
      | true, true => curve.add twice both
      | true, false => curve.add twice first
      | false, true => curve.add twice second
      | false, false => twice
    combineFrom curve first second both m n count next

/-- The sum of `m` times one point and `n` times another. -/
def combination (curve : Curve) (m : Nat) (first : Point) (n : Nat) (second : Point) :
    ProjectivePoint :=
  let p := ProjectivePoint.ofPoint first
  let q := ProjectivePoint.ofPoint second
  combineFrom curve p q (curve.add p q) m n ((max m n).log2 + 1) .neutral

/-- The first coordinate of a point, unless it is the neutral one. -/
def abscissa? (curve : Curve) (point : ProjectivePoint) : Option Nat :=
  if point.z = 0 then none
  else
    let inverse := Modular.inverse curve.prime point.z
    some (point.x * (inverse * inverse % curve.prime) % curve.prime)

end Curve

end MeshAttest
