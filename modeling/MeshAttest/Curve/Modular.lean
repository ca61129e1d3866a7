/-!
# Arithmetic modulo a prime

Numbers below a modulus stand for the elements of its residue ring. Inverses and square roots are
computed by powers; both are right for an odd prime modulus.
-/

set_option autoImplicit false

namespace MeshAttest.Modular

/-- The difference of two residues. -/
def sub (modulus x y : Nat) : Nat := (x + (modulus - y % modulus)) % modulus

/-- A power of a residue. -/
def pow (modulus base exponent : Nat) : Nat :=
  if exponent = 0 then 1 % modulus
  else
    let half := pow modulus (base * base % modulus) (exponent / 2)
    if exponent % 2 = 1 then base * half % modulus else half
termination_by exponent

/-- The inverse of a residue that is not zero. -/
def inverse (modulus x : Nat) : Nat := pow modulus x (modulus - 2)

/-- Multiplies a root by powers of a root of unity until the residual, which is the square of the
root divided by the number in question, is one. The residual has an order of at most `2 ^ steps`,
and so has the square of the root of unity. -/
def adjustRoot (modulus : Nat) : Nat → Nat → Nat → Nat → Nat
  | 0, root, _, _ => root
  | steps + 1, root, residual, unity =>
    let square := unity * unity % modulus
    if pow modulus residual (1 <<< steps) = 1 then adjustRoot modulus steps root residual square
    else
      adjustRoot modulus steps (root * unity % modulus) (residual * square % modulus) square

/-- A square root of a residue, if it has one. The modulus less one is an odd number times
`2 ^ twoPower`, and `nonResidue` has no square root. -/
def sqrt? (modulus twoPower nonResidue x : Nat) : Option Nat :=
  let odd := (modulus - 1) >>> twoPower
  let root := adjustRoot modulus (twoPower - 1) (pow modulus x ((odd + 1) / 2)) (pow modulus x odd)
    (pow modulus nonResidue odd)
  if root * root % modulus = x % modulus then some root else none

end MeshAttest.Modular
