import MeshAttest.Curve.Basic
import Mathlib.Tactic.Ring

/-!
# Points that are read lie on the curve

A point is only good as a key if it satisfies the equation of its curve. Where octets give both
coordinates the equation is checked, and where they give one coordinate and a parity the other one
comes from a square root. `Curve.contains_of_decodePoint?` covers both.
-/

set_option autoImplicit false

namespace MeshAttest

namespace Modular

variable {modulus : Nat}

theorem pow_lt (hmodulus : 0 < modulus) (base exponent : Nat) :
    pow modulus base exponent < modulus := by
  induction base, exponent using pow.induct modulus with
  | case1 base =>
    rw [pow, if_pos rfl]
    exact Nat.mod_lt 1 hmodulus
  | case2 base exponent hne hodd ih =>
    rw [pow, if_neg hne, if_pos hodd]
    exact Nat.mod_lt _ hmodulus
  | case3 base exponent hne heven ih =>
    rw [pow, if_neg hne, if_neg heven]
    exact ih

theorem adjustRoot_lt (hmodulus : 0 < modulus) {steps root residual unity : Nat}
    (hroot : root < modulus) : adjustRoot modulus steps root residual unity < modulus := by
  induction steps generalizing root residual unity with
  | zero => exact hroot
  | succ steps ih =>
    rw [adjustRoot]
    split
    · exact ih hroot
    · exact ih (Nat.mod_lt _ hmodulus)

/-- A square root is below the modulus, and its square is the residue. -/
theorem sqrt?_eq_some (hmodulus : 0 < modulus) {twoPower nonResidue x root : Nat}
    (h : sqrt? modulus twoPower nonResidue x = some root) :
    root < modulus ∧ root * root % modulus = x % modulus := by
  unfold sqrt? at h
  dsimp only at h
  split at h
  · next hsquare =>
    cases h
    exact ⟨adjustRoot_lt hmodulus (pow_lt hmodulus _ _), hsquare⟩
  · cases h

/-- A residue and its negative have the same square. -/
theorem sub_mul_sub_mod {root : Nat} (hroot : root ≤ modulus) :
    (modulus - root) * (modulus - root) % modulus = root * root % modulus := by
  obtain ⟨other, rfl⟩ := Nat.exists_eq_add_of_le hroot
  rw [Nat.add_sub_cancel_left]
  calc other * other % (root + other)
      = (other * other + (root + other) * root) % (root + other) := by
        rw [Nat.add_mul_mod_self_left]
    _ = (root * root + (root + other) * other) % (root + other) := by
        ring_nf
    _ = root * root % (root + other) := by
        rw [Nat.add_mul_mod_self_left]

end Modular

namespace Curve

variable {curve : Curve} {point : Point}

/-- A point is on the curve exactly if its coordinates are reduced and satisfy the equation of the
curve. -/
theorem contains_iff :
    curve.contains point ↔ point.x < curve.prime ∧ point.y < curve.prime ∧
      point.y * point.y % curve.prime = curve.cubic point.x := by
  unfold contains
  simp [and_assoc]

theorem cubic_mod (curve : Curve) (x : Nat) : curve.cubic x % curve.prime = curve.cubic x :=
  Nat.mod_mod _ _

/-- A point that is found for one coordinate is on the curve, so that the square root that was taken
is one. -/
theorem contains_of_lift? (hprime : 0 < curve.prime) {x parity : Nat}
    (h : curve.lift? x parity = some point) : curve.contains point := by
  rw [contains_iff]
  unfold lift? at h
  by_cases hx : curve.prime ≤ x
  · rw [if_pos hx] at h
    cases h
  · rw [if_neg hx] at h
    split at h
    · cases h
    · next root hroot =>
      obtain ⟨hlt, hsquare⟩ := Modular.sqrt?_eq_some hprime hroot
      rw [cubic_mod] at hsquare
      split at h
      · cases h
        exact ⟨Nat.lt_of_not_le hx, hlt, hsquare⟩
      · split at h
        · cases h
        · next hne =>
          cases h
          refine ⟨Nat.lt_of_not_le hx, ?_, ?_⟩
          · show curve.prime - root < curve.prime
            omega
          · rw [Modular.sub_mul_sub_mod (Nat.le_of_lt hlt)]
            exact hsquare

/-- Whatever the form of the octets, a point that is read from them lies on the curve. -/
theorem contains_of_decodePoint? (hprime : 0 < curve.prime) {octets : Bytes}
    (h : curve.decodePoint? octets = some point) : curve.contains point := by
  unfold decodePoint? at h
  cases octets with
  | nil => cases h
  | cons form coordinates =>
    dsimp only at h
    have hchecked : ∀ coordinates : Point,
        (if curve.contains coordinates then some coordinates else none) = some point →
          curve.contains point := by
      intro coordinates hsome
      split at hsome
      · next hcontains =>
        cases hsome
        exact hcontains
      · cases hsome
    -- Compressed points are on the curve by the way they are found, and all others are checked.
    by_cases hcompressed : form = 2 ∨ form = 3
    · rw [if_pos hcompressed] at h
      split at h
      · exact contains_of_lift? hprime h
      · cases h
    · rw [if_neg hcompressed] at h
      split at h
      · cases h
      · split at h
        · exact hchecked _ h
        · split at h
          · split at h
            · exact hchecked _ h
            · cases h
          · cases h

end Curve

end MeshAttest
