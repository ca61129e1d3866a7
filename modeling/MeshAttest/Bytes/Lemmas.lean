import Mathlib.Algebra.Group.Nat.Defs
import Mathlib.Tactic.Common
import MeshAttest.Bytes

/-!
# Octets of a number

Octets and numbers of a fixed width determine each other: the octets of a number give back what of
it fits the width.
-/

set_option autoImplicit false

namespace MeshAttest.Bytes

theorem toNatLE_ofNatLE (width n : Nat) : toNatLE (ofNatLE width n) = n % 256 ^ width := by
  induction width generalizing n with
  | zero => simp [ofNatLE, toNatLE, Nat.mod_one]
  | succ width ih =>
    have low : (UInt8.ofNat (n % 256)).toNat = n % 256 := by
      simp
    rw [ofNatLE, toNatLE, ih, low, Nat.pow_succ', Nat.mod_mul]

/-- A number that fits the width is read back as it is. -/
theorem toNatLE_ofNatLE_of_lt (width : Nat) {n : Nat} (h : n < 256 ^ width) :
    toNatLE (ofNatLE width n) = n := by
  rw [toNatLE_ofNatLE, Nat.mod_eq_of_lt h]

theorem toNatLE_lt (bytes : Bytes) : toNatLE bytes < 256 ^ bytes.length := by
  induction bytes with
  | nil => simp [toNatLE]
  | cons octet rest ih =>
    have : octet.toNat < 256 := octet.toNat_lt
    rw [toNatLE, List.length_cons, Nat.pow_succ']
    omega

end MeshAttest.Bytes
