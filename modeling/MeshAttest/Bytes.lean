/-!
# Byte strings

A byte string is a list of octets. This module has the operations that every format below is built
from: taking a part at an offset (`slice`), numbers of a fixed width with the least significant
octet first (`toNatLE`, `ofNatLE`) or last (`toNatBE`, `ofNatBE`), and lower-case hexadecimal text
(`hex`, `ofHex?`).
-/

set_option autoImplicit false

namespace MeshAttest

/-- A byte string. -/
abbrev Bytes := List UInt8

namespace Bytes

/-- The `size` octets that start at offset `start`, or as many of them as there are. -/
def slice (bytes : Bytes) (start size : Nat) : Bytes := (bytes.drop start).take size

/-- The number whose octets are given, least significant first. -/
def toNatLE : Bytes → Nat
  | [] => 0
  | octet :: rest => octet.toNat + 256 * toNatLE rest

/-- The `width` octets of a number, least significant first; higher octets are dropped. -/
def ofNatLE : Nat → Nat → Bytes
  | 0, _ => []
  | width + 1, n => UInt8.ofNat (n % 256) :: ofNatLE width (n / 256)

/-- The number whose octets are given, most significant first. -/
def toNatBE (bytes : Bytes) : Nat := bytes.foldl (fun n octet ↦ 256 * n + octet.toNat) 0

/-- The `width` octets of a number, most significant first; higher octets are dropped. -/
def ofNatBE (width n : Nat) : Bytes := (ofNatLE width n).reverse

@[simp] theorem length_ofNatLE (width n : Nat) : (ofNatLE width n).length = width := by
  induction width generalizing n with
  | zero => rfl
  | succ width ih => simp [ofNatLE, ih]

theorem ofNatLE_toNatLE (bytes : Bytes) : ofNatLE bytes.length (toNatLE bytes) = bytes := by
  induction bytes with
  | nil => rfl
  | cons octet rest ih =>
    have bound : octet.toNat < 256 := octet.toNat_lt
    rw [List.length_cons, ofNatLE, toNatLE, Nat.add_mul_mod_self_left, Nat.mod_eq_of_lt bound,
      UInt8.ofNat_toNat, Nat.add_mul_div_left _ _ (by decide), Nat.div_eq_of_lt bound,
      Nat.zero_add, ih]

/-- The lower-case hexadecimal digit of a number below sixteen. -/
def hexDigit (n : Nat) : Char :=
  if n < 10 then Char.ofNat (48 + n) else Char.ofNat (87 + n)

/-- The value of a hexadecimal digit of either case. -/
def hexValue? (c : Char) : Option Nat :=
  if '0' ≤ c ∧ c ≤ '9' then some (c.toNat - 48)
  else if 'a' ≤ c ∧ c ≤ 'f' then some (c.toNat - 87)
  else if 'A' ≤ c ∧ c ≤ 'F' then some (c.toNat - 55)
  else none

/-- Two hexadecimal digits for each octet. -/
def hexChars (bytes : Bytes) : List Char :=
  bytes.flatMap fun octet ↦ [hexDigit (octet.toNat / 16), hexDigit (octet.toNat % 16)]

/-- The lower-case hexadecimal text of a byte string. -/
def hex (bytes : Bytes) : String := String.ofList bytes.hexChars

/-- The byte string written by pairs of hexadecimal digits. -/
def ofHexChars? : List Char → Option Bytes
  | [] => some []
  | [_] => none
  | high :: low :: rest => do
    let h ← hexValue? high
    let l ← hexValue? low
    let tail ← ofHexChars? rest
    return UInt8.ofNat (16 * h + l) :: tail

/-- The byte string that a hexadecimal text stands for. -/
def ofHex? (text : String) : Option Bytes := ofHexChars? text.toList

end Bytes

end MeshAttest
