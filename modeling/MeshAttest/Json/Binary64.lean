/-!
# Binary floating-point numbers of 64 bits

A number of the binary64 format, as an exact significand and exponent. `ofScientific` rounds a
decimal number to the nearest one, ties to the even significand, by exact arithmetic on natural
numbers. `bits` is the interchange encoding and `truncate?` the integer part.
-/

set_option autoImplicit false

namespace MeshAttest

/-- A binary64 number. The magnitude of a finite one is `significand * 2 ^ exponent`, where the
significand has at most 53 bits, and the exponent is -1074 if it has fewer. -/
inductive Binary64 where
  | nan
  | infinite (negative : Bool)
  | finite (negative : Bool) (significand : Nat) (exponent : Int)
deriving DecidableEq, Repr

namespace Binary64

/-- The least significand of 53 bits. -/
def fullSignificand : Nat := 1 <<< 52

/-- The least exponent. -/
def minimumExponent : Int := -1074

/-- The greatest exponent. -/
def maximumExponent : Int := 971

/-- The zero of a sign. -/
def zero (negative : Bool) : Binary64 := .finite negative 0 minimumExponent

/-- The integer nearest to a quotient, and the even one of two that are equally near. -/
def roundQuotient (num den : Nat) : Nat :=
  let whole := num / den
  let twice := 2 * (num % den)
  if twice < den then whole else if den < twice then whole + 1 else whole + whole % 2

/-- Whether a quotient is at least a power of two. -/
def atLeastPower (num den : Nat) (power : Int) : Bool :=
  if 0 ≤ power then den <<< power.toNat ≤ num else den ≤ num <<< (-power).toNat

/-- The number nearest to a positive quotient. -/
def ofQuotient (negative : Bool) (num den : Nat) : Binary64 :=
  let estimate : Int := (num.log2 : Int) - den.log2
  let order := if atLeastPower num den estimate then estimate else estimate - 1
  let exponent := max (order - 52) minimumExponent
  let significand :=
    if 0 ≤ exponent then roundQuotient num (den <<< exponent.toNat)
    else roundQuotient (num <<< (-exponent).toNat) den
  if significand = 2 * fullSignificand then
    if exponent < maximumExponent then .finite negative fullSignificand (exponent + 1)
    else .infinite negative
  else if maximumExponent < exponent then .infinite negative
  else .finite negative significand exponent

/-- The number nearest to `coefficient * 10 ^ power`. Powers that are certain to lead to infinity or
to zero are not computed. -/
def ofScientific (negative : Bool) (coefficient : Nat) (power : Int) : Binary64 :=
  if coefficient = 0 then zero negative
  else if 310 < power then .infinite negative
  else if 3 * power + coefficient.log2 < -1081 then zero negative
  else if 0 ≤ power then ofQuotient negative (coefficient * Nat.pow 10 power.toNat) 1
  else ofQuotient negative coefficient (Nat.pow 10 (-power).toNat)

/-- The bit of the sign in the encoding. -/
def signBit (negative : Bool) : Nat := if negative then 1 <<< 63 else 0

/-- The interchange encoding: sign, biased exponent and trailing significand. -/
def bits : Binary64 → Nat
  | .nan => 0x7ff8000000000000
  | .infinite negative => signBit negative + 0x7ff0000000000000
  | .finite negative significand exponent =>
    signBit negative
      + if significand < fullSignificand then significand
        else (exponent + 1075).toNat * fullSignificand + (significand - fullSignificand)

/-- The integer part of a finite number. -/
def truncate? : Binary64 → Option Int
  | .finite negative significand exponent =>
    let magnitude :=
      if 0 ≤ exponent then significand <<< exponent.toNat
      else significand >>> (-exponent).toNat
    some (if negative then -(magnitude : Int) else magnitude)
  | _ => none

end Binary64

end MeshAttest
