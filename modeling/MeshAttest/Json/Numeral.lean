import MeshAttest.Json.Value
import MeshAttest.Text.Decimal

/-!
# Numerals of JSON

A numeral is an optional minus sign, a whole part without superfluous zeros in front, an optional
fraction and an optional exponent. `Numeral.scan?` takes the longest numeral from the front of a
text.
-/

set_option autoImplicit false

namespace MeshAttest.Json

/-- A numeral, by its digits. -/
structure Numeral where
  negative : Bool
  whole : List Char
  fraction : Option (List Char)
  exponent : Option (Bool × List Char)
deriving DecidableEq, Repr

namespace Numeral

/-- The digits in front of a text, and what follows them. -/
def digits (chars : List Char) : List Char × List Char :=
  (chars.takeWhile Char.isDigit, chars.dropWhile Char.isDigit)

/-- Takes a minus sign, if there is one. -/
def scanSign : List Char → Bool × List Char
  | '-' :: rest => (true, rest)
  | chars => (false, chars)

/-- Takes a whole part: a zero, or digits that do not start with one. -/
def scanWhole? : List Char → Option (List Char × List Char)
  | '0' :: rest => some (['0'], rest)
  | c :: rest =>
    if c.isDigit then some (c :: (digits rest).1, (digits rest).2) else none
  | [] => none

/-- Takes a fraction, if there is one: a point and at least one digit. -/
def scanFraction : List Char → Option (List Char) × List Char
  | '.' :: c :: rest =>
    if c.isDigit then (some (c :: (digits rest).1), (digits rest).2) else (none, '.' :: c :: rest)
  | chars => (none, chars)

/-- The sign of an exponent, and what follows it. -/
def scanExponentSign : List Char → Bool × List Char
  | '-' :: rest => (true, rest)
  | '+' :: rest => (false, rest)
  | chars => (false, chars)

/-- Takes an exponent, if there is one: the letter E, an optional sign and at least one digit. -/
def scanExponent : List Char → Option (Bool × List Char) × List Char
  | [] => (none, [])
  | e :: rest =>
    let (negative, unsigned) := scanExponentSign rest
    if (e = 'e' ∨ e = 'E') ∧ (digits unsigned).1 ≠ [] then
      (some (negative, (digits unsigned).1), (digits unsigned).2)
    else (none, e :: rest)

/-- Takes the longest numeral from the front of a text. -/
def scan? (chars : List Char) : Option (Numeral × List Char) := do
  let (negative, unsigned) := scanSign chars
  let (whole, rest) ← scanWhole? unsigned
  let (fraction, rest) := scanFraction rest
  let (exponent, rest) := scanExponent rest
  return (⟨negative, whole, fraction, exponent⟩, rest)

/-- The number that digits write. -/
def ofDigits (digits : List Char) : Nat :=
  digits.foldl (fun n c ↦ 10 * n + (c.toNat - 48)) 0

/-- Whether a numeral is an integer, not a floating-point number. -/
def isInteger (numeral : Numeral) : Bool := numeral.fraction.isNone && numeral.exponent.isNone

/-- The integer of a numeral's sign and whole part. -/
def toInt (numeral : Numeral) : Int :=
  if numeral.negative then -(ofDigits numeral.whole : Int) else ofDigits numeral.whole

/-- The floating-point number nearest to a numeral. -/
def toBinary64 (numeral : Numeral) : Binary64 :=
  let fraction := numeral.fraction.getD []
  let shift : Int := match numeral.exponent with
    | none => 0
    | some (negative, digits) => if negative then -(ofDigits digits : Int) else ofDigits digits
  .ofScientific numeral.negative (ofDigits (numeral.whole ++ fraction)) (shift - fraction.length)

theorem length_digits_le (chars : List Char) : (digits chars).2.length ≤ chars.length :=
  (List.dropWhile_suffix _).length_le

theorem length_scanSign_le (chars : List Char) : (scanSign chars).2.length ≤ chars.length := by
  unfold scanSign
  split <;> simp

theorem length_scanWhole?_lt {chars whole rest : List Char}
    (found : scanWhole? chars = some (whole, rest)) : rest.length < chars.length := by
  unfold scanWhole? at found
  split at found
  · simp_all
  · next c tail _ =>
    have := length_digits_le tail
    split at found
    · simp only [Option.some.injEq, Prod.mk.injEq] at found
      rw [← found.2, List.length_cons]
      omega
    · simp at found
  · simp at found

theorem length_scanFraction_le (chars : List Char) :
    (scanFraction chars).2.length ≤ chars.length := by
  unfold scanFraction
  split
  · next c rest =>
    have := length_digits_le rest
    split
    · simp only [List.length_cons]
      omega
    · simp
  · simp

theorem length_scanExponentSign_le (chars : List Char) :
    (scanExponentSign chars).2.length ≤ chars.length := by
  unfold scanExponentSign
  split <;> simp

theorem length_scanExponent_le (chars : List Char) :
    (scanExponent chars).2.length ≤ chars.length := by
  cases chars with
  | nil => simp [scanExponent]
  | cons e rest =>
    have signed := length_scanExponentSign_le rest
    have run := length_digits_le (scanExponentSign rest).2
    simp only [scanExponent]
    split
    · simp only [List.length_cons]
      omega
    · simp

/-- A numeral takes at least one character. -/
theorem length_scan?_lt {chars rest : List Char} {numeral : Numeral}
    (found : scan? chars = some (numeral, rest)) : rest.length < chars.length := by
  simp only [scan?, Option.bind_eq_bind, Option.bind_eq_some_iff, Prod.exists,
    Option.pure_def, Option.some.injEq, Prod.mk.injEq] at found
  obtain ⟨whole, middle, taken, -, rfl⟩ := found
  have := length_scanSign_le chars
  have := length_scanWhole?_lt taken
  have := length_scanFraction_le middle
  have := length_scanExponent_le (scanFraction middle).2
  omega

end Numeral

end MeshAttest.Json
