import MeshAttest.Json.Value
import MeshAttest.Text.Quoted

/-!
# JSON texts of values

`Json.render` writes a value without blanks and in ASCII: all other characters are escaped, those
above the basic plane as a pair of surrogates, and half of such a pair by itself. A number that is
not an integer is written exactly: twice a half is one, so the negative powers of two in it are
powers of five over powers of ten.
-/

set_option autoImplicit false

namespace MeshAttest.Json

/-- The escape of a unit of sixteen bits. -/
def escapedUnit (unit : Nat) : List Char := '\\' :: 'u' :: Text.hexDigits 4 unit

/-- A character between quotes. -/
def stringChar (c : Char) : List Char :=
  if c = '"' ∨ c = '\\' then ['\\', c]
  else if 0x20 ≤ c.toNat ∧ c.toNat < 0x7f then [c]
  else if c.toNat < 0x10000 then escapedUnit c.toNat
  else
    let offset := c.toNat - 0x10000
    escapedUnit (0xd800 + offset / 0x400) ++ escapedUnit (0xdc00 + offset % 0x400)

/-- A text between quotes. -/
def stringChars (text : String) : List Char :=
  '"' :: (text.toList.flatMap stringChar ++ ['"'])

/-- A point between quotes. -/
def stringPoint : CodePoint → List Char
  | .char c => stringChar c
  | .half offset => escapedUnit (0xd800 + offset.val)

/-- A string that is no text between quotes. -/
def halvedChars (value : HalvedText) : List Char :=
  '"' :: (value.points.flatMap stringPoint ++ ['"'])

/-- A number that is not an integer. -/
def floatChars : Binary64 → List Char
  | .nan => "NaN".toList
  | .infinite negative => (if negative then "-Infinity" else "Infinity").toList
  | .finite negative significand exponent =>
    let sign := if negative then "-" else ""
    let text :=
      if 0 ≤ exponent then s!"{sign}{significand <<< exponent.toNat}e0"
      else s!"{sign}{significand * Nat.pow 5 (-exponent).toNat}e{exponent}"
    text.toList

mutual

/-- The text of a value. -/
def chars : Json → List Char
  | .null => "null".toList
  | .bool value => (if value then "true" else "false").toList
  | .integer value => (toString value).toList
  | .float value => floatChars value
  | .string text => stringChars text
  | .halved value => halvedChars value
  | .array items => '[' :: itemChars items
  | .object entries => '\x7b' :: entryChars entries

/-- The text of the items that are left of an array, up to its end. -/
def itemChars : List Json → List Char
  | [] => [']']
  | [item] => item.chars ++ [']']
  | item :: rest => item.chars ++ ',' :: itemChars rest

/-- The text of the entries that are left of an object, up to its end. -/
def entryChars : List (String × Json) → List Char
  | [] => ['\x7d']
  | [(key, value)] => stringChars key ++ ':' :: value.chars ++ ['\x7d']
  | (key, value) :: rest => stringChars key ++ ':' :: value.chars ++ ',' :: entryChars rest

end

/-- The JSON text of a value. -/
def render (value : Json) : String := String.ofList value.chars

end MeshAttest.Json
