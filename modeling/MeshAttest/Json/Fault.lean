import MeshAttest.Text.Decimal

/-!
# Faults of JSON texts

What is wrong with a text that is no JSON document, and where. A place is given by its line and
column, both counted from one, and by the number of characters before it; only a line feed ends a
line.
-/

set_option autoImplicit false

namespace MeshAttest

namespace Json

/-- What is wrong at a place of a text. -/
inductive Flaw where
  | byteOrderMark
  | noValue
  | noPropertyName
  | noColon
  | noComma
  | unterminatedString
  | controlCharacter
  | unknownEscape
  | unicodeEscape
  | extraData
deriving DecidableEq, Repr

/-- The description of a flaw. -/
def Flaw.message : Flaw → String
  | .byteOrderMark => "Unexpected UTF-8 BOM (decode using utf-8-sig)"
  | .noValue => "Expecting value"
  | .noPropertyName => "Expecting property name enclosed in double quotes"
  | .noColon => "Expecting ':' delimiter"
  | .noComma => "Expecting ',' delimiter"
  | .unterminatedString => "Unterminated string starting at"
  | .controlCharacter => "Invalid control character at"
  | .unknownEscape => "Invalid \\escape"
  | .unicodeEscape => "Invalid \\uXXXX escape"
  | .extraData => "Extra data"

/-- A place in a text. -/
structure Place where
  line : Nat
  column : Nat
  index : Nat
deriving DecidableEq, Repr

/-- The place behind the given characters. -/
def Place.behind (before : List Char) : Place where
  line := before.count '\n' + 1
  column := (before.reverse.takeWhile (· ≠ '\n')).length + 1
  index := before.length

end Json

/-- Why a text cannot be read as JSON. -/
inductive JsonFault where
  | malformed (flaw : Json.Flaw) (place : Json.Place)
  /-- An integer has more digits than are admitted. -/
  | integerTooLong (digits : Nat)
deriving DecidableEq, Repr

/-- The message of a fault. -/
def JsonFault.message : JsonFault → String
  | .malformed flaw place =>
    s!"{flaw.message}: line {place.line} column {place.column} (char {place.index})"
  | .integerTooLong digits => Text.tooManyDigits digits

end MeshAttest
