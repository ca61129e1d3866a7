import MeshAttest.Bytes
import MeshAttest.Text.CodePoint
import MeshAttest.Text.Printable

/-!
# Quoted text

How a text is cited in messages (`quoted`): between single quotes, or between double quotes if it
has a single quote and no double one. The quote in use and the backslash are written with a
backslash, and so are tab, line feed and carriage return by their letters. Another character that is
not printable is written by its code point, with two, four or eight hexadecimal digits, and so is
half of a surrogate pair (`RawText.quoted`).
-/

set_option autoImplicit false

namespace MeshAttest

namespace Text

/-- The lower-case hexadecimal digits of a number, most significant first. -/
def hexDigits (width n : Nat) : List Char :=
  (Bytes.hexChars (Bytes.ofNatBE (width / 2) n))

/-- A character between quotes. -/
def quotedChar (quote c : Char) : List Char :=
  if c = quote ∨ c = '\\' then ['\\', c]
  else if c = '\t' then ['\\', 't']
  else if c = '\n' then ['\\', 'n']
  else if c = '\r' then ['\\', 'r']
  else if isPrintable c then [c]
  else if c.toNat < 0x100 then '\\' :: 'x' :: hexDigits 2 c.toNat
  else if c.toNat < 0x10000 then '\\' :: 'u' :: hexDigits 4 c.toNat
  else '\\' :: 'U' :: hexDigits 8 c.toNat

/-- The quote that a text is put between. -/
def quoteFor (chars : List Char) : Char :=
  if '\'' ∈ chars ∧ '"' ∉ chars then '"' else '\''

/-- A text with quotes around it. -/
def quoted (text : String) : String :=
  let quote := quoteFor text.toList
  String.ofList (quote :: (text.toList.flatMap (quotedChar quote) ++ [quote]))

/-- Half of a surrogate pair, by its code point. -/
def quotedHalf (offset : Fin 0x800) : List Char :=
  '\\' :: 'u' :: hexDigits 4 (CodePoint.half offset).toNat

/-- A point between quotes. -/
def quotedPoint (quote : Char) : CodePoint → List Char
  | .char c => quotedChar quote c
  | .half offset => quotedHalf offset

end Text

/-- A string with quotes around it. -/
def RawText.quoted : RawText → String
  | .text chars => Text.quoted chars
  | .halved value =>
    let quote := Text.quoteFor (value.points.map CodePoint.character)
    String.ofList (quote :: (value.points.flatMap (Text.quotedPoint quote) ++ [quote]))

/-- Why a string that is no text cannot be encoded. The first halves of surrogate pairs in it that
stand together are cited. -/
def HalvedText.encodingMessage (value : HalvedText) : String :=
  let start := value.points.findIdx CodePoint.isHalf
  let place := match (value.points.drop start).takeWhile CodePoint.isHalf with
    | [.half offset] => s!"character '{String.ofList (Text.quotedHalf offset)}' in position {start}"
    | halves => s!"characters in position {start}-{start + halves.length - 1}"
  s!"'utf-8' codec can't encode {place}: surrogates not allowed"

end MeshAttest
