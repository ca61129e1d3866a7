/-!
# Code points

A text is a list of characters. What JSON and the encodings of text can spell is more: a list of
code points, among which there may be half of a surrogate pair, and that is no character. Such a
list is a string like any other for those who only pass it on or compare it, but it cannot be
encoded. `RawText` keeps these strings apart from texts.
-/

set_option autoImplicit false

namespace MeshAttest

/-- A point of a string. -/
inductive CodePoint where
  | char (c : Char)
  /-- Half of a surrogate pair, by its distance from the first one. -/
  | half (offset : Fin 0x800)
deriving DecidableEq, Repr

namespace CodePoint

/-- The point of a number. -/
def ofNat (n : Nat) : CodePoint :=
  if h : 0xd800 ≤ n ∧ n ≤ 0xdfff then .half ⟨n - 0xd800, by omega⟩ else .char (Char.ofNat n)

/-- The number of a point. -/
def toNat : CodePoint → Nat
  | .char c => c.toNat
  | .half offset => 0xd800 + offset.val

/-- Whether a point is half of a surrogate pair. -/
def isHalf : CodePoint → Bool
  | .char _ => false
  | .half _ => true

/-- The character of a point, where it is to stand in a text. -/
def character : CodePoint → Char
  | .char c => c
  | .half _ => '\ufffd'

end CodePoint

/-- A string that is no text, as it has half of a surrogate pair. -/
structure HalvedText where
  points : List CodePoint
  isHalved : points.any CodePoint.isHalf = true
deriving DecidableEq, Repr

/-- A string: a text, or code points that are none. -/
inductive RawText where
  | text (chars : String)
  | halved (value : HalvedText)
deriving DecidableEq, Repr

namespace RawText

instance : Coe String RawText := ⟨.text⟩

/-- The string of code points. -/
def ofPoints (points : List CodePoint) : RawText :=
  if h : points.any CodePoint.isHalf = true then .halved ⟨points, h⟩
  else .text (String.ofList (points.map CodePoint.character))

/-- The text that a string is shown as. In place of half of a surrogate pair there is the
replacement character. -/
def shown : RawText → String
  | .text chars => chars
  | .halved value => String.ofList (value.points.map CodePoint.character)

end RawText

end MeshAttest
