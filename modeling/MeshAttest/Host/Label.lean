import MeshAttest.Host.LabelChar
import MeshAttest.Text.Composed
import MeshAttest.Text.Direction
import MeshAttest.Text.Joining

/-!
# Labels of host names

A label is one of the parts of a host name. `Host.checkLabel` says whether a text in any script is
one: it is composed, hyphens do not stand at either end or in the place that marks an encoded label,
no mark is in front, and every character is admitted, some of them only in a context. A label with
letters that are written from the right has to keep its direction. The rules, and the order in which
they are checked, are those of idna 3.18.
-/

set_option autoImplicit false

namespace MeshAttest.Host

open Text (Direction)

/-- Why a text is not a label. -/
inductive LabelFault where
  /-- The form of the text is wrong, or it is too long. -/
  | malformed
  /-- A character is in no label. -/
  | character
  /-- A character stands where it may not. -/
  | context
  /-- The characters are written in different directions. -/
  | direction
deriving DecidableEq, Repr

/-- The code point of the hyphen. -/
def hyphen : Nat := 0x2d

/-- Whether hyphens stand at an end, or are both the third and the fourth character. -/
def hasMisplacedHyphen (label : List Nat) : Bool :=
  label.head? == some hyphen || label.getLast? == some hyphen
    || (label.drop 2).take 2 == [hyphen, hyphen]

/-- The class of the marks that suppress a vowel. -/
def viramaClass : Nat := 9

/-- Whether a vowel is suppressed by the last character of what stands before, which is given
first. -/
def followsVirama (before : List Nat) : Bool :=
  match before with
  | previous :: _ => Text.combiningClass previous == viramaClass
  | [] => false

/-- Whether the nearest character that is not looked through satisfies a condition. -/
def nearestJoins (joins : Nat → Bool) (codes : List Nat) : Bool :=
  match codes.dropWhile Text.isTransparent with
  | nearest :: _ => joins nearest
  | [] => false

/-- Whether a character that is admitted in some contexts only may stand between what is before it,
the nearest first, and what is behind it. No other character may. -/
def isAdmitted (before : List Nat) (code : Nat) (behind : List Nat) : Bool :=
  let label := before ++ behind
  if code = 0x200c then
    followsVirama before
      || (nearestJoins Text.joinsNext before && nearestJoins Text.joinsPrevious behind)
  else if code = 0x200d then followsVirama before
  else if code = 0xb7 then before.head? == some 0x6c && behind.head? == some 0x6c
  else if code = 0x375 then behind.head?.any (Text.codeInRanges greekRanges)
  else if code = 0x5f3 ∨ code = 0x5f4 then before.head?.any (Text.codeInRanges hebrewRanges)
  else if code = 0x30fb then label.any (Text.codeInRanges japaneseRanges)
  else if 0x660 ≤ code ∧ code ≤ 0x669 then !label.any fun other ↦ 0x6f0 ≤ other && other ≤ 0x6f9
  else if 0x6f0 ≤ code ∧ code ≤ 0x6f9 then !label.any fun other ↦ 0x660 ≤ other && other ≤ 0x669
  else false

/-- What is wrong if a character is not admitted. A joiner in a wrong place makes the whole label
wrong. -/
def faultOf (code : Nat) : LabelFault :=
  if code = 0x200c ∨ code = 0x200d then .malformed
  else if [0xb7, 0x375, 0x5f3, 0x5f4, 0x30fb].contains code || (0x660 ≤ code && code ≤ 0x669)
      || (0x6f0 ≤ code && code ≤ 0x6f9) then .context
  else .character

/-- Checks the characters of a label that follow others, which are given with the nearest first. -/
def checkCharacters (before : List Nat) : List Nat → Except LabelFault Unit
  | [] => .ok ()
  | code :: rest =>
    if isLabelChar code ∨ isAdmitted before code rest then checkCharacters (code :: before) rest
    else .error (faultOf code)

/-- Whether directions are those of a label that is written from the right: there is nothing in it
that is written from the left, at the end there is a letter or a digit, and digits are of one kind.
-/
def isFromRight (directions : List Direction) : Bool :=
  let final := (directions.reverse.dropWhile (· == .nonspacing)).head?
  !directions.contains .left
    && (final == some .right || final == some .europeanNumber || final == some .arabicNumber)
    && !(directions.contains .europeanNumber && directions.contains .arabicNumber)

/-- Whether directions are those of a label that is written from the left, in which there is
something that is not. -/
def isFromLeft (directions : List Direction) : Bool :=
  let final := (directions.reverse.dropWhile (· == .nonspacing)).head?
  !directions.contains .right && !directions.contains .arabicNumber
    && (final == some .left || final == some .europeanNumber)

/-- Whether the directions of the characters of a label agree. The first character decides. -/
def isDirected (directions : List Direction) : Bool :=
  !directions.contains .unknown
    && (!directions.any (fun direction ↦ direction == .right || direction == .arabicNumber)
      || match directions.head? with
        | some .right => isFromRight directions
        | some .left => isFromLeft directions
        | _ => false)

/-- The most characters that a host name has, with a dot at its end. -/
def maximumSize : Nat := 254

/-- Checks a label. -/
def checkLabel (label : List Nat) : Except LabelFault Unit := do
  if label = [] ∨ maximumSize < label.length ∨ !Text.isComposed label ∨ hasMisplacedHyphen label
      ∨ label.head?.any Text.isMark then
    throw .malformed
  checkCharacters [] label
  if !isDirected (label.map Direction.ofCode) then throw .direction

end MeshAttest.Host
