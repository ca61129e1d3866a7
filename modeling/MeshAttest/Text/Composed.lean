import MeshAttest.Text.CombiningClass
import MeshAttest.Text.Composite

/-!
# Composed text

A text is composed (normal form C of Unicode) if it stays as it is when all its composites are taken
apart (`decompose`), the marks behind each character are put in the order of their classes
(`orderMarks`), and what can be composed is composed again (`compose`).
-/

set_option autoImplicit false

namespace MeshAttest.Text

/-- The number of composites that are in one another at most. -/
def compositeDepth : Nat := 3

/-- What a code point stands for, when it is taken apart down to some depth. Only the first part of
a composite can be a composite itself. -/
def decomposeCode : Nat → Nat → List Nat
  | 0, code => [code]
  | depth + 1, code =>
    match partsOf? code with
    | some (first, second) => decomposeCode depth first ++ [second]
    | none => [code]

/-- The code points of a text without composites. -/
def decompose (text : List Nat) : List Nat := text.flatMap (decomposeCode compositeDepth)

/-- Puts a code point in front of a text in which the marks are in order. It stands behind the marks
of lower classes. -/
def insertMark (code : Nat) : List Nat → List Nat
  | [] => [code]
  | other :: rest =>
    if combiningClass other ≠ 0 ∧ combiningClass other < combiningClass code then
      other :: insertMark code rest
    else code :: other :: rest

/-- A text with the marks behind each character in the order of their classes. -/
def orderMarks : List Nat → List Nat
  | [] => []
  | code :: rest => insertMark code (orderMarks rest)

/-- Composes what follows a character with it. The marks that have stayed beside the character are
given. A mark of the class of the last of them or below cannot reach the character. -/
def composeOnto (base : Nat) (marks : List Nat) : List Nat → List Nat
  | [] => base :: marks
  | code :: rest =>
    let isCut := marks.getLast?.any fun last ↦ combiningClass code ≤ combiningClass last
    match if isCut then none else compositeOf? base code with
    | some composite => composeOnto composite marks rest
    | none =>
      if combiningClass code = 0 then base :: marks ++ composeOnto code [] rest
      else composeOnto base (marks ++ [code]) rest

/-- Composes a text. Marks in front of the first character stay. -/
def compose : List Nat → List Nat
  | [] => []
  | code :: rest =>
    if combiningClass code = 0 then composeOnto code [] rest else code :: compose rest

/-- Whether a text is composed. -/
def isComposed (text : List Nat) : Bool :=
  !text.any isReplaced && compose (orderMarks (decompose text)) == text

end MeshAttest.Text
