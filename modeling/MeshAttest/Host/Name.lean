import MeshAttest.Host.Label
import MeshAttest.Text.Punycode

/-!
# Host names in any script

A host name in any script is sent in ASCII: `Host.encode?` writes each of its labels that is not
ASCII in Punycode, behind a prefix. `Host.checkEncoded` says whether a name that is ASCII already
could be what is written for some name.

Names are written and checked as in idna 3.18, which httpx uses for hosts: by the rules of 2008, and
without a mapping of characters in front.
-/

set_option autoImplicit false

namespace MeshAttest.Host

/-- The prefix of labels in Punycode. -/
def encodedPrefix : List Char := "xn--".toList

/-- The most characters that a label has in ASCII. -/
def maximumLabelSize : Nat := 63

/-- Checks a label in ASCII: what it is written for has to be a label, if it has the prefix, and
else the label itself. -/
def checkAsciiLabel (label : List Char) : Except LabelFault Unit :=
  if encodedPrefix.isPrefixOf label then
    let written := label.drop encodedPrefix.length
    if written = [] ∨ written.getLast? = some '-' then .error .malformed
    else match Text.Punycode.decode? written with
      | none => .error .malformed
      | some decoded => checkLabel decoded
  else checkLabel (label.map Char.toNat)

/-- Whether all characters are ASCII. -/
def isAscii (chars : List Char) : Bool := chars.all (·.toNat < 0x80)

/-- The label in ASCII that is sent for a label. -/
def encodeLabel? (label : List Char) : Option (List Char) :=
  let (checked, encoded) :=
    if isAscii label then (checkAsciiLabel label, label)
    else
      let codes := label.map Char.toNat
      (checkLabel codes, encodedPrefix ++ Text.Punycode.encode codes)
  match checked with
  | .ok _ => if encoded.length ≤ maximumLabelSize then some encoded else none
  | .error _ => none

/-- Whether a character separates labels. -/
def isDot (c : Char) : Bool := c == '.' || c == '。' || c == '．' || c == '｡'

/-- The labels of a name, and whether a dot ends it. -/
def labels (name : List Char) : List (List Char) × Bool :=
  let pieces := Text.pieces '.' (name.map fun c ↦ if isDot c then '.' else c)
  if pieces.getLast? = some [] then (pieces.dropLast, true) else (pieces, false)

/-- The name in ASCII that is sent for a name in lower case. -/
def encode? (name : List Char) : Option (List Char) :=
  let (labels, isClosed) := labels name
  if name.length ≤ maximumSize ∧ labels ≠ [] then do
    let encoded := ['.'].intercalate (← labels.mapM encodeLabel?)
    let limit := if isClosed then maximumSize else maximumSize - 1
    let whole := if isClosed then encoded ++ ['.'] else encoded
    if whole.length ≤ limit then some whole else none
  else none

/-- Checks a name in ASCII. -/
def checkEncoded (name : List Char) : Except LabelFault Unit :=
  let (labels, _) := labels name
  if maximumSize < name.length ∨ labels = [] then .error .malformed
  else labels.forM checkAsciiLabel

end MeshAttest.Host
