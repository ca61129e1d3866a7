import MeshAttest.Bytes

/-!
# Base64

`Base64.encode` writes octets in the standard alphabet, padded to whole groups of four characters.
Two readers go with it. `Base64.decode` reads the standard alphabet: it admits padding behind whole
groups and left-over bits of any value, and says what it refuses. `Base64.decodeSegment?` reads the
URL-safe alphabet, with or without padding, in its canonical form only.

Both work in two steps: the characters become sextets, and the sextets octets (`toOctets`).
-/

set_option autoImplicit false

namespace MeshAttest

namespace Base64

/-- The two alphabets, which differ in their last two characters. -/
inductive Alphabet where
  | standard
  | urlSafe
deriving DecidableEq, Repr

/-- The value of a character of an alphabet. -/
def Alphabet.sextet? (alphabet : Alphabet) (c : Char) : Option Nat :=
  if 'A' ≤ c ∧ c ≤ 'Z' then some (c.toNat - 65)
  else if 'a' ≤ c ∧ c ≤ 'z' then some (c.toNat - 71)
  else if '0' ≤ c ∧ c ≤ '9' then some (c.toNat + 4)
  else match alphabet, c with
    | .standard, '+' | .urlSafe, '-' => some 62
    | .standard, '/' | .urlSafe, '_' => some 63
    | _, _ => none

/-- The character of a value of the standard alphabet. -/
def character (sextet : Nat) : Char :=
  if sextet < 26 then Char.ofNat (sextet + 65)
  else if sextet < 52 then Char.ofNat (sextet + 71)
  else if sextet < 62 then Char.ofNat (sextet - 4)
  else if sextet = 62 then '+'
  else '/'

/-- The characters of octets, padded to whole groups. -/
def encodeChars : Bytes → List Char
  | a :: b :: c :: rest =>
    character (a.toNat / 4) :: character (a.toNat % 4 * 16 + b.toNat / 16)
      :: character (b.toNat % 16 * 4 + c.toNat / 64) :: character (c.toNat % 64)
      :: encodeChars rest
  | [a, b] =>
    [character (a.toNat / 4), character (a.toNat % 4 * 16 + b.toNat / 16),
      character (b.toNat % 16 * 4), '=']
  | [a] => [character (a.toNat / 4), character (a.toNat % 4 * 16), '=', '=']
  | [] => []

/-- The text of octets. -/
def encode (octets : Bytes) : String := String.ofList (encodeChars octets)

/-- The octets of sextets. Bits that fill no octet are dropped. -/
def toOctets : List Nat → Bytes
  | a :: b :: c :: d :: rest =>
    UInt8.ofNat (a * 4 + b / 16) :: UInt8.ofNat (b % 16 * 16 + c / 4)
      :: UInt8.ofNat (c % 4 * 64 + d) :: toOctets rest
  | [a, b, c] => [UInt8.ofNat (a * 4 + b / 16), UInt8.ofNat (b % 16 * 16 + c / 4)]
  | [a, b] => [UInt8.ofNat (a * 4 + b / 16)]
  | _ => []

/-- Why a text is not base64. -/
inductive Fault where
  | notAscii
  | leadingPadding
  | excessData
  | foreignCharacter
  | discontinuousPadding
  /-- The last group has a single character; `count` characters carry data. -/
  | incompleteGroup (count : Nat)
  | incorrectPadding
deriving DecidableEq, Repr

/-- The message of a fault. -/
def Fault.message : Fault → String
  | .notAscii => "string argument should contain only ASCII characters"
  | .leadingPadding => "Leading padding not allowed"
  | .excessData => "Excess data after padding"
  | .foreignCharacter => "Only base64 data is allowed"
  | .discontinuousPadding => "Discontinuous padding not allowed"
  | .incompleteGroup count =>
    s!"Invalid base64-encoded string: number of data characters ({count}) "
      ++ "cannot be 1 more than a multiple of 4"
  | .incorrectPadding => "Incorrect padding"

/-- Reads the sextets of a text. Those so far are given, last one first, and their number; the
number of padding characters since the last of them; and whether there has been any padding.
Padding ends the data where it completes a group that has two characters at least; elsewhere it is
passed over. -/
def sextetsFrom (done : List Nat) (count pads : Nat) (padded : Bool) :
    List Char → Except Fault (List Nat)
  | [] =>
    if count % 4 = 0 then .ok done.reverse
    else if count % 4 = 1 then .error (.incompleteGroup count)
    else .error .incorrectPadding
  | '=' :: rest =>
    if count % 4 < 2 then sextetsFrom done count pads true rest
    else if count % 4 + (pads + 1) < 4 then sextetsFrom done count (pads + 1) true rest
    else if rest.isEmpty then .ok done.reverse
    else .error .excessData
  | c :: rest =>
    match Alphabet.standard.sextet? c with
    | none => .error .foreignCharacter
    | some sextet =>
      if padded then .error .discontinuousPadding
      else sextetsFrom (sextet :: done) (count + 1) 0 padded rest

/-- Reads base64 text of the standard alphabet. -/
def decode (text : String) : Except Fault Bytes :=
  if text.toList.any (0x80 ≤ ·.toNat) then .error .notAscii
  else if text.toList.head? = some '=' then .error .leadingPadding
  else (sextetsFrom [] 0 0 false text.toList).map toOctets

/-- Reads sextets of the URL-safe alphabet. Those so far are given, last one first. -/
def segmentSextets? (done : List Nat) : List Char → Option (List Nat)
  | [] => some done.reverse
  | c :: rest =>
    match Alphabet.urlSafe.sextet? c with
    | none => none
    | some sextet => segmentSextets? (sextet :: done) rest

/-- Whether the bits of the last group that fill no octet are zero. A group of one character has too
few bits for an octet and is refused. -/
def isCanonical : List Nat → Bool
  | _ :: _ :: _ :: _ :: rest => isCanonical rest
  | [_, _, c] => c % 4 == 0
  | [_, b] => b % 16 == 0
  | [_] => false
  | [] => true

/-- A segment without its padding: up to two padding characters, which complete a group. -/
def stripPadding? (segment : List Char) : Option (List Char) :=
  match segment.reverse with
  | '=' :: '=' :: rest => if (rest.length + 2) % 4 = 0 then some rest.reverse else none
  | '=' :: rest => if (rest.length + 1) % 4 = 0 then some rest.reverse else none
  | _ => some segment

/-- Reads a segment of URL-safe base64. -/
def decodeSegment? (segment : List Char) : Option Bytes := do
  let data ← stripPadding? segment
  let sextets ← segmentSextets? [] data
  if isCanonical sextets then some (toOctets sextets) else none

end Base64

end MeshAttest
