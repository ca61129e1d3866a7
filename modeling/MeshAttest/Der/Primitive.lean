import MeshAttest.Der.Element

/-!
# Values of DER elements

The content of elements of the types that certificates are made of.
-/

set_option autoImplicit false

namespace MeshAttest.Der

/-- The integer of a content, which is not empty and starts with no superfluous octet. -/
def integer? (content : Bytes) : Option Int :=
  let size := content.length
  match content with
  | [] => none
  | first :: rest =>
    let nextIsHigh := match rest with
      | second :: _ => decide (0x80 ≤ second)
      | [] => false
    if rest ≠ [] ∧ first = 0 ∧ !nextIsHigh then none
    else if rest ≠ [] ∧ first = 0xff ∧ nextIsHigh then none
    else if first < 0x80 then some (Bytes.toNatBE content)
    else some (Bytes.toNatBE content - (1 <<< (8 * size) : Nat))

/-- The natural number of a content. -/
def natural? (content : Bytes) : Option Nat :=
  (integer? content).bind fun value ↦ if 0 ≤ value then some value.toNat else none

/-- The truth value of a content of one octet. -/
def boolean? : Bytes → Option Bool
  | [0x00] => some false
  | [0xff] => some true
  | _ => none

/-- A string of bits, in octets, the last of which has some unused bits at its end. -/
structure BitString where
  unused : Nat
  octets : Bytes
deriving DecidableEq, Repr

/-- The bits of a content. Unused bits are zero. -/
def bitString? : Bytes → Option BitString
  | [] => none
  | unused :: octets =>
    let unused := unused.toNat
    let final := (octets.getLastD 0).toNat
    if 7 < unused ∨ (octets = [] ∧ unused ≠ 0) ∨ final % 1 <<< unused ≠ 0 then none
    else some ⟨unused, octets⟩

/-- The numbers in groups of seven bits that fill a content. They have 128 bits at most. -/
def groups? (content : Bytes) : Option (List Nat) :=
  if content = [] then some []
  else match read : readGroups content with
    | none => none
    | some (number, rest) =>
      have := length_readGroups_lt read
      if 1 <<< 128 ≤ number then none else (groups? rest).map (number :: ·)
termination_by content.length

/-- The object identifier of a content of up to 63 octets. The first two numbers share a group. -/
def objectId? (content : Bytes) : Option (List Nat) :=
  if 63 < content.length then none
  else match groups? content with
    | some (first :: rest) =>
      let root := min (first / 40) 2
      some (root :: (first - 40 * root) :: rest)
    | _ => none

/-- The number of two decimal digits. -/
def twoDigits? : List Char → Option Nat
  | [tens, ones] =>
    if tens.isDigit && ones.isDigit then some ((tens.toNat - 48) * 10 + (ones.toNat - 48))
    else none
  | _ => none

/-- The number of days of a month. -/
def daysOfMonth (year month : Nat) : Nat :=
  if month = 2 then
    if year % 4 = 0 ∧ (year % 100 ≠ 0 ∨ year % 400 = 0) then 29 else 28
  else if month = 4 ∨ month = 6 ∨ month = 9 ∨ month = 11 then 30
  else 31

/-- Whether a text is month, day, hour, minute and second of a moment in universal time. -/
def isMoment (year : Nat) : List Char → Bool
  | [m₁, m₂, d₁, d₂, h₁, h₂, n₁, n₂, s₁, s₂, 'Z'] =>
    match twoDigits? [m₁, m₂], twoDigits? [d₁, d₂], twoDigits? [h₁, h₂], twoDigits? [n₁, n₂],
      twoDigits? [s₁, s₂] with
    | some month, some day, some hour, some minute, some second =>
      1 ≤ month && month ≤ 12 && 1 ≤ day && day ≤ daysOfMonth year month && hour ≤ 23
        && minute ≤ 59 && second ≤ 59
    | _, _, _, _, _ => false
  | _ => false

/-- Whether a content is a time with two digits for the year, the first of which counts as 1950. -/
def isUtcTime (content : Bytes) : Bool :=
  match content.map fun octet ↦ Char.ofNat octet.toNat with
  | y₁ :: y₂ :: rest =>
    match twoDigits? [y₁, y₂] with
    | some year => isMoment (if year < 50 then 2000 + year else 1900 + year) rest
    | none => false
  | _ => false

/-- Whether a content is a time with four digits for the year. -/
def isGeneralizedTime (content : Bytes) : Bool :=
  match content.map fun octet ↦ Char.ofNat octet.toNat with
  | y₁ :: y₂ :: y₃ :: y₄ :: rest =>
    match twoDigits? [y₁, y₂], twoDigits? [y₃, y₄] with
    | some century, some year => isMoment (100 * century + year) rest
    | _, _ => false
  | _ => false

/-- Whether a content is text of letters, digits, spaces and a few signs. -/
def isPrintableText (content : Bytes) : Bool :=
  content.all fun octet ↦
    let c := Char.ofNat octet.toNat
    c.isAlphanum || " '()+,-./:=?".toList.contains c

/-- Whether a content is text in units of 16 bits, with surrogates in pairs only. -/
def isBmpText : Bytes → Bool
  | [] => true
  | a :: b :: rest =>
    let unit := Bytes.toNatBE [a, b]
    if 0xd800 ≤ unit ∧ unit ≤ 0xdbff then
      match rest with
      | c :: d :: rest =>
        let low := Bytes.toNatBE [c, d]
        0xdc00 ≤ low && low ≤ 0xdfff && isBmpText rest
      | _ => false
    else !(0xdc00 ≤ unit && unit ≤ 0xdfff) && isBmpText rest
  | _ => false

/-- Whether a content is text in code points of 32 bits. -/
def isUniversalText : Bytes → Bool
  | [] => true
  | a :: b :: c :: d :: rest =>
    let codePoint := Bytes.toNatBE [a, b, c, d]
    codePoint < 0x110000 && !(0xd800 ≤ codePoint && codePoint ≤ 0xdfff) && isUniversalText rest
  | _ => false

end MeshAttest.Der
