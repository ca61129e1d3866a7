import MeshAttest.Bytes

/-!
# Elements of the distinguished encoding rules

An element is a tag, a length and as many octets of content. Tags and lengths have one encoding
only, the shortest. `Der.elements?` splits octets into elements that fill them completely; the
content of an element is split in turn only where its type asks for it.
-/

set_option autoImplicit false

namespace MeshAttest.Der

/-- A tag: the class and whether the content is made of elements, and a number. -/
structure Tag where
  form : Nat
  number : Nat
deriving DecidableEq, Repr

namespace Tag

/-- A tag of the universal class whose content is not made of elements. -/
def primitive (number : Nat) : Tag := ⟨0, number⟩

def boolean : Tag := primitive 1

def integer : Tag := primitive 2

def bitString : Tag := primitive 3

def octetString : Tag := primitive 4

def null : Tag := primitive 5

def objectId : Tag := primitive 6

def printableString : Tag := primitive 19

def utcTime : Tag := primitive 23

def generalizedTime : Tag := primitive 24

def universalString : Tag := primitive 28

def bmpString : Tag := primitive 30

def sequence : Tag := ⟨1, 16⟩

def set : Tag := ⟨1, 17⟩

/-- A tag whose meaning depends on the place, in front of a whole element. -/
def explicit (number : Nat) : Tag := ⟨5, number⟩

/-- A tag whose meaning depends on the place, instead of the tag of a type. -/
def implicit (number : Nat) : Tag := ⟨4, number⟩

end Tag

/-- An element, with the octets that encode it. -/
structure Element where
  tag : Tag
  content : Bytes
  encoding : Bytes
deriving DecidableEq, Repr

/-- Goes on reading a number in groups of seven bits, most significant first. The last group has its
high bit clear. -/
def groupsFrom (value : Nat) : Bytes → Option (Nat × Bytes)
  | [] => none
  | octet :: rest =>
    let next := value * 128 + octet.toNat % 128
    if octet < 0x80 then some (next, rest) else groupsFrom next rest

/-- Reads a number in groups of seven bits, the first of which may not be superfluous. -/
def readGroups : Bytes → Option (Nat × Bytes)
  | 0x80 :: _ => none
  | octets => groupsFrom 0 octets

/-- Reads a tag. Numbers from 31 on stand behind the first octet, and have 32 bits at most. -/
def readTag : Bytes → Option (Tag × Bytes)
  | [] => none
  | octet :: rest =>
    let form := octet.toNat / 32
    let low := octet.toNat % 32
    if low < 31 then some (⟨form, low⟩, rest)
    else match readGroups rest with
      | some (number, rest) =>
        if number < 31 ∨ 1 <<< 32 ≤ number then none else some (⟨form, number⟩, rest)
      | none => none

/-- Reads a length. One from 128 on stands in up to four octets behind the first one. -/
def readLength : Bytes → Option (Nat × Bytes)
  | [] => none
  | octet :: rest =>
    if octet < 0x80 then some (octet.toNat, rest)
    else
      let size := octet.toNat - 0x80
      let digits := rest.take size
      if size = 0 ∨ 4 < size ∨ digits.length < size then none
      else if digits.head? = some 0 ∨ Bytes.toNatBE digits < 0x80 then none
      else some (Bytes.toNatBE digits, rest.drop size)

/-- Reads an element. -/
def readElement (octets : Bytes) : Option (Element × Bytes) := do
  let (tag, afterTag) ← readTag octets
  let (size, afterLength) ← readLength afterTag
  let content := afterLength.take size
  let rest := afterLength.drop size
  if content.length < size then none
  else some (⟨tag, content, octets.take (octets.length - rest.length)⟩, rest)

theorem length_groupsFrom_lt {value number : Nat} {octets rest : Bytes}
    (read : groupsFrom value octets = some (number, rest)) : rest.length < octets.length := by
  induction octets generalizing value with
  | nil => simp [groupsFrom] at read
  | cons octet tail ih =>
    rw [groupsFrom] at read
    split at read
    · simp only [Option.some.injEq, Prod.mk.injEq] at read
      simp [read.2]
    · have := ih read
      rw [List.length_cons]
      omega

theorem length_readGroups_lt {number : Nat} {octets rest : Bytes}
    (read : readGroups octets = some (number, rest)) : rest.length < octets.length := by
  unfold readGroups at read
  split at read
  · simp at read
  · exact length_groupsFrom_lt read

theorem length_readTag_lt {tag : Tag} {octets rest : Bytes}
    (read : readTag octets = some (tag, rest)) : rest.length < octets.length := by
  unfold readTag at read
  split at read
  · simp at read
  · next octet tail =>
    simp only at read
    split at read
    · simp only [Option.some.injEq, Prod.mk.injEq] at read
      simp [read.2]
    · split at read
      · next groups =>
        have := length_readGroups_lt groups
        split at read
        · simp at read
        · simp only [Option.some.injEq, Prod.mk.injEq] at read
          rw [← read.2, List.length_cons]
          omega
      · simp at read

theorem length_readLength_lt {size : Nat} {octets rest : Bytes}
    (read : readLength octets = some (size, rest)) : rest.length < octets.length := by
  unfold readLength at read
  split at read
  · simp at read
  · next octet tail =>
    simp only at read
    split at read
    · simp only [Option.some.injEq, Prod.mk.injEq] at read
      simp [read.2]
    · split at read
      · simp at read
      · split at read
        · simp at read
        · simp only [Option.some.injEq, Prod.mk.injEq] at read
          rw [← read.2, List.length_cons, List.length_drop]
          omega

theorem length_readElement_lt {element : Element} {octets rest : Bytes}
    (read : readElement octets = some (element, rest)) : rest.length < octets.length := by
  simp only [readElement, Option.bind_eq_bind, Option.bind_eq_some_iff, Prod.exists] at read
  obtain ⟨tag, afterTag, tagRead, size, afterLength, lengthRead, read⟩ := read
  have := length_readTag_lt tagRead
  have := length_readLength_lt lengthRead
  split at read
  · simp at read
  · simp only [Option.some.injEq, Prod.mk.injEq] at read
    rw [← read.2, List.length_drop]
    omega

/-- Splits octets into elements. -/
def elements? (octets : Bytes) : Option (List Element) :=
  if octets = [] then some []
  else match read : readElement octets with
    | none => none
    | some (element, rest) =>
      have := length_readElement_lt read
      (elements? rest).map (element :: ·)
termination_by octets.length

/-- The elements in an element of a given tag. -/
def Element.children? (element : Element) (tag : Tag) : Option (List Element) :=
  if element.tag = tag then elements? element.content else none

end MeshAttest.Der
