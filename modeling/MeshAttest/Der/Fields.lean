import MeshAttest.Der.Primitive

/-!
# Fields of DER elements

A structure is an element whose content is a fixed row of elements, some of which may be absent.
`Der.Fields` reads such a row from its front; `Der.Fields.fill?` reads a row and admits nothing
behind it.
-/

set_option autoImplicit false

namespace MeshAttest.Der

/-- Reads fields from the front of a row of elements. -/
abbrev Fields (α : Type) := StateT (List Element) Option α

namespace Fields

variable {α : Type}

/-- What fields read from a row of elements that they fill completely. -/
def fill? (fields : Fields α) (elements : List Element) : Option α :=
  match fields.run elements with
  | some (value, []) => some value
  | _ => none

/-- What fields read from the content of an element with a tag. -/
def ofElement? (fields : Fields α) (tag : Tag) (element : Element) : Option α :=
  (element.children? tag).bind fields.fill?

/-- The value of the next element. -/
def next (read : Element → Option α) : Fields α := fun elements ↦
  match elements with
  | element :: rest => (read element).map (·, rest)
  | [] => none

/-- The value of the next element if that has a tag. Without the tag nothing is read. -/
def optional (tag : Tag) (read : Element → Option α) : Fields (Option α) := fun elements ↦
  match elements with
  | element :: rest =>
    if element.tag = tag then (read element).map fun value ↦ (some value, rest)
    else some (none, elements)
  | [] => some (none, [])

/-- The value of a content under a tag. -/
def typed (tag : Tag) (read : Bytes → Option α) (element : Element) : Option α :=
  if element.tag = tag then read element.content else none

/-- An object identifier. -/
def objectId : Fields (List Nat) := next (typed .objectId objectId?)

/-- A natural number. -/
def natural : Fields Nat := next (typed .integer natural?)

/-- A natural number of at most so many bits. -/
def naturalOfSize (bits : Nat) : Fields Nat :=
  next (typed .integer fun content ↦ (natural? content).filter (· < 1 <<< bits))

/-- A natural number of at most so many bits, if an integer comes next. -/
def optionalNaturalOfSize (bits : Nat) : Fields (Option Nat) :=
  optional .integer fun element ↦ (natural? element.content).filter (· < 1 <<< bits)

/-- A string of octets. -/
def octets : Fields Bytes := next (typed .octetString some)

/-- A string of so many octets. -/
def octetsOfSize (size : Nat) : Fields Bytes :=
  next (typed .octetString fun content ↦ if content.length = size then some content else none)

/-- A row of fields in an element of their own. -/
def sequence (fields : Fields α) : Fields α := next (fields.ofElement? .sequence)

end Fields

end MeshAttest.Der
