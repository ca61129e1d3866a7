import MeshAttest.Bytes
import MeshAttest.Report.Fault

/-!
# Typed fields of a report

The block of a report is a sequence of fields, each a 16-bit type, a 16-bit length, both
little-endian, and as many octets as the length says. `FieldWalk.ofBlock` reads the fields from the
start of the block up to its end or to the first place where the block goes wrong; what stands
before a fault is read all the same. `Field.encode` writes a field.
-/

set_option autoImplicit false

namespace MeshAttest

/-- One typed field. -/
structure Field where
  kind : Nat
  value : Bytes
deriving DecidableEq, Repr

namespace Field

/-- Writes a field. -/
def encode (field : Field) : Bytes :=
  Bytes.ofNatLE 2 field.kind ++ Bytes.ofNatLE 2 field.value.length ++ field.value

/-- The one-line description of a field. -/
def describe (field : Field) : String :=
  s!"OpaqueField(type={field.kind}, length={field.value.length})"

end Field

/-- The fields of a block in order, and the fault that ended the walk, if any did. -/
structure FieldWalk where
  fields : List Field
  fault : Option ReportFault
deriving DecidableEq, Repr

namespace FieldWalk

/-- The walk that reads a field first. -/
def cons (field : Field) (walk : FieldWalk) : FieldWalk := ⟨field :: walk.fields, walk.fault⟩

/-- Walks what is left of a block from an offset on. -/
def walkFrom (offset : Nat) : Bytes → FieldWalk
  | [] => ⟨[], none⟩
  | [_] => ⟨[], some (.truncatedType offset)⟩
  | [k₀, k₁] | [k₀, k₁, _] =>
    ⟨[], some (.truncatedLength (Bytes.toNatLE [k₀, k₁]) (offset + 2))⟩
  | k₀ :: k₁ :: l₀ :: l₁ :: rest =>
    let kind := Bytes.toNatLE [k₀, k₁]
    let size := Bytes.toNatLE [l₀, l₁]
    if (rest.take size).length < size then
      ⟨[], some (.truncatedValue kind size rest.length)⟩
    else
      cons ⟨kind, rest.take size⟩ (walkFrom (offset + 4 + size) (rest.drop size))
termination_by block => block.length
decreasing_by
  simp only [List.length_drop, List.length_cons]
  omega

/-- Walks a block from its start. -/
def ofBlock (block : Bytes) : FieldWalk := walkFrom 0 block

end FieldWalk

end MeshAttest
