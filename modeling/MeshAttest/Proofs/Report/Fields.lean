import MeshAttest.Bytes.Lemmas
import MeshAttest.Report.Field
import Mathlib.Data.List.Basic

/-!
# The grammar of a field block

Every block is the encoding of some fields, followed by a rest that does not begin with a whole
field, and it can be taken apart so in one way only (`FieldWalk.Decomposes`). The walk through a
block gives just these fields. What ends it is the rest: nothing if the rest is empty, and otherwise
a fault that depends on how long the rest is (`FieldWalk.endFault?`).

Uniqueness is not shown by comparing two encodings. The walk over any of them gives its fields
back (`FieldWalk.ofBlock_of_decomposes`), and a block has only one walk.
-/

set_option autoImplicit false

namespace MeshAttest

open Bytes

/-! ### Fields -/

namespace Field

variable {bytes : Bytes}

/-- The type and the length of a field fit their 16 bits each. -/
structure Fits (field : Field) : Prop where
  kind_lt : field.kind < 2 ^ 16
  length_lt : field.value.length < 2 ^ 16

instance (field : Field) : Decidable field.Fits :=
  decidable_of_iff (field.kind < 2 ^ 16 ∧ field.value.length < 2 ^ 16)
    ⟨fun h ↦ ⟨h.1, h.2⟩, fun h ↦ ⟨h.kind_lt, h.length_lt⟩⟩

/-- Some field stands at the start of the octets, with all of its value. -/
def Begins (bytes : Bytes) : Prop := ∃ field : Field, field.Fits ∧ field.encode <+: bytes

/-- Writes fields one after the other. -/
def encodeAll (fields : List Field) : Bytes := fields.flatMap encode

@[simp] theorem encodeAll_nil : encodeAll [] = [] := rfl

@[simp] theorem encodeAll_cons (field : Field) (fields : List Field) :
    encodeAll (field :: fields) = field.encode ++ encodeAll fields :=
  List.flatMap_cons

theorem length_encode (field : Field) : field.encode.length = 4 + field.value.length := by
  simp only [encode, List.length_append, length_ofNatLE]

theorem not_begins_nil : ¬ Begins [] := by
  rintro ⟨field, -, hencode⟩
  have hlength := hencode.length_le
  rw [length_encode, List.length_nil] at hlength
  omega

/-- A field begins where there are as many octets as its length says. -/
theorem begins_of_le {kind size value : Bytes} (hkind : kind.length = 2) (hsize : size.length = 2)
    (h : size.toNatLE ≤ value.length) : Begins (kind ++ size ++ value) := by
  have hkind' : ofNatLE 2 kind.toNatLE = kind := hkind ▸ ofNatLE_toNatLE kind
  have hsize' : ofNatLE 2 size.toNatLE = size := hsize ▸ ofNatLE_toNatLE size
  have hlength : (value.take size.toNatLE).length = size.toNatLE := List.length_take_of_le h
  refine ⟨⟨kind.toNatLE, value.take size.toNatLE⟩, ⟨?_, ?_⟩, value.drop size.toNatLE, ?_⟩
  · have hlt := toNatLE_lt kind
    rwa [hkind] at hlt
  · have hlt := toNatLE_lt size
    rwa [hsize, ← hlength] at hlt
  · rw [encode, hlength, hkind', hsize', List.append_assoc, List.take_append_drop]

end Field

/-! ### The walk -/

namespace FieldWalk

open MeshAttest.Field

variable {block rest : Bytes} {field : Field} {fields : List Field}

/-- The walk reads a type and a length, and compares the length with what is left. -/
theorem walkFrom_append {kind size : Bytes} (hkind : kind.length = 2) (hsize : size.length = 2)
    (offset : Nat) (value : Bytes) :
    walkFrom offset (kind ++ size ++ value) =
      if value.length < size.toNatLE then
        ⟨[], some (.truncatedValue kind.toNatLE size.toNatLE value.length)⟩
      else
        cons ⟨kind.toNatLE, value.take size.toNatLE⟩
          (walkFrom (offset + 4 + size.toNatLE) (value.drop size.toNatLE)) := by
  have hshort : (value.take size.toNatLE).length < size.toNatLE ↔ value.length < size.toNatLE := by
    rw [List.length_take]
    omega
  obtain ⟨k₀, k₁, rfl⟩ := List.length_eq_two.mp hkind
  obtain ⟨l₀, l₁, rfl⟩ := List.length_eq_two.mp hsize
  change walkFrom offset (k₀ :: k₁ :: l₀ :: l₁ :: value) = _
  rw [walkFrom]
  simp only [hshort]

/-- A walk takes a field that stands at the start, and goes on behind it. -/
theorem walkFrom_encode_append (h : field.Fits) (offset : Nat) (rest : Bytes) :
    walkFrom offset (field.encode ++ rest) =
      cons field (walkFrom (offset + field.encode.length) rest) := by
  have hvalue : ¬ (field.value ++ rest).length < field.value.length := by
    rw [List.length_append]
    omega
  rw [length_encode, ← Nat.add_assoc, encode, List.append_assoc,
    walkFrom_append (length_ofNatLE _ _) (length_ofNatLE _ _),
    toNatLE_ofNatLE_of_lt 2 h.kind_lt, toNatLE_ofNatLE_of_lt 2 h.length_lt,
    if_neg hvalue, List.take_left, List.drop_left]

/-- The fault with which a walk ends when it comes to octets, at an offset, that begin with no
field. -/
def endFault? (offset : Nat) (rest : Bytes) : Option ReportFault :=
  if rest.length = 0 then none
  else if rest.length = 1 then some (.truncatedType offset)
  else if rest.length < 4 then some (.truncatedLength (rest.slice 0 2).toNatLE (offset + 2))
  else some (.truncatedValue (rest.slice 0 2).toNatLE (rest.slice 2 2).toNatLE (rest.length - 4))

/-- Where no field begins the walk ends. Its fault tells what was left, and where. -/
theorem walkFrom_of_not_begins (h : ¬ Begins rest) (offset : Nat) :
    walkFrom offset rest = ⟨[], endFault? offset rest⟩ := by
  match rest, h with
  | [], _ | [_], _ | [_, _], _ | [_, _, _], _ =>
    rw [walkFrom]
    rfl
  | k₀ :: k₁ :: l₀ :: l₁ :: value, h =>
    have hkind : [k₀, k₁].length = 2 := rfl
    have hsize : [l₀, l₁].length = 2 := rfl
    have hvalue : value.length < toNatLE [l₀, l₁] := by
      by_contra hle
      exact h (begins_of_le hkind hsize (Nat.le_of_not_lt hle))
    exact (walkFrom_append hkind hsize offset value).trans (if_pos hvalue)

/-- The induction is on the fields, each of which the walk reads whole. -/
theorem walkFrom_encodeAll_append (h : ∀ field ∈ fields, field.Fits) (offset : Nat)
    (rest : Bytes) :
    walkFrom offset (encodeAll fields ++ rest) =
      ⟨fields ++ (walkFrom (offset + (encodeAll fields).length) rest).fields,
        (walkFrom (offset + (encodeAll fields).length) rest).fault⟩ := by
  induction fields generalizing offset with
  | nil => rfl
  | cons first others ih =>
    obtain ⟨hfirst, hothers⟩ := List.forall_mem_cons.mp h
    rw [encodeAll_cons, List.append_assoc, walkFrom_encode_append hfirst, ih hothers,
      List.length_append, Nat.add_assoc]
    rfl

/-! ### The decomposition -/

/-- The block consists of fields and a rest that begins with no field. -/
structure Decomposes (block : Bytes) (fields : List Field) (rest : Bytes) : Prop where
  fits : ∀ field ∈ fields, field.Fits
  block_eq : block = encodeAll fields ++ rest
  not_begins : ¬ Begins rest

/-- Fields that are written one after the other make up a block without a rest. -/
theorem decomposes_encodeAll (h : ∀ field ∈ fields, field.Fits) :
    Decomposes (encodeAll fields) fields [] :=
  ⟨h, (List.append_nil _).symm, not_begins_nil⟩

/-- The fields are split off one after the other, as long as one begins. -/
theorem exists_decomposes (block : Bytes) : ∃ fields rest, Decomposes block fields rest := by
  by_cases h : Begins block
  · obtain ⟨field, hfits, tail, hblock⟩ := h
    have hshorter : tail.length < block.length := by
      rw [← hblock, List.length_append, length_encode]
      omega
    obtain ⟨fields, rest, h⟩ := exists_decomposes tail
    refine ⟨field :: fields, rest, List.forall_mem_cons.mpr ⟨hfits, h.fits⟩, ?_, h.not_begins⟩
    rw [← hblock, encodeAll_cons, List.append_assoc, ← h.block_eq]
  · exact ⟨[], block, List.forall_mem_nil _, rfl, h⟩
termination_by block.length

/-- The walk over a block finds the fields of which it consists, and stops at the rest. -/
theorem ofBlock_of_decomposes (h : Decomposes block fields rest) :
    ofBlock block = ⟨fields, endFault? (block.length - rest.length) rest⟩ := by
  have hoffset : block.length - rest.length = 0 + (encodeAll fields).length := by
    rw [h.block_eq, List.length_append]
    omega
  rw [hoffset, h.block_eq, ofBlock, walkFrom_encodeAll_append h.fits,
    walkFrom_of_not_begins h.not_begins, List.append_nil]

/-- A block consists of fields and a rest in one way only. -/
theorem Decomposes.unique {others : List Field} {other : Bytes}
    (h : Decomposes block fields rest) (hother : Decomposes block others other) :
    others = fields ∧ other = rest := by
  have hfields : others = fields := by
    have hwalk := ofBlock_of_decomposes h
    rw [ofBlock_of_decomposes hother] at hwalk
    exact congrArg FieldWalk.fields hwalk
  subst hfields
  exact ⟨rfl, List.append_cancel_left (hother.block_eq.symm.trans h.block_eq)⟩

/-- A block is made of fields and a rest in exactly one way. The walk gives these fields and ends as
the rest says. Fields that are written without a rest are all read again. -/
theorem existsUnique_decomposes :
    (∀ block : Bytes, ∃ fields rest, Decomposes block fields rest ∧
      (∀ others other, Decomposes block others other → others = fields ∧ other = rest) ∧
      ofBlock block = ⟨fields, endFault? (block.length - rest.length) rest⟩) ∧
    ∀ fields : List Field, (∀ field ∈ fields, field.Fits) →
      ofBlock (encodeAll fields) = ⟨fields, none⟩ := by
  constructor
  · intro block
    obtain ⟨fields, rest, h⟩ := exists_decomposes block
    exact ⟨fields, rest, h, fun _ _ hother ↦ h.unique hother, ofBlock_of_decomposes h⟩
  · intro fields hfits
    exact ofBlock_of_decomposes (decomposes_encodeAll hfits)

end FieldWalk

end MeshAttest
