import MeshAttest.Proofs.Outcome
import MeshAttest.Proofs.Report.Fields
import MeshAttest.Proofs.Report.Layout
import MeshAttest.Report.Link

/-!
# First fields of a kind

Of all fields in a block, those who read link partners use the first one of a kind
(`Report.firstValue?`), or the first ones of two kinds. `Report.neighborPdis_eq_ok_iff` and
`Report.attachedPdis_eq_ok_iff` say so of any report that can be read. For a report that was written
it is enough to know how the block begins: fields of other kinds, and then the one in question
(`Field.IsFirstIn`). What comes after that may be anything.
-/

set_option autoImplicit false

namespace MeshAttest

open Outcome

/-! ### Lists of PDIs -/

namespace Pdi

variable {p : Pdi} {pdis : List Pdi}

theorem pieces_append (h : p.length = size) (rest : Bytes) :
    pieces (p ++ rest) = p :: pieces rest := by
  match p, h with
  | [_, _, _, _, _, _, _, _], _ => rfl

/-- PDIs that stand one after the other are told apart by their size. -/
theorem pieces_flatten (h : ∀ p ∈ pdis, p.length = size) : pieces pdis.flatten = pdis := by
  induction pdis with
  | nil => rfl
  | cons first rest ih =>
    obtain ⟨hfirst, hrest⟩ := List.forall_mem_cons.mp h
    rw [List.flatten_cons, pieces_append hfirst, ih hrest]

theorem length_flatten_mod_size (h : ∀ p ∈ pdis, p.length = size) :
    pdis.flatten.length % size = 0 := by
  induction pdis with
  | nil => rfl
  | cons first rest ih =>
    obtain ⟨hfirst, hrest⟩ := List.forall_mem_cons.mp h
    rw [List.flatten_cons, List.length_append, hfirst, Nat.add_mod_left, ih hrest]

end Pdi

namespace Report

/-- PDIs that stand side by side are read one by one. -/
theorem splitPdis_flatten {pdis : List Pdi} (h : ∀ p ∈ pdis, p.length = Pdi.size) (kind : Int) :
    splitPdis kind pdis.flatten = .ok pdis := by
  rw [splitPdis, if_pos (Pdi.length_flatten_mod_size h), Pdi.pieces_flatten h]

/-! ### Looking fields up -/

variable {kind deviceKind attachedKind : Int} {field : Field} {fields : List Field}
  {fault : Option ReportFault} {bytes : Bytes} {pdis : List Pdi} {own : Pdi}

/-- The value of the first field of a kind. -/
def firstValue? (kind : Int) (fields : List Field) : Option Bytes :=
  (fields.find? fun field ↦ decide ((field.kind : Int) = kind)).map Field.value

@[simp] theorem firstValue?_nil : firstValue? kind [] = none := rfl

theorem firstValue?_cons_self (h : (field.kind : Int) = kind) (rest : List Field) :
    firstValue? kind (field :: rest) = some field.value := by
  rw [firstValue?, List.find?_cons_of_pos (by simpa using h), Option.map_some]

theorem firstValue?_cons_of_ne (h : (field.kind : Int) ≠ kind) (rest : List Field) :
    firstValue? kind (field :: rest) = firstValue? kind rest := by
  rw [firstValue?, List.find?_cons_of_neg (by simpa using h), firstValue?]

/-- The list of a report is read from the first field of the kind. -/
theorem neighborPdis_eq_ok_iff :
    neighborPdis bytes kind = .ok pdis ↔ ∃ report value, parse bytes = .ok report ∧
      firstValue? kind (FieldWalk.ofBlock report.fieldBlock).fields = some value ∧
        splitPdis kind value = .ok pdis := by
  rw [neighborPdis, bind_eq_ok_iff]
  refine exists_congr fun report ↦ ?_
  rw [exists_and_left, and_congr_right_iff]
  intro _
  unfold firstValue?
  cases hfind : (FieldWalk.ofBlock report.fieldBlock).fields.find?
      fun field ↦ decide ((field.kind : Int) = kind) with
  | none => simp [hfind]
  | some field => simp [hfind]

/-! What a scan does with a field depends on the kind of the field, and on what has been seen. -/

section Scan

variable {seenOwn : Option Pdi} {seenAttached : Option (List Pdi)}

/-- A field of another kind, or of a kind that has been seen, is passed over. -/
theorem scanAttached_cons_of_useless (hdevice : (field.kind : Int) = deviceKind → seenOwn.isSome)
    (hattached : (field.kind : Int) = attachedKind → seenAttached.isSome) (rest : List Field) :
    scanAttached deviceKind attachedKind fault seenOwn seenAttached (field :: rest) =
      scanAttached deviceKind attachedKind fault seenOwn seenAttached rest := by
  cases seenOwn with
  | none =>
    have hother : (field.kind : Int) ≠ deviceKind := fun h ↦ Bool.false_ne_true (hdevice h)
    rw [scanAttached, if_neg hother, if_neg]
    rintro ⟨hnone, hsame⟩
    rw [Option.isNone_iff_eq_none.mp hnone] at hattached
    exact Bool.false_ne_true (hattached hsame)
  | some own =>
    cases seenAttached with
    | none =>
      have hother : (field.kind : Int) ≠ attachedKind := fun h ↦ Bool.false_ne_true (hattached h)
      rw [scanAttached, if_neg hother]
    | some pdis => rw [scanAttached, scanAttached]

/-- The first field of the kind of own PDIs has to be as long as one PDI. -/
theorem scanAttached_cons_device (h : (field.kind : Int) = deviceKind) (rest : List Field) :
    scanAttached deviceKind attachedKind fault none seenAttached (field :: rest) =
      if field.value.length = Pdi.size then
        scanAttached deviceKind attachedKind fault (some field.value) seenAttached rest
      else .error (.devicePdiSize field.value.length) := by
  rw [scanAttached, if_pos h]

/-- The first field of the kind of attached PDIs has to consist of whole PDIs. -/
theorem scanAttached_cons_attached (hdevice : (field.kind : Int) = deviceKind → seenOwn.isSome)
    (h : (field.kind : Int) = attachedKind) (rest : List Field) :
    scanAttached deviceKind attachedKind fault seenOwn none (field :: rest) =
      (splitPdis attachedKind field.value >>= fun pdis ↦
        scanAttached deviceKind attachedKind fault seenOwn (some pdis) rest) := by
  cases seenOwn with
  | none =>
    have hother : (field.kind : Int) ≠ deviceKind := fun h ↦ Bool.false_ne_true (hdevice h)
    rw [scanAttached, if_neg hother, if_pos ⟨rfl, h⟩]
  | some own => rw [scanAttached, if_pos h]

/-- The scan gives what has been seen before, and else what the first fields of the two kinds have.
The induction is on the fields. -/
theorem scanAttached_eq_ok_iff (hne : deviceKind ≠ attachedKind) :
    scanAttached deviceKind attachedKind fault seenOwn seenAttached fields = .ok (pdis, own) ↔
      (seenOwn = some own ∨
        seenOwn = none ∧ firstValue? deviceKind fields = some own ∧ own.length = Pdi.size) ∧
      (seenAttached = some pdis ∨
        seenAttached = none ∧ ∃ value, firstValue? attachedKind fields = some value ∧
          splitPdis attachedKind value = .ok pdis) := by
  induction fields generalizing seenOwn seenAttached with
  | nil => cases seenOwn <;> cases seenAttached <;> simp [scanAttached, and_comm]
  | cons field rest ih =>
    -- No field is of both kinds, so that each one concerns one of the two parts only.
    by_cases hdevice : (field.kind : Int) = deviceKind
    · have hattached : (field.kind : Int) ≠ attachedKind := hdevice ▸ hne
      rw [firstValue?_cons_self hdevice, firstValue?_cons_of_ne hattached]
      cases seenOwn with
      | some seen =>
        rw [scanAttached_cons_of_useless (fun _ ↦ rfl) (fun h ↦ absurd h hattached), ih]
        simp
      | none =>
        rw [scanAttached_cons_device hdevice]
        by_cases hsize : field.value.length = Pdi.size
        · rw [if_pos hsize, ih]
          refine and_congr_left fun _ ↦ ?_
          simp only [Option.some.injEq, reduceCtorEq, false_and, or_false, true_and, false_or]
          exact ⟨fun h ↦ ⟨h, h ▸ hsize⟩, fun h ↦ h.1⟩
        · rw [if_neg hsize]
          simp only [reduceCtorEq, false_or, true_and, Option.some.injEq, false_iff, not_and]
          rintro ⟨rfl, hown⟩
          exact absurd hown hsize
    · rw [firstValue?_cons_of_ne hdevice]
      by_cases hattached : (field.kind : Int) = attachedKind
      · rw [firstValue?_cons_self hattached]
        cases seenAttached with
        | some seen =>
          rw [scanAttached_cons_of_useless (fun h ↦ absurd h hdevice) (fun _ ↦ rfl), ih]
          simp
        | none =>
          rw [scanAttached_cons_attached (fun h ↦ absurd h hdevice) hattached, bind_eq_ok_iff]
          simp only [ih, Option.some.injEq, reduceCtorEq, false_and, or_false, true_and, false_or,
            exists_eq_left']
          constructor
          · rintro ⟨_, hsplit, hown, rfl⟩
            exact ⟨hown, hsplit⟩
          · rintro ⟨hown, hsplit⟩
            exact ⟨pdis, hsplit, hown, rfl⟩
      · rw [firstValue?_cons_of_ne hattached,
          scanAttached_cons_of_useless (fun h ↦ absurd h hdevice) (fun h ↦ absurd h hattached), ih]

end Scan

/-- If the kinds are different, both lists are read from the first field of their kind, whichever of
the two comes first. -/
theorem attachedPdis_eq_ok_iff (hne : deviceKind ≠ attachedKind) :
    attachedPdis bytes deviceKind attachedKind = .ok (pdis, own) ↔
      ∃ report value, parse bytes = .ok report ∧
        firstValue? deviceKind (FieldWalk.ofBlock report.fieldBlock).fields = some own ∧
        own.length = Pdi.size ∧
        firstValue? attachedKind (FieldWalk.ofBlock report.fieldBlock).fields = some value ∧
        splitPdis attachedKind value = .ok pdis := by
  rw [attachedPdis, bind_eq_ok_iff]
  simp only [scanAttached_eq_ok_iff hne, reduceCtorEq, false_or, true_and]
  constructor
  · rintro ⟨report, hparse, ⟨hown, hsize⟩, value, hvalue, hsplit⟩
    exact ⟨report, value, hparse, hown, hsize, hvalue, hsplit⟩
  · rintro ⟨report, value, hparse, hown, hsize, hvalue, hsplit⟩
    exact ⟨report, hparse, ⟨hown, hsize⟩, value, hvalue, hsplit⟩

end Report

/-! ### Blocks that begin with fields -/

/-- The block begins with whole fields: some of other kinds, and then this one. -/
def Field.IsFirstIn (field : Field) (block : Bytes) : Prop :=
  ∃ before : List Field, (∀ other ∈ before, other.Fits ∧ other.kind ≠ field.kind) ∧ field.Fits ∧
    encodeAll before ++ field.encode <+: block

namespace Report

variable {kind deviceKind attachedKind : Nat} {report : Report} {value : Bytes} {pdis : List Pdi}
  {own : Pdi}

/-- The walk gives whole fields one by one, whatever it meets behind them. -/
theorem firstValue?_ofBlock {field : Field} {block : Bytes} (h : field.IsFirstIn block) :
    firstValue? field.kind (FieldWalk.ofBlock block).fields = some field.value := by
  obtain ⟨before, hbefore, hfield, rest, rfl⟩ := h
  have hfits : ∀ other ∈ before ++ [field], other.Fits := by
    rw [List.forall_mem_append, List.forall_mem_singleton]
    exact ⟨fun other hother ↦ (hbefore other hother).1, hfield⟩
  have hencode : Field.encodeAll before ++ field.encode = Field.encodeAll (before ++ [field]) := by
    rw [Field.encodeAll, Field.encodeAll, List.flatMap_append, List.flatMap_singleton]
  have hnone : before.find? (fun other ↦ decide ((other.kind : Int) = field.kind)) = none := by
    rw [List.find?_eq_none]
    intro other hother
    have hkind := (hbefore other hother).2
    rw [decide_eq_true_eq]
    exact Int.ofNat_inj.not.mpr hkind
  rw [hencode, FieldWalk.ofBlock, FieldWalk.walkFrom_encodeAll_append hfits, firstValue?,
    List.append_assoc, List.find?_append, hnone]
  simp

/-- PDIs that are written into the first field of the kind are what is read. -/
theorem neighborPdis_encode (h : report.Fits)
    (hfirst : Field.IsFirstIn ⟨kind, pdis.flatten⟩ report.fieldBlock)
    (hpdis : ∀ p ∈ pdis, p.length = Pdi.size) : neighborPdis report.encode kind = .ok pdis :=
  neighborPdis_eq_ok_iff.mpr
    ⟨report, _, parse_encode h, firstValue?_ofBlock hfirst, splitPdis_flatten hpdis kind⟩

/-- PDIs that are written into the first fields of two different kinds are what is read for a
switch. -/
theorem attachedPdis_encode (h : report.Fits) (hne : deviceKind ≠ attachedKind)
    (hown : Field.IsFirstIn ⟨deviceKind, own⟩ report.fieldBlock) (hsize : own.length = Pdi.size)
    (hattached : Field.IsFirstIn ⟨attachedKind, pdis.flatten⟩ report.fieldBlock)
    (hpdis : ∀ p ∈ pdis, p.length = Pdi.size) :
    attachedPdis report.encode deviceKind attachedKind = .ok (pdis, own) :=
  (attachedPdis_eq_ok_iff (Int.ofNat_inj.not.mpr hne)).mpr
    ⟨report, _, parse_encode h, firstValue?_ofBlock hown, hsize, firstValue?_ofBlock hattached,
      splitPdis_flatten hpdis attachedKind⟩

end Report

end MeshAttest
