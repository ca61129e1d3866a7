import MeshAttest.Proofs.Report.FirstFields

/-!
# Looking up lists of PDIs

What a report lists under a kind is in the first field of the kind. `Report.ListsFirst` says, for
the walk through a block, what comes of looking for it: the PDIs that stand side by side in the
value of that field, or else a fault. A walk that ends with a fault gives the fields in front of it
all the same, so that the fault is of no account if one of them is of the kind. It is the fault of
the look-up if none is (`Report.neighborPdis_looksUpFirst`).

A switch report is looked through for two kinds at once. It comes to the same as looking for one
kind and then for the other, provided that they differ and that a single PDI is found under the
first (`Report.attachedPdis_eq_ok_iff_neighborPdis`).
-/

set_option autoImplicit false

namespace MeshAttest

open Outcome

/-! ### Values that are lists of PDIs -/

/-- The induction is on the number of PDIs. -/
theorem Pdi.exists_flatten_eq {value : Bytes} (h : size ∣ value.length) :
    ∃ pdis : List Pdi, (∀ p ∈ pdis, p.length = size) ∧ pdis.flatten = value := by
  obtain ⟨count, hcount⟩ := h
  induction count generalizing value with
  | zero => exact ⟨[], List.forall_mem_nil _, (List.length_eq_zero_iff.mp hcount).symm⟩
  | succ count ih =>
    rw [Nat.mul_succ] at hcount
    obtain ⟨pdis, hpdis, hflatten⟩ := @ih (value.drop size) (by rw [List.length_drop]; omega)
    have hfirst : (value.take size).length = size := List.length_take_of_le (by omega)
    refine ⟨value.take size :: pdis, List.forall_mem_cons.mpr ⟨hfirst, hpdis⟩, ?_⟩
    rw [List.flatten_cons, hflatten, List.take_append_drop]

namespace FieldWalk

/-- The fields of a walk have been read, so that their types and lengths fit their octets. -/
theorem fits_of_mem_ofBlock {block : Bytes} {field : Field} (h : field ∈ (ofBlock block).fields) :
    field.Fits := by
  obtain ⟨fields, rest, hblock⟩ := exists_decomposes block
  rw [ofBlock_of_decomposes hblock] at h
  exact hblock.fits field h

end FieldWalk

namespace Report

variable {kind deviceKind attachedKind : Int} {fields : List Field} {value bytes : Bytes}
  {pdis : List Pdi} {own : Pdi} {report : Report} {fault : ReportFault} {walk : FieldWalk}
  {outcome : Except ReportFault (List Pdi)}

/-- A value is split into the PDIs of which it consists. -/
theorem splitPdis_eq_ok_iff :
    splitPdis kind value = .ok pdis ↔ (∀ p ∈ pdis, p.length = Pdi.size) ∧ pdis.flatten = value := by
  constructor
  · intro h
    have hsize : Pdi.size ∣ value.length := by
      by_contra hsize
      rw [splitPdis, if_neg (mt Nat.dvd_of_mod_eq_zero hsize)] at h
      cases h
    obtain ⟨others, hothers, rfl⟩ := Pdi.exists_flatten_eq hsize
    rw [splitPdis_flatten hothers] at h
    obtain rfl := Except.ok.inj h
    exact ⟨hothers, rfl⟩
  · rintro ⟨hpdis, rfl⟩
    exact splitPdis_flatten hpdis kind

/-- A value that does not consist of whole PDIs is refused, with its length. -/
theorem splitPdis_eq_error_iff :
    splitPdis kind value = .error fault ↔
      ¬ Pdi.size ∣ value.length ∧ fault = .pdiListSize kind value.length := by
  rw [splitPdis, Nat.dvd_iff_mod_eq_zero]
  split
  · next hsize => simp [hsize]
  · next hsize => simp [hsize, eq_comm]

theorem splitPdis_eq_singleton_iff :
    splitPdis kind value = .ok [own] ↔ value = own ∧ own.length = Pdi.size := by
  rw [splitPdis_eq_ok_iff, List.forall_mem_singleton, List.flatten_singleton, and_comm]
  exact and_congr_left' eq_comm

/-! ### The first field of a kind -/

/-- The value of a kind is that of a field with none of the kind in front of it. -/
theorem firstValue?_eq_some_iff :
    firstValue? kind fields = some value ↔ ∃ before field after,
      fields = before ++ field :: after ∧ (∀ other ∈ before, (other.kind : Int) ≠ kind) ∧
        (field.kind : Int) = kind ∧ field.value = value := by
  simp only [firstValue?, Option.map_eq_some_iff, List.find?_eq_some_iff_append,
    decide_eq_true_eq, Bool.not_eq_true', decide_eq_false_iff_not]
  constructor
  · rintro ⟨field, ⟨hkind, before, after, hfields, hbefore⟩, hvalue⟩
    exact ⟨before, field, after, hfields, hbefore, hkind, hvalue⟩
  · rintro ⟨before, field, after, hfields, hbefore, hkind, hvalue⟩
    exact ⟨field, ⟨hkind, before, after, hfields, hbefore⟩, hvalue⟩

theorem firstValue?_eq_none_iff :
    firstValue? kind fields = none ↔ ∀ field ∈ fields, (field.kind : Int) ≠ kind := by
  simp only [firstValue?, Option.map_eq_none_iff, List.find?_eq_none, decide_eq_true_eq]

/-- What is read in a block under a kind. -/
def firstList (kind : Int) (walk : FieldWalk) : Except ReportFault (List Pdi) :=
  match firstValue? kind walk.fields with
  | some value => splitPdis kind value
  | none => .error (walk.fault.getD (.missing kind .switchPdis))

theorem firstList_of_some (h : firstValue? kind walk.fields = some value) :
    firstList kind walk = splitPdis kind value := by
  rw [firstList, h]

/-- Where there is no field of the kind, the fault that ended the walk is reported, and if there was
none, that the field is missing. -/
theorem firstList_of_none (h : firstValue? kind walk.fields = none) :
    firstList kind walk = .error (walk.fault.getD (.missing kind .switchPdis)) := by
  rw [firstList, h]

/-- For a report that can be read, the list is looked up among the fields of its block. -/
theorem neighborPdis_of_parse (h : parse bytes = .ok report) (kind : Int) :
    neighborPdis bytes kind = firstList kind (FieldWalk.ofBlock report.fieldBlock) := by
  rw [neighborPdis, h, ok_bind, firstList, firstValue?]
  cases hfind : (FieldWalk.ofBlock report.fieldBlock).fields.find?
      fun field ↦ decide ((field.kind : Int) = kind) with
  | none => simp only [hfind, Option.map_none]
  | some field => simp only [hfind, Option.map_some]

/-- What may come of looking for the PDIs that are listed under a kind. -/
inductive ListsFirst (kind : Int) (walk : FieldWalk) : Except ReportFault (List Pdi) → Prop
  | whole {before after : List Field} {field : Field} {pdis : List Pdi}
    (hfields : walk.fields = before ++ field :: after)
    (hbefore : ∀ other ∈ before, (other.kind : Int) ≠ kind) (hkind : (field.kind : Int) = kind)
    (hpdis : ∀ p ∈ pdis, p.length = Pdi.size) (hvalue : pdis.flatten = field.value) :
    ListsFirst kind walk (.ok pdis)
  | uneven {before after : List Field} {field : Field}
    (hfields : walk.fields = before ++ field :: after)
    (hbefore : ∀ other ∈ before, (other.kind : Int) ≠ kind) (hkind : (field.kind : Int) = kind)
    (hsize : ¬ Pdi.size ∣ field.value.length) :
    ListsFirst kind walk (.error (.pdiListSize kind field.value.length))
  | broken {fault : ReportFault} (hnone : ∀ field ∈ walk.fields, (field.kind : Int) ≠ kind)
    (hfault : walk.fault = some fault) : ListsFirst kind walk (.error fault)
  | missing (hnone : ∀ field ∈ walk.fields, (field.kind : Int) ≠ kind)
    (hfault : walk.fault = none) : ListsFirst kind walk (.error (.missing kind .switchPdis))

/-- What is read under a kind is among what may come of looking for it. -/
theorem listsFirst_firstList (kind : Int) (walk : FieldWalk) :
    ListsFirst kind walk (firstList kind walk) := by
  cases hvalue : firstValue? kind walk.fields with
  | none =>
    have hnone := firstValue?_eq_none_iff.mp hvalue
    rw [firstList_of_none hvalue]
    cases hfault : walk.fault with
    | none => exact .missing hnone hfault
    | some fault => exact .broken hnone hfault
  | some value =>
    rw [firstList_of_some hvalue]
    obtain ⟨before, field, after, hfields, hbefore, hkind, rfl⟩ := firstValue?_eq_some_iff.mp hvalue
    cases hsplit : splitPdis kind field.value with
    | ok pdis =>
      obtain ⟨hpdis, hflatten⟩ := splitPdis_eq_ok_iff.mp hsplit
      exact .whole hfields hbefore hkind hpdis hflatten
    | error fault =>
      obtain ⟨hsize, rfl⟩ := splitPdis_eq_error_iff.mp hsplit
      exact .uneven hfields hbefore hkind hsize

/-- Looking for the list under a kind has one outcome, the one that `ListsFirst` admits. -/
theorem firstList_eq_iff : firstList kind walk = outcome ↔ ListsFirst kind walk outcome := by
  constructor
  · rintro rfl
    exact listsFirst_firstList kind walk
  · intro h
    cases h with
    | whole hfields hbefore hkind hpdis hvalue =>
      rw [firstList_of_some (firstValue?_eq_some_iff.mpr ⟨_, _, _, hfields, hbefore, hkind, rfl⟩)]
      exact splitPdis_eq_ok_iff.mpr ⟨hpdis, hvalue⟩
    | uneven hfields hbefore hkind hsize =>
      rw [firstList_of_some (firstValue?_eq_some_iff.mpr ⟨_, _, _, hfields, hbefore, hkind, rfl⟩)]
      exact splitPdis_eq_error_iff.mpr ⟨hsize, rfl⟩
    | broken hnone hfault =>
      rw [firstList_of_none (firstValue?_eq_none_iff.mpr hnone), hfault, Option.getD_some]
    | missing hnone hfault =>
      rw [firstList_of_none (firstValue?_eq_none_iff.mpr hnone), hfault, Option.getD_none]

/-- The list under a kind is looked up in the first field of the kind, and what is behind that field
has no part in it. -/
structure LooksUpFirst (bytes : Bytes) (kind : Int) : Prop where
  unreadable : ∀ fault, parse bytes = .error fault → neighborPdis bytes kind = .error fault
  readable : ∀ report, parse bytes = .ok report → ∀ outcome, neighborPdis bytes kind = outcome ↔
    ListsFirst kind (FieldWalk.ofBlock report.fieldBlock) outcome
  outOfRange : kind < 0 ∨ 65535 < kind → ∀ report, parse bytes = .ok report →
    ∀ field ∈ (FieldWalk.ofBlock report.fieldBlock).fields, (field.kind : Int) ≠ kind
  /-- Two blocks that begin with other fields, go on with the same field of the kind, and end in any
  way come to the same. -/
  sameFirst : ∀ field : Field, (field.kind : Int) = kind → ∀ report, parse bytes = .ok report →
    field.IsFirstIn report.fieldBlock → ∀ other otherReport, parse other = .ok otherReport →
      field.IsFirstIn otherReport.fieldBlock → neighborPdis other kind = neighborPdis bytes kind

/-- For all octets and any kind, the first field of the kind decides what is read, or that there is
none. -/
theorem neighborPdis_looksUpFirst (bytes : Bytes) (kind : Int) : LooksUpFirst bytes kind := by
  refine ⟨fun fault h ↦ ?_, fun report h outcome ↦ ?_, fun hkind report h field hfield ↦ ?_, ?_⟩
  · rw [neighborPdis, h, error_bind]
  · rw [neighborPdis_of_parse h, firstList_eq_iff]
  · have hlt : field.kind < 65536 := (FieldWalk.fits_of_mem_ofBlock hfield).kind_lt
    omega
  · rintro field rfl report h hfirst other otherReport hother hotherFirst
    rw [neighborPdis_of_parse h, firstList_of_some (firstValue?_ofBlock hfirst),
      neighborPdis_of_parse hother, firstList_of_some (firstValue?_ofBlock hotherFirst)]

/-! ### Two kinds -/

/-- A report names its own PDI under one kind and attached PDIs under another exactly if looking
under the one gives that PDI alone, and looking under the other gives the list. -/
theorem attachedPdis_eq_ok_iff_neighborPdis (hne : deviceKind ≠ attachedKind) (bytes : Bytes)
    (pdis : List Pdi) (own : Pdi) :
    attachedPdis bytes deviceKind attachedKind = .ok (pdis, own) ↔
      neighborPdis bytes deviceKind = .ok [own] ∧ neighborPdis bytes attachedKind = .ok pdis := by
  rw [attachedPdis_eq_ok_iff hne, neighborPdis_eq_ok_iff, neighborPdis_eq_ok_iff]
  simp only [splitPdis_eq_singleton_iff]
  constructor
  · rintro ⟨report, value, hparse, hown, hsize, hvalue, hsplit⟩
    exact ⟨⟨report, own, hparse, hown, rfl, hsize⟩, report, value, hparse, hvalue, hsplit⟩
  · rintro ⟨⟨report, _, hparse, hown, rfl, hsize⟩, other, value, hother, hvalue, hsplit⟩
    obtain rfl := Except.ok.inj (hparse.symm.trans hother)
    exact ⟨report, value, hparse, hown, hsize, hvalue, hsplit⟩

/-- The list stands in front of the own PDI. Both kinds come again with values of the wrong size,
and the block ends within a field. -/
def crowdedBlock : Bytes :=
  Field.encodeAll [⟨26, [1, 0, 0, 0, 0, 0, 0, 0, 2, 0, 0, 0, 0, 0, 0, 0]⟩, ⟨26, [3]⟩,
    ⟨22, [0xa0, 0, 0, 0, 0, 0, 0, 0]⟩, ⟨22, []⟩] ++ [22, 0, 8]

/-- What is wrong with the later fields of either kind, and with the end of the block, makes no
difference. -/
theorem attachedPdis_eq_ok_iff_neighborPdis_crowded :
    (22 : Int) ≠ 26 ∧
      neighborPdis (smallReport crowdedBlock).encode 22 = .ok [[0xa0, 0, 0, 0, 0, 0, 0, 0]] ∧
      neighborPdis (smallReport crowdedBlock).encode 26 =
        .ok [[1, 0, 0, 0, 0, 0, 0, 0], [2, 0, 0, 0, 0, 0, 0, 0]] := by
  have hne : (22 : Int) ≠ 26 := by decide
  refine ⟨hne, (attachedPdis_eq_ok_iff_neighborPdis hne _ _ _).mp ?_⟩
  decide +kernel

end Report

end MeshAttest
