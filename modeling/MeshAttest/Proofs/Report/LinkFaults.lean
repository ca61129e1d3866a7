import MeshAttest.Proofs.FirstPosition
import MeshAttest.Proofs.Report.Lookup

/-!
# The fault of a switch report

A switch report has to name the PDI of the switch and the attached PDIs, each in the first field of
its kind (`Report.OwnAt`, `Report.AttachedAt`). If both are of one kind, the first field of the kind
is the one and the second field the other. A report that can be read at all is refused if one of the
two fields is missing or does not have the right size, and for nothing else. Where several things
are wrong, a wrong size comes before a missing field, and of two wrong sizes the one that stands
first in the block (`Report.LinkFailure`).

The scan of the block keeps what it has seen so far. That is all that stands in front of the place
it has come to (`Report.Reached`), so that what it does with a field is told by the positions of the
two fields among all (`Report.Reached.steps`).
-/

set_option autoImplicit false

namespace MeshAttest.Report

open Outcome

variable {deviceKind attachedKind : Int} {fields rest more : List Field} {field other : Field}
  {j k : Nat} {fault : ReportFault} {walkFault : Option ReportFault} {seenOwn : Option Pdi}
  {seenAttached : Option (List Pdi)} {walk : FieldWalk} {cause : ReportFault}
  {bytes : Bytes} {report : Report}

/-! ### Places of the two fields -/

/-- The first field of the kind of own PDIs is at the position. -/
def OwnAt (deviceKind : Int) (fields : List Field) : Nat → Field → Prop :=
  IsFirst fun k field ↦ fields[k]? = some field ∧ (field.kind : Int) = deviceKind

/-- The first field of the kind of attached PDIs is at the position, the field of the own PDI left
out. -/
def AttachedAt (deviceKind attachedKind : Int) (fields : List Field) : Nat → Field → Prop :=
  IsFirst fun k field ↦ fields[k]? = some field ∧ (field.kind : Int) = attachedKind ∧
    ∀ own, ¬ OwnAt deviceKind fields k own

/-- What is wrong with the size of the field at a position. -/
inductive SizeFault (deviceKind attachedKind : Int) (fields : List Field) (k : Nat) :
    ReportFault → Prop
  | own {field : Field} (hfield : OwnAt deviceKind fields k field)
    (hsize : field.value.length ≠ Pdi.size) :
    SizeFault deviceKind attachedKind fields k (.devicePdiSize field.value.length)
  | attached {field : Field} (hfield : AttachedAt deviceKind attachedKind fields k field)
    (hsize : ¬ Pdi.size ∣ field.value.length) :
    SizeFault deviceKind attachedKind fields k (.pdiListSize attachedKind field.value.length)

/-- Which field is missing. The fault that ended the walk, if any did, stands for either. -/
inductive Lacks (deviceKind attachedKind : Int) (walk : FieldWalk) : ReportFault → Prop
  | own (hown : ∀ i field, ¬ OwnAt deviceKind walk.fields i field) :
    Lacks deviceKind attachedKind walk (walk.fault.getD (.missing deviceKind .devicePdi))
  | attached (hown : ∃ i field, OwnAt deviceKind walk.fields i field)
    (hattached : ∀ j field, ¬ AttachedAt deviceKind attachedKind walk.fields j field) :
    Lacks deviceKind attachedKind walk (walk.fault.getD (.missing attachedKind .attachedPdis))

/-- What a switch report is refused for. -/
inductive LinkFailure (deviceKind attachedKind : Int) (walk : FieldWalk) : ReportFault → Prop
  | size {k : Nat} {fault : ReportFault}
    (hfirst : IsFirst (SizeFault deviceKind attachedKind walk.fields) k fault) :
    LinkFailure deviceKind attachedKind walk fault
  | missing {fault : ReportFault}
    (hsizes : ∀ k other, ¬ SizeFault deviceKind attachedKind walk.fields k other)
    (hlacks : Lacks deviceKind attachedKind walk fault) :
    LinkFailure deviceKind attachedKind walk fault

theorem OwnAt.getElem? (h : OwnAt deviceKind fields k field) : fields[k]? = some field := h.1.1

theorem AttachedAt.getElem? (h : AttachedAt deviceKind attachedKind fields k field) :
    fields[k]? = some field := h.1.1

theorem OwnAt.lt_length (h : OwnAt deviceKind fields k field) : k < fields.length :=
  (List.getElem?_eq_some_iff.mp h.getElem?).1

theorem AttachedAt.lt_length (h : AttachedAt deviceKind attachedKind fields k field) :
    k < fields.length :=
  (List.getElem?_eq_some_iff.mp h.getElem?).1

theorem OwnAt.unique (h : OwnAt deviceKind fields k field)
    (hother : OwnAt deviceKind fields j other) : field = other := by
  obtain rfl := IsFirst.unique h hother
  exact Option.some.inj (h.getElem?.symm.trans hother.getElem?)

theorem AttachedAt.unique (h : AttachedAt deviceKind attachedKind fields k field)
    (hother : AttachedAt deviceKind attachedKind fields j other) : field = other := by
  obtain rfl := IsFirst.unique h hother
  exact Option.some.inj (h.getElem?.symm.trans hother.getElem?)

theorem SizeFault.lt_length (h : SizeFault deviceKind attachedKind fields k fault) :
    k < fields.length := by
  cases h with
  | own hfield _ => exact hfield.lt_length
  | attached hfield _ => exact hfield.lt_length

/-- The field of the own PDI has the wrong size unless it is as long as one PDI. -/
theorem sizeFault_iff_of_ownAt (h : OwnAt deviceKind fields k field) :
    SizeFault deviceKind attachedKind fields k fault ↔
      field.value.length ≠ Pdi.size ∧ fault = .devicePdiSize field.value.length := by
  constructor
  · rintro (⟨hother, hsize⟩ | ⟨hother, -⟩)
    · obtain rfl := h.unique hother
      exact ⟨hsize, rfl⟩
    · exact absurd h (hother.1.2.2 field)
  · rintro ⟨hsize, rfl⟩
    exact .own h hsize

/-- The field of the attached PDIs has the wrong size unless it consists of whole PDIs. -/
theorem sizeFault_iff_of_attachedAt (h : AttachedAt deviceKind attachedKind fields k field) :
    SizeFault deviceKind attachedKind fields k fault ↔
      ¬ Pdi.size ∣ field.value.length ∧ fault = .pdiListSize attachedKind field.value.length := by
  constructor
  · rintro (⟨hother, -⟩ | ⟨hother, hsize⟩)
    · exact absurd hother (h.1.2.2 _)
    · obtain rfl := h.unique hother
      exact ⟨hsize, rfl⟩
  · rintro ⟨hsize, rfl⟩
    exact .attached h hsize

/-! ### What the scan has seen -/

/-- The own PDI and the attached PDIs have been seen if their fields stand in front of the
position. -/
structure Reached (deviceKind attachedKind : Int) (fields : List Field) (k : Nat)
    (seenOwn : Option Pdi) (seenAttached : Option (List Pdi)) : Prop where
  own : seenOwn = none ↔ ∀ j < k, ∀ field, ¬ OwnAt deviceKind fields j field
  attached : seenAttached = none ↔
    ∀ j < k, ∀ field, ¬ AttachedAt deviceKind attachedKind fields j field

namespace Reached

variable {nextOwn : Option Pdi} {nextAttached : Option (List Pdi)}

theorem start (deviceKind attachedKind : Int) (fields : List Field) :
    Reached deviceKind attachedKind fields 0 none none :=
  ⟨by simp, by simp⟩

/-- A scan has come to the field of the own PDI exactly if the kind is the right one and no own PDI
has been seen. -/
theorem ownAt_iff (h : Reached deviceKind attachedKind fields k seenOwn seenAttached)
    (hfield : fields[k]? = some field) :
    OwnAt deviceKind fields k field ↔ (field.kind : Int) = deviceKind ∧ seenOwn = none := by
  rw [h.own, OwnAt, isFirst_iff, ← OwnAt]
  simp only [hfield, true_and]

/-- A scan has come to the field of the attached PDIs exactly if none have been seen, the kind is
the right one and the field is not that of the own PDI. -/
theorem attachedAt_iff (h : Reached deviceKind attachedKind fields k seenOwn seenAttached)
    (hfield : fields[k]? = some field) :
    AttachedAt deviceKind attachedKind fields k field ↔
      ((field.kind : Int) = attachedKind ∧ ∀ own, ¬ OwnAt deviceKind fields k own) ∧
        seenAttached = none := by
  rw [h.attached, AttachedAt, isFirst_iff, ← AttachedAt]
  simp only [hfield, true_and]

/-- What has been seen behind a field is what was seen in front of it and the field itself. -/
theorem next (h : Reached deviceKind attachedKind fields k seenOwn seenAttached)
    (hown : nextOwn = none ↔ seenOwn = none ∧ ∀ field, ¬ OwnAt deviceKind fields k field)
    (hattached : nextAttached = none ↔
      seenAttached = none ∧ ∀ field, ¬ AttachedAt deviceKind attachedKind fields k field) :
    Reached deviceKind attachedKind fields (k + 1) nextOwn nextAttached := by
  constructor
  · rw [hown, h.own, Nat.forall_lt_succ_right]
  · rw [hattached, h.attached, Nat.forall_lt_succ_right]

end Reached

/-- What a scan that has come to a position does with the field there: it goes on, or it fails for
the size of the field. -/
inductive Steps (deviceKind attachedKind : Int) (walkFault : Option ReportFault)
    (fields : List Field) (k : Nat) (seenOwn : Option Pdi) (seenAttached : Option (List Pdi))
    (field : Field) (rest : List Field) : Prop
  | goes {nextOwn : Option Pdi} {nextAttached : Option (List Pdi)}
    (hnext : Reached deviceKind attachedKind fields (k + 1) nextOwn nextAttached)
    (hnone : ∀ fault, ¬ SizeFault deviceKind attachedKind fields k fault)
    (hscan : scanAttached deviceKind attachedKind walkFault seenOwn seenAttached (field :: rest) =
      scanAttached deviceKind attachedKind walkFault nextOwn nextAttached rest) :
    Steps deviceKind attachedKind walkFault fields k seenOwn seenAttached field rest
  | fails {cause : ReportFault}
    (hcause : ∀ fault, SizeFault deviceKind attachedKind fields k fault ↔ fault = cause)
    (hscan : scanAttached deviceKind attachedKind walkFault seenOwn seenAttached (field :: rest) =
      .error cause) :
    Steps deviceKind attachedKind walkFault fields k seenOwn seenAttached field rest

namespace Reached

/-- The scan takes the field of the own PDI, or fails for its size. -/
theorem steps_of_ownAt (h : Reached deviceKind attachedKind fields k seenOwn seenAttached)
    (hown : OwnAt deviceKind fields k field) :
    Steps deviceKind attachedKind walkFault fields k seenOwn seenAttached field rest := by
  obtain ⟨hkind, rfl⟩ := (h.ownAt_iff hown.getElem?).mp hown
  by_cases hsize : field.value.length = Pdi.size
  · have hattached : ∀ other, ¬ AttachedAt deviceKind attachedKind fields k other :=
      fun other hother ↦ hother.1.2.2 field hown
    refine .goes (h.next ?_ ?_) (fun fault hfault ↦ ?_)
      ((scanAttached_cons_device hkind rest).trans (if_pos hsize))
    · simpa using ⟨field, hown⟩
    · simpa using fun _ ↦ hattached
    · exact ((sizeFault_iff_of_ownAt hown).mp hfault).1 hsize
  · exact .fails (fun fault ↦ (sizeFault_iff_of_ownAt hown).trans (and_iff_right hsize))
      ((scanAttached_cons_device hkind rest).trans (if_neg hsize))

/-- The scan takes the field of the attached PDIs, or fails for its size. -/
theorem steps_of_attachedAt (h : Reached deviceKind attachedKind fields k seenOwn seenAttached)
    (hattached : AttachedAt deviceKind attachedKind fields k field) :
    Steps deviceKind attachedKind walkFault fields k seenOwn seenAttached field rest := by
  have hnotOwn := hattached.1.2.2
  obtain ⟨⟨hkind, -⟩, rfl⟩ := (h.attachedAt_iff hattached.getElem?).mp hattached
  have hdevice : (field.kind : Int) = deviceKind → seenOwn.isSome := by
    intro hsame
    rw [Option.isSome_iff_ne_none]
    exact fun hnone ↦ hnotOwn field ((h.ownAt_iff hattached.getElem?).mpr ⟨hsame, hnone⟩)
  by_cases hsize : Pdi.size ∣ field.value.length
  · obtain ⟨pdis, hpdis, hflatten⟩ := Pdi.exists_flatten_eq hsize
    have hsplit : splitPdis attachedKind field.value = .ok pdis :=
      splitPdis_eq_ok_iff.mpr ⟨hpdis, hflatten⟩
    refine .goes (h.next ?_ ?_) (fun fault hfault ↦ ?_)
      ((scanAttached_cons_attached hdevice hkind rest).trans (by rw [hsplit, ok_bind]))
    · simpa using fun _ ↦ hnotOwn
    · simpa using ⟨field, hattached⟩
    · exact ((sizeFault_iff_of_attachedAt hattached).mp hfault).1 hsize
  · have hsplit : splitPdis attachedKind field.value = .error _ :=
      splitPdis_eq_error_iff.mpr ⟨hsize, rfl⟩
    exact .fails (fun fault ↦ (sizeFault_iff_of_attachedAt hattached).trans (and_iff_right hsize))
      ((scanAttached_cons_attached hdevice hkind rest).trans (by rw [hsplit, error_bind]))

/-- A field that is neither of the two is passed over. -/
theorem steps_of_other (h : Reached deviceKind attachedKind fields k seenOwn seenAttached)
    (hfield : fields[k]? = some field) (hown : ∀ other, ¬ OwnAt deviceKind fields k other)
    (hattached : ∀ other, ¬ AttachedAt deviceKind attachedKind fields k other) :
    Steps deviceKind attachedKind walkFault fields k seenOwn seenAttached field rest := by
  refine .goes (h.next ?_ ?_) ?_ (scanAttached_cons_of_useless ?_ ?_ rest)
  · simpa using fun _ ↦ hown
  · simpa using fun _ ↦ hattached
  · rintro fault (⟨hother, -⟩ | ⟨hother, -⟩)
    · exact hown _ hother
    · exact hattached _ hother
  · intro hkind
    rw [Option.isSome_iff_ne_none]
    exact fun hnone ↦ hown field ((h.ownAt_iff hfield).mpr ⟨hkind, hnone⟩)
  · intro hkind
    rw [Option.isSome_iff_ne_none]
    exact fun hnone ↦ hattached field ((h.attachedAt_iff hfield).mpr ⟨⟨hkind, hown⟩, hnone⟩)

/-- Whatever the field at a position is, the scan goes on behind it or fails for its size. -/
theorem steps (h : Reached deviceKind attachedKind fields k seenOwn seenAttached)
    (hfield : fields[k]? = some field) :
    Steps deviceKind attachedKind walkFault fields k seenOwn seenAttached field rest := by
  have hsame : ∀ other, fields[k]? = some other → other = field :=
    fun other hother ↦ Option.some.inj (hother.symm.trans hfield)
  by_cases hown : ∃ other, OwnAt deviceKind fields k other
  · obtain ⟨other, hown⟩ := hown
    exact h.steps_of_ownAt (hsame other hown.getElem? ▸ hown)
  · by_cases hattached : ∃ other, AttachedAt deviceKind attachedKind fields k other
    · obtain ⟨other, hattached⟩ := hattached
      exact h.steps_of_attachedAt (hsame other hattached.getElem? ▸ hattached)
    · exact h.steps_of_other hfield (not_exists.mp hown) (not_exists.mp hattached)

end Reached

/-! ### The whole scan -/

/-- What a scan fails with that has come to a position. -/
def FailsFrom (deviceKind attachedKind : Int) (walk : FieldWalk) (k : Nat) (fault : ReportFault) :
    Prop :=
  FirstFrom (SizeFault deviceKind attachedKind walk.fields) k fault ∨
    (∀ j, k ≤ j → ∀ other, ¬ SizeFault deviceKind attachedKind walk.fields j other) ∧
      Lacks deviceKind attachedKind walk fault

/-- What the scan fails with from the start on is what the report is refused for. -/
theorem failsFrom_zero_iff :
    FailsFrom deviceKind attachedKind walk 0 fault ↔
      LinkFailure deviceKind attachedKind walk fault := by
  rw [FailsFrom, firstFrom_zero_iff]
  constructor
  · rintro (⟨k, hfirst⟩ | ⟨hsizes, hlacks⟩)
    · exact .size hfirst
    · exact .missing (fun k ↦ hsizes k (Nat.zero_le k)) hlacks
  · rintro (hfirst | ⟨hsizes, hlacks⟩)
    · exact .inl ⟨_, hfirst⟩
    · exact .inr ⟨fun k _ ↦ hsizes k, hlacks⟩

/-- Where the size of a field is right, the scan fails with what it fails with behind the field. -/
theorem failsFrom_of_none (h : ∀ other, ¬ SizeFault deviceKind attachedKind walk.fields k other) :
    FailsFrom deviceKind attachedKind walk k fault ↔
      FailsFrom deviceKind attachedKind walk (k + 1) fault := by
  have hlater : (∀ j, k ≤ j → ∀ other, ¬ SizeFault deviceKind attachedKind walk.fields j other) ↔
      ∀ j, k + 1 ≤ j → ∀ other, ¬ SizeFault deviceKind attachedKind walk.fields j other := by
    constructor
    · exact fun hnone j hj ↦ hnone j (Nat.le_of_succ_le hj)
    · intro hnone j hj
      rcases Nat.eq_or_lt_of_le hj with rfl | hlt
      · exact h
      · exact hnone j hlt
  rw [FailsFrom, FailsFrom, firstFrom_iff, hlater]
  simp only [h, not_false_eq_true, implies_true, true_and, false_or]

/-- Where the size of a field is wrong, the scan fails for it, whatever stands behind the field. -/
theorem failsFrom_of_sizeFault
    (h : ∀ other, SizeFault deviceKind attachedKind walk.fields k other ↔ other = cause) :
    FailsFrom deviceKind attachedKind walk k fault ↔ fault = cause := by
  rw [FailsFrom, firstFrom_iff, h]
  constructor
  · rintro ((rfl | ⟨hnone, -⟩) | ⟨hnone, -⟩)
    · rfl
    · exact absurd ((h cause).mpr rfl) (hnone cause)
    · exact absurd ((h cause).mpr rfl) (hnone k (Nat.le_refl k) cause)
  · rintro rfl
    exact .inl (.inl rfl)

/-- Behind all fields the scan fails only for a field that is missing. -/
theorem failsFrom_of_length_le (h : walk.fields.length ≤ k) :
    FailsFrom deviceKind attachedKind walk k fault ↔ Lacks deviceKind attachedKind walk fault := by
  have hnone : ∀ j, k ≤ j → ∀ other, ¬ SizeFault deviceKind attachedKind walk.fields j other :=
    fun j hj other hother ↦
      Nat.not_lt.mpr (Nat.le_trans h hj) hother.lt_length
  constructor
  · rintro (⟨j, hj, hfault, -⟩ | ⟨-, hlacks⟩)
    · exact absurd hfault (hnone j hj fault)
    · exact hlacks
  · exact fun hlacks ↦ .inr ⟨hnone, hlacks⟩

theorem forall_lt_iff_of_length_le {place : Nat → Field → Prop}
    (hplace : ∀ j field, place j field → j < fields.length) (hend : fields.length ≤ k) :
    (∀ j < k, ∀ field, ¬ place j field) ↔ ∀ j field, ¬ place j field := by
  constructor
  · intro hnone j field hfield
    exact hnone j (Nat.lt_of_lt_of_le (hplace j field hfield) hend) field hfield
  · exact fun hnone j _ ↦ hnone j

/-- No field is left, and what has not been seen is missing. -/
theorem scanAttached_nil_eq_error_iff
    (h : Reached deviceKind attachedKind walk.fields k seenOwn seenAttached)
    (hend : walk.fields.length ≤ k) :
    scanAttached deviceKind attachedKind walk.fault seenOwn seenAttached [] = .error fault ↔
      Lacks deviceKind attachedKind walk fault := by
  have hown := h.own.trans (forall_lt_iff_of_length_le (fun _ _ ↦ OwnAt.lt_length) hend)
  have hattached :=
    h.attached.trans (forall_lt_iff_of_length_le (fun _ _ ↦ AttachedAt.lt_length) hend)
  cases seenOwn with
  | none =>
    rw [scanAttached, Except.error.injEq]
    constructor
    · rintro rfl
      exact .own (hown.mp rfl)
    · rintro (- | ⟨⟨i, field, hfield⟩, -⟩)
      · rfl
      · exact absurd hfield (hown.mp rfl i field)
  | some own =>
    have hseen : ∃ i field, OwnAt deviceKind walk.fields i field := by
      simpa using mt hown.mpr (Option.some_ne_none own)
    cases seenAttached with
    | none =>
      rw [scanAttached, Except.error.injEq]
      constructor
      · rintro rfl
        exact .attached hseen (hattached.mp rfl)
      · rintro (hnone | -)
        · obtain ⟨i, field, hfield⟩ := hseen
          exact absurd hfield (hnone i field)
        · rfl
    | some pdis =>
      rw [scanAttached]
      constructor
      · intro hfault
        cases hfault
      · rintro (hnone | ⟨-, hnone⟩)
        · exact absurd (hown.mpr hnone) (Option.some_ne_none own)
        · exact absurd (hattached.mpr hnone) (Option.some_ne_none pdis)

/-- The induction is on the fields that are left. What has been seen is tied to the position by
`Reached`, which every step that goes on keeps up. -/
theorem scanAttached_eq_error_iff
    (h : Reached deviceKind attachedKind walk.fields k seenOwn seenAttached)
    (hrest : walk.fields.drop k = rest) :
    scanAttached deviceKind attachedKind walk.fault seenOwn seenAttached rest = .error fault ↔
      FailsFrom deviceKind attachedKind walk k fault := by
  induction rest generalizing k seenOwn seenAttached with
  | nil =>
    have hend := List.drop_eq_nil_iff.mp hrest
    rw [scanAttached_nil_eq_error_iff h hend, failsFrom_of_length_le hend]
  | cons field rest ih =>
    have hfield : walk.fields[k]? = some field := by
      rw [← List.head?_drop, hrest, List.head?_cons]
    have hnext : walk.fields.drop (k + 1) = rest := by
      rw [← List.drop_drop, hrest, List.drop_one, List.tail_cons]
    cases h.steps hfield with
    | goes hreached hnone hscan => rw [hscan, failsFrom_of_none hnone, ih hreached hnext]
    | fails hcause hscan => rw [hscan, failsFrom_of_sizeFault hcause, Except.error.injEq, eq_comm]

/-- A report that can be read is refused for what `LinkFailure` says and for nothing else. -/
theorem attachedPdis_eq_error_iff (hparse : parse bytes = .ok report) :
    attachedPdis bytes deviceKind attachedKind = .error fault ↔
      LinkFailure deviceKind attachedKind (FieldWalk.ofBlock report.fieldBlock) fault := by
  rw [attachedPdis, hparse, ok_bind, ← failsFrom_zero_iff]
  exact scanAttached_eq_error_iff (.start _ _ _) List.drop_zero

/-- A report is refused exactly if one of the two fields is missing or has the wrong size. -/
theorem exists_linkFailure_iff :
    (∃ fault, LinkFailure deviceKind attachedKind walk fault) ↔
      (∀ i field, ¬ OwnAt deviceKind walk.fields i field) ∨
        (∀ j field, ¬ AttachedAt deviceKind attachedKind walk.fields j field) ∨
        (∃ i field, OwnAt deviceKind walk.fields i field ∧ field.value.length ≠ Pdi.size) ∨
        ∃ j field, AttachedAt deviceKind attachedKind walk.fields j field ∧
          ¬ Pdi.size ∣ field.value.length := by
  constructor
  · rintro ⟨fault, ⟨hfault, -⟩ | ⟨-, hown | ⟨-, hattached⟩⟩⟩
    · rcases hfault with ⟨hfield, hsize⟩ | ⟨hfield, hsize⟩
      · exact .inr (.inr (.inl ⟨_, _, hfield, hsize⟩))
      · exact .inr (.inr (.inr ⟨_, _, hfield, hsize⟩))
    · exact .inl hown
    · exact .inr (.inl hattached)
  · intro h
    -- It does not matter which field has the wrong size, as then there is a first one that has it.
    by_cases hsizes : ∃ k fault, SizeFault deviceKind attachedKind walk.fields k fault
    · obtain ⟨k, fault, hfault⟩ := hsizes
      obtain ⟨first, cause, hfirst⟩ := exists_isFirst hfault
      exact ⟨cause, .size hfirst⟩
    · simp only [not_exists] at hsizes
      by_cases hown : ∃ i field, OwnAt deviceKind walk.fields i field
      · rcases h with hnone | hnone | ⟨i, field, hfield, hsize⟩ | ⟨j, field, hfield, hsize⟩
        · obtain ⟨i, field, hfield⟩ := hown
          exact absurd hfield (hnone i field)
        · exact ⟨_, .missing hsizes (.attached hown hnone)⟩
        · exact absurd (.own hfield hsize) (hsizes i _)
        · exact absurd (.attached hfield hsize) (hsizes j _)
      · simp only [not_exists] at hown
        exact ⟨_, .missing hsizes (.own hown)⟩

/-! ### What stands behind the fields -/

/-- Fields that are added at the end leave the field of the own PDI where it is. -/
theorem ownAt_append_iff (hj : j < fields.length) :
    OwnAt deviceKind (fields ++ more) j field ↔ OwnAt deviceKind fields j field := by
  refine isFirst_congr fun i hi other ↦ ?_
  rw [List.getElem?_append_left (Nat.lt_of_le_of_lt hi hj)]

theorem attachedAt_append_iff (hj : j < fields.length) :
    AttachedAt deviceKind attachedKind (fields ++ more) j field ↔
      AttachedAt deviceKind attachedKind fields j field := by
  refine isFirst_congr fun i hi other ↦ ?_
  have hlt := Nat.lt_of_le_of_lt hi hj
  simp only [List.getElem?_append_left hlt, ownAt_append_iff hlt]

theorem OwnAt.append (h : OwnAt deviceKind fields j field) (more : List Field) :
    OwnAt deviceKind (fields ++ more) j field :=
  (ownAt_append_iff h.lt_length).mpr h

theorem AttachedAt.append (h : AttachedAt deviceKind attachedKind fields j field)
    (more : List Field) : AttachedAt deviceKind attachedKind (fields ++ more) j field :=
  (attachedAt_append_iff h.lt_length).mpr h

/-- What a report is refused for in which PDIs are looked for under two kinds. -/
structure RefusedForLinks (bytes block : Bytes) (deviceKind attachedKind : Int) : Prop where
  refused_iff : (∃ fault, attachedPdis bytes deviceKind attachedKind = .error fault) ↔
    (∀ i field, ¬ OwnAt deviceKind (FieldWalk.ofBlock block).fields i field) ∨
      (∀ j field, ¬ AttachedAt deviceKind attachedKind (FieldWalk.ofBlock block).fields j field) ∨
      (∃ i field, OwnAt deviceKind (FieldWalk.ofBlock block).fields i field ∧
        field.value.length ≠ Pdi.size) ∨
      ∃ j field, AttachedAt deviceKind attachedKind (FieldWalk.ofBlock block).fields j field ∧
        ¬ Pdi.size ∣ field.value.length
  fault_iff : ∀ fault, attachedPdis bytes deviceKind attachedKind = .error fault ↔
    LinkFailure deviceKind attachedKind (FieldWalk.ofBlock block) fault
  /-- Nothing that stands behind the two fields makes a report refused. -/
  behind : ∀ fields rest, (∀ field ∈ fields, field.Fits) → block = Field.encodeAll fields ++ rest →
    ∀ i own, OwnAt deviceKind fields i own → own.value.length = Pdi.size →
      ∀ j list, AttachedAt deviceKind attachedKind fields j list →
        Pdi.size ∣ list.value.length →
          ∃ links, attachedPdis bytes deviceKind attachedKind = .ok links

/-- A report that can be read is refused exactly if one of the two fields is missing or has the
wrong size, and the fault is that of the wrong field which stands first, or else that of a missing
one. -/
theorem attachedPdis_refusedForLinks (bytes : Bytes) (report : Report)
    (hparse : parse bytes = .ok report) (deviceKind attachedKind : Int) :
    RefusedForLinks bytes report.fieldBlock deviceKind attachedKind := by
  have hfault : ∀ fault, attachedPdis bytes deviceKind attachedKind = .error fault ↔
      LinkFailure deviceKind attachedKind (FieldWalk.ofBlock report.fieldBlock) fault :=
    fun fault ↦ attachedPdis_eq_error_iff hparse
  refine ⟨(exists_congr hfault).trans exists_linkFailure_iff, hfault, ?_⟩
  intro fields rest hfits hblock i own hown hownSize j list hattached hsize
  obtain ⟨more, hwalk⟩ : ∃ more, (FieldWalk.ofBlock report.fieldBlock).fields = fields ++ more := by
    rw [hblock, FieldWalk.ofBlock, FieldWalk.walkFrom_encodeAll_append hfits]
    exact ⟨_, rfl⟩
  have hownWhole := hown.append more
  have hattachedWhole := hattached.append more
  rw [← hwalk] at hownWhole hattachedWhole
  cases hlinks : attachedPdis bytes deviceKind attachedKind with
  | ok links => exact ⟨links, rfl⟩
  | error fault =>
    rcases exists_linkFailure_iff.mp ⟨fault, (hfault fault).mp hlinks⟩ with
      hnone | hnone | ⟨k, field, hfield, hwrong⟩ | ⟨k, field, hfield, hwrong⟩
    · exact absurd hownWhole (hnone i own)
    · exact absurd hattachedWhole (hnone j list)
    · exact absurd (hfield.unique hownWhole ▸ hownSize) hwrong
    · exact absurd (hfield.unique hattachedWhole ▸ hsize) hwrong

/-- Three fields of one kind. The first is as long as a PDI, and no other is a list of PDIs. -/
def unevenBlock : Bytes :=
  Field.encodeAll [⟨22, [0xa0, 0, 0, 0, 0, 0, 0, 0]⟩, ⟨22, [1, 2, 3]⟩, ⟨22, [4, 5]⟩]

/-- If both kinds are the same, the attached PDIs are looked for behind the first field. -/
theorem attachedPdis_refusedForLinks_uneven :
    parse (smallReport unevenBlock).encode = .ok (smallReport unevenBlock) ∧
      LinkFailure 22 22 (FieldWalk.ofBlock unevenBlock) (.pdiListSize 22 3) := by
  have hparse : parse (smallReport unevenBlock).encode = .ok (smallReport unevenBlock) :=
    parse_smallReport (by decide)
  have hlinks : attachedPdis (smallReport unevenBlock).encode 22 22 =
      .error (.pdiListSize 22 3) := by
    decide +kernel
  exact ⟨hparse, ((attachedPdis_refusedForLinks _ _ hparse 22 22).fault_iff _).mp hlinks⟩

end MeshAttest.Report
