import MeshAttest.Proofs.Verifier.Entries

/-!
# Forms of evidence

Evidence is submitted as a mapping, as it has been saved, or as the evidence of a device or a switch
that a mapping holds (`Item.IsFormOf`). All of these come to the same entry, and so a list of items
comes to the same body whatever forms are mixed in it. If mappings are incomplete, the first of them
tells which key is missing (`Entry.IsFirstMissing`), whether they are submitted or loaded.
-/

set_option autoImplicit false

namespace MeshAttest

open Outcome

namespace Entry

variable {mapping : List (String × Json)} {mappings : List (List (String × Json))} {entry : Entry}
  {entries : List Entry} {key : String} {fault : EntryFault}

/-! ### Mappings -/

/-- The mapping holds both parts of the entry, and may hold more. -/
structure IsIn (entry : Entry) (mapping : List (String × Json)) : Prop where
  certificate_eq : Json.lookup? "certificate" mapping = some entry.certificate
  evidence_eq : Json.lookup? "evidence" mapping = some entry.evidence

/-- The mapping has both keys of an entry. -/
def IsComplete (mapping : List (String × Json)) : Prop :=
  Json.lookup? "certificate" mapping ≠ none ∧ Json.lookup? "evidence" mapping ≠ none

/-- The key is missing in the mapping, and if both keys are, it is the one of the certificate. -/
inductive Lacks (mapping : List (String × Json)) : String → Prop
  | certificate (h : Json.lookup? "certificate" mapping = none) : Lacks mapping "certificate"
  | evidence (hcertificate : Json.lookup? "certificate" mapping ≠ none)
      (h : Json.lookup? "evidence" mapping = none) : Lacks mapping "evidence"

/-- The first of the mappings that is incomplete lacks the key. -/
def IsFirstMissing (mappings : List (List (String × Json))) (key : String) : Prop :=
  ∃ before mapping later, mappings = before ++ mapping :: later ∧
    (∀ other ∈ before, IsComplete other) ∧ Lacks mapping key

/-- An entry is made of a mapping exactly if the mapping holds it. -/
theorem ofMapping_eq_ok_iff_isIn : ofMapping mapping = .ok entry ↔ entry.IsIn mapping := by
  rw [ofMapping_eq_ok_iff]
  exact ⟨fun h ↦ ⟨h.1, h.2⟩, fun h ↦ ⟨h.certificate_eq, h.evidence_eq⟩⟩

/-- A mapping holds an entry exactly if it is complete. -/
theorem exists_ofMapping_eq_ok_iff :
    (∃ entry, ofMapping mapping = .ok entry) ↔ IsComplete mapping := by
  simp only [ofMapping_eq_ok_iff, IsComplete, Option.ne_none_iff_exists']
  constructor
  · rintro ⟨entry, hcertificate, hevidence⟩
    exact ⟨⟨_, hcertificate⟩, ⟨_, hevidence⟩⟩
  · rintro ⟨⟨certificate, hcertificate⟩, ⟨evidence, hevidence⟩⟩
    exact ⟨⟨certificate, evidence⟩, hcertificate, hevidence⟩

/-- A mapping is refused for the key that it lacks. -/
theorem Lacks.ofMapping_eq (h : Lacks mapping key) : ofMapping mapping = .error (.missing key) := by
  cases h with
  | certificate hnone =>
    rw [ofMapping, require, hnone]
    rfl
  | evidence hcertificate hnone =>
    obtain ⟨certificate, hsome⟩ := Option.ne_none_iff_exists'.mp hcertificate
    rw [ofMapping, require, require, hsome, hnone]
    rfl

theorem exists_lacks (h : ¬ IsComplete mapping) : ∃ key, Lacks mapping key := by
  by_cases hcertificate : Json.lookup? "certificate" mapping = none
  · exact ⟨_, .certificate hcertificate⟩
  · have hevidence : Json.lookup? "evidence" mapping = none :=
      not_not.mp fun hevidence ↦ h ⟨hcertificate, hevidence⟩
    exact ⟨_, .evidence hcertificate hevidence⟩

/-- The induction is on the mappings. What is behind the first incomplete one does not matter. -/
theorem exists_isFirstMissing (h : ∃ mapping ∈ mappings, ¬ IsComplete mapping) :
    ∃ key, IsFirstMissing mappings key := by
  induction mappings with
  | nil =>
    obtain ⟨mapping, hmem, -⟩ := h
    cases hmem
  | cons first rest ih =>
    by_cases hfirst : IsComplete first
    · obtain ⟨mapping, hmem, hincomplete⟩ := h
      have hrest : mapping ∈ rest := by
        refine (List.mem_cons.mp hmem).resolve_left ?_
        rintro rfl
        exact hincomplete hfirst
      obtain ⟨key, before, other, later, rfl, hbefore, hlacks⟩ := ih ⟨mapping, hrest, hincomplete⟩
      exact ⟨key, first :: before, other, later, rfl,
        List.forall_mem_cons.mpr ⟨hfirst, hbefore⟩, hlacks⟩
    · obtain ⟨key, hlacks⟩ := exists_lacks hfirst
      exact ⟨key, [], first, rest, rfl, List.forall_mem_nil _, hlacks⟩

/-- The saved form of mappings is read one mapping after the other. -/
theorem listOfJson_objects (mappings : List (List (String × Json))) :
    listOfJson (.array (mappings.map .object)) = mappings.mapM ofMapping :=
  List.mapM_map

/-- Mappings are read as the entries that they hold, in order. -/
theorem mapM_ofMapping_eq_ok_iff :
    mappings.mapM ofMapping = .ok entries ↔
      List.Forall₂ (fun mapping entry ↦ entry.IsIn mapping) mappings entries := by
  simp only [mapM_eq_ok_iff, ofMapping_eq_ok_iff_isIn]

theorem exists_mapM_ofMapping (h : ∀ mapping ∈ mappings, IsComplete mapping) :
    ∃ entries, mappings.mapM ofMapping = .ok entries := by
  cases hentries : mappings.mapM ofMapping with
  | ok entries => exact ⟨entries, rfl⟩
  | error fault =>
    obtain ⟨mapping, hmem, hfault⟩ := exists_of_mapM_eq_error hentries
    obtain ⟨entry, hentry⟩ := exists_ofMapping_eq_ok_iff.mpr (h mapping hmem)
    cases hentry.symm.trans hfault

/-- Mappings are refused for the key that the first incomplete one of them lacks. -/
theorem IsFirstMissing.mapM_ofMapping_eq (h : IsFirstMissing mappings key) :
    mappings.mapM ofMapping = .error (.missing key) := by
  obtain ⟨before, mapping, later, hsplit, hbefore, hlacks⟩ := h
  refine mapM_eq_error_iff.mpr ⟨before, mapping, later, hsplit, ?_, hlacks.ofMapping_eq⟩
  exact fun other hother ↦ exists_ofMapping_eq_ok_iff.mpr (hbefore other hother)

end Entry

/-! ### Items -/

/-- The item is a form of the evidence that the mapping holds: the mapping itself, or its entry as
evidence of a device or, with any identifier, of a switch. -/
inductive Item.IsFormOf : Item → List (String × Json) → Prop
  | mapping (mapping : List (String × Json)) : IsFormOf (.mapping mapping) mapping
  | device {entry : Entry} {mapping : List (String × Json)} (h : entry.IsIn mapping) :
    IsFormOf (.device entry) mapping
  | switch {entry : Entry} {mapping : List (String × Json)} (h : entry.IsIn mapping)
      (uuid : Json) :
    IsFormOf (.switch entry uuid) mapping

section Forms

variable {item : Item} {mapping : List (String × Json)} {items : List Item}
  {mappings : List (List (String × Json))}

/-- All forms of the same evidence have the same entry, or the same fault. -/
theorem Item.IsFormOf.entry_eq (h : item.IsFormOf mapping) :
    item.entry = Entry.ofMapping mapping := by
  cases h with
  | mapping => rfl
  | device hin => exact (Entry.ofMapping_eq_ok_iff_isIn.mpr hin).symm
  | switch hin uuid => exact (Entry.ofMapping_eq_ok_iff_isIn.mpr hin).symm

theorem forall₂_isFormOf_mappings (mappings : List (List (String × Json))) :
    List.Forall₂ Item.IsFormOf (mappings.map .mapping) mappings := by
  rw [List.forall₂_map_left_iff]
  exact List.forall₂_same.mpr fun mapping _ ↦ .mapping mapping

/-- Items come to what the mappings of which they are forms come to. -/
theorem mapM_entry_of_forms (h : List.Forall₂ Item.IsFormOf items mappings) :
    items.mapM Item.entry = mappings.mapM Entry.ofMapping := by
  induction h with
  | nil => rfl
  | cons hitem _ ih => rw [List.mapM_cons, List.mapM_cons, hitem.entry_eq, ih]

/-- Items in any forms of the evidence that mappings hold are submitted as the entries that are
loaded from the mappings. -/
theorem payload_of_forms (h : List.Forall₂ Item.IsFormOf items mappings) (nonce : SubmittedNonce)
    (claimsVersion : Option String) (architecture : Architecture) :
    payload items nonce claimsVersion architecture =
      (mappings.mapM Entry.ofMapping >>= fun entries ↦
        .ok (bodyOf entries nonce claimsVersion architecture)) := by
  rw [payload, mapM_entry_of_forms h]
  rfl

/-- Evidence of devices always has a body. -/
theorem payload_devices (entries : List Entry) (nonce : SubmittedNonce)
    (claimsVersion : Option String) (architecture : Architecture) :
    payload (entries.map .device) nonce claimsVersion architecture =
      .ok (bodyOf entries nonce claimsVersion architecture) := by
  have hform : ∀ entry : Entry, (Item.device entry).entry = .ok (id entry) := fun _ ↦ rfl
  rw [payload_map_eq_ok_iff hform, List.map_id]

/-- Mappings come to the same body, or fail in the same way, whether they are submitted as they are
or as the entries that are loaded from them. If all are complete, so does every list of their forms,
and the body holds their entries in order and nothing else of the mappings. If some are not, nothing
is submitted or loaded, and the first one of these says which key is missing. -/
theorem payload_formsAlike (mappings : List (List (String × Json))) (nonce : SubmittedNonce)
    (claimsVersion : Option String) (architecture : Architecture) :
    payload (mappings.map .mapping) nonce claimsVersion architecture =
        (Entry.listOfJson (.array (mappings.map .object)) >>= fun entries ↦
          payload (entries.map .device) nonce claimsVersion architecture) ∧
      ((∀ mapping ∈ mappings, Entry.IsComplete mapping) → ∃ entries,
        List.Forall₂ (fun mapping entry ↦ Entry.IsIn entry mapping) mappings entries ∧
          Entry.listOfJson (.array (mappings.map .object)) = .ok entries ∧
          ∀ items, List.Forall₂ Item.IsFormOf items mappings →
            payload items nonce claimsVersion architecture =
              .ok (bodyOf entries nonce claimsVersion architecture)) ∧
      ((∃ mapping ∈ mappings, ¬ Entry.IsComplete mapping) → ∃ key,
        Entry.IsFirstMissing mappings key ∧
          Entry.listOfJson (.array (mappings.map .object)) = .error (.missing key) ∧
          ∀ items, List.Forall₂ Item.IsFormOf items mappings →
            payload items nonce claimsVersion architecture = .error (.missing key)) := by
  rw [Entry.listOfJson_objects]
  refine ⟨?_, fun hcomplete ↦ ?_, fun hincomplete ↦ ?_⟩
  · rw [payload_of_forms (forall₂_isFormOf_mappings mappings)]
    simp only [payload_devices]
  · obtain ⟨entries, hentries⟩ := Entry.exists_mapM_ofMapping hcomplete
    refine ⟨entries, Entry.mapM_ofMapping_eq_ok_iff.mp hentries, hentries, fun items hforms ↦ ?_⟩
    rw [payload_of_forms hforms, hentries, ok_bind]
  · obtain ⟨key, hfirst⟩ := Entry.exists_isFirstMissing hincomplete
    refine ⟨key, hfirst, hfirst.mapM_ofMapping_eq, fun items hforms ↦ ?_⟩
    rw [payload_of_forms hforms, hfirst.mapM_ofMapping_eq, error_bind]

/-- The second mapping lacks one key, and the third lacks the other. -/
def incompleteMappings : List (List (String × Json)) :=
  [[("certificate", .string "a"), ("evidence", .string "b"), ("extra", .null)],
    [("certificate", .string "c")], [("evidence", .string "d")]]

/-- The second mapping decides for both ways, and the fault of the third one does not come up. -/
theorem payload_formsAlike_incompleteMappings :
    Entry.listOfJson (.array (incompleteMappings.map .object)) = .error (.missing "evidence") ∧
      payload (.switch ⟨.string "a", .string "b"⟩ (.string "SWX-1") ::
          incompleteMappings.tail.map .mapping) .absent none .ls10 =
        .error (.missing "evidence") := by
  obtain ⟨key, -, hloaded, hsubmitted⟩ :=
    (payload_formsAlike incompleteMappings .absent none .ls10).2.2
      ⟨[("certificate", .string "c")], List.mem_cons_of_mem _ List.mem_cons_self, fun h ↦ h.2 rfl⟩
  have hkey : Entry.listOfJson (.array (incompleteMappings.map .object)) =
      .error (.missing "evidence") := rfl
  obtain rfl := EntryFault.missing.inj (Except.error.inj (hloaded.symm.trans hkey))
  exact ⟨hkey, hsubmitted _ (.cons (.switch ⟨rfl, rfl⟩ _) (forall₂_isFormOf_mappings _))⟩

end Forms

end MeshAttest
