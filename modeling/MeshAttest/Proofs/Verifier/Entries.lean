import MeshAttest.Proofs.Outcome
import MeshAttest.Verifier.Submission

/-!
# Entries of a submission

What is submitted are entries, one for each item, in order (`payload_eq_ok_iff`). An item that is a
mapping has to have both keys of an entry, and one that lacks a key (`Item.IsIncomplete`) keeps the
whole body from being made. The same goes for entries that have been saved: a value holds entries
(`Json.Lists`) or nothing can be made of it (`Entry.listOfJson_eq_ok_iff`).
-/

set_option autoImplicit false

namespace MeshAttest

open Outcome

/-! ### Entries of mappings -/

/-- The fault is that one of the two keys of an entry is missing. -/
def EntryFault.LacksKey (fault : EntryFault) : Prop :=
  fault = .missing "certificate" ∨ fault = .missing "evidence"

namespace Entry

variable {mapping : List (String × Json)} {entry : Entry} {fault : EntryFault}

theorem require_eq_ok_iff {key : String} {value : Json} :
    require key mapping = .ok value ↔ Json.lookup? key mapping = some value := by
  unfold require
  cases hvalue : Json.lookup? key mapping with
  | none => simp
  | some other => simp

/-- An entry is made of a mapping exactly if the mapping has both keys. -/
theorem ofMapping_eq_ok_iff :
    ofMapping mapping = .ok entry ↔
      Json.lookup? "certificate" mapping = some entry.certificate ∧
        Json.lookup? "evidence" mapping = some entry.evidence := by
  obtain ⟨certificate, evidence⟩ := entry
  simp only [ofMapping, bind_eq_ok_iff, pure_eq_ok_iff, require_eq_ok_iff, Entry.mk.injEq]
  constructor
  · rintro ⟨_, hcertificate, _, hevidence, rfl, rfl⟩
    exact ⟨hcertificate, hevidence⟩
  · rintro ⟨hcertificate, hevidence⟩
    exact ⟨_, hcertificate, _, hevidence, rfl, rfl⟩

theorem lacksKey_of_ofMapping (h : ofMapping mapping = .error fault) : fault.LacksKey := by
  unfold ofMapping require at h
  split at h
  · split at h
    · cases h
    · exact .inr (Except.error.inj h).symm
  · exact .inl (Except.error.inj h).symm

end Entry

/-! ### Items -/

/-- The item is a mapping that lacks one of the two keys of an entry. -/
def Item.IsIncomplete (item : Item) : Prop :=
  ∃ mapping, item = .mapping mapping ∧
    (Json.lookup? "certificate" mapping = none ∨ Json.lookup? "evidence" mapping = none)

/-- An item can be refused only if it is incomplete, and then for a missing key. -/
theorem Item.lacksKey_of_entry {item : Item} {fault : EntryFault} (h : item.entry = .error fault) :
    fault.LacksKey ∧ item.IsIncomplete := by
  cases item with
  | device entry => cases h
  | switch entry uuid => cases h
  | mapping mapping =>
    refine ⟨Entry.lacksKey_of_ofMapping h, mapping, rfl, ?_⟩
    by_contra hcomplete
    rw [not_or, ← ne_eq, ← ne_eq, Option.ne_none_iff_exists', Option.ne_none_iff_exists']
      at hcomplete
    obtain ⟨⟨certificate, hcertificate⟩, evidence, hevidence⟩ := hcomplete
    have hok : Entry.ofMapping mapping = .ok ⟨certificate, evidence⟩ :=
      Entry.ofMapping_eq_ok_iff.mpr ⟨hcertificate, hevidence⟩
    cases hok.symm.trans h

theorem Item.IsIncomplete.entry_ne_ok {item : Item} (h : item.IsIncomplete) (entry : Entry) :
    item.entry ≠ .ok entry := by
  obtain ⟨mapping, rfl, hnone⟩ := h
  intro hentry
  obtain ⟨hcertificate, hevidence⟩ := Entry.ofMapping_eq_ok_iff.mp hentry
  rcases hnone with hnone | hnone
  · cases hcertificate.symm.trans hnone
  · cases hevidence.symm.trans hnone

/-! ### Bodies -/

section Payload

variable {items : List Item} {nonce : SubmittedNonce} {claimsVersion : Option String}
  {architecture : Architecture} {body : Json}

/-- The body in which entries are submitted. -/
def bodyOf (entries : List Entry) (nonce : SubmittedNonce) (claimsVersion : Option String)
    (architecture : Architecture) : Json :=
  .object [
    ("nonce", nonce.toJson),
    ("evidence_list", .array (entries.map Entry.toJson)),
    ("claims_version", (claimsVersion.map Json.string).getD .null),
    ("arch", .string architecture.name)]

/-- A body is put together exactly if every item has an entry, and it has these entries in order. -/
theorem payload_eq_ok_iff :
    payload items nonce claimsVersion architecture = .ok body ↔ ∃ entries : List Entry,
      List.Forall₂ (fun item entry ↦ item.entry = .ok entry) items entries ∧
        body = bodyOf entries nonce claimsVersion architecture := by
  rw [payload, bind_eq_ok_iff]
  refine exists_congr fun entries ↦ ?_
  rw [mapM_eq_ok_iff, pure_eq_ok_iff, eq_comm]
  rfl

/-- Where every item has an entry, there is a body, whatever the form of the items is. -/
theorem payload_map_eq_ok_iff {α : Type} {form : α → Item} {entry : α → Entry}
    (hform : ∀ a, (form a).entry = .ok (entry a)) {as : List α} :
    payload (as.map form) nonce claimsVersion architecture = .ok body ↔
      body = bodyOf (as.map entry) nonce claimsVersion architecture := by
  have hentries : ∀ entries, List.Forall₂ (fun item entry ↦ Item.entry item = .ok entry)
      (as.map form) entries ↔ as.map entry = entries := by
    intro entries
    simp only [List.forall₂_map_left_iff, hform, Except.ok.injEq]
    rw [← List.forall₂_eq_eq_eq, List.forall₂_map_left_iff]
  simp only [payload_eq_ok_iff, hentries, exists_eq_left']

/-- Complete items have a body. -/
theorem exists_payload (h : ∀ item ∈ items, ¬ item.IsIncomplete) :
    ∃ body, payload items nonce claimsVersion architecture = .ok body := by
  rw [payload]
  cases hentries : items.mapM Item.entry with
  | error fault =>
    obtain ⟨item, hitem, hfault⟩ := exists_of_mapM_eq_error hentries
    exact absurd (Item.lacksKey_of_entry hfault).2 (h item hitem)
  | ok entries => exact ⟨_, rfl⟩

/-- The fault of evidence that is incomplete is the same for every submission of it. -/
theorem exists_payload_fault (h : ∃ item ∈ items, item.IsIncomplete) :
    ∃ fault : EntryFault, fault.LacksKey ∧
      ∀ nonce claimsVersion architecture,
        payload items nonce claimsVersion architecture = .error fault := by
  unfold payload
  cases hentries : items.mapM Item.entry with
  | error fault =>
    obtain ⟨item, -, hfault⟩ := exists_of_mapM_eq_error hentries
    exact ⟨fault, (Item.lacksKey_of_entry hfault).1, fun _ _ _ ↦ rfl⟩
  | ok entries =>
    obtain ⟨item, hitem, hincomplete⟩ := h
    obtain ⟨i, hi, rfl⟩ := List.getElem_of_mem hitem
    have hread := mapM_eq_ok_iff.mp hentries
    exact absurd (hread.get hi (hread.length_eq ▸ hi)) (hincomplete.entry_ne_ok _)

end Payload

/-! ### Saved entries -/

/-- The value is an object with both keys of an entry. -/
def Json.IsEntry (item : Json) (entry : Entry) : Prop :=
  ∃ mapping, item = .object mapping ∧
    Json.lookup? "certificate" mapping = some entry.certificate ∧
    Json.lookup? "evidence" mapping = some entry.evidence

/-- The value lists the entries in order. One that is empty without being a list has none. -/
inductive Json.Lists : Json → List Entry → Prop
  | array {items : List Json} {entries : List Entry} (h : List.Forall₂ Json.IsEntry items entries) :
    Lists (.array items) entries
  | object : Lists (.object []) []
  | string : Lists (.string "") []

namespace Entry

/-- A value is read as an entry exactly if it is one. -/
theorem ofJson_eq_ok_iff {item : Json} {entry : Entry} :
    ofJson item = .ok entry ↔ item.IsEntry entry := by
  unfold Json.IsEntry
  cases item with
  | object mapping => simp [ofJson, ofMapping_eq_ok_iff]
  | _ => simp [ofJson]

/-- A value is read as entries exactly if it lists them. -/
theorem listOfJson_eq_ok_iff {saved : Json} {entries : List Entry} :
    listOfJson saved = .ok entries ↔ saved.Lists entries := by
  constructor
  · intro h
    unfold listOfJson at h
    split at h
    · simp only [mapM_eq_ok_iff, ofJson_eq_ok_iff] at h
      exact .array h
    · obtain rfl := Except.ok.inj h
      exact .object
    · split at h
      · next hempty =>
        obtain rfl := Except.ok.inj h
        subst hempty
        exact .string
      · cases h
    · cases h
  · intro h
    cases h with
    | array h =>
      refine mapM_eq_ok_iff.mpr ?_
      simp only [ofJson_eq_ok_iff]
      exact h
    | object => rfl
    | string => rfl

end Entry

end MeshAttest
