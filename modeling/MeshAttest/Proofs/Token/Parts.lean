import MeshAttest.Proofs.Octets
import MeshAttest.Proofs.Outcome
import MeshAttest.Proofs.Text.Characters
import MeshAttest.Token.Compact

/-!
# The parts of a token

What it means for a text to be a token (`TokenParts.Written`): the header stands before the first
dot and the signature behind the last one, each segment decodes, header and payload are read from
their own segments, and the signed octets are those of the text before the last dot.
`TokenParts.ofText_eq_ok_iff` shows that these are the texts that are read, and what is read from
them.
-/

set_option autoImplicit false

namespace MeshAttest

open Outcome

namespace Text

/-- A text is cut at the last occurrence of a character. -/
theorem exists_eq_append_of_mem {c : Char} {chars : List Char} (hmem : c ∈ chars) :
    ∃ before after, chars = before ++ c :: after ∧ c ∉ after := by
  obtain ⟨front, back, hsplit, habsent⟩ :=
    List.eq_append_cons_of_mem (List.mem_reverse.mpr hmem)
  refine ⟨back.reverse, front.reverse, ?_, mt List.mem_reverse.mp habsent⟩
  rw [← List.reverse_reverse chars, hsplit, List.reverse_append, List.reverse_cons,
    List.append_assoc, List.singleton_append]

end Text

namespace CompactToken

/-- A text is a token in three segments. There may be dots in the payload only. -/
structure Spells (token : CompactToken) (text : List Char) : Prop where
  text_eq : text = token.header ++ '.' :: token.payload ++ '.' :: token.signature
  header_no_dot : '.' ∉ token.header
  signature_no_dot : '.' ∉ token.signature

/-- The signature is all that stands behind the last dot, and the header all that stands in front of
the first one. -/
theorem ofText?_append {before after : List Char} (habsent : '.' ∉ after) :
    ofText? (before ++ '.' :: after) =
      if '.' ∉ before then none
      else some ⟨(Text.cutFirst '.' before).1, (Text.cutFirst '.' before).2, after⟩ := by
  have hlength : (before ++ '.' :: after).length - after.length - 1 = before.length := by
    rw [List.length_append, List.length_cons]
    omega
  unfold ofText?
  simp only [Text.afterLast_append habsent, hlength, List.take_left]
  have hmem : '.' ∈ before ++ '.' :: after := by simp
  simp only [hmem, not_true_eq_false, false_or]

/-- A text is cut into segments in the one way that `Spells` admits. -/
theorem ofText?_eq_some_iff {text : List Char} {token : CompactToken} :
    ofText? text = some token ↔ token.Spells text := by
  constructor
  · intro h
    have hmem : '.' ∈ text := by
      by_contra habsent
      rw [ofText?, if_pos (Or.inl habsent)] at h
      cases h
    obtain ⟨signed, signature, rfl, hsignature⟩ := Text.exists_eq_append_of_mem hmem
    rw [ofText?_append hsignature] at h
    split at h
    · cases h
    · next hsigned =>
      obtain ⟨header, payload, rfl, hheader⟩ := List.eq_append_cons_of_mem (not_not.mp hsigned)
      rw [Text.cutFirst_append hheader] at h
      cases h
      exact ⟨rfl, hheader, hsignature⟩
  · rintro ⟨rfl, hheader, hsignature⟩
    rw [ofText?_append hsignature, if_neg (by simp), Text.cutFirst_append hheader]

/-- The token that has given octets in its segments. -/
def ofOctets (header payload signature : Bytes) : CompactToken where
  header := Base64.segment header
  payload := Base64.segment payload
  signature := Base64.segment signature

/-- The text of a token. -/
def text (token : CompactToken) : String :=
  String.ofList (token.header ++ '.' :: token.payload ++ '.' :: token.signature)

/-- Octets that are written as segments are a token, since no segment has a dot in it. -/
theorem ofOctets_spells (header payload signature : Bytes) :
    (ofOctets header payload signature).Spells (ofOctets header payload signature).text.toList where
  text_eq := String.toList_ofList
  header_no_dot := (Base64.not_mem_segment header).2
  signature_no_dot := (Base64.not_mem_segment signature).2

end CompactToken

namespace TokenParts

theorem readSegment_eq_ok_iff {segment : Segment} {chars : List Char} {octets : Bytes} :
    readSegment segment chars = .ok octets ↔ Base64.decodeSegment? chars = some octets := by
  unfold readSegment
  split
  · next other hother => simp [hother]
  · next hnone => simp [hnone]

/-- A segment holds an object if its octets are the text of one. -/
theorem readObject_eq_ok_iff {segment : Segment} {octets : Bytes} {entries : List (String × Json)} :
    readObject segment octets = .ok entries ↔ Json.parseOctets octets = .ok (.object entries) := by
  unfold readObject
  split
  · next fault hfault => simp [hfault]
  · next other hother => simp [hother]
  · next value hobject hvalue =>
    simp only [reduceCtorEq, hvalue, Except.ok.injEq, false_iff]
    exact hobject entries

/-- The characters of a segment are URL-safe base64 of the text of an object. -/
def Encodes (chars : List Char) (entries : List (String × Json)) : Prop :=
  ∃ octets, Base64.decodeSegment? chars = some octets ∧
    Json.parseOctets octets = .ok (.object entries)

/-- A payload is detached only where `b64` is there and false. -/
theorem isDetached_eq_false_iff {header : List (String × Json)} :
    isDetached header = false ↔ Json.lookup? "b64" header ≠ some (.bool false) := by
  unfold isDetached
  split
  · next hfalse => simp [hfalse]
  · next hother => simpa using hother

/-- The identifier of a key may be absent from a header, but it has to be a string if it is
there. -/
theorem checkKeyId_eq_ok_iff {header : List (String × Json)} {done : Unit} :
    checkKeyId header = .ok done ↔
      ∀ value, Json.lookup? "kid" header = some value → ∃ name, value = .ofRawText name := by
  unfold checkKeyId
  split
  · next hnone => simp [hnone]
  · next value hvalue => simp [hvalue, ← Json.isString_iff]

/-- The list of critical extensions of a header names nothing but `b64`, which has to be there. -/
def KnowsCritical (header : List (String × Json)) : Prop :=
  ∀ value, Json.lookup? "crit" header = some value → ∃ first rest, value = .array (first :: rest) ∧
    ∀ name ∈ first :: rest, name = .string "b64" ∧ (Json.lookup? "b64" header).isSome

/-- Critical extensions pass if each of them is the one that is known, and is there. -/
theorem checkExtensions_eq_ok_iff {header : List (String × Json)} {names : List Json}
    {done : Unit} :
    checkExtensions header names = .ok done ↔
      ∀ name ∈ names, name = .string "b64" ∧ (Json.lookup? "b64" header).isSome := by
  induction names with
  | nil => simp [checkExtensions]
  | cons first rest ih =>
    rw [List.forall_mem_cons]
    cases first with
    | string name =>
      rw [checkExtensions]
      by_cases hknown : name = knownExtension
      · subst hknown
        rw [if_neg (by simp)]
        cases hpresent : Json.lookup? knownExtension header with
        | none =>
          rw [knownExtension] at hpresent
          simp [hpresent]
        | some value =>
          rw [if_neg (by simp), ih]
          rw [knownExtension] at hpresent ⊢
          simp [hpresent]
      · rw [if_pos hknown]
        rw [knownExtension] at hknown
        simp [hknown]
    | _ => simp [checkExtensions]

/-- A header passes if it asks for no extension but the one that is known. -/
theorem checkCritical_eq_ok_iff {header : List (String × Json)} {done : Unit} :
    checkCritical header = .ok done ↔ KnowsCritical header := by
  unfold checkCritical KnowsCritical
  split
  · next hnone => simp [hnone]
  · next first rest hlist =>
    rw [checkExtensions_eq_ok_iff, hlist]
    constructor
    · intro h value hvalue
      exact ⟨first, rest, (Option.some.inj hvalue).symm, h⟩
    · intro h
      obtain ⟨_, _, hsame, hnames⟩ := h _ rfl
      cases hsame
      exact hnames
  · next value hnotList hvalue =>
    simp only [reduceCtorEq, hvalue, false_iff]
    intro h
    obtain ⟨first, rest, hsame, -⟩ := h value rfl
    exact hnotList first rest hsame

/-- The parts of a token that is written out, and what its header may ask for. -/
structure Written (text : String) (parts : TokenParts) (token : CompactToken) : Prop where
  spells : token.Spells text.toList
  header : Encodes token.header parts.header
  payload : readPayload parts.header token.payload = .ok parts.payload
  signature : Base64.decodeSegment? token.signature = some parts.signature
  keyId : ∀ value, Json.lookup? "kid" parts.header = some value →
    ∃ name, value = .ofRawText name
  critical : KnowsCritical parts.header
  signed : parts.signed = token.signedOctets

/-- A text has parts exactly if it is a token that is written out with these parts. -/
theorem ofText_eq_ok_iff {text : String} {parts : TokenParts} :
    ofText text = .ok parts ↔ ∃ token, Written text parts token := by
  unfold ofText
  split
  · next hnone =>
    simp only [reduceCtorEq, false_iff, not_exists]
    intro token h
    rw [CompactToken.ofText?_eq_some_iff.mpr h.spells] at hnone
    cases hnone
  · next token htoken =>
    simp only [bind_eq_ok_iff, pure_eq_ok_iff, readSegment_eq_ok_iff, readObject_eq_ok_iff,
      checkKeyId_eq_ok_iff, checkCritical_eq_ok_iff]
    have hspells := CompactToken.ofText?_eq_some_iff.mp htoken
    constructor
    · rintro ⟨octets, hoctets, header, hheader, payload, hpayload, signature, hsignature, -, hkeyId,
        -, hcritical, rfl⟩
      exact ⟨token, hspells, ⟨octets, hoctets, hheader⟩, hpayload, hsignature, hkeyId, hcritical,
        rfl⟩
    · rintro ⟨other, h⟩
      obtain rfl : token = other :=
        Option.some.inj (htoken.symm.trans (CompactToken.ofText?_eq_some_iff.mpr h.spells))
      obtain ⟨octets, hoctets, hheader⟩ := h.header
      refine ⟨octets, hoctets, parts.header, hheader, parts.payload, h.payload, parts.signature,
        h.signature, (), h.keyId, (), h.critical, ?_⟩
      rw [← h.signed]

end TokenParts

end MeshAttest
