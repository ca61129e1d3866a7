import MeshAttest.Proofs.Octets
import MeshAttest.Proofs.Token.Acceptance
import Mathlib.Logic.Relation

/-!
# The first key counts

Of a key set, a token is judged by one value: the certificates of the first key that has the
identifier in the header of the token. Key sets that agree on it (`KeySet.AgreeOn`) give every token
the same outcome, at any time, down to the fault. The key sets need not have keys, or entries that
are keys.

`KeySet.Edit` lists what may be done to the entries of a key set without a change in that value. One
edit keeps it (`KeySet.Edit.chainAmong_eq`), so any number of them do, in either direction. There is
no second try with a later key: if the token does not hold under the first one, it is refused.
-/

set_option autoImplicit false

namespace MeshAttest

open Outcome

namespace KeySet

variable {keySet other entry : Json} {entries others : List Json} {keyId : RawText}
  {key : List (String × Json)}

/-! ### The first key -/

/-- The entry is a key with the identifier. -/
def IsKey (keyId : RawText) (entry : Json) : Prop :=
  ∃ key, entry = .object key ∧ Json.lookup? "kid" key = some (.ofRawText keyId)

/-- The key set is an object with a list of entries. -/
def Lists (keySet : Json) (entries : List Json) : Prop :=
  ∃ members, keySet = .object members ∧ Json.lookup? "keys" members = some (.array entries)

/-- The key is the first one of the key set that has the identifier. -/
def Selects (keySet : Json) (keyId : RawText) (key : List (String × Json)) : Prop :=
  ∃ before after, Lists keySet (before ++ .object key :: after) ∧
    Json.lookup? "kid" key = some (.ofRawText keyId) ∧ ∀ entry ∈ before, ¬ IsKey keyId entry

/-- The certificates of a key. It makes no difference whether they are absent or null. -/
def chain (key : List (String × Json)) : Json := (Json.lookup? "x5c" key).getD .null

/-- The first keys with an identifier have the same certificates, or neither key set has such a
key. -/
def AgreeOn (keyId : RawText) (keySet other : Json) : Prop :=
  (∃ key otherKey, Selects keySet keyId key ∧ Selects other keyId otherKey ∧
    chain key = chain otherKey) ∨
  (∀ key, ¬ Selects keySet keyId key) ∧ ∀ key, ¬ Selects other keyId key

theorem hasId_eq_false_iff : hasId keyId entry = false ↔ ¬ IsKey keyId entry := by
  rw [← Bool.not_eq_true, hasId_eq_true_iff]
  rfl

theorem Lists.keys_eq (h : Lists keySet entries) : keys keySet = entries := by
  obtain ⟨members, rfl, hentries⟩ := h
  rw [keys, Json.get?, hentries]

theorem selects_iff : Selects keySet keyId key ↔ find? keySet keyId = some (.object key) := by
  rw [find?_eq_some_iff]
  constructor
  · rintro ⟨before, after, ⟨members, rfl, hlist⟩, hkeyId, hbefore⟩
    exact ⟨members, before, key, after, rfl, rfl, hlist, hkeyId,
      fun other hother hsame ↦ hbefore _ hother ⟨other, rfl, hsame⟩⟩
  · rintro ⟨members, before, _, after, rfl, hsame, hlist, hkeyId, hbefore⟩
    cases hsame
    refine ⟨before, after, ⟨members, rfl, hlist⟩, hkeyId, ?_⟩
    rintro _ hother ⟨other, rfl, hsame⟩
    exact hbefore other hother hsame

theorem forall_not_selects_iff :
    (∀ key, ¬ Selects keySet keyId key) ↔ find? keySet keyId = none := by
  constructor
  · intro h
    cases hfound : find? keySet keyId with
    | none => rfl
    | some entry =>
      obtain ⟨_, _, key, _, _, rfl, -⟩ := find?_eq_some_iff.mp hfound
      exact absurd (selects_iff.mpr hfound) (h key)
  · intro h key hselects
    cases h.symm.trans (selects_iff.mp hselects)

/-- The certificates of the first key among some entries that has an identifier. -/
def chainAmong (keyId : RawText) (entries : List Json) : Option Json :=
  (entries.find? (hasId keyId)).map fun entry ↦ (entry.get? "x5c").getD .null

/-- Key sets that agree on an identifier have the same certificates for it. -/
theorem AgreeOn.chainAmong_eq (h : AgreeOn keyId keySet other) :
    chainAmong keyId (keys keySet) = chainAmong keyId (keys other) := by
  change (find? keySet keyId).map _ = (find? other keyId).map _
  rcases h with ⟨key, otherKey, hkey, hother, hsame⟩ | ⟨hkey, hother⟩
  · rw [selects_iff.mp hkey, selects_iff.mp hother]
    exact congrArg some hsame
  · rw [forall_not_selects_iff.mp hkey, forall_not_selects_iff.mp hother]

/-! ### Edits -/

/-- A change to the entries of a key set that does not concern the first key with an identifier, or
none of it but its certificates. -/
inductive Edit (keyId : RawText) : List Json → List Json → Prop
  /-- Any entry that is no key with the identifier is put in, at any place. -/
  | insert {entry : Json} (h : ¬ IsKey keyId entry) (before after : List Json) :
    Edit keyId (before ++ after) (before ++ entry :: after)
  /-- Any entry at all is put in behind a key with the identifier. -/
  | later {key : Json} {before : List Json} (h : IsKey keyId key) (hmem : key ∈ before)
    (entry : Json) (after : List Json) : Edit keyId (before ++ after) (before ++ entry :: after)
  /-- Two neighbours change places, unless both are keys with the identifier. -/
  | swap {first second : Json} (h : ¬ (IsKey keyId first ∧ IsKey keyId second))
    (before after : List Json) :
    Edit keyId (before ++ first :: second :: after) (before ++ second :: first :: after)
  /-- A key with the identifier gets other members, but keeps its certificates. -/
  | amend {key other : List (String × Json)}
    (hkey : Json.lookup? "kid" key = some (.ofRawText keyId))
    (hother : Json.lookup? "kid" other = some (.ofRawText keyId)) (h : chain key = chain other)
    (before after : List Json) :
    Edit keyId (before ++ .object key :: after) (before ++ .object other :: after)

/-- Entries that come of each other by edits, some of which may be undone. -/
def EditedTo (keyId : RawText) : List Json → List Json → Prop := Relation.EqvGen (Edit keyId)

/-- No edit changes the certificates of the first key with the identifier. -/
theorem Edit.chainAmong_eq (h : Edit keyId entries others) :
    chainAmong keyId entries = chainAmong keyId others := by
  unfold chainAmong
  cases h with
  | insert hentry before after =>
    rw [List.find?_append, List.find?_append, List.find?_cons, hasId_eq_false_iff.mpr hentry]
  | later hkey hmem entry after =>
    -- The key in front is found or an earlier one is, so that nothing behind it is looked at.
    have hfound : (List.find? (hasId keyId) _).isSome :=
      List.find?_isSome.mpr ⟨_, hmem, hasId_eq_true_iff.mpr hkey⟩
    obtain ⟨first, hfirst⟩ := Option.isSome_iff_exists.mp hfound
    rw [List.find?_append, List.find?_append, hfirst, Option.some_or, Option.some_or]
  | @swap first second hneither before after =>
    rw [List.find?_append, List.find?_append]
    simp only [List.find?_cons]
    by_cases hfirst : IsKey keyId first
    · rw [hasId_eq_false_iff.mpr fun hsecond ↦ hneither ⟨hfirst, hsecond⟩]
    · rw [hasId_eq_false_iff.mpr hfirst]
  | amend hkey hother hsame before after =>
    rw [List.find?_append, List.find?_append, List.find?_cons_of_pos, List.find?_cons_of_pos,
      Option.map_or, Option.map_or]
    · exact congrArg (fun chain ↦ (Option.map _ _).or (some chain)) hsame
    · exact hasId_eq_true_iff.mpr ⟨_, rfl, hother⟩
    · exact hasId_eq_true_iff.mpr ⟨_, rfl, hkey⟩

/-- However many edits there are, the certificates stay the same. -/
theorem EditedTo.chainAmong_eq (h : EditedTo keyId entries others) :
    chainAmong keyId entries = chainAmong keyId others := by
  induction h with
  | rel entries others h => exact h.chainAmong_eq
  | refl entries => rfl
  | symm entries others _ ih => exact ih.symm
  | trans entries middle others _ _ ih ihOthers => exact ih.trans ihOthers

/-- The certificate of a key depends on nothing else in the key. -/
theorem leafCertificate_eq (entry : Json) :
    leafCertificate entry =
      leafCertificate (.object [("x5c", (entry.get? "x5c").getD .null)]) := by
  unfold leafCertificate
  cases hchain : entry.get? "x5c" with
  | none => rfl
  | some chain => rfl

end KeySet

/-! ### The outcome for a token -/

namespace Token

variable {now : Int} {token keyId : RawText} {keySet other : Json} {key : List (String × Json)}

/-- The certificate for an identifier depends on the certificates of the first key with it, and on
nothing else in the key set. -/
theorem certificateFor_eq (keySet : Json) (keyId : RawText) :
    certificateFor keySet keyId =
      match KeySet.chainAmong keyId (KeySet.keys keySet) with
      | none => .error (.keyNotFound keyId)
      | some chain => KeySet.leafCertificate (.object [("x5c", chain)]) := by
  rw [certificateFor, KeySet.chainAmong, ← KeySet.find?]
  cases KeySet.find? keySet keyId with
  | none => rfl
  | some entry => exact KeySet.leafCertificate_eq entry

/-- A verification depends on a key set for the certificates of the first key with the identifier in
the token only. -/
theorem verifyWith_eq_of_chainAmong_eq
    (h : ∀ keyId, Token.keyId token = .ok keyId →
      KeySet.chainAmong keyId (KeySet.keys keySet) = KeySet.chainAmong keyId (KeySet.keys other)) :
    verifyWith now token keySet = verifyWith now token other := by
  rw [verifyWith, verifyWith, certificate_eq, certificate_eq]
  cases hkeyId : Token.keyId token with
  | error fault => rfl
  | ok keyId =>
    rw [ok_bind, ok_bind, certificateFor_eq, certificateFor_eq, h keyId hkeyId]

/-- The claims of a token that is valid under one key, whatever identifier it has. -/
def verifyUnder (now : Int) (token : RawText) (key : List (String × Json)) :
    Except TokenFault Claims := do
  let certificate ← KeySet.leafCertificate (.object key)
  verify now token certificate

/-- A token is judged under the first key with its identifier, be it of any use or not. -/
theorem verifyWith_eq_verifyUnder (hkeyId : Token.keyId token = .ok keyId)
    (hselects : KeySet.Selects keySet keyId key) :
    verifyWith now token keySet = verifyUnder now token key := by
  rw [verifyWith, verifyUnder, certificate_eq, hkeyId, ok_bind, certificateFor,
    KeySet.selects_iff.mp hselects]

/-- The outcome for a token depends on nothing in a key set but the certificates of the first key
that has the identifier in the token. No edit of the other entries changes it, and if the token
does not hold under that key, it does not hold under the key set. -/
theorem verifyWith_firstKey (now : Int) (token : RawText) (keySet other : Json) :
    ((∀ keyId, Token.keyId token = .ok keyId → KeySet.AgreeOn keyId keySet other) →
      verifyWith now token keySet = verifyWith now token other) ∧
    (∀ entries others, KeySet.Lists keySet entries → KeySet.Lists other others →
      (∀ keyId, Token.keyId token = .ok keyId → KeySet.EditedTo keyId entries others) →
      verifyWith now token keySet = verifyWith now token other) ∧
    ∀ keyId key fault, Token.keyId token = .ok keyId → KeySet.Selects keySet keyId key →
      verifyUnder now token key = .error fault →
      verifyWith now token keySet = .error fault := by
  refine ⟨fun hagree ↦ ?_, fun entries others hentries hothers hedited ↦ ?_, ?_⟩
  · exact verifyWith_eq_of_chainAmong_eq fun keyId hkeyId ↦ (hagree keyId hkeyId).chainAmong_eq
  · apply verifyWith_eq_of_chainAmong_eq
    intro keyId hkeyId
    rw [hentries.keys_eq, hothers.keys_eq]
    exact (hedited keyId hkeyId).chainAmong_eq
  · intro keyId key fault hkeyId hselects hfault
    rw [verifyWith_eq_verifyUnder hkeyId hselects, hfault]

end Token

/-! ### A key set whose first key has no certificate

The token here is signed with the secret one, so that its key is the base point of the curve. -/

namespace Certificate

/-- An element in DER, of less than 256 octets. -/
def writeElement (tag : UInt8) (content : Bytes) : Bytes :=
  tag :: (if content.length < 0x80 then [] else [0x81]) ++ UInt8.ofNat content.length :: content

def writeSequence (parts : List Bytes) : Bytes := writeElement 0x30 parts.flatten

/-- The name of ECDSA with SHA-384. -/
def writtenAlgorithm : Bytes := writeSequence [writeElement 0x06 [42, 134, 72, 206, 61, 4, 3, 3]]

def writtenMoment : Bytes :=
  writeElement 0x17 ("240101000000Z".toList.flatMap String.utf8EncodeChar)

/-- A certificate of a key, without names. Its signature is none. -/
def write (version algorithm : List Bytes) (key : Bytes) : Bytes :=
  writeSequence [
    writeSequence (version ++ [writeElement 0x02 [1], writtenAlgorithm, writeSequence [],
      writeSequence [writtenMoment, writtenMoment], writeSequence [],
      writeSequence [writeSequence algorithm, writeElement 0x03 (0 :: key)]]),
    writtenAlgorithm, writeElement 0x03 [0]]

/-- The name of keys on secp384r1. -/
def curveAlgorithm : List Bytes :=
  [writeElement 0x06 [42, 134, 72, 206, 61, 2, 1], writeElement 0x06 [43, 129, 4, 0, 34]]

/-- A certificate of the base point. -/
def ofBase : Bytes :=
  write [] curveAlgorithm (Curve.secp384r1.encodePoint Curve.secp384r1.base)

/-- The certificate certifies the base point. -/
theorem ofBase_certifies : Certifies ofBase Curve.secp384r1.base := by
  rw [← verificationKey_eq_ok_iff]
  decide +kernel

end Certificate

namespace KeySet

/-- A key set of some keys. -/
def ofKeys (keys : List (List (String × Json))) : Json :=
  .object [("keys", .array (keys.map .object))]

def keyWith (certificate : Bytes) : List (String × Json) :=
  [("kid", .string "k"), ("x5c", .array [.string (Base64.encode certificate)])]

def keyWithout : List (String × Json) := [("kid", .string "k")]

/-- The first key of a list is selected if it has the identifier. -/
theorem ofKeys_selects {keyId : RawText} {key : List (String × Json)}
    (h : Json.lookup? "kid" key = some (.ofRawText keyId)) (others : List (List (String × Json))) :
    Selects (ofKeys (key :: others)) keyId key :=
  ⟨[], others.map .object, ⟨_, rfl, rfl⟩, h, List.forall_mem_nil _⟩

theorem leafCertificate_keyWith (certificate : Bytes) :
    leafCertificate (.object (keyWith certificate)) = .ok certificate :=
  leafCertificate_eq_ok_iff.mpr ⟨_, [], rfl, Base64.decode_encode certificate⟩

end KeySet

theorem Json.parseOctets_of_decode {octets : Bytes} {points : List CodePoint} {value : Json}
    (hdecode : Text.decode octets = .ok points) (hread : readText points = .ok value) :
    parseOctets octets = .ok value := by
  rw [parseOctets, hdecode]
  change (readText points).mapError _ = _
  rw [hread]
  rfl

namespace Token

/-- The signature of a message with the secret one. The number that is to be chosen anew for each
signature is one as well. -/
def sign (message : Bytes) : Bytes :=
  let r := Curve.secp384r1.baseX % Curve.secp384r1.order
  let s := (Bytes.toNatBE (Sha384.digest message) + r) % Curve.secp384r1.order
  Bytes.ofNatBE 48 r ++ Bytes.ofNatBE 48 s

def headerText : String := "\x7b\"alg\":\"ES384\",\"kid\":\"k\"\x7d"

def payloadText : String := "\x7b\"x-nvidia-overall-att-result\":true\x7d"

def sampleHeader : Bytes := headerText.toList.flatMap String.utf8EncodeChar

def samplePayload : Bytes := payloadText.toList.flatMap String.utf8EncodeChar

def sampleSigned : Bytes := (CompactToken.ofOctets sampleHeader samplePayload []).signedOctets

def sample : CompactToken :=
  CompactToken.ofOctets sampleHeader samplePayload (sign sampleSigned)

def sampleParts : TokenParts where
  header := [("alg", .string "ES384"), ("kid", .string "k")]
  payload := samplePayload
  signature := sign sampleSigned
  signed := sampleSigned

/-- The octets that are signed for a payload. -/
def signedFor (payload : Bytes) : Bytes :=
  (CompactToken.ofOctets sampleHeader payload []).signedOctets

/-- A token with a payload, signed with the secret one. -/
def signed (payload : Bytes) : CompactToken :=
  CompactToken.ofOctets sampleHeader payload (sign (signedFor payload))

def signedParts (payload : Bytes) : TokenParts where
  header := [("alg", .string "ES384"), ("kid", .string "k")]
  payload := payload
  signature := sign (signedFor payload)
  signed := signedFor payload

theorem sampleHeader_parse :
    Json.parseOctets sampleHeader = .ok (.object sampleParts.header) := by
  have hdecode : Text.decode sampleHeader = .ok (headerText.toList.map .char) := by decide +kernel
  exact Json.parseOctets_of_decode hdecode (by with_unfolding_all rfl)

theorem samplePayload_parse :
    Json.parseOctets samplePayload = .ok (.object [(verdictKey, .bool true)]) := by
  have hdecode : Text.decode samplePayload = .ok (payloadText.toList.map .char) := by decide +kernel
  exact Json.parseOctets_of_decode hdecode (by with_unfolding_all rfl)

theorem signed_written (payload : Bytes) :
    TokenParts.Written (signed payload).text (signedParts payload) (signed payload) where
  spells := CompactToken.ofOctets_spells _ _ _
  header := ⟨_, Base64.decodeSegment?_segment _, sampleHeader_parse⟩
  payload := by
    have hattached : TokenParts.isDetached (signedParts payload).header = false := rfl
    rw [TokenParts.readPayload, hattached, if_neg Bool.false_ne_true,
      TokenParts.readSegment_eq_ok_iff]
    exact Base64.decodeSegment?_segment _
  signature := Base64.decodeSegment?_segment _
  keyId value hvalue := ⟨.text "k", (Option.some.inj hvalue).symm⟩
  critical value hvalue := by cases hvalue
  signed := rfl

/-- A token that is signed for a payload is read as the parts from which it was made. -/
theorem signed_ofText (payload : Bytes) :
    TokenParts.ofText (signed payload).text = .ok (signedParts payload) :=
  TokenParts.ofText_eq_ok_iff.mpr ⟨signed payload, signed_written payload⟩

theorem signed_keyId (payload : Bytes) : Token.keyId (signed payload).text = .ok "k" :=
  keyId_text_eq_ok_iff.mpr ⟨signedParts payload, signed_ofText payload, rfl, by decide⟩

/-- The payload is found, if signing has led to a signature that holds. -/
theorem signed_payload {payload : Bytes} {entries : List (String × Json)}
    (hverified : Es384.verify Curve.secp384r1.base (signedFor payload)
      (sign (signedFor payload)) = true)
    (hparse : Json.parseOctets payload = .ok (.object entries)) :
    Token.payload Curve.secp384r1.base (signed payload).text = .ok entries := by
  refine payload_eq_ok_iff.mpr ⟨signedParts payload, ?_, hparse⟩
  exact authenticate_eq_ok_iff.mpr
    ⟨signed_ofText payload, checkHeader_eq_ok_iff.mpr ⟨nofun, rfl⟩, hverified⟩

theorem sample_keyId : Token.keyId sample.text = .ok "k" := signed_keyId samplePayload

theorem sample_verified :
    Es384.verify Curve.secp384r1.base sampleSigned (sign sampleSigned) = true := by
  decide +kernel

/-- The sample is accepted under the certificate of the base point, at any time. -/
theorem sample_verify : verify 0 sample.text Certificate.ofBase = .ok ⟨true, []⟩ :=
  verify_eq_ok_iff.mpr ⟨_, _, Certificate.ofBase_certifies,
    signed_payload sample_verified samplePayload_parse, ⟨nofun, nofun, nofun, nofun, nofun⟩, rfl⟩

/-- The token holds under the second key, and yet it is refused for the first one. Nothing changes
if the second key is taken away, or the keys get other members. -/
theorem verifyWith_decoy :
    verifyWith 0 sample.text (KeySet.ofKeys [KeySet.keyWith Certificate.ofBase]) =
      .ok ⟨true, []⟩ ∧
    verifyWith 0 sample.text
      (KeySet.ofKeys [("use", .string "sig") :: KeySet.keyWith Certificate.ofBase]) =
        .ok ⟨true, []⟩ ∧
    verifyWith 0 sample.text
      (KeySet.ofKeys [KeySet.keyWithout, KeySet.keyWith Certificate.ofBase]) =
        .error .chainAbsent ∧
    verifyWith 0 sample.text (KeySet.ofKeys [KeySet.keyWithout]) = .error .chainAbsent := by
  have hwith : verifyWith 0 sample.text (KeySet.ofKeys [KeySet.keyWith Certificate.ofBase]) =
      .ok ⟨true, []⟩ := by
    rw [verifyWith_eq_verifyUnder sample_keyId (KeySet.ofKeys_selects rfl []), verifyUnder,
      KeySet.leafCertificate_keyWith, ok_bind, sample_verify]
  have hdecoy : verifyWith 0 sample.text
      (KeySet.ofKeys [KeySet.keyWithout, KeySet.keyWith Certificate.ofBase]) =
        .error .chainAbsent :=
    (verifyWith_firstKey 0 sample.text _ .null).2.2 "k" KeySet.keyWithout .chainAbsent
      sample_keyId (KeySet.ofKeys_selects rfl _) rfl
  refine ⟨hwith, ?_, hdecoy, ?_⟩
  · rw [← hwith]
    refine (verifyWith_firstKey 0 sample.text _ _).1 fun keyId hkeyId ↦ ?_
    obtain rfl := Except.ok.inj (hkeyId.symm.trans sample_keyId)
    exact .inl ⟨_, _, KeySet.ofKeys_selects rfl [], KeySet.ofKeys_selects rfl [], rfl⟩
  · rw [← hdecoy]
    refine (verifyWith_firstKey 0 sample.text _ _).2.1 _ _ ⟨_, rfl, rfl⟩ ⟨_, rfl, rfl⟩ ?_
    intro keyId hkeyId
    obtain rfl := Except.ok.inj (hkeyId.symm.trans sample_keyId)
    have hkey : KeySet.IsKey "k" (.object KeySet.keyWithout) := ⟨_, rfl, rfl⟩
    exact .rel _ _ (.later hkey (List.mem_singleton_self _) _ [])

end Token

end MeshAttest
