import MeshAttest.Proofs.Token.FirstKey

/-!
# Payloads that nobody has signed

The payload of a token is looked at only after the signature has been found to hold. A token whose
signature does not hold is refused for something in its header, in the key set or in the signature
(`Token.refuse`), and neither the payload nor the clock has a part in it
(`Token.Unverified.verifyWith_eq`).

With one exception: a header may say that the payload is detached, and then it is an error of its
own if there is one (`Token.exists_told_apart`). So the outcome tells of such a header whether the
payload is empty, and nothing else of it. For other headers it does not even tell that.
-/

set_option autoImplicit false

namespace MeshAttest

open Outcome

/-! ### What a header is judged by -/

namespace TokenParts

variable {chars : List Char} {header : List (String × Json)} {isEmpty otherIsEmpty : Bool}

/-- A detached payload has to be left out. -/
def checkDetached (header : List (String × Json)) (isEmpty : Bool) : Except TokenFlaw Unit :=
  if isDetached header && !isEmpty then .error .detachedPayloadNotEmpty else .ok ()

/-- Reads a header and judges it. Of the payload it counts whether there is one. -/
def judge (chars : List Char) (isEmpty : Bool) : Except TokenFlaw (List (String × Json)) := do
  let octets ← readSegment .header chars
  let header ← readObject .header octets
  checkDetached header isEmpty
  checkKeyId header
  checkCritical header
  return header

theorem encodes_of_judge (h : judge chars isEmpty = .ok header) : Encodes chars header := by
  simp only [judge, bind_eq_ok_iff, pure_eq_ok_iff, readSegment_eq_ok_iff,
    readObject_eq_ok_iff] at h
  obtain ⟨octets, hoctets, _, hheader, -, -, -, -, -, -, rfl⟩ := h
  exact ⟨octets, hoctets, hheader⟩

/-- Unless a header says that the payload is detached, it does not matter whether there is one. -/
theorem judge_eq (h : ∀ header, Encodes chars header →
    Json.lookup? "b64" header = some (.bool false) → isEmpty = otherIsEmpty) :
    judge chars isEmpty = judge chars otherIsEmpty := by
  unfold judge
  cases hoctets : readSegment .header chars with
  | error flaw => rfl
  | ok octets =>
    rw [ok_bind, ok_bind]
    cases hheader : readObject .header octets with
    | error flaw => rfl
    | ok header =>
      rw [ok_bind, ok_bind]
      by_cases hdetached : Json.lookup? "b64" header = some (.bool false)
      · rw [h header ⟨octets, readSegment_eq_ok_iff.mp hoctets,
          readObject_eq_ok_iff.mp hheader⟩ hdetached]
      · rw [checkDetached, checkDetached, isDetached_eq_false_iff.mpr hdetached, Bool.false_and,
          Bool.false_and]

/-- Of a payload that can be decoded it counts for the header only whether there is one. -/
theorem readPayload_eq {header : List (String × Json)} {chars : List Char} {octets : Bytes}
    (h : Base64.decodeSegment? chars = some octets) :
    readPayload header chars = (do
      checkDetached header chars.isEmpty
      return if isDetached header then [] else octets) := by
  unfold readPayload checkDetached
  by_cases hdetached : isDetached header = true
  · cases chars with
    | nil => simp [hdetached]
    | cons first rest => simp [hdetached]
  · simp [hdetached, readSegment_eq_ok_iff.mpr h]

end TokenParts

namespace CompactToken

/-- The parts of a token whose header is judged right. -/
def partsWith (token : CompactToken) (payload signature : Bytes)
    (header : List (String × Json)) : TokenParts :=
  ⟨header, if TokenParts.isDetached header then [] else payload, signature, token.signedOctets⟩

/-- If payload and signature can be decoded, the parts of a token depend on whether its header is
judged right. -/
theorem Spells.ofText_eq {token : CompactToken} {text : String} {payload signature : Bytes}
    (h : token.Spells text.toList) (hpayload : Base64.decodeSegment? token.payload = some payload)
    (hsignature : Base64.decodeSegment? token.signature = some signature) :
    TokenParts.ofText text = (do
      let header ← TokenParts.judge token.header token.payload.isEmpty
      return token.partsWith payload signature header) := by
  rw [TokenParts.ofText, ofText?_eq_some_iff.mpr h]
  simp only [TokenParts.judge, bind_assoc, pure_bind, TokenParts.readPayload_eq hpayload,
    TokenParts.readSegment_eq_ok_iff.mpr hsignature, ok_bind]
  rfl

end CompactToken

/-! ### Tokens that are not signed -/

namespace Token

variable {keySet : Json} {text otherText : String} {token other : CompactToken} {now : Int}

/-- The key set has a key that can be used for the identifier in a header. -/
def SelectsKey (keySet : Json) (chars : List Char) (key : Point) : Prop :=
  ∃ header keyId certificate, TokenParts.Encodes chars header ∧
    Json.lookup? "kid" header = some (.ofRawText keyId) ∧ keyId ≠ .text "" ∧
    KeySet.Publishes keySet keyId certificate ∧ Certificate.Certifies certificate key

/-- A text is a token in three segments that can be decoded, and its signature does not hold under
the key that its header selects, if there is one. -/
structure Unverified (keySet : Json) (text : String) (token : CompactToken) : Prop where
  spells : token.Spells text.toList
  payload : ∃ octets, Base64.decodeSegment? token.payload = some octets
  signature : ∃ octets, Base64.decodeSegment? token.signature = some octets
  unsigned : ∀ key octets, SelectsKey keySet token.header key →
    Base64.decodeSegment? token.signature = some octets →
    Es384.verify key token.signedOctets octets = false

/-- What a token is refused for whose signature does not hold. Nothing of the payload goes into it
but whether it is empty. -/
def refuse (keySet : Json) (chars : List Char) (isEmpty : Bool) : Except TokenFault Claims := do
  let header ← (TokenParts.judge chars isEmpty).mapError .unreadable
  let keyId ← keyIdIn header
  let certificate ← certificateFor keySet keyId
  let _ ← (Certificate.verificationKey certificate).mapError .certificate
  (checkHeader header).mapError .invalid
  .error .signature

theorem refuse_ne_ok {chars : List Char} {isEmpty : Bool} {claims : Claims} :
    refuse keySet chars isEmpty ≠ .ok claims := by
  simp [refuse, bind_eq_ok_iff]

theorem keyId_of_ofText {parts : TokenParts} (h : TokenParts.ofText text = .ok parts) :
    keyId text = keyIdIn parts.header := by
  rw [keyId_eq, textOf, ok_bind, h]
  rfl

/-- Where the signature does not hold, the payload is not read, and the fault is that of the header
or that of the signature. -/
theorem payload_of_unsigned {parts : TokenParts} {key : Point}
    (hparts : TokenParts.ofText text = .ok parts)
    (hunsigned : Es384.verify key parts.signed parts.signature = false) :
    Token.payload key text = (do
      (checkHeader parts.header).mapError .invalid
      .error .signature) := by
  have hauthenticate : authenticate key text = (do
      (checkHeader parts.header).mapError .invalid
      .error .signature) := by
    rw [authenticate, textOf, ok_bind, hparts]
    simp only [Except.mapError, ok_bind, hunsigned, Bool.false_eq_true, if_false]
  rw [Token.payload, hauthenticate, bind_assoc]
  rfl

/-- Under a certificate for which the signature does not hold, a token is refused before its payload
is read. -/
theorem verify_of_unsigned {parts : TokenParts} {certificate : Bytes}
    (hparts : TokenParts.ofText text = .ok parts)
    (hunsigned : ∀ key, Certificate.Certifies certificate key →
      Es384.verify key parts.signed parts.signature = false) :
    verify now text certificate = (do
      let _ ← (Certificate.verificationKey certificate).mapError .certificate
      (checkHeader parts.header).mapError .invalid
      .error .signature) := by
  rw [verify]
  cases hkey : Certificate.verificationKey certificate with
  | error fault => rfl
  | ok key =>
    have hfalse := hunsigned key (Certificate.verificationKey_eq_ok_iff.mp hkey)
    simp only [Except.mapError, ok_bind, payload_of_unsigned hparts hfalse, bind_assoc, error_bind]

/-- A token whose signature does not hold is refused, and neither the payload nor the clock has a
part in what it is refused for. -/
theorem Unverified.verifyWith_eq (h : Unverified keySet text token) :
    verifyWith now text keySet = refuse keySet token.header token.payload.isEmpty := by
  obtain ⟨payload, hpayload⟩ := h.payload
  obtain ⟨signature, hsignature⟩ := h.signature
  have hparts := h.spells.ofText_eq hpayload hsignature
  -- The checks are those of `refuse`, one after the other, and none of them reads the payload.
  unfold refuse
  cases hheader : TokenParts.judge token.header token.payload.isEmpty with
  | error flaw =>
    rw [hheader, error_bind] at hparts
    rw [verifyWith, certificate_eq, keyId_eq, textOf, ok_bind, hparts]
    rfl
  | ok header =>
    rw [hheader, ok_bind] at hparts
    rw [verifyWith, certificate_eq, keyId_of_ofText hparts, bind_assoc]
    change keyIdIn header >>= _ = keyIdIn header >>= _
    cases hkeyId : keyIdIn header with
    | error fault => rfl
    | ok keyId =>
      rw [ok_bind, ok_bind]
      cases hcertificate : certificateFor keySet keyId with
      | error fault => rfl
      | ok certificate =>
        refine verify_of_unsigned hparts fun key hkey ↦ h.unsigned key signature ?_ hsignature
        obtain ⟨hname, hne⟩ := keyIdIn_eq_ok_iff.mp hkeyId
        exact ⟨header, keyId, certificate, TokenParts.encodes_of_judge hheader, hname, hne,
          certificateFor_eq_ok_iff.mp hcertificate, hkey⟩

/-- Two tokens with the same header, neither of which is signed, are refused for the same fault at
all times. If the header says that the payload is detached, both payloads have to be empty or
neither. -/
theorem verifyWith_unverified (h : Unverified keySet text token)
    (hother : Unverified keySet otherText other) (hheader : token.header = other.header)
    (hdetached : ∀ header, TokenParts.Encodes token.header header →
      Json.lookup? "b64" header = some (.bool false) →
      (token.payload = [] ↔ other.payload = [])) :
    ∃ fault, ∀ now, verifyWith now text keySet = .error fault ∧
      verifyWith now otherText keySet = .error fault := by
  have hsame : refuse keySet token.header token.payload.isEmpty =
      refuse keySet other.header other.payload.isEmpty := by
    rw [refuse, refuse, ← hheader, TokenParts.judge_eq]
    intro header hencodes hfalse
    rw [Bool.eq_iff_iff, List.isEmpty_iff, List.isEmpty_iff]
    exact hdetached header hencodes hfalse
  cases hrefuse : refuse keySet token.header token.payload.isEmpty with
  | error fault =>
    refine ⟨fault, fun now ↦ ⟨?_, ?_⟩⟩
    · rw [h.verifyWith_eq, hrefuse]
    · rw [hother.verifyWith_eq, ← hsame, hrefuse]
  | ok claims => exact absurd hrefuse refuse_ne_ok

/-- A text whose segments have given octets is not verified if the signature does not have the size
of one. -/
theorem ofOctets_unverified (keySet : Json) (header payload : Bytes) {signature : Bytes}
    (hsize : signature.length ≠ Es384.signatureSize) :
    Unverified keySet (CompactToken.ofOctets header payload signature).text
      (CompactToken.ofOctets header payload signature) where
  spells := CompactToken.ofOctets_spells header payload signature
  payload := ⟨payload, Base64.decodeSegment?_segment payload⟩
  signature := ⟨signature, Base64.decodeSegment?_segment signature⟩
  unsigned key octets _ hoctets := by
    obtain rfl : signature = octets :=
      Option.some.inj ((Base64.decodeSegment?_segment signature).symm.trans hoctets)
    rw [Es384.verify, beq_eq_false_iff_ne.mpr hsize, Bool.false_and]

/-- Neither a verdict in the payload nor a payload that is no JSON text can be told from another
token that is not signed. -/
theorem verifyWith_unverified_sample :
    ∃ fault, ∀ now,
      verifyWith now (CompactToken.ofOctets sampleHeader samplePayload []).text
        (KeySet.ofKeys [KeySet.keyWith Certificate.ofBase]) = .error fault ∧
      verifyWith now (CompactToken.ofOctets sampleHeader [0xff] [0]).text
        (KeySet.ofKeys [KeySet.keyWith Certificate.ofBase]) = .error fault := by
  refine verifyWith_unverified (ofOctets_unverified _ _ _ (by decide))
    (ofOctets_unverified _ _ _ (by decide)) rfl fun header hencodes hfalse ↦ ?_
  obtain ⟨octets, hoctets, hheader⟩ := hencodes
  obtain rfl := Option.some.inj ((Base64.decodeSegment?_segment _).symm.trans hoctets)
  have hsame : sampleParts.header = header := by
    have hparsed := sampleHeader_parse.symm.trans hheader
    simpa using hparsed
  rw [← hsame] at hfalse
  cases hfalse

/-- A header that says that the payload is detached. -/
def detachedText : String := "\x7b\"kid\":\"k\",\"b64\":false\x7d"

def detachedHeader : Bytes := detachedText.toList.flatMap String.utf8EncodeChar

theorem detachedHeader_parse :
    Json.parseOctets detachedHeader =
      .ok (.object [("kid", .string "k"), ("b64", .bool false)]) := by
  have hdecode : Text.decode detachedHeader = .ok (detachedText.toList.map .char) := by
    decide +kernel
  exact Json.parseOctets_of_decode hdecode (by with_unfolding_all rfl)

/-- A header that detaches the payload is the one case in which it counts whether there is a
payload. -/
theorem refuse_detached (isEmpty : Bool) :
    refuse .null (Base64.segment detachedHeader) isEmpty =
      if isEmpty then .error (.keyNotFound "k")
      else .error (.unreadable .detachedPayloadNotEmpty) := by
  rw [refuse, TokenParts.judge,
    TokenParts.readSegment_eq_ok_iff.mpr (Base64.decodeSegment?_segment _), ok_bind,
    TokenParts.readObject_eq_ok_iff.mpr detachedHeader_parse, ok_bind]
  cases isEmpty with
  | false => rfl
  | true => rfl

/-- If the header says that the payload is detached, it can be told whether there is one. -/
theorem exists_told_apart :
    ∃ keySet text otherText, ∃ token other : CompactToken,
      Unverified keySet text token ∧ Unverified keySet otherText other ∧
        token.header = other.header ∧
        ∀ now, verifyWith now text keySet ≠ verifyWith now otherText keySet := by
  refine ⟨.null, _, _, CompactToken.ofOctets detachedHeader [] [],
    CompactToken.ofOctets detachedHeader [0x7b, 0x7d] [],
    ofOctets_unverified _ _ _ (by decide), ofOctets_unverified _ _ _ (by decide), rfl, ?_⟩
  intro now
  rw [(ofOctets_unverified _ _ _ (by decide)).verifyWith_eq,
    (ofOctets_unverified _ _ _ (by decide)).verifyWith_eq]
  change refuse .null (Base64.segment detachedHeader) true ≠
    refuse .null (Base64.segment detachedHeader) false
  rw [refuse_detached, refuse_detached]
  nofun

end Token

end MeshAttest
