import MeshAttest.Proofs.Curve.Points
import MeshAttest.Proofs.Token.Parts
import MeshAttest.Token.Verification

/-!
# Tokens that are accepted

`Token.verifyWith_eq_ok_iff` says which tokens are accepted under a key set, and what is taken from
them. The header fits (`Token.HeaderFits`), the key set has a certificate for the identifier in it
(`KeySet.Publishes`), the certificate has a key on the curve of the algorithm
(`Certificate.Certifies`), the signature holds under that key for the text before the last dot, and
the payload in that same text admits the token at the time of the clock (`AdmittedAt`) and has the
verdict. None of the conditions speaks of the order in which they are checked.
-/

set_option autoImplicit false

namespace MeshAttest

open Outcome

/-! ### The certificate of a key set -/

namespace KeySet

theorem hasId_eq_true_iff {keyId : RawText} {key : Json} :
    hasId keyId key = true ↔
      ∃ entries, key = .object entries ∧
        Json.lookup? "kid" entries = some (.ofRawText keyId) := by
  unfold hasId
  cases key with
  | object entries =>
    simp only [Json.get?, Json.object.injEq, exists_eq_left']
    split
    · next value hvalue => simp [hvalue, Json.rawText?_eq_some_iff]
    · next hnone => simp [hnone]
  | _ => simp [Json.get?]

/-- A list of keys that is not empty comes from an object that has it. -/
theorem keys_eq_iff {keySet : Json} {items : List Json} (hne : items ≠ []) :
    keys keySet = items ↔
      ∃ entries, keySet = .object entries ∧
        Json.lookup? "keys" entries = some (.array items) := by
  unfold keys
  cases keySet with
  | object entries =>
    simp only [Json.get?, Json.object.injEq, exists_eq_left']
    split
    · next others hothers => simp [hothers]
    · next hnotArray => simpa [hne.symm] using hnotArray items
  | _ => simp [Json.get?, hne.symm]

/-- The first of the keys that have an identifier is found. -/
theorem find?_eq_some_iff {keySet key : Json} {keyId : RawText} :
    find? keySet keyId = some key ↔
      ∃ entries before object after, keySet = .object entries ∧ key = .object object ∧
        Json.lookup? "keys" entries = some (.array (before ++ .object object :: after)) ∧
        Json.lookup? "kid" object = some (.ofRawText keyId) ∧
        ∀ other, .object other ∈ before →
          Json.lookup? "kid" other ≠ some (.ofRawText keyId) := by
  rw [find?, List.find?_eq_some_iff_append, hasId_eq_true_iff]
  constructor
  · rintro ⟨⟨object, rfl, hkeyId⟩, before, after, hkeys, hbefore⟩
    obtain ⟨entries, rfl, hlist⟩ := (keys_eq_iff (by simp)).mp hkeys
    refine ⟨entries, before, object, after, rfl, rfl, hlist, hkeyId, ?_⟩
    intro other hother hsame
    have hfound := hasId_eq_true_iff.mpr ⟨other, rfl, hsame⟩
    have hmissed := hbefore _ hother
    rw [hfound] at hmissed
    cases hmissed
  · rintro ⟨entries, before, object, after, rfl, rfl, hlist, hkeyId, hbefore⟩
    refine ⟨⟨object, rfl, hkeyId⟩, before, after, (keys_eq_iff (by simp)).mpr ⟨entries, rfl, hlist⟩,
      ?_⟩
    intro key hkey
    rw [Bool.not_eq_eq_eq_not, Bool.not_true, Bool.eq_false_iff]
    intro hfound
    obtain ⟨other, rfl, hsame⟩ := hasId_eq_true_iff.mp hfound
    exact hbefore other hkey hsame

/-- The certificate of a key is the first one of its chain, and it is text in base64. -/
theorem leafCertificate_eq_ok_iff {key : Json} {certificate : Bytes} :
    leafCertificate key = .ok certificate ↔
      ∃ text others, key.get? "x5c" = some (.array (.string text :: others)) ∧
        Base64.decode text = .ok certificate := by
  unfold leafCertificate
  split
  · next text others hchain => simp [hchain, mapError_eq_ok_iff]
  · next value others hchain => simp [hchain]
  · next others hnotText _ hchain =>
    simp only [reduceCtorEq, hchain, Option.some.injEq, Json.array.injEq, false_iff, not_exists,
      not_and]
    intro text more hsame
    exact absurd hsame (hnotText text more)
  · next hnotText _ _ =>
    simp only [reduceCtorEq, false_iff, not_exists, not_and]
    intro text others hchain
    exact absurd hchain (hnotText text others)

/-- The key set has a certificate for an identifier: the first one of the first key that has the
identifier. -/
def Publishes (keySet : Json) (keyId : RawText) (certificate : Bytes) : Prop :=
  ∃ entries before key after text others,
    keySet = .object entries ∧
      Json.lookup? "keys" entries = some (.array (before ++ .object key :: after)) ∧
      Json.lookup? "kid" key = some (.ofRawText keyId) ∧
      (∀ other, .object other ∈ before → Json.lookup? "kid" other ≠ some (.ofRawText keyId)) ∧
      Json.lookup? "x5c" key = some (.array (.string text :: others)) ∧
      Base64.decode text = .ok certificate

/-- The certificate for an identifier is that of the key that is found for it. -/
theorem publishes_iff {keySet : Json} {keyId : RawText} {certificate : Bytes} :
    Publishes keySet keyId certificate ↔
      ∃ key, find? keySet keyId = some key ∧ leafCertificate key = .ok certificate := by
  constructor
  · rintro ⟨entries, before, key, after, text, others, rfl, hlist, hkeyId, hbefore, hchain, htext⟩
    exact ⟨.object key,
      find?_eq_some_iff.mpr ⟨entries, before, key, after, rfl, rfl, hlist, hkeyId, hbefore⟩,
      leafCertificate_eq_ok_iff.mpr ⟨text, others, hchain, htext⟩⟩
  · rintro ⟨_, hfind, hleaf⟩
    obtain ⟨entries, before, key, after, rfl, rfl, hlist, hkeyId, hbefore⟩ :=
      find?_eq_some_iff.mp hfind
    obtain ⟨text, others, hchain, htext⟩ := leafCertificate_eq_ok_iff.mp hleaf
    exact ⟨entries, before, key, after, text, others, rfl, hlist, hkeyId, hbefore, hchain, htext⟩

end KeySet

theorem PublicKeyInfo.other_ne_point {kind : String} {isRight : Bool} {curve : Curve}
    {point : Point} : other kind isRight ≠ .ok (.point curve point) := by
  unfold other
  split
  · simp
  · simp

/-- The point of a key that can be read lies on the curve of the key. -/
theorem PublicKeyInfo.contains_of_publicKey {info : PublicKeyInfo} {curve : Curve} {point : Point}
    (hprime : 0 < curve.prime) (h : info.publicKey = .ok (.point curve point)) :
    curve.contains point := by
  unfold publicKey at h
  split at h
  · cases h
  · unfold keyOfOctets at h
    split at h
    · split at h
      · cases h
      · split at h
        · cases h
        · next hpoint =>
          cases h
          exact Curve.contains_of_decodePoint? hprime hpoint
    · exact absurd h other_ne_point
    · exact absurd h other_ne_point
    · exact absurd h other_ne_point
    · exact absurd h other_ne_point
    · cases h

/-- The octets are a certificate of version one or three with a key on the curve of the
algorithm. -/
structure Certificate.Certifies (octets : Bytes) (key : Point) : Prop where
  read : ∃ certificate, ofOctets? octets = some certificate ∧
    (certificate.version = 0 ∨ certificate.version = 2) ∧
    certificate.publicKey.publicKey = .ok (.point Curve.secp384r1 key)
  contains : Curve.secp384r1.contains key

theorem Certificate.verificationKey_eq_ok_iff_exists {octets : Bytes} {key : Point} :
    verificationKey octets = .ok key ↔
      ∃ certificate, ofOctets? octets = some certificate ∧
        (certificate.version = 0 ∨ certificate.version = 2) ∧
        certificate.publicKey.publicKey = .ok (.point Curve.secp384r1 key) := by
  unfold verificationKey
  split
  · next hnone => simp [hnone]
  · next certificate hcertificate =>
    simp only [hcertificate, Option.some.injEq, exists_eq_left']
    by_cases hversion : certificate.version = 0 ∨ certificate.version = 2
    · rw [if_neg (by rwa [← not_or, not_not])]
      split
      · next fault hfault => simp [hfault]
      · next kind hkind => simp [hkind]
      · next curve point hpoint =>
        by_cases hcurve : curve = Curve.secp384r1
        · simp [hcurve, hpoint, hversion]
        · simp [hcurve, hpoint]
    · rw [if_pos (not_or.mp hversion)]
      simp [hversion]

/-- A certificate gives a key exactly if it certifies this key. -/
theorem Certificate.verificationKey_eq_ok_iff {octets : Bytes} {key : Point} :
    verificationKey octets = .ok key ↔ Certifies octets key := by
  rw [verificationKey_eq_ok_iff_exists]
  constructor
  · rintro ⟨certificate, hcertificate, hversion, hkey⟩
    exact ⟨⟨certificate, hcertificate, hversion, hkey⟩,
      PublicKeyInfo.contains_of_publicKey (by decide) hkey⟩
  · exact fun h ↦ h.read

/-! ### The claims of a payload -/

/-- A claim on time passes if it is absent, or if it can be converted to an integer that admits the
clock. -/
theorem TimeClaim.check_eq_ok_iff {claim : TimeClaim} {now : Int} {payload : List (String × Json)}
    {done : Unit} :
    claim.check now payload = .ok done ↔
      ∀ value, Json.lookup? claim.key payload = some value →
        ∃ moment, value.integerOf? = some moment ∧ claim.admits moment now := by
  unfold TimeClaim.check
  split
  · next hnone => simp [hnone]
  · next value hvalue =>
    simp only [hvalue, Option.some.injEq, forall_eq']
    split
    · next hnone => simp [hnone]
    · next moment hmoment => simp [hmoment]

/-- A claim that has to be text passes if it is absent or any string. -/
theorem checkText_eq_ok_iff {key : String} {flaw : TokenFlaw} {payload : List (String × Json)}
    {done : Unit} :
    checkText key flaw payload = .ok done ↔
      ∀ value, Json.lookup? key payload = some value → ∃ text, value = .ofRawText text := by
  unfold checkText
  split
  · next hnone => simp [hnone]
  · next value hvalue => simp [hvalue, ← Json.isString_iff]

/-- The claims of a payload admit the token at the time of the clock: it has been issued and has
become valid by then, and expires later. Claims that are absent admit it at any time. -/
structure AdmittedAt (now : Int) (payload : List (String × Json)) : Prop where
  issued : ∀ value, Json.lookup? "iat" payload = some value →
    ∃ moment, value.integerOf? = some moment ∧ moment ≤ now
  begun : ∀ value, Json.lookup? "nbf" payload = some value →
    ∃ moment, value.integerOf? = some moment ∧ moment ≤ now
  unexpired : ∀ value, Json.lookup? "exp" payload = some value →
    ∃ moment, value.integerOf? = some moment ∧ now < moment
  subject : ∀ value, Json.lookup? "sub" payload = some value → ∃ text, value = .ofRawText text
  tokenId : ∀ value, Json.lookup? "jti" payload = some value → ∃ text, value = .ofRawText text

/-- The registered claims pass exactly if they admit the token at the time of the clock. -/
theorem checkRegistered_eq_ok_iff {now : Int} {payload : List (String × Json)} {done : Unit} :
    checkRegistered now payload = .ok done ↔ AdmittedAt now payload := by
  rw [checkRegistered]
  simp only [bind_eq_ok_iff, TimeClaim.check_eq_ok_iff, checkText_eq_ok_iff, TimeClaim.key,
    TimeClaim.admits, decide_eq_true_eq]
  constructor
  · rintro ⟨-, hissued, -, hbegun, -, hunexpired, -, hsubject, htokenId⟩
    exact ⟨hissued, hbegun, hunexpired, hsubject, htokenId⟩
  · rintro ⟨hissued, hbegun, hunexpired, hsubject, htokenId⟩
    exact ⟨(), hissued, (), hbegun, (), hunexpired, (), hsubject, htokenId⟩

/-- The claims of a payload are its verdict, which has to be a truth value, and all of its other
entries. -/
theorem Claims.ofPayload_eq_ok_iff {payload : List (String × Json)} {claims : Claims} :
    Claims.ofPayload payload = .ok claims ↔
      Json.lookup? verdictKey payload = some (.bool claims.verdict) ∧
        claims.additional = payload.filter fun entry ↦ entry.1 ≠ verdictKey := by
  obtain ⟨verdict, additional⟩ := claims
  unfold Claims.ofPayload
  split
  · next hnone => simp [hnone]
  · next other hother =>
    simp [hother, eq_comm]
  · next value hnotBool hvalue =>
    simp only [reduceCtorEq, hvalue, Option.some.injEq, false_iff, not_and]
    intro hbool
    exact absurd hbool (hnotBool verdict)

/-! ### Tokens -/

namespace Token

variable {header payload : List (String × Json)} {token : RawText} {text : String} {now : Int}
  {keySet : Json}

/-- A header passes if it does not detach the payload and names the one algorithm that is
admitted. -/
theorem checkHeader_eq_ok_iff {done : Unit} :
    checkHeader header = .ok done ↔
      Json.lookup? "b64" header ≠ some (.bool false) ∧
        Json.lookup? "alg" header = some (.string "ES384") := by
  rw [← TokenParts.isDetached_eq_false_iff]
  unfold checkHeader
  split
  · next hdetached =>
    simp only [hdetached, Bool.true_eq_false, false_and, iff_false]
    split
    · simp
    · simp
  · next hattached =>
    simp only [hattached, true_and]
    split
    · next hnone => simp [hnone]
    · next name hname =>
      by_cases hsame : name = "ES384"
      · simp [hsame, hname, algorithm]
      · simp [hsame, hname, algorithm]
    · next value hnotString hvalue =>
      simp only [reduceCtorEq, hvalue, Option.some.injEq, false_iff]
      exact hnotString "ES384"

/-- The identifier of a key in a header. -/
def keyIdIn (header : List (String × Json)) : Except TokenFault RawText :=
  match (Json.lookup? "kid" header).bind Json.rawText? with
  | some name => if name = .text "" then .error .keyIdAbsent else return name
  | none => .error .keyIdAbsent

/-- A header names a key exactly if it has a string that is not empty for it. -/
theorem keyIdIn_eq_ok_iff {name : RawText} :
    keyIdIn header = .ok name ↔
      Json.lookup? "kid" header = some (.ofRawText name) ∧ name ≠ .text "" := by
  have hfound : Json.lookup? "kid" header = some (.ofRawText name) ↔
      (Json.lookup? "kid" header).bind Json.rawText? = some name := by
    simp [Option.bind_eq_some_iff, Json.rawText?_eq_some_iff]
  rw [hfound]
  unfold keyIdIn
  split
  · next other hother =>
    rw [hother, Option.some.injEq]
    by_cases hempty : other = .text ""
    · subst hempty
      simp [eq_comm]
    · rw [if_neg hempty, pure_eq_ok_iff]
      constructor
      · rintro rfl
        exact ⟨rfl, hempty⟩
      · exact fun h ↦ h.1
  · next hnone => simp [hnone]

theorem keyId_eq (token : RawText) :
    keyId token = (do
      let text ← textOf token
      let parts ← (TokenParts.ofText text).mapError .unreadable
      keyIdIn parts.header) := rfl

/-- The identifier of a key is taken from the header of a token whose parts can be read. -/
theorem keyId_text_eq_ok_iff {name : RawText} :
    keyId (.text text) = .ok name ↔
      ∃ parts, TokenParts.ofText text = .ok parts ∧
        Json.lookup? "kid" parts.header = some (.ofRawText name) ∧ name ≠ .text "" := by
  rw [keyId_eq, textOf, ok_bind]
  simp only [bind_eq_ok_iff, mapError_eq_ok_iff, keyIdIn_eq_ok_iff]

/-- The certificate that a key set has for an identifier. -/
def certificateFor (keySet : Json) (keyId : RawText) : Except TokenFault Bytes :=
  match KeySet.find? keySet keyId with
  | none => .error (.keyNotFound keyId)
  | some key => KeySet.leafCertificate key

/-- A certificate is found exactly if the key set publishes it for the identifier. -/
theorem certificateFor_eq_ok_iff {name : RawText} {octets : Bytes} :
    certificateFor keySet name = .ok octets ↔ KeySet.Publishes keySet name octets := by
  rw [KeySet.publishes_iff]
  unfold certificateFor
  split
  · next hnone => simp [hnone]
  · next key hkey => simp [hkey]

theorem certificate_eq (token : RawText) (keySet : Json) :
    certificate token keySet = keyId token >>= certificateFor keySet := rfl

/-- The certificate for a token is the one that the key set publishes for the identifier in the
token. -/
theorem certificate_eq_ok_iff {octets : Bytes} :
    certificate token keySet = .ok octets ↔
      ∃ name, keyId token = .ok name ∧ KeySet.Publishes keySet name octets := by
  simp only [certificate_eq, bind_eq_ok_iff, certificateFor_eq_ok_iff]

/-- A token is authentic if its header passes and its signature holds for what is in front of its
last dot. -/
theorem authenticate_eq_ok_iff {key : Point} {parts : TokenParts} :
    authenticate key (.text text) = .ok parts ↔
      TokenParts.ofText text = .ok parts ∧ checkHeader parts.header = .ok () ∧
        Es384.verify key parts.signed parts.signature := by
  rw [authenticate, textOf, ok_bind]
  simp only [bind_eq_ok_iff, mapError_eq_ok_iff]
  constructor
  · rintro ⟨other, hparts, _, hheader, h⟩
    split at h
    · next hverified =>
      cases h
      exact ⟨hparts, hheader, hverified⟩
    · cases h
  · rintro ⟨hparts, hheader, hverified⟩
    refine ⟨parts, hparts, (), hheader, ?_⟩
    rw [if_pos hverified]
    rfl

/-- The payload of an authentic token has to be an object. -/
theorem payload_eq_ok_iff {key : Point} :
    Token.payload key token = .ok payload ↔
      ∃ parts, authenticate key token = .ok parts ∧
        Json.parseOctets parts.payload = .ok (.object payload) := by
  unfold Token.payload
  simp only [bind_eq_ok_iff, mapError_eq_ok_iff, TokenParts.readObject_eq_ok_iff]

/-- A token is accepted under a certificate exactly if it is authentic under the certified key, its
payload admits it at the time of the clock, and the payload has a verdict. -/
theorem verify_eq_ok_iff {octets : Bytes} {claims : Claims} :
    verify now token octets = .ok claims ↔
      ∃ key payload, Certificate.Certifies octets key ∧ Token.payload key token = .ok payload ∧
        AdmittedAt now payload ∧ Claims.ofPayload payload = .ok claims := by
  unfold verify
  simp only [bind_eq_ok_iff, mapError_eq_ok_iff, Certificate.verificationKey_eq_ok_iff,
    checkRegistered_eq_ok_iff]
  constructor
  · rintro ⟨key, hkey, payload, hpayload, -, hadmitted, hclaims⟩
    exact ⟨key, payload, hkey, hpayload, hadmitted, hclaims⟩
  · rintro ⟨key, payload, hkey, hpayload, hadmitted, hclaims⟩
    exact ⟨key, hkey, payload, hpayload, (), hadmitted, hclaims⟩

/-- A header names the algorithm and a key, and does not detach the payload. -/
structure HeaderFits (header : List (String × Json)) (name : RawText) : Prop where
  algorithm : Json.lookup? "alg" header = some (.string "ES384")
  keyId : Json.lookup? "kid" header = some (.ofRawText name)
  keyId_ne : name ≠ .text ""
  attached : Json.lookup? "b64" header ≠ some (.bool false)
  critical : TokenParts.KnowsCritical header

/-- The payload is read from the segment that the signature covers. -/
theorem exists_written_iff (parts : TokenParts) {name : RawText} :
    (TokenParts.ofText text = .ok parts ∧ checkHeader parts.header = .ok () ∧
        Json.lookup? "kid" parts.header = some (.ofRawText name) ∧ name ≠ .text "" ∧
        Json.parseOctets parts.payload = .ok (.object payload)) ↔
      ∃ segments : CompactToken, segments.Spells text.toList ∧
        TokenParts.Encodes segments.header parts.header ∧ HeaderFits parts.header name ∧
        Base64.decodeSegment? segments.payload = some parts.payload ∧
        Json.parseOctets parts.payload = .ok (.object payload) ∧
        Base64.decodeSegment? segments.signature = some parts.signature ∧
        parts.signed = segments.signedOctets := by
  rw [TokenParts.ofText_eq_ok_iff, checkHeader_eq_ok_iff]
  have hread : ∀ segments : CompactToken, Json.lookup? "b64" parts.header ≠ some (.bool false) →
      (TokenParts.readPayload parts.header segments.payload = .ok parts.payload ↔
        Base64.decodeSegment? segments.payload = some parts.payload) := by
    intro segments hattached
    rw [TokenParts.readPayload, TokenParts.isDetached_eq_false_iff.mpr hattached,
      if_neg Bool.false_ne_true, TokenParts.readSegment_eq_ok_iff]
  constructor
  · rintro ⟨⟨segments, h⟩, ⟨hattached, halgorithm⟩, hname, hne, hpayload⟩
    exact ⟨segments, h.spells, h.header, ⟨halgorithm, hname, hne, hattached, h.critical⟩,
      (hread segments hattached).mp h.payload, hpayload, h.signature, h.signed⟩
  · rintro ⟨segments, hspells, hheader, hfits, hoctets, hpayload, hsignature, hsigned⟩
    refine ⟨⟨segments, hspells, hheader, (hread segments hfits.attached).mpr hoctets, hsignature,
      fun value hvalue ↦ ⟨name, ?_⟩, hfits.critical, hsigned⟩, ⟨hfits.attached, hfits.algorithm⟩,
      hfits.keyId, hfits.keyId_ne, hpayload⟩
    exact Option.some.inj (hvalue.symm.trans hfits.keyId)

/-- A token is accepted under a key set exactly when its signature holds under the key that the key
set has for its header, and its payload is valid at the time of the clock and has a verdict. The
claims are those of the payload that has been signed. -/
theorem verifyWith_eq_ok_iff (now : Int) (token : RawText) (keySet : Json) (claims : Claims) :
    verifyWith now token keySet = .ok claims ↔
      ∃ (text : String) (segments : CompactToken) (header payload : List (String × Json))
        (signature certificate : Bytes) (keyId : RawText) (key : Point),
        token = .text text ∧ segments.Spells text.toList ∧
        TokenParts.Encodes segments.header header ∧ HeaderFits header keyId ∧
        KeySet.Publishes keySet keyId certificate ∧ Certificate.Certifies certificate key ∧
        Base64.decodeSegment? segments.signature = some signature ∧
        Es384.verify key
          ((segments.header ++ '.' :: segments.payload).flatMap String.utf8EncodeChar)
          signature ∧
        TokenParts.Encodes segments.payload payload ∧ AdmittedAt now payload ∧
        Json.lookup? verdictKey payload = some (.bool claims.verdict) ∧
        claims.additional = payload.filter fun entry ↦ entry.1 ≠ verdictKey := by
  cases token with
  | halved value =>
    simp only [reduceCtorEq, false_and, exists_false, iff_false]
    rintro ⟨⟩
  | text text =>
    unfold verifyWith
    simp only [bind_eq_ok_iff, certificate_eq_ok_iff, keyId_text_eq_ok_iff, verify_eq_ok_iff,
      payload_eq_ok_iff, authenticate_eq_ok_iff, ← Claims.ofPayload_eq_ok_iff]
    constructor
    · rintro ⟨certificate, ⟨name, ⟨parts, hparts, hname, hne⟩, hpublished⟩, key, payload, hkey,
        ⟨other, ⟨hother, hheader, hverified⟩, hpayload⟩, hadmitted, hclaims⟩
      cases hparts.symm.trans hother
      obtain ⟨segments, hspells, hencoded, hfits, hoctets, hobject, hsignature, hsigned⟩ :=
        (exists_written_iff parts).mp ⟨hparts, hheader, hname, hne, hpayload⟩
      refine ⟨text, segments, parts.header, payload, parts.signature, certificate, name, key, rfl,
        hspells, hencoded, hfits, hpublished, hkey, hsignature, ?_,
        ⟨parts.payload, hoctets, hobject⟩, hadmitted, hclaims⟩
      rw [hsigned] at hverified
      exact hverified
    · rintro ⟨_, segments, header, payload, signature, certificate, name, key, hsame, hspells,
        hencoded, hfits, hpublished, hkey, hsignature, hverified, ⟨octets, hoctets, hobject⟩,
        hadmitted, hclaims⟩
      obtain rfl := RawText.text.inj hsame
      obtain ⟨hparts, hheader, hname, hne, hpayload⟩ :=
        (exists_written_iff ⟨header, octets, signature, segments.signedOctets⟩).mpr
          ⟨segments, hspells, hencoded, hfits, hoctets, hobject, hsignature, rfl⟩
      exact ⟨certificate, ⟨name, ⟨_, hparts, hname, hne⟩, hpublished⟩, key, payload, hkey,
        ⟨_, ⟨hparts, hheader, hverified⟩, hpayload⟩, hadmitted, hclaims⟩

end Token

end MeshAttest
