import MeshAttest.Failure
import MeshAttest.Proofs.Token.FirstKey
import MeshAttest.Verifier.Response

/-!
# What a token is refused with

A token that is not accepted is refused with an error of one of four kinds (`Refusal`), which are
all that a caller is told to expect. There are two gaps (`Token.Escapes`). A certificate may have an
unknown version, or a key that cannot be read, and such a fault is of none of the kinds. Nor is that
of a token which is no text, so that it cannot be encoded. `Token.verifyWith_refused_iff` shows that
these are the only gaps. Whatever the token and the key set hold otherwise, the outcome is either
claims or an error of one of the kinds.
-/

set_option autoImplicit false

namespace MeshAttest

open Outcome

/-! ### Kinds of errors -/

/-- The kinds of errors that the verification of a result has. -/
inductive Refusal where
  /-- The token or what is needed to judge it is not right. -/
  | invalidToken
  | certificate
  | signature
  | claims
deriving DecidableEq, Repr

/-- The kind of error that a fault is, if it is one of those for results. -/
def CertificateFault.refusal? : CertificateFault → Option Refusal
  | .malformed | .keyType _ | .curve _ => some .certificate
  | .version _ | .unsupportedAlgorithm | .invalidKey => none

/-- The kind of error that a fault is, if it is one of those for results. -/
def TokenFault.refusal? : TokenFault → Option Refusal
  | .encoding _ => none
  | .unreadable _ | .keyIdAbsent | .keyNotFound _ | .chainAbsent | .leafAbsent | .invalid _ =>
    some .invalidToken
  | .leafEncoding _ => some .certificate
  | .certificate fault => fault.refusal?
  | .signature => some .signature
  | .verdictAbsent | .verdictKind _ => some .claims

/-- The kind of error that a fault is, if it is one of those for results. -/
def KeySet.LocationFault.refusal? : KeySet.LocationFault → Option Refusal
  | .port _ _ | .incomplete _ => some .invalidToken
  | .url _ => none

/-- The kind of error that a failure is, if it is one of those for results. -/
def Failure.refusal? : Failure → Option Refusal
  | .token fault => fault.refusal?
  | .location fault => fault.refusal?
  | .response _ => some .invalidToken
  | _ => none

/-- Errors for results are failures of the attestation, and a fault of a token that is none of them
is not one either. -/
theorem Failure.isOfAttestation_token (fault : TokenFault) :
    (Failure.token fault).isOfAttestation = fault.refusal?.isSome := by
  cases fault with
  | certificate cause => cases cause <;> rfl
  | _ => rfl

/-- The faults of a location that belong to attestation are those that have a kind. -/
theorem Failure.isOfAttestation_location (fault : KeySet.LocationFault) :
    (Failure.location fault).isOfAttestation = fault.refusal?.isSome := by
  cases fault <;> rfl

/-! ### Certificates with an unexpected form -/

/-- That a key cannot be read is a fault of none of the kinds. -/
theorem PublicKeyInfo.refusal?_of_publicKey {info : PublicKeyInfo} {fault : CertificateFault}
    (h : info.publicKey = .error fault) : fault.refusal? = none := by
  have hother {kind : String} {isRight : Bool} (h : other kind isRight = .error fault) :
      fault.refusal? = none := by
    unfold other at h
    split at h
    · cases h
    · cases h
      rfl
  unfold publicKey at h
  split at h
  · cases h
    rfl
  · unfold keyOfOctets at h
    split at h
    · split at h
      · cases h
        rfl
      · split at h
        · cases h
          rfl
        · cases h
    · exact hother h
    · exact hother h
    · exact hother h
    · exact hother h
    · cases h
      rfl

namespace Certificate

/-- The octets are a certificate, but its version is unknown or its key cannot be read, for the
fault given. -/
inductive Unexpected (octets : Bytes) : CertificateFault → Prop
  | version {certificate : Certificate} (h : ofOctets? octets = some certificate)
    (hversion : certificate.version ≠ 0 ∧ certificate.version ≠ 2) :
    Unexpected octets (.version certificate.version)
  | key {certificate : Certificate} {fault : CertificateFault}
    (h : ofOctets? octets = some certificate)
    (hversion : certificate.version = 0 ∨ certificate.version = 2)
    (hkey : certificate.publicKey.publicKey = .error fault) : Unexpected octets fault

/-- A certificate is refused with a fault of none of the kinds exactly if it has an unexpected
form. -/
theorem verificationKey_eq_error_iff_unexpected {octets : Bytes} {fault : CertificateFault} :
    verificationKey octets = .error fault ∧ fault.refusal? = none ↔ Unexpected octets fault := by
  constructor
  · rintro ⟨h, hnone⟩
    unfold verificationKey at h
    split at h
    · cases h
      cases hnone
    · next certificate hcertificate =>
      split at h
      · next hversion =>
        cases h
        exact .version hcertificate hversion
      · next hversion =>
        rw [← not_or, not_not] at hversion
        split at h
        · next hkey =>
          cases h
          exact .key hcertificate hversion hkey
        · cases h
          cases hnone
        · split at h
          · cases h
          · cases h
            cases hnone
  · rintro (⟨hcertificate, hversion⟩ | ⟨hcertificate, hversion, hkey⟩)
    · refine ⟨?_, rfl⟩
      rw [verificationKey, hcertificate]
      exact if_pos hversion
    · refine ⟨?_, PublicKeyInfo.refusal?_of_publicKey hkey⟩
      rw [verificationKey, hcertificate]
      simp only [hkey]
      exact if_neg (not_and_or.mpr (hversion.imp not_not.mpr not_not.mpr))

end Certificate

/-! ### Tokens -/

namespace Token

variable {now : Int} {token keyId : RawText} {text : String} {keySet : Json} {key : Point}
  {fault : TokenFault} {cause : CertificateFault} {octets : Bytes}

/-! Each step of the verification of a text fails with an error of one of the kinds, but for the one
that reads the certificate. -/

theorem exists_refusal_of_keyId (h : Token.keyId (.text text) = .error fault) :
    ∃ refusal, fault.refusal? = some refusal := by
  rw [keyId_eq, textOf, ok_bind] at h
  rcases bind_eq_error_iff.mp h with h | ⟨parts, -, h⟩
  · obtain ⟨flaw, -, rfl⟩ := mapError_eq_error_iff.mp h
    exact ⟨_, rfl⟩
  · unfold keyIdIn at h
    split at h
    · split at h
      · cases h
        exact ⟨_, rfl⟩
      · cases h
    · cases h
      exact ⟨_, rfl⟩

/-- A certificate that is not found is refused with one of the kinds. -/
theorem exists_refusal_of_certificateFor (h : certificateFor keySet keyId = .error fault) :
    ∃ refusal, fault.refusal? = some refusal := by
  unfold certificateFor at h
  split at h
  · cases h
    exact ⟨_, rfl⟩
  · unfold KeySet.leafCertificate at h
    split at h
    · obtain ⟨other, -, rfl⟩ := mapError_eq_error_iff.mp h
      exact ⟨_, rfl⟩
    · cases h
      exact ⟨_, rfl⟩
    · cases h
      exact ⟨_, rfl⟩
    · cases h
      exact ⟨_, rfl⟩

/-- A text that is not authentic, or whose payload is no object, is refused with one of the
kinds. -/
theorem exists_refusal_of_payload (h : Token.payload key (.text text) = .error fault) :
    ∃ refusal, fault.refusal? = some refusal := by
  rw [Token.payload, authenticate, textOf, ok_bind] at h
  simp only [bind_eq_error_iff, mapError_eq_error_iff] at h
  rcases h with (⟨flaw, -, rfl⟩ | ⟨parts, -, ⟨flaw, -, rfl⟩ | ⟨_, -, h⟩⟩) | ⟨parts, -, flaw, -, rfl⟩
  · exact ⟨_, rfl⟩
  · exact ⟨_, rfl⟩
  · split at h
    · cases h
    · cases h
      exact ⟨_, rfl⟩
  · exact ⟨_, rfl⟩

theorem exists_refusal_of_ofPayload {payload : List (String × Json)}
    (h : Claims.ofPayload payload = .error fault) : ∃ refusal, fault.refusal? = some refusal := by
  unfold Claims.ofPayload at h
  split at h
  · cases h
    exact ⟨_, rfl⟩
  · cases h
  · cases h
    exact ⟨_, rfl⟩

/-- A certificate without a key of use is the fault, whatever the token is. -/
theorem verify_eq_of_verificationKey (h : Certificate.verificationKey octets = .error cause) :
    verify now token octets = .error (.certificate cause) := by
  rw [verify, h]
  rfl

/-- A fault of none of the kinds is that of the certificate. -/
theorem exists_cause_of_verify (h : verify now (.text text) octets = .error fault)
    (hnone : fault.refusal? = none) :
    ∃ cause, fault = .certificate cause ∧ Certificate.verificationKey octets = .error cause := by
  have hall : ¬ ∃ refusal, fault.refusal? = some refusal := by simp [hnone]
  simp only [verify, bind_eq_error_iff, mapError_eq_error_iff] at h
  rcases h with ⟨cause, hcause, rfl⟩ | ⟨key, -, h | ⟨payload, -, ⟨flaw, -, rfl⟩ | ⟨_, -, h⟩⟩⟩
  · exact ⟨cause, rfl, hcause⟩
  · exact absurd (exists_refusal_of_payload h) hall
  · exact absurd ⟨_, rfl⟩ hall
  · exact absurd (exists_refusal_of_ofPayload h) hall

/-- A string with half of a surrogate pair is refused before anything else is looked at, even the
key set. -/
theorem verifyWith_halved (now : Int) (value : HalvedText) (keySet : Json) :
    verifyWith now (.halved value) keySet = .error (.encoding value) := rfl

/-- The key set has a certificate of an unexpected form for a token. -/
def MeetsUnexpected (token : RawText) (keySet : Json) (cause : CertificateFault) : Prop :=
  ∃ keyId octets, Token.keyId token = .ok keyId ∧ KeySet.Publishes keySet keyId octets ∧
    Certificate.Unexpected octets cause

/-- The faults of none of the kinds that a token can meet under a key set. -/
inductive Escapes : RawText → Json → TokenFault → Prop
  /-- The token is no text. -/
  | encoding (value : HalvedText) (keySet : Json) :
    Escapes (.halved value) keySet (.encoding value)
  /-- The certificate for the token has an unexpected form. -/
  | certificate {token : RawText} {keySet : Json} {cause : CertificateFault}
    (h : MeetsUnexpected token keySet cause) : Escapes token keySet (.certificate cause)

/-- A certificate of an unexpected form is the fault of the verification, which is then of none of
the kinds. -/
theorem MeetsUnexpected.verifyWith_eq (h : MeetsUnexpected token keySet cause) :
    verifyWith now token keySet = .error (.certificate cause) ∧ cause.refusal? = none := by
  obtain ⟨keyId, octets, hkeyId, hpublished, hcause⟩ := h
  obtain ⟨hfault, hnone⟩ := Certificate.verificationKey_eq_error_iff_unexpected.mpr hcause
  refine ⟨?_, hnone⟩
  rw [verifyWith, certificate_eq_ok_iff.mpr ⟨keyId, hkeyId, hpublished⟩, ok_bind,
    verify_eq_of_verificationKey hfault]

/-- A fault of none of the kinds is that of a string which is no text, or that of a certificate of
an unexpected form. -/
theorem escapes_of_verifyWith (h : verifyWith now token keySet = .error fault)
    (hnone : fault.refusal? = none) : Escapes token keySet fault := by
  cases token with
  | halved value =>
    cases h
    exact .encoding value keySet
  | text text =>
    -- The steps before the certificate fail with one of the kinds only, so that it has been found.
    have hall : ¬ ∃ refusal, fault.refusal? = some refusal := by simp [hnone]
    rcases bind_eq_error_iff.mp h with h | ⟨octets, hoctets, h⟩
    · rw [certificate_eq] at h
      rcases bind_eq_error_iff.mp h with h | ⟨keyId, -, h⟩
      · exact absurd (exists_refusal_of_keyId h) hall
      · exact absurd (exists_refusal_of_certificateFor h) hall
    · obtain ⟨keyId, hkeyId, hpublished⟩ := certificate_eq_ok_iff.mp hoctets
      obtain ⟨cause, rfl, hcause⟩ := exists_cause_of_verify h hnone
      exact .certificate ⟨keyId, octets, hkeyId, hpublished,
        Certificate.verificationKey_eq_error_iff_unexpected.mp ⟨hcause, hnone⟩⟩

/-- The faults of none of the kinds are those that `Escapes` tells, and all of them occur. -/
theorem unrefused_iff :
    verifyWith now token keySet = .error fault ∧ fault.refusal? = none ↔
      Escapes token keySet fault := by
  constructor
  · rintro ⟨h, hnone⟩
    exact escapes_of_verifyWith h hnone
  · rintro (⟨value, keySet⟩ | h)
    · exact ⟨verifyWith_halved now value keySet, rfl⟩
    · exact h.verifyWith_eq

/-- The outcome for a token is either claims or an error of one of the kinds for results, unless the
token is no text, or the certificate for it has an unexpected form. Then the outcome is the fault of
the encoding or that of the certificate, which are of none of the kinds. -/
theorem verifyWith_refused_iff (now : Int) (token : RawText) (keySet : Json) :
    (((∃ claims, verifyWith now token keySet = .ok claims) ∨
        ∃ fault refusal, verifyWith now token keySet = .error fault ∧
          fault.refusal? = some refusal) ↔
      ∀ fault, ¬ Escapes token keySet fault) ∧
    ∀ fault, verifyWith now token keySet = .error fault ∧ fault.refusal? = none ↔
      Escapes token keySet fault := by
  refine ⟨⟨?_, ?_⟩, fun fault ↦ unrefused_iff⟩
  · intro h fault hescapes
    obtain ⟨hfault, hnone⟩ : verifyWith now token keySet = .error fault ∧ _ :=
      unrefused_iff.mpr hescapes
    rcases h with ⟨claims, hclaims⟩ | ⟨other, refusal, hother, hsome⟩
    · cases hclaims.symm.trans hfault
    · cases hother.symm.trans hfault
      cases hsome.symm.trans hnone
  · intro h
    cases hfault : verifyWith now token keySet with
    | ok claims => exact .inl ⟨claims, rfl⟩
    | error fault =>
      cases hrefusal : fault.refusal? with
      | some refusal => exact .inr ⟨fault, refusal, rfl, hrefusal⟩
      | none => exact absurd (unrefused_iff.mp ⟨hfault, hrefusal⟩) (h fault)

/-! ### What a token is not refused for as it should be -/

/-- The sample is refused for any certificate without a key of use. -/
theorem verifyWith_sample_of_error {certificate : Bytes}
    (h : Certificate.verificationKey certificate = .error cause) :
    verifyWith 0 sample.text (KeySet.ofKeys [KeySet.keyWith certificate]) =
      .error (.certificate cause) := by
  rw [verifyWith_eq_verifyUnder sample_keyId (KeySet.ofKeys_selects rfl []), verifyUnder,
    KeySet.leafCertificate_keyWith, ok_bind]
  exact verify_eq_of_verificationKey h

/-- A certificate of version two. -/
def certificateOfVersionTwo : Bytes :=
  Certificate.write [Certificate.writeElement 0xa0 (Certificate.writeElement 0x02 [1])]
    Certificate.curveAlgorithm (Curve.secp384r1.encodePoint Curve.secp384r1.base)

/-- A certificate of a key whose algorithm is unknown. -/
def certificateOfOtherKey : Bytes :=
  Certificate.write [] [Certificate.writeElement 0x06 [42, 3]] [0]

/-- A certificate of a key that is no point. -/
def certificateOfNoPoint : Bytes := Certificate.write [] Certificate.curveAlgorithm [4]

/-- A token that is half of a surrogate pair. -/
def halvedToken : HalvedText := ⟨[.half 0], rfl⟩

/-- Each of these certificates keeps a token from being refused with an error of one of the kinds,
and so does a token that is no text. A reply that is a text can have such a token. -/
theorem exists_unrefused :
    verifyWith 0 sample.text (KeySet.ofKeys [KeySet.keyWith certificateOfVersionTwo]) =
        .error (.certificate (.version 1)) ∧
      verifyWith 0 sample.text (KeySet.ofKeys [KeySet.keyWith certificateOfOtherKey]) =
        .error (.certificate .unsupportedAlgorithm) ∧
      verifyWith 0 sample.text (KeySet.ofKeys [KeySet.keyWith certificateOfNoPoint]) =
        .error (.certificate .invalidKey) ∧
      (Json.parse "[[\"JWT\", \"\\ud800\"]]").map signedResult = .ok (.ok (.halved halvedToken)) ∧
      (∀ now keySet, verifyWith now (.halved halvedToken) keySet =
        .error (.encoding halvedToken)) ∧
      ¬ ∀ now token keySet, (∃ claims, verifyWith now token keySet = .ok claims) ∨
        ∃ fault refusal, verifyWith now token keySet = .error fault ∧
          fault.refusal? = some refusal := by
  have hversion : verifyWith 0 sample.text
      (KeySet.ofKeys [KeySet.keyWith certificateOfVersionTwo]) =
        .error (.certificate (.version 1)) :=
    verifyWith_sample_of_error (by decide +kernel)
  refine ⟨hversion, verifyWith_sample_of_error (by decide +kernel),
    verifyWith_sample_of_error (by decide +kernel), by decide +kernel,
    fun now keySet ↦ verifyWith_halved now halvedToken keySet, fun h ↦ ?_⟩
  rcases h 0 sample.text (KeySet.ofKeys [KeySet.keyWith certificateOfVersionTwo]) with
    ⟨claims, hclaims⟩ | ⟨fault, refusal, hfault, hrefusal⟩
  · cases hclaims.symm.trans hversion
  · cases hfault.symm.trans hversion
    cases hrefusal

end Token

end MeshAttest
