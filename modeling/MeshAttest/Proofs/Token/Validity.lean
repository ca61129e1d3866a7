import MeshAttest.Proofs.Token.Refusals

/-!
# When a token is valid

The clock is compared with what a payload says of the time that its token is valid in, and nothing
else that is done with a token depends on it (`Token.verifyWith_eq_bind`). The times at which the
token is accepted are therefore an interval, with the same claims at all of them, and a token that
is accepted at one time can be refused at another for one reason only, that it is too early or too
late (`Token.verifyWith_clock`).

A claim on time is taken as an integer, whatever it is written as. So it makes no difference that
the clock counts whole seconds.
-/

set_option autoImplicit false

namespace MeshAttest

open Outcome

section Payload

variable {claim : TimeClaim} {payload : List (String × Json)} {time start now finish : Int}
  {flaw : TokenFlaw}

/-- A token is not valid at the time of the clock if this is the moment that a claim names. -/
def TimeClaim.Excludes : TimeClaim → Int → Int → Prop
  | .issuedAt, moment, now | .notBefore, moment, now => now < moment
  | .expiration, moment, now => moment ≤ now

/-- The payload has the claim, and it excludes the time of the clock. -/
def TimeClaim.ExcludesIn (claim : TimeClaim) (payload : List (String × Json)) (now : Int) : Prop :=
  ∃ value moment, Json.lookup? claim.key payload = some value ∧
    value.integerOf? = some moment ∧ claim.Excludes moment now

/-- A claim excludes a time exactly if it does not admit it. -/
theorem TimeClaim.excludes_iff {moment : Int} :
    claim.Excludes moment now ↔ ¬ claim.admits moment now := by
  cases claim <;> simp [Excludes, admits]

theorem TimeClaim.check_ne_ok (h : claim.ExcludesIn payload now) (done : Unit) :
    claim.check now payload ≠ .ok done := by
  obtain ⟨value, moment, hvalue, hmoment, hexcludes⟩ := h
  intro hcheck
  obtain ⟨other, hother, hadmits⟩ := check_eq_ok_iff.mp hcheck value hvalue
  obtain rfl := Option.some.inj (hmoment.symm.trans hother)
  exact excludes_iff.mp hexcludes hadmits

/-- A claim that admits a token at one time is an integer, so that it can only exclude another. -/
theorem TimeClaim.excludesIn_of_check (htime : claim.check time payload = .ok ())
    (h : claim.check now payload = .error flaw) :
    claim.ExcludesIn payload now ∧ flaw = claim.refusal := by
  unfold check at h
  split at h
  · cases h
  · next value hvalue =>
    obtain ⟨moment, hmoment, -⟩ := check_eq_ok_iff.mp htime value hvalue
    simp only [hmoment] at h
    split at h
    · cases h
    · next hnot =>
      obtain rfl := Except.error.inj h
      exact ⟨⟨value, moment, hvalue, hmoment, excludes_iff.mpr hnot⟩, rfl⟩

/-- A payload that admits two times admits every time between them. -/
theorem AdmittedAt.between (hstart : AdmittedAt start payload) (hfinish : AdmittedAt finish payload)
    (hle : start ≤ now) (hge : now ≤ finish) : AdmittedAt now payload where
  issued value hvalue := by
    obtain ⟨moment, hmoment, hissued⟩ := hstart.issued value hvalue
    exact ⟨moment, hmoment, Int.le_trans hissued hle⟩
  begun value hvalue := by
    obtain ⟨moment, hmoment, hbegun⟩ := hstart.begun value hvalue
    exact ⟨moment, hmoment, Int.le_trans hbegun hle⟩
  unexpired value hvalue := by
    obtain ⟨moment, hmoment, hunexpired⟩ := hfinish.unexpired value hvalue
    exact ⟨moment, hmoment, Int.lt_of_le_of_lt hge hunexpired⟩
  subject := hstart.subject
  tokenId := hstart.tokenId

theorem not_admittedAt_of_excludesIn (h : claim.ExcludesIn payload now) :
    ¬ AdmittedAt now payload := by
  intro hadmitted
  have hcheck : checkRegistered now payload = .ok () := checkRegistered_eq_ok_iff.mpr hadmitted
  simp only [checkRegistered, bind_eq_ok_iff] at hcheck
  obtain ⟨_, hissued, _, hbegun, _, hexpiration, -⟩ := hcheck
  cases claim with
  | issuedAt => exact TimeClaim.check_ne_ok h _ hissued
  | notBefore => exact TimeClaim.check_ne_ok h _ hbegun
  | expiration => exact TimeClaim.check_ne_ok h _ hexpiration

/-- If a payload admits some time, then at any other one nothing but a claim on time refuses it. -/
theorem exists_excludesIn_of_checkRegistered (htime : AdmittedAt time payload)
    (h : checkRegistered now payload = .error flaw) :
    ∃ claim : TimeClaim, claim.ExcludesIn payload now ∧ flaw = claim.refusal := by
  have hcheck : checkRegistered time payload = .ok () := checkRegistered_eq_ok_iff.mpr htime
  simp only [checkRegistered, bind_eq_ok_iff] at hcheck
  obtain ⟨_, hissued, _, hbegun, _, hexpiration, _, hsubject, htokenId⟩ := hcheck
  simp only [checkRegistered, hsubject, htokenId, bind_eq_error_iff, reduceCtorEq, and_false,
    exists_false, or_false] at h
  rcases h with h | ⟨-, -, h | ⟨-, -, h⟩⟩
  · exact ⟨_, TimeClaim.excludesIn_of_check hissued h⟩
  · exact ⟨_, TimeClaim.excludesIn_of_check hbegun h⟩
  · exact ⟨_, TimeClaim.excludesIn_of_check hexpiration h⟩

end Payload

namespace Token

variable {token : RawText} {keySet : Json} {payload : List (String × Json)} {claims : Claims}
  {now time : Int} {fault : TokenFault}

/-- The payload of a token whose signature holds under the key that a key set has for it. -/
def signedPayload (token : RawText) (keySet : Json) : Except TokenFault (List (String × Json)) := do
  let certificate ← certificate token keySet
  let key ← (Certificate.verificationKey certificate).mapError .certificate
  Token.payload key token

/-- The claims of a payload at the time of the clock. -/
def claimsAt (now : Int) (payload : List (String × Json)) : Except TokenFault Claims := do
  (checkRegistered now payload).mapError .invalid
  Claims.ofPayload payload

/-- The clock has a part in a verification only once the signature has been found to hold. -/
theorem verifyWith_eq_bind (now : Int) (token : RawText) (keySet : Json) :
    verifyWith now token keySet = signedPayload token keySet >>= claimsAt now := by
  simp only [verifyWith, verify, signedPayload, bind_assoc]
  rfl

/-- A payload has claims at a time exactly if it admits this time and has a verdict. -/
theorem claimsAt_eq_ok_iff :
    claimsAt now payload = .ok claims ↔
      AdmittedAt now payload ∧ Claims.ofPayload payload = .ok claims := by
  simp only [claimsAt, bind_eq_ok_iff, mapError_eq_ok_iff, checkRegistered_eq_ok_iff, exists_const]

/-- An accepted token has a payload that is signed, admits the time of the clock and has a
verdict. -/
theorem exists_signedPayload (h : verifyWith now token keySet = .ok claims) :
    ∃ payload, signedPayload token keySet = .ok payload ∧ AdmittedAt now payload ∧
      Claims.ofPayload payload = .ok claims := by
  simpa only [verifyWith_eq_bind, bind_eq_ok_iff, claimsAt_eq_ok_iff] using h

/-- For a signed payload nothing but the clock is left to decide. -/
theorem verifyWith_eq_claimsAt (h : signedPayload token keySet = .ok payload) :
    verifyWith now token keySet = claimsAt now payload := by
  rw [verifyWith_eq_bind, h, ok_bind]

/-- A payload that has had claims at some time is refused at another one only for a claim that
excludes it. -/
theorem exists_excludesIn_of_claimsAt (htime : AdmittedAt time payload)
    (hclaims : Claims.ofPayload payload = .ok claims)
    (h : claimsAt now payload = .error fault) :
    ∃ claim : TimeClaim, claim.ExcludesIn payload now ∧ fault = .invalid claim.refusal := by
  simp only [claimsAt, hclaims, bind_eq_error_iff, mapError_eq_error_iff, reduceCtorEq, and_false,
    exists_false, or_false] at h
  obtain ⟨flaw, hflaw, rfl⟩ := h
  obtain ⟨claim, hexcludes, rfl⟩ := exists_excludesIn_of_checkRegistered htime hflaw
  exact ⟨claim, hexcludes, rfl⟩

/-- The times at which a token is accepted are an interval, with the same claims at all of them. A
claim of the signed payload that excludes a time keeps it from being accepted then, and nothing else
does at any time, if it is accepted at some. -/
theorem verifyWith_clock (token : RawText) (keySet : Json) :
    (∀ start now finish claims other, start ≤ now → now ≤ finish →
      verifyWith start token keySet = .ok claims → verifyWith finish token keySet = .ok other →
      verifyWith now token keySet = .ok claims) ∧
    (∀ payload claim now, signedPayload token keySet = .ok payload →
      TimeClaim.ExcludesIn claim payload now →
      ∀ claims, verifyWith now token keySet ≠ .ok claims) ∧
    ∀ time now claims fault, verifyWith time token keySet = .ok claims →
      verifyWith now token keySet = .error fault →
      fault.refusal? = some .invalidToken ∧ ∃ payload claim,
        signedPayload token keySet = .ok payload ∧ TimeClaim.ExcludesIn claim payload now ∧
          fault = .invalid claim.refusal := by
  refine ⟨?_, ?_, ?_⟩
  · intro start now finish claims other hle hge hstart hfinish
    -- The signed payload is the same at all times, so that both ends judge the same claims.
    obtain ⟨payload, hpayload, hadmitted, hclaims⟩ := exists_signedPayload hstart
    rw [verifyWith_eq_claimsAt hpayload, claimsAt_eq_ok_iff] at hfinish ⊢
    exact ⟨hadmitted.between hfinish.1 hle hge, hclaims⟩
  · intro payload claim now hpayload hexcludes claims h
    rw [verifyWith_eq_claimsAt hpayload, claimsAt_eq_ok_iff] at h
    exact not_admittedAt_of_excludesIn hexcludes h.1
  · intro time now claims fault htime hfault
    obtain ⟨payload, hpayload, hadmitted, hclaims⟩ := exists_signedPayload htime
    rw [verifyWith_eq_claimsAt hpayload] at hfault
    obtain ⟨claim, hexcludes, rfl⟩ := exists_excludesIn_of_claimsAt hadmitted hclaims hfault
    exact ⟨rfl, payload, claim, hpayload, hexcludes, rfl⟩

/-! ### A token that is valid for ten seconds -/

def boundedText : String :=
  "\x7b\"x-nvidia-overall-att-result\":true,\"nbf\":\"10\",\"exp\":20.5\x7d"

def boundedOctets : Bytes := boundedText.toList.flatMap String.utf8EncodeChar

def boundedTimes : List (String × Json) :=
  [("nbf", .string "10"), ("exp", .float (Binary64.ofScientific false 205 (-1)))]

theorem boundedOctets_parse : Json.parseOctets boundedOctets =
    .ok (.object ((verdictKey, .bool true) :: boundedTimes)) := by
  have hdecode : Text.decode boundedOctets = .ok (boundedText.toList.map .char) := by decide +kernel
  exact Json.parseOctets_of_decode hdecode (by with_unfolding_all rfl)

theorem bounded_verified :
    Es384.verify Curve.secp384r1.base (signedFor boundedOctets) (sign (signedFor boundedOctets)) =
      true := by
  decide +kernel

def bounded : String := (signed boundedOctets).text

def baseKeySet : Json := KeySet.ofKeys [KeySet.keyWith Certificate.ofBase]

theorem bounded_signedPayload :
    signedPayload bounded baseKeySet = .ok ((verdictKey, .bool true) :: boundedTimes) := by
  have hpublished : KeySet.Publishes baseKeySet "k" Certificate.ofBase :=
    KeySet.publishes_iff.mpr ⟨_, KeySet.selects_iff.mp (KeySet.ofKeys_selects rfl []),
      KeySet.leafCertificate_keyWith _⟩
  simp only [signedPayload, bind_eq_ok_iff, mapError_eq_ok_iff, certificate_eq_ok_iff,
    Certificate.verificationKey_eq_ok_iff]
  exact ⟨_, ⟨"k", signed_keyId _, hpublished⟩, _, Certificate.ofBase_certifies,
    signed_payload bounded_verified boundedOctets_parse⟩

/-- The token is valid from second ten on, which its payload has as a text, until second twenty,
which its payload has with a fraction. -/
theorem verifyWith_bounded :
    verifyWith 10 bounded baseKeySet = .ok ⟨true, boundedTimes⟩ ∧
      verifyWith 15 bounded baseKeySet = .ok ⟨true, boundedTimes⟩ ∧
      verifyWith 19 bounded baseKeySet = .ok ⟨true, boundedTimes⟩ ∧
      verifyWith 9 bounded baseKeySet = .error (.invalid (.notYetValid .notBefore)) ∧
      (∀ claims, verifyWith 20 bounded baseKeySet ≠ .ok claims) := by
  have hstart : verifyWith 10 bounded baseKeySet = .ok ⟨true, boundedTimes⟩ := by
    rw [verifyWith_eq_claimsAt bounded_signedPayload]
    rfl
  have hfinish : verifyWith 19 bounded baseKeySet = .ok ⟨true, boundedTimes⟩ := by
    rw [verifyWith_eq_claimsAt bounded_signedPayload]
    rfl
  have hearly : verifyWith 9 bounded baseKeySet =
      .error (.invalid (.notYetValid .notBefore)) := by
    rw [verifyWith_eq_claimsAt bounded_signedPayload]
    rfl
  obtain ⟨hbetween, hexcluded, -⟩ := verifyWith_clock bounded baseKeySet
  refine ⟨hstart, hbetween 10 15 19 _ _ (by decide) (by decide) hstart hfinish, hfinish, hearly, ?_⟩
  exact hexcluded _ .expiration 20 bounded_signedPayload ⟨_, 20, rfl, rfl, Int.le_refl 20⟩

end Token

end MeshAttest
