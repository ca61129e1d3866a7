import MeshAttest.Proofs.Token.Refusals
import MeshAttest.Proofs.Url.Splitting
import MeshAttest.Proofs.Verifier.Course

/-!
# Verifier URLs without a key set

The URL of a verifier has to lead to its key set. If it has no host, no scheme or no port that is
one, it is refused as an invalid token would be. But if it cannot be taken apart at all, the fault
is none that a caller is told to expect (`KeySet.location_refused_iff`). Either fault goes through
as it is, wherever the key set is asked for (`FailsWith`): nothing is requested for it, and a
submission fails with it after the evidence has been sent.
-/

set_option autoImplicit false

namespace MeshAttest

open Outcome Attempt

/-! ### Locations -/

namespace KeySet

variable {url : String} {fault : LocationFault}

/-- A URL that cannot be taken apart is refused with the fault of the reader. -/
theorem location_of_parse_eq_error {cause : Url.Fault}
    (h : Url.parse url.toList = .error cause) : location url = .error (.url cause) := by
  rw [location, h]
  rfl

/-- A fault is of a kind for results exactly if it is not that the URL cannot be taken apart. -/
theorem refusal?_of_location_eq_error (h : location url = .error fault) :
    fault.refusal? = if Url.Splits url.toList then some .invalidToken else none := by
  by_cases hsplits : Url.Splits url.toList
  · obtain ⟨parsed, hparsed⟩ := Url.splits_iff.mp hsplits
    rw [if_pos hsplits]
    rw [location, hparsed] at h
    change parsed.port?.mapError _ >>= _ = _ at h
    rw [bind_eq_error_iff, mapError_eq_error_iff] at h
    rcases h with ⟨cause, -, rfl⟩ | ⟨port, -, h⟩
    · rfl
    · split at h
      · cases h
        rfl
      · cases h
  · rw [if_neg hsplits]
    cases hparsed : Url.parse url.toList with
    | ok parsed => exact absurd (Url.splits_iff.mpr ⟨parsed, hparsed⟩) hsplits
    | error cause =>
      obtain rfl := Except.error.inj ((location_of_parse_eq_error hparsed).symm.trans h)
      rfl

/-- A URL with a location can be taken apart. -/
theorem splits_of_location_eq_ok {place : String} (h : location url = .ok place) :
    Url.Splits url.toList := by
  obtain ⟨parsed, -, hparsed, -⟩ := location_eq_ok_iff.mp h
  exact Url.splits_iff.mpr ⟨parsed, hparsed⟩

/-- A URL has a location or is refused with one of the kinds exactly if it can be taken apart. -/
theorem accepted_or_refused_iff :
    ((∃ place, location url = .ok place) ∨
        ∃ fault, location url = .error fault ∧ fault.refusal? = some .invalidToken) ↔
      Url.Splits url.toList := by
  constructor
  · rintro (⟨place, hplace⟩ | ⟨fault, hfault, hrefusal⟩)
    · exact splits_of_location_eq_ok hplace
    · by_contra hsplits
      rw [refusal?_of_location_eq_error hfault, if_neg hsplits] at hrefusal
      cases hrefusal
  · intro hsplits
    cases hlocation : location url with
    | ok place => exact .inl ⟨place, rfl⟩
    | error fault =>
      have hrefusal := refusal?_of_location_eq_error hlocation
      rw [if_pos hsplits] at hrefusal
      exact .inr ⟨fault, rfl, hrefusal⟩

/-- A URL is refused with a fault of none of the kinds exactly if it cannot be taken apart. -/
theorem unrefused_iff :
    (∃ fault, location url = .error fault ∧ fault.refusal? = none) ↔ ¬ Url.Splits url.toList := by
  constructor
  · rintro ⟨fault, hfault, hnone⟩ hsplits
    rw [refusal?_of_location_eq_error hfault, if_pos hsplits] at hnone
    cases hnone
  · intro hsplits
    cases hlocation : location url with
    | ok place => exact absurd (splits_of_location_eq_ok hlocation) hsplits
    | error fault =>
      have hrefusal := refusal?_of_location_eq_error hlocation
      rw [if_neg hsplits] at hrefusal
      exact ⟨fault, rfl, hrefusal⟩

end KeySet

/-! ### Whoever asks for the key set -/

/-- The key set of a URL is not asked for because of a fault, and that is how an attempt to get it
ends. Submissions of either client end so once the evidence has been sent, if the reply to it has a
token. -/
structure FailsWith (url : String) (fault : KeySet.LocationFault) : Prop where
  fetchKeySet : ∀ (verifier : TokenVerifier) (timeout : Option Int) (wire : Wire),
    (verifier.fetchKeySet url timeout).runOn wire = (.error (.location fault), wire)
  verify : ∀ (verifier : TokenVerifier) (now : Int) (token : RawText) (timeout : Option Int)
    (wire : Wire),
    (verifier.verify now url token timeout).runOn wire = (.error (.location fault), wire)
  submit : ∀ (client : Client) (now : Int) (items : List Item) (nonce : SubmittedNonce)
    (options : Option Options) (body response : Json) (token : RawText) (wire : Wire),
    (client.effective options).url client.architecture = url →
    payload items nonce (client.effective options).claimsVersion client.architecture = .ok body →
    wire.reply.Carries response → Signed response token →
    (client.submit now items nonce options).runOn wire =
      (.error (.location fault), wire.sent (.post url body (some (client.effective options).headers)
        (client.effective options).timeout))
  submitAsync : ∀ (client : AsyncClient) (now : Int) (items : List Item) (nonce : SubmittedNonce)
    (options : Option Options) (body response : Json) (token : RawText) (wire after : Wire),
    (client.effective options).url client.architecture = url →
    payload items nonce (client.effective options).claimsVersion client.architecture = .ok body →
    (deliver (.post url body (some (client.effective options).headers)
      (client.effective options).timeout)).runOn wire = (.ok wire.reply, after) →
    wire.reply.Carries response → Signed response token →
    (client.submit now items nonce options).runOn wire = (.error (.location fault), after)

section Ends

variable {url : String} {token : RawText} {fault : KeySet.LocationFault} {response : Json}

/-- A token is of no use without a location. -/
theorem Reply.lead_eq_of_location_eq_error {reply : Reply} (hcarries : reply.Carries response)
    (hsigned : Signed response token) (h : KeySet.location url = .error fault) :
    reply.lead url = .error (.location fault) := by
  rw [lead, decode_eq_ok_iff.mpr hcarries]
  change (signedResult response).mapError _ >>= _ = _
  rw [signedResult_eq_ok_iff.mpr hsigned]
  change (KeySet.location url).mapError _ >>= _ = _
  rw [h]
  rfl

/-- Without a location a submission ends once the evidence has been sent, for either way to send
it. -/
theorem submitThrough_runOn_of_location_eq_error {send : Request → Attempt Reply} {now : Int}
    {body : Json} {settings : Options} {fetchTimeout : Option Int} {wire after : Wire}
    (hsend : (send (.post url body (some settings.headers) settings.timeout)).runOn wire =
      (.ok wire.reply, after))
    (hcarries : wire.reply.Carries response) (hsigned : Signed response token)
    (h : KeySet.location url = .error fault) :
    (submitThrough send now url body settings fetchTimeout).runOn wire =
      (.error (.location fault), after) := by
  rw [submitThrough, runOn_bind_of_ok hsend,
    Reply.lead_eq_of_location_eq_error hcarries hsigned h]
  exact runOn_bind_of_error (runOn_ofExcept _ _)

/-- Nobody who needs the location changes its fault. -/
theorem failsWith_of_location_eq_error (h : KeySet.location url = .error fault) :
    FailsWith url fault := by
  have hfetch (verifier : TokenVerifier) (timeout : Option Int) (wire : Wire) :
      (verifier.fetchKeySet url timeout).runOn wire = (.error (.location fault), wire) := by
    rw [TokenVerifier.fetchKeySet, h]
    exact runOn_bind_of_error (runOn_ofExcept _ _)
  constructor
  · exact hfetch
  · intro verifier now token timeout wire
    exact runOn_bind_of_error (hfetch verifier timeout wire)
  · intro client now items nonce options body response token wire hurl hbody hcarries hsigned
    rw [client.submit_eq_submitThrough, hbody, hurl]
    exact submitThrough_runOn_of_location_eq_error (runOn_exchange _ _) hcarries hsigned h
  · intro client now items nonce options body response token wire after hurl hbody hsend hcarries
      hsigned
    rw [client.submit_eq_submitThrough, hbody, hurl]
    exact submitThrough_runOn_of_location_eq_error hsend hcarries hsigned h

/-- A submission without waiting to a URL that cannot be sent fails before anything is sent. -/
theorem AsyncClient.submit_runOn_of_address_eq_error {client : AsyncClient} {now : Int}
    {items : List Item} {nonce : SubmittedNonce} {options : Option Options} {body : Json}
    {wire : Wire} {cause : SendFault} (h : Request.address url = .error cause)
    (hurl : (client.effective options).url client.architecture = url)
    (hbody : payload items nonce (client.effective options).claimsVersion client.architecture =
      .ok body) :
    (client.submit now items nonce options).runOn wire = (.error (.sending cause), wire) := by
  have houtgoing (headers : Option (List (String × String))) (timeout : Option Int) :
      (Request.post url body headers timeout).outgoing = .error cause := by
    rw [Request.outgoing, h]
    rfl
  rw [client.submit_eq_submitThrough, hbody, hurl]
  refine (runOn_bind_of_ok (runOn_ofExcept _ _)).trans ?_
  exact runOn_bind_of_error (deliver_runOn_of_error (houtgoing _ _) wire)

end Ends

/-- The URL of a verifier gives a key-set URL or is refused with an error for results, unless it
cannot be taken apart. Then the fault is of no such kind. Nobody who asks for the key set changes
the fault. A submission without waiting does not come to ask for it if the URL cannot be sent, and
what it fails with is of no such kind either. -/
theorem KeySet.location_refused_iff (url : String) :
    (((∃ location, KeySet.location url = .ok location) ∨
        ∃ fault, KeySet.location url = .error fault ∧ fault.refusal? = some .invalidToken) ↔
      Url.Splits url.toList) ∧
    ((∃ fault, KeySet.location url = .error fault ∧ fault.refusal? = none) ↔
      ¬ Url.Splits url.toList) ∧
    (∀ fault, KeySet.location url = .error fault → FailsWith url fault) ∧
    ∀ cause, Request.address url = .error cause → (Failure.sending cause).refusal? = none ∧
      ∀ (client : AsyncClient) (now : Int) (items : List Item) (nonce : SubmittedNonce)
        (options : Option Options) (body : Json) (wire : Wire),
        (client.effective options).url client.architecture = url →
        payload items nonce (client.effective options).claimsVersion client.architecture =
          .ok body →
        (client.submit now items nonce options).runOn wire = (.error (.sending cause), wire) := by
  refine ⟨accepted_or_refused_iff, unrefused_iff,
    fun fault hfault ↦ failsWith_of_location_eq_error hfault, fun cause hcause ↦ ⟨rfl, ?_⟩⟩
  intro client now items nonce options body wire hurl hbody
  exact client.submit_runOn_of_address_eq_error hcause hurl hbody

/-! ### Some URLs that cannot be taken apart -/

/-- A URL with a bracket that is not closed. -/
def openBracketText : String := "https://[::1/"

/-- A URL with a character in it that looks like `a/c`, in its user information. -/
def lookalikeText : String := "http://℀@h/x"

/-- What is sent for the URL. -/
def lookalikeUrl : SentUrl :=
  ⟨"http".toList, "%E2%84%80".toList, ['h'], none, ['/', 'x'], none, none⟩

theorem openBracketText_location :
    KeySet.location openBracketText = .error (.url .brackets) := by
  decide +kernel

theorem lookalikeText_location :
    KeySet.location lookalikeText = .error (.url (.normalization "℀@h".toList)) := by
  decide +kernel

/-- None of these URLs is refused with an error for results, and neither is a submission to the
first one. -/
theorem exists_location_unrefused :
    KeySet.location openBracketText = .error (.url .brackets) ∧
      KeySet.location "https://[::g]/" = .error (.url (.address "::g".toList)) ∧
      KeySet.location lookalikeText = .error (.url (.normalization "℀@h".toList)) ∧
      FailsWith openBracketText (.url .brackets) ∧
      ¬ ∀ url, (∃ location, KeySet.location url = .ok location) ∨
        ∃ fault, KeySet.location url = .error fault ∧ fault.refusal? = some .invalidToken := by
  refine ⟨openBracketText_location, by decide +kernel, lookalikeText_location,
    failsWith_of_location_eq_error openBracketText_location, fun h ↦ ?_⟩
  rcases h openBracketText with ⟨location, hlocation⟩ | ⟨fault, hfault, hrefusal⟩
  · cases hlocation.symm.trans openBracketText_location
  · cases hfault.symm.trans openBracketText_location
    cases hrefusal

/-- The first client sends the evidence to a URL with an open bracket, and the second one to a URL
with a lookalike in its user information. Neither gets to the key set. -/
theorem submit_unusable :
    (∃ fault, KeySet.location openBracketText = .error fault ∧ fault.refusal? = none) ∧
    (((Client.create .hopper (settingsFor openBracketText none)).submit 0 [] .absent none).runOn
        (Wire.ofReplies [tokenReply])).1 = .error (.location (.url .brackets)) ∧
    ((AsyncClient.submit ⟨.hopper, settingsFor lookalikeText none⟩ 0 [] .absent none).runOn
        (Wire.ofReplies [tokenReply])).1 =
      .error (.location (.url (.normalization "℀@h".toList))) ∧
    ((AsyncClient.submit ⟨.hopper, settingsFor openBracketText none⟩ 0 [] .absent none).runOn
        (Wire.ofReplies [tokenReply])).1 = .error (.sending .url) := by
  have hnoItems : ∀ item ∈ ([] : List Item), ¬ item.IsIncomplete := List.forall_mem_nil _
  obtain ⟨body, hbody⟩ : ∃ body, payload [] .absent (some "2.0") .hopper = .ok body :=
    exists_payload hnoItems
  obtain ⟨response, hcarries, hsigned⟩ := exists_tokenReply_carries
  obtain ⟨-, hnone, hopen, hunsent⟩ := KeySet.location_refused_iff openBracketText
  obtain ⟨-, -, hlookalike, -⟩ := KeySet.location_refused_iff lookalikeText
  refine ⟨hnone.mpr (by decide +kernel), ?_, ?_, ?_⟩
  · have hrun := (hopen _ openBracketText_location).submit
      (Client.create .hopper (settingsFor openBracketText none)) 0 [] .absent none body response
      "t" (Wire.ofReplies [tokenReply]) (url_settingsFor (by decide) none _) hbody hcarries hsigned
    exact congrArg Prod.fst hrun
  · have hreaches : SentUrl.Reaches lookalikeText lookalikeUrl :=
      ⟨by decide +kernel, by decide +kernel⟩
    have hkey : (settingsFor lookalikeText none).HasAsciiKey := by
      intro key hsome
      cases hsome
    have hdeliver := deliver_runOn (hreaches.outgoing_post
      (isSendable_of_payload (List.forall_mem_nil _) hbody) hkey.headers_all (some 30000))
      (by decide +kernel) (Wire.ofReplies [tokenReply])
    have hrun := (hlookalike _ lookalikeText_location).submitAsync
      ⟨.hopper, settingsFor lookalikeText none⟩ 0 [] .absent none body response "t" _ _
      (url_settingsFor (by decide) none _) hbody hdeliver hcarries hsigned
    exact congrArg Prod.fst hrun
  · have hrun := (hunsent .url (by decide +kernel)).2
      ⟨.hopper, settingsFor openBracketText none⟩ 0 [] .absent none body
      (Wire.ofReplies [tokenReply]) (url_settingsFor (by decide) none _) hbody
    exact congrArg Prod.fst hrun

end MeshAttest
