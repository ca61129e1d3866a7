import MeshAttest.Proofs.Verifier.AsyncAgreement

/-!
# The course of a submission

Whatever comes back, a submission sends one request with the evidence, and then at most one for the
key set. `Dispatch` describes these requests for either client, and `Dispatch.Course` says what the
replies make of them: the second request is sent exactly if the first reply leads to a key set
(`Reply.Leads`), and a reply that is refused (`Reply.Refused`) ends the submission. Nothing at all
is sent for evidence that is incomplete.

`submit_course` has the course of both clients. They differ in how they send requests, and take the
same steps otherwise (`Client.submit_eq_submitThrough`, `AsyncClient.submit_eq_submitThrough`), so
that the argument is made once, for any way to send requests (`Dispatch.course`).
-/

set_option autoImplicit false

namespace MeshAttest

open Outcome Attempt

/-! ### Replies that are refused -/

/-- The reply to a request for a URL is not taken, for the fault given. Either there is no answer,
or its status does not mean success, whatever its body is, or its body is no JSON text. -/
inductive Reply.Refused (method : Method) (url : String) : Reply → TransportFault → Prop
  | request (cause : String) : Refused method url (.failure cause) (.request method url cause)
  | status {status : Int} (h : ¬ (200 ≤ status ∧ status < 300)) (body : String) :
    Refused method url (.answer status body) (.status status body)
  | body {status : Int} {body : String} {fault : JsonFault} (hstatus : 200 ≤ status ∧ status < 300)
    (h : Json.parse body = .error fault) : Refused method url (.answer status body) (.body fault)

/-- A reply has no value exactly if it is refused, and the fault is the one that it is refused
for. -/
theorem Reply.decode_eq_error_iff {reply : Reply} {method : Method} {url : String}
    {fault : TransportFault} :
    reply.decode method url = .error fault ↔ reply.Refused method url fault := by
  constructor
  · intro h
    cases reply with
    | failure cause =>
      obtain rfl := Except.error.inj h
      exact .request cause
    | answer status body =>
      rw [decode, decodeBody] at h
      split at h
      · next hstatus =>
        cases hparse : Json.parse body with
        | error jsonFault =>
          rw [hparse] at h
          obtain rfl := Except.error.inj h
          exact .body hstatus hparse
        | ok value =>
          rw [hparse] at h
          cases h
      · next hstatus =>
        obtain rfl := Except.error.inj h
        exact .status hstatus body
  · intro h
    cases h with
    | request cause => rfl
    | status hstatus body => exact if_neg hstatus
    | body hstatus hparse =>
      rw [decode, decodeBody, if_pos hstatus, hparse]
      rfl

/-- The reply to a submission leads to a key set: it carries a token, and the place of the key set
can be derived from the URL of the verifier. -/
def Reply.Leads (reply : Reply) (url location : String) : Prop :=
  ∃ response token, reply.Carries response ∧ Signed response token ∧
    KeySet.location url = .ok location

/-! ### Steps that send nothing -/

/-- What a submission takes from the reply to the evidence. -/
structure Lead where
  response : Json
  token : RawText
  location : String

/-- Takes a lead from the reply of a verifier. -/
def Reply.lead (url : String) (reply : Reply) : Except Failure Lead := do
  let response ← (reply.decode .post url).mapError .transport
  let token ← (signedResult response).mapError .response
  let location ← (KeySet.location url).mapError .location
  return ⟨response, token, location⟩

/-- Verifies the token of a lead against the key set in a reply. -/
def Reply.conclude (now : Int) (lead : Lead) (reply : Reply) : Except Failure (Bool × Json) := do
  let keySet ← (reply.decode .get lead.location).mapError .transport
  let claims ← (Token.verifyWith now lead.token keySet).mapError .token
  return (claims.verdict, lead.response)

/-- A lead is taken from a reply that carries a response with a token, if the URL has a location. -/
theorem Reply.lead_eq_ok_iff {reply : Reply} {url : String} {lead : Lead} :
    reply.lead url = .ok lead ↔ reply.Carries lead.response ∧ Signed lead.response lead.token ∧
      KeySet.location url = .ok lead.location := by
  obtain ⟨response, token, location⟩ := lead
  simp only [Reply.lead, bind_eq_ok_iff, mapError_eq_ok_iff, pure_eq_ok_iff, decode_eq_ok_iff,
    signedResult_eq_ok_iff, Lead.mk.injEq]
  constructor
  · rintro ⟨_, hcarries, _, hsigned, _, hlocation, rfl, rfl, rfl⟩
    exact ⟨hcarries, hsigned, hlocation⟩
  · rintro ⟨hcarries, hsigned, hlocation⟩
    exact ⟨_, hcarries, _, hsigned, _, hlocation, rfl, rfl, rfl⟩

theorem Reply.leads_iff {reply : Reply} {url location : String} :
    reply.Leads url location ↔ ∃ lead, reply.lead url = .ok lead ∧ lead.location = location := by
  constructor
  · rintro ⟨response, token, h⟩
    exact ⟨⟨response, token, location⟩, lead_eq_ok_iff.mpr h, rfl⟩
  · rintro ⟨lead, hlead, rfl⟩
    exact ⟨lead.response, lead.token, lead_eq_ok_iff.mp hlead⟩

theorem Reply.Refused.lead_eq {reply : Reply} {url : String} {fault : TransportFault}
    (h : reply.Refused .post url fault) : reply.lead url = .error (.transport fault) := by
  rw [lead, decode_eq_error_iff.mpr h]
  rfl

theorem Reply.Refused.conclude_eq {reply : Reply} {now : Int} {lead : Lead}
    {fault : TransportFault} (h : reply.Refused .get lead.location fault) :
    reply.conclude now lead = .error (.transport fault) := by
  rw [conclude, decode_eq_error_iff.mpr h]
  rfl

/-! ### Submissions -/

theorem Attempt.ofExcept_bind {α β : Type} (outcome : Except Failure α)
    (next : α → Except Failure β) :
    (ofExcept (outcome >>= next) : Attempt β) = ofExcept outcome >>= fun a ↦ ofExcept (next a) := by
  cases outcome with
  | error failure => rfl
  | ok a => rfl

/-- A submission of a body to a URL, for any way to send requests. -/
def submitThrough (send : Request → Attempt Reply) (now : Int) (url : String) (body : Json)
    (settings : Options) (fetchTimeout : Option Int) : Attempt (Bool × Json) := do
  let posted ← send (.post url body (some settings.headers) settings.timeout)
  let lead ← ofExcept (posted.lead url)
  let fetched ← send (.get lead.location fetchTimeout)
  ofExcept (fetched.conclude now lead)

/-- A submission is one through exchanges, once its body has been put together. -/
theorem Client.submit_eq_submitThrough (client : Client) (now : Int) (items : List Item)
    (nonce : SubmittedNonce) (options : Option Options) :
    client.submit now items nonce options = (do
      let body ← ofExcept ((payload items nonce (client.effective options).claimsVersion
        client.architecture).mapError .entry)
      submitThrough exchange now ((client.effective options).url client.architecture) body
        (client.effective options)
        ((client.effective options).timeout <|> client.verifier.timeout)) := by
  rw [Client.submit_eq]
  unfold postEvidence postJson submitThrough Reply.lead Reply.conclude
  simp only [Attempt.ofExcept_bind, bind_assoc]
  rfl

/-- A submission without waiting is one through deliveries, once its body has been put together.
Besides, only the time limit for the key set differs. -/
theorem AsyncClient.submit_eq_submitThrough (client : AsyncClient) (now : Int) (items : List Item)
    (nonce : SubmittedNonce) (options : Option Options) :
    client.submit now items nonce options = (do
      let body ← ofExcept ((payload items nonce (client.effective options).claimsVersion
        client.architecture).mapError .entry)
      submitThrough deliver now ((client.effective options).url client.architecture) body
        (client.effective options) (client.effective options).timeout) := by
  unfold submit postEvidence submitThrough Reply.lead Reply.conclude
  simp only [Attempt.ofExcept_bind, bind_assoc]
  rfl

/-! ### Requests -/

/-- The time limit of a request, if it has one. -/
def Request.timeout : Request → Option Int
  | .get _ timeout => timeout
  | .post _ _ _ timeout => timeout

/-- The requests that a client sends to a verifier. -/
structure Dispatch where
  /-- The URL of the verifier. -/
  url : String
  /-- The time limit that is set for the requests, if one is. -/
  timeout : Option Int
  /-- The request with the evidence. -/
  post : Request
  /-- The request for the key set at a location, which there may not be. -/
  fetches : String → Request → Prop
  /-- Whether the reply from a location is taken. -/
  takes : String → Reply → Prop

/-- The requests of a client, which are sent as they are. -/
def Client.dispatch (client : Client) (settings : Options) (body : Json) : Dispatch where
  url := settings.url client.architecture
  timeout := settings.timeout
  post := .post (settings.url client.architecture) body (some settings.headers) settings.timeout
  fetches location get := get = .get location (settings.timeout <|> client.verifier.timeout)
  takes _ _ := True

/-- The requests of a client which sends URLs in a form of their own, that for the URL of the
verifier being given. -/
def AsyncClient.dispatch (client : AsyncClient) (settings : Options) (body : Json)
    (sent : SentUrl) : Dispatch where
  url := settings.url client.architecture
  timeout := settings.timeout
  post := .post sent.text body (some (Request.authorize sent settings.headers)) settings.timeout
  fetches location get := ∃ sentLocation, SentUrl.Reaches location sentLocation ∧
    get = .get sentLocation.text settings.timeout
  takes location reply := (∃ cause, reply = .failure cause) ∨ ∀ sentLocation,
    SentUrl.Reaches location sentLocation → sentLocation.checkOrigin = .ok ()

namespace Dispatch

variable {dispatch : Dispatch} {send : Request → Attempt Reply} {body : Json} {settings : Options}
  {fetchTimeout : Option Int}

/-- What a submission has done over a wire, and how it has ended: it has sent the requests given,
and the next two replies on the wire account for them. -/
structure Course (dispatch : Dispatch) (wire : Wire) (run : Except Failure (Bool × Json) × Wire)
    (requests : List Request) : Prop where
  sends : wire.Sends requests run.2
  at_most_two : requests = [dispatch.post] ∨ ∃ get, requests = [dispatch.post, get]
  fetches_iff : ∀ get, requests = [dispatch.post, get] ↔
    ∃ location, wire.reply.Leads dispatch.url location ∧ dispatch.fetches location get
  post_refused : ∀ fault, wire.reply.Refused .post dispatch.url fault →
    requests = [dispatch.post] ∧ run.1 = .error (.transport fault)
  fetch_refused : ∀ location get fault, requests = [dispatch.post, get] →
    wire.reply.Leads dispatch.url location →
    dispatch.takes location (wire.sent dispatch.post).reply →
    (wire.sent dispatch.post).reply.Refused .get location fault → run.1 = .error (.transport fault)
  limited : ∀ limit, dispatch.timeout = some limit →
    ∀ request ∈ requests, request.timeout = some limit

/-- A way to send requests sends those of the dispatch, for a body and the settings. A request for a
key set that is not sent fails. -/
structure IsSentBy (dispatch : Dispatch) (send : Request → Attempt Reply) (body : Json)
    (settings : Options) (fetchTimeout : Option Int) : Prop where
  post_runOn : ∀ wire : Wire,
    (send (.post dispatch.url body (some settings.headers) settings.timeout)).runOn wire =
      (.ok wire.reply, wire.sent dispatch.post)
  fetch_sent : ∀ location get, dispatch.fetches location get → ∀ wire : Wire,
    ((send (.get location fetchTimeout)).runOn wire).2 = wire.sent get
  fetch_taken : ∀ location get, dispatch.fetches location get → ∀ wire : Wire,
    dispatch.takes location wire.reply →
      ((send (.get location fetchTimeout)).runOn wire).1 = .ok wire.reply
  fetch_withheld : ∀ location, (∀ get, ¬ dispatch.fetches location get) → ∀ wire : Wire,
    ∃ failure, (send (.get location fetchTimeout)).runOn wire = (.error failure, wire)
  limited : ∀ limit, dispatch.timeout = some limit → dispatch.post.timeout = some limit ∧
    ∀ location get, dispatch.fetches location get → get.timeout = some limit

theorem IsSentBy.fetches_unique (h : dispatch.IsSentBy send body settings fetchTimeout)
    {location : String} {get other : Request} (hget : dispatch.fetches location get)
    (hother : dispatch.fetches location other) : get = other := by
  have hsame := (h.fetch_sent _ _ hget (Wire.ofReplies [])).symm.trans
    (h.fetch_sent _ _ hother (Wire.ofReplies []))
  exact List.singleton_inj.mp
    (((Wire.ofReplies []).sends_sent get).unique (hsame ▸ (Wire.ofReplies []).sends_sent other))

/-- Without a second request the submission has ended early. -/
theorem IsSentBy.course_of_post_only (h : dispatch.IsSentBy send body settings fetchTimeout)
    {wire : Wire} {failure : Failure}
    (hnone : ∀ location, wire.reply.Leads dispatch.url location →
      ∀ get, ¬ dispatch.fetches location get)
    (hrefused : ∀ fault, wire.reply.Refused .post dispatch.url fault →
      failure = .transport fault) :
    dispatch.Course wire (.error failure, wire.sent dispatch.post) [dispatch.post] where
  sends := wire.sends_sent _
  at_most_two := .inl rfl
  fetches_iff get := by
    constructor
    · intro hsame
      cases hsame
    · rintro ⟨location, hleads, hget⟩
      exact absurd hget (hnone location hleads get)
  post_refused fault hfault := ⟨rfl, congrArg Except.error (hrefused fault hfault)⟩
  fetch_refused location get fault hsame := by cases hsame
  limited limit hlimit := List.forall_mem_singleton.mpr (h.limited limit hlimit).1

/-- Where the reply to the evidence gives a lead, and there is a request for its location, this
request is sent as the second and last one. The reply to it decides, if it is taken. -/
theorem IsSentBy.course_of_lead (h : dispatch.IsSentBy send body settings fetchTimeout) (now : Int)
    {wire : Wire} {lead : Lead} (hlead : wire.reply.lead dispatch.url = .ok lead) {get : Request}
    (hget : dispatch.fetches lead.location get) :
    dispatch.Course wire
      ((send (.get lead.location fetchTimeout) >>= fun fetched ↦
        ofExcept (fetched.conclude now lead)).runOn (wire.sent dispatch.post))
      [dispatch.post, get] := by
  -- One reply leads to one location, so that there is one request that may follow.
  have hlocation : ∀ location, wire.reply.Leads dispatch.url location →
      location = lead.location := by
    intro location hleads
    obtain ⟨other, hother, rfl⟩ := Reply.leads_iff.mp hleads
    rw [Except.ok.inj (hother.symm.trans hlead)]
  have hsent := h.fetch_sent _ _ hget (wire.sent dispatch.post)
  constructor
  · rw [runOn_bind_ofExcept_snd, hsent]
    exact (wire.sends_sent _).trans ((wire.sent _).sends_sent get)
  · exact .inr ⟨get, rfl⟩
  · intro other
    constructor
    · intro hsame
      simp only [List.cons.injEq, true_and, and_true] at hsame
      exact ⟨lead.location, Reply.leads_iff.mpr ⟨lead, hlead, rfl⟩, hsame ▸ hget⟩
    · rintro ⟨location, hleads, hother⟩
      rw [hlocation location hleads] at hother
      rw [h.fetches_unique hget hother]
  · intro fault hfault
    cases hlead.symm.trans hfault.lead_eq
  · intro location _ fault _ hleads htakes hfault
    obtain rfl := hlocation location hleads
    have hrun : (send (.get lead.location fetchTimeout)).runOn (wire.sent dispatch.post) =
        (.ok (wire.sent dispatch.post).reply, (wire.sent dispatch.post).sent get) :=
      Prod.ext (h.fetch_taken _ _ hget _ htakes) hsent
    rw [runOn_bind_of_ok hrun, runOn_ofExcept, hfault.conclude_eq]
  · intro limit hlimit
    obtain ⟨hpost, hfetch⟩ := h.limited limit hlimit
    exact List.forall_mem_cons.mpr ⟨hpost, List.forall_mem_singleton.mpr (hfetch _ _ hget)⟩

/-- The cases are those in which a submission ends: the first reply gives no lead, the key set is
not fetched, or it is. -/
theorem IsSentBy.exists_course (h : dispatch.IsSentBy send body settings fetchTimeout) (now : Int)
    (wire : Wire) :
    ∃ requests, dispatch.Course wire
      ((submitThrough send now dispatch.url body settings fetchTimeout).runOn wire) requests := by
  rw [submitThrough, runOn_bind_of_ok (h.post_runOn wire)]
  cases hlead : wire.reply.lead dispatch.url with
  | error failure =>
    rw [runOn_bind_of_error (runOn_ofExcept _ _)]
    refine ⟨_, h.course_of_post_only (fun location hleads ↦ ?_) fun fault hfault ↦ ?_⟩
    · obtain ⟨lead, hok, -⟩ := Reply.leads_iff.mp hleads
      cases hlead.symm.trans hok
    · exact Except.error.inj (hlead.symm.trans hfault.lead_eq)
  | ok lead =>
    rw [runOn_bind_of_ok (runOn_ofExcept _ _)]
    by_cases hfetches : ∃ get, dispatch.fetches lead.location get
    · obtain ⟨get, hget⟩ := hfetches
      exact ⟨_, h.course_of_lead now hlead hget⟩
    · have hnone := not_exists.mp hfetches
      obtain ⟨failure, hrun⟩ := h.fetch_withheld _ hnone (wire.sent dispatch.post)
      rw [runOn_bind_of_error hrun]
      refine ⟨_, h.course_of_post_only (fun location hleads ↦ ?_) fun fault hfault ↦ ?_⟩
      · obtain ⟨other, hother, rfl⟩ := Reply.leads_iff.mp hleads
        rw [Except.ok.inj (hother.symm.trans hlead)]
        exact hnone
      · cases hlead.symm.trans hfault.lead_eq

end Dispatch

/-! ### The clients -/

/-- Exchanges send the requests of a client, as they are. -/
theorem Client.dispatch_isSentBy (client : Client) (settings : Options) (body : Json) :
    (client.dispatch settings body).IsSentBy exchange body settings
      (settings.timeout <|> client.verifier.timeout) where
  post_runOn := runOn_exchange _
  fetch_sent := by
    rintro location _ rfl wire
    rw [runOn_exchange]
  fetch_taken := by
    intro location get _ wire _
    rw [runOn_exchange]
  fetch_withheld location hnone := absurd rfl (hnone _)
  limited := by
    intro limit hlimit
    change settings.timeout = some limit at hlimit
    refine ⟨hlimit, ?_⟩
    rintro location _ rfl
    rw [hlimit]
    rfl

/-- A request goes out only for a URL that can be sent. -/
theorem SentUrl.reaches_of_outgoing_get {url : String} {timeout : Option Int} {sent : SentUrl}
    {outgoing : Request} (h : (Request.get url timeout).outgoing = .ok (sent, outgoing)) :
    Reaches url sent := by
  rw [Request.outgoing, bind_eq_ok_iff] at h
  obtain ⟨address, haddress, h⟩ := h
  obtain ⟨_, hcheck, h⟩ := bind_eq_ok_iff.mp h
  obtain ⟨rfl, -⟩ := Prod.mk.inj (pure_eq_ok_iff.mp h)
  exact ⟨haddress, hcheck⟩

/-- A request that can be sent is sent, whatever becomes of the answer. -/
theorem Attempt.deliver_runOn_snd {request outgoing : Request} {sent : SentUrl}
    (h : request.outgoing = .ok (sent, outgoing)) (wire : Wire) :
    ((deliver request).runOn wire).2 = wire.sent outgoing := by
  rw [deliver, h]
  refine (congrArg Prod.snd (runOn_bind_of_ok (runOn_ofExcept _ _))).trans ?_
  refine (congrArg Prod.snd (runOn_bind_of_ok (runOn_exchange _ _))).trans ?_
  cases wire.reply with
  | failure cause => rfl
  | answer status body =>
    cases horigin : sent.checkOrigin with
    | error fault => exact congrArg Prod.snd (runOn_bind_of_error (runOn_ofExcept _ _))
    | ok _ => exact congrArg Prod.snd (runOn_bind_of_ok (runOn_ofExcept _ _))

/-- A request that goes unanswered ends in this failure, whatever its origin is. -/
theorem Attempt.deliver_runOn_fst_of_failure {request outgoing : Request} {sent : SentUrl}
    (h : request.outgoing = .ok (sent, outgoing)) {wire : Wire} {cause : String}
    (hcause : wire.reply = .failure cause) :
    ((deliver request).runOn wire).1 = .ok wire.reply := by
  rw [deliver, h]
  refine (congrArg Prod.fst (runOn_bind_of_ok (runOn_ofExcept _ _))).trans ?_
  refine (congrArg Prod.fst (runOn_bind_of_ok (runOn_exchange _ _))).trans ?_
  rw [hcause]
  rfl

/-- A request that cannot be sent fails before anything is sent. -/
theorem Attempt.deliver_runOn_of_error {request : Request} {fault : SendFault}
    (h : request.outgoing = .error fault) (wire : Wire) :
    (deliver request).runOn wire = (.error (.sending fault), wire) := by
  rw [deliver, h]
  exact runOn_bind_of_error (runOn_ofExcept _ _)

/-- Deliveries send the requests of a client in the form of their URLs, if the evidence and the
service key can be sent. -/
theorem AsyncClient.dispatch_isSentBy (client : AsyncClient) {settings : Options} {body : Json}
    {sent : SentUrl} (hsent : SentUrl.Reaches (settings.url client.architecture) sent)
    (horigin : sent.checkOrigin = .ok ()) (hbody : body.IsSendable)
    (hkey : settings.HasAsciiKey) :
    (client.dispatch settings body sent).IsSentBy deliver body settings settings.timeout where
  post_runOn := deliver_runOn (hsent.outgoing_post hbody hkey.headers_all _) horigin
  fetch_sent := by
    rintro location _ ⟨sentLocation, hreaches, rfl⟩ wire
    exact deliver_runOn_snd (hreaches.outgoing_get _) wire
  fetch_taken := by
    rintro location _ ⟨sentLocation, hreaches, rfl⟩ wire (⟨cause, hcause⟩ | horigin)
    · exact deliver_runOn_fst_of_failure (hreaches.outgoing_get _) hcause
    · exact congrArg Prod.fst (deliver_runOn (hreaches.outgoing_get _) (horigin _ hreaches) wire)
  fetch_withheld := by
    intro location hnone wire
    cases houtgoing : (Request.get location settings.timeout).outgoing with
    | error fault => exact ⟨_, deliver_runOn_of_error houtgoing wire⟩
    | ok both =>
      obtain ⟨sentLocation, outgoing⟩ := both
      exact absurd ⟨sentLocation, SentUrl.reaches_of_outgoing_get houtgoing, rfl⟩ (hnone _)
  limited := by
    intro limit hlimit
    refine ⟨hlimit, ?_⟩
    rintro location _ ⟨sentLocation, -, rfl⟩
    exact hlimit

/-- A submission of complete items has a course over any wire, and it is the one that the wire
tells. -/
theorem Client.exists_course (client : Client) (now : Int) {items : List Item}
    (hcomplete : ∀ item ∈ items, ¬ item.IsIncomplete) (nonce : SubmittedNonce)
    (options : Option Options) (wire : Wire) :
    ∃ body requests,
      payload items nonce (client.effective options).claimsVersion client.architecture = .ok body ∧
        (client.dispatch (client.effective options) body).Course wire
          ((client.submit now items nonce options).runOn wire) requests := by
  obtain ⟨body, hbody⟩ := exists_payload hcomplete
  obtain ⟨requests, hcourse⟩ :=
    (client.dispatch_isSentBy (client.effective options) body).exists_course now wire
  refine ⟨body, requests, hbody, ?_⟩
  rw [client.submit_eq_submitThrough, hbody]
  exact hcourse

/-- A submission without waiting has a course over any wire as well, if the URL of the verifier, the
evidence and the service key can be sent. -/
theorem AsyncClient.exists_course (client : AsyncClient) (now : Int) {items : List Item}
    (hcomplete : ∀ item ∈ items, ¬ item.IsIncomplete) (nonce : SubmittedNonce)
    (options : Option Options) (wire : Wire) {sent : SentUrl}
    (hsent : SentUrl.Reaches ((client.effective options).url client.architecture) sent)
    (horigin : sent.checkOrigin = .ok ()) (hkey : (client.effective options).HasAsciiKey)
    (hsendable : ∀ item ∈ items, item.IsSendable) :
    ∃ body requests,
      payload items nonce (client.effective options).claimsVersion client.architecture = .ok body ∧
        (client.dispatch (client.effective options) body sent).Course wire
          ((client.submit now items nonce options).runOn wire) requests := by
  obtain ⟨body, hbody⟩ := exists_payload hcomplete
  obtain ⟨requests, hcourse⟩ := (client.dispatch_isSentBy hsent horigin
    (isSendable_of_payload hsendable hbody) hkey).exists_course now wire
  refine ⟨body, requests, hbody, ?_⟩
  rw [client.submit_eq_submitThrough, hbody]
  exact hcourse

/-- Either client sends nothing for evidence that is incomplete, and says which key is missing. Else
it sends one request with the evidence and at most one after it, as the next two replies have it.
The second client has to be able to send the evidence: it takes a URL to which it can be sent, a
service key that is ASCII, finite numbers, and strings that are texts. -/
theorem submit_course (client : Client) (asyncClient : AsyncClient) (options : Option Options)
    (items : List Item) (nonce : SubmittedNonce) (now : Int) (wire : Wire) :
    ((∃ item ∈ items, item.IsIncomplete) → ∃ fault : EntryFault, fault.LacksKey ∧
        (client.submit now items nonce options).runOn wire = (.error (.entry fault), wire) ∧
        (asyncClient.submit now items nonce options).runOn wire = (.error (.entry fault), wire)) ∧
      ((∀ item ∈ items, ¬ item.IsIncomplete) →
        (∃ body requests,
          payload items nonce (client.effective options).claimsVersion client.architecture =
              .ok body ∧
            (client.dispatch (client.effective options) body).Course wire
              ((client.submit now items nonce options).runOn wire) requests) ∧
        ∀ sent,
          SentUrl.Reaches ((asyncClient.effective options).url asyncClient.architecture) sent →
          sent.checkOrigin = .ok () → (asyncClient.effective options).HasAsciiKey →
          (∀ item ∈ items, item.IsSendable) → ∃ body requests,
            payload items nonce (asyncClient.effective options).claimsVersion
                asyncClient.architecture = .ok body ∧
              (asyncClient.dispatch (asyncClient.effective options) body sent).Course wire
                ((asyncClient.submit now items nonce options).runOn wire) requests) := by
  constructor
  · intro hincomplete
    obtain ⟨fault, hlacks, hpayload⟩ := exists_payload_fault hincomplete
    refine ⟨fault, hlacks, ?_, ?_⟩
    · rw [client.submit_eq_submitThrough, hpayload]
      exact runOn_bind_of_error (runOn_ofExcept _ _)
    · rw [asyncClient.submit_eq_submitThrough, hpayload]
      exact runOn_bind_of_error (runOn_ofExcept _ _)
  · intro hcomplete
    refine ⟨client.exists_course now hcomplete nonce options wire, ?_⟩
    intro sent hsent horigin hkey hsendable
    exact asyncClient.exists_course now hcomplete nonce options wire hsent horigin hkey hsendable

/-- A reply that has a token. -/
def tokenReply : Reply := .answer 200 "[[0, \"t\"]]"

theorem exists_tokenReply_carries :
    ∃ response, tokenReply.Carries response ∧ Signed response "t" := by
  have htoken : (Json.parse "[[0, \"t\"]]").map signedResult = .ok (.ok "t") := by decide +kernel
  cases hparse : Json.parse "[[0, \"t\"]]" with
  | error fault =>
    rw [hparse] at htoken
    cases htoken
  | ok response =>
    rw [hparse] at htoken
    exact ⟨response, ⟨_, _, rfl, by decide, by decide, hparse⟩,
      signedResult_eq_ok_iff.mp (Except.ok.inj htoken)⟩

theorem tokenReply_leads {url location : String} (h : KeySet.location url = .ok location) :
    tokenReply.Leads url location := by
  obtain ⟨response, hcarries, hsigned⟩ := exists_tokenReply_carries
  exact ⟨response, "t", hcarries, hsigned, h⟩

/-- Evidence in a form in which its keys come in another order. -/
def savedItem : Item :=
  .mapping [("evidence", .string "ZQ=="), ("certificate", .string "Yw==")]

/-- A submission to the address, where the reply to it leads to a key set and no other comes. -/
theorem submit_course_address :
    ∃ body requests,
      (AsyncClient.dispatch ⟨.hopper, settingsFor addressText none⟩ (settingsFor addressText none)
        body addressUrl).Course (Wire.ofReplies [tokenReply])
        ((AsyncClient.submit ⟨.hopper, settingsFor addressText none⟩ 0 [savedItem] .absent
          none).runOn (Wire.ofReplies [tokenReply])) requests ∧
        requests.length = 2 := by
  have hcomplete : ∀ item ∈ [savedItem], ¬ item.IsIncomplete := by
    intro item hitem
    obtain rfl := List.mem_singleton.mp hitem
    rintro ⟨_, hsame, hnone⟩
    obtain rfl := Item.mapping.inj hsame
    rcases hnone with hnone | hnone <;> cases hnone
  have hsendable : ∀ item ∈ [savedItem], item.IsSendable := by
    intro item hitem entry hentry
    obtain rfl := List.mem_singleton.mp hitem
    obtain rfl := Except.ok.inj hentry
    exact ⟨⟨rfl, rfl⟩, ⟨rfl, rfl⟩⟩
  have hkey : (settingsFor addressText none).HasAsciiKey := by
    intro key hsome
    cases hsome
  obtain ⟨body, requests, -, hcourse⟩ := ((submit_course (Client.create .hopper)
    ⟨.hopper, settingsFor addressText none⟩ none [savedItem] .absent 0
    (Wire.ofReplies [tokenReply])).2 hcomplete).2 addressUrl addressUrl_asWritten.reaches
      addressUrl_asWritten.checkOrigin_eq hkey hsendable
  have hreaches : SentUrl.Reaches "http://[2001:db8::1]:8080/.well-known/jwks.json"
      ⟨"http".toList, [], "2001:db8::1".toList, some 8080, KeySet.path.toList, none, none⟩ :=
    ⟨by decide +kernel, by decide +kernel⟩
  have hrequests := (hcourse.fetches_iff _).mpr
    ⟨_, tokenReply_leads addressText_location, _, hreaches, rfl⟩
  refine ⟨body, requests, hcourse, ?_⟩
  rw [hrequests]
  rfl

theorem url_settingsFor {url : String} (hne : url ≠ "") (serviceKey : Option String)
    (architecture : Architecture) : (settingsFor url serviceKey).url architecture = url := by
  have hnonempty : Options.nonempty (some url) = some url :=
    Option.filter_eq_some_iff.mpr ⟨rfl, decide_eq_true hne⟩
  rw [Options.url, settingsFor, hnonempty, Option.getD_some]

/-- A key set that cannot be reached is not fetched. -/
theorem AsyncClient.submit_requests_of_not_reaches {url location : String} {sent : SentUrl}
    (hne : url ≠ "") (hsent : SentUrl.Reaches url sent) (horigin : sent.checkOrigin = .ok ())
    (hlocation : KeySet.location url = .ok location)
    (hunreached : ∀ sentLocation, ¬ SentUrl.Reaches location sentLocation)
    (architecture : Architecture) (now : Int) (replies : List Reply) :
    ((submit ⟨architecture, settingsFor url none⟩ now [] .absent none).runWith
      replies).2.requests.length = 1 := by
  have hurl := url_settingsFor hne none architecture
  obtain ⟨body, requests, -, hcourse⟩ :=
    exists_course ⟨architecture, settingsFor url none⟩ now (List.forall_mem_nil _) .absent none
      (Wire.ofReplies replies) (hurl.symm ▸ hsent) horigin (fun key hkey ↦ nomatch hkey)
      (List.forall_mem_nil _)
  rw [runWith_eq_runOn, hcourse.sends.requests_eq]
  rcases hcourse.at_most_two with hsame | ⟨get, hsame⟩
  · rw [hsame]
    rfl
  · obtain ⟨other, ⟨_, _, -, -, hother⟩, sentLocation, hreaches, -⟩ :=
      (hcourse.fetches_iff get).mp hsame
    change KeySet.location ((settingsFor url none).url architecture) = .ok other at hother
    rw [hurl, hlocation] at hother
    obtain rfl := Except.ok.inj hother
    exact absurd hreaches (hunreached sentLocation)

/-- A URL to which the evidence can be sent does not always mean that it is sent there as it is
written, or that it is sent at all: a service key may not be ASCII, a number not finite, or a string
no text. Nor does a reply that leads to a key set always mean that the key set is fetched. -/
theorem submit_withheld :
    (∃ sent, SentUrl.Reaches "http://h/x" sent ∧ sent.checkOrigin = .ok () ∧
      ((AsyncClient.submit ⟨.hopper, settingsFor "http://h/x" (some "é")⟩ 0 [] .absent
        none).runWith []).2.requests = [] ∧
      ((AsyncClient.submit ⟨.hopper, settingsFor "http://h/x" none⟩ 0
        [.device ⟨.float .nan, .null⟩] .absent none).runWith []).2.requests = [] ∧
      ((AsyncClient.submit ⟨.hopper, settingsFor "http://h/x" none⟩ 0
        [.device ⟨.halved ⟨[.half 0], rfl⟩, .null⟩] .absent none).runWith []).2.requests = []) ∧
    (∃ sent, SentUrl.Reaches "http://h/a b" sent ∧ sent.checkOrigin = .ok () ∧
      ((AsyncClient.submit ⟨.hopper, settingsFor "http://h/a b" none⟩ 0 [] .absent none).runWith
        []).2.requests.map (fun request ↦ request.heading.1) = ["http://h/a%20b"]) ∧
    ∃ url sent location, url = "http://" ++ String.ofList (SentUrl.longHost 65528) ∧
      SentUrl.Reaches url sent ∧ sent.checkOrigin = .ok () ∧
      tokenReply.Leads url location ∧
      ((AsyncClient.submit ⟨.hopper, settingsFor url none⟩ 0 [] .absent none).runWith
        [tokenReply]).2.requests.length = 1 := by
  have hsize : 8 + 65528 ≤ SentUrl.maximumSize := by decide
  have hlong := SentUrl.longHost_asWritten hsize
  obtain ⟨location, hlocation, hunreached⟩ :=
    SentUrl.exists_location_not_reaches hsize (by decide)
  refine ⟨⟨⟨"http".toList, [], ['h'], none, ['/', 'x'], none, none⟩,
    ⟨by decide +kernel, by decide +kernel⟩, by decide +kernel, ?_, ?_, ?_⟩,
    ⟨⟨"http".toList, [], ['h'], none, "/a%20b".toList, none, none⟩,
    ⟨by decide +kernel, by decide +kernel⟩, by decide +kernel, by decide +kernel⟩,
    _, _, location, ?_, hlong.reaches, hlong.checkOrigin_eq, ?_, ?_⟩
  · exact List.eq_nil_of_length_eq_zero (by decide +kernel)
  · exact List.eq_nil_of_length_eq_zero (by decide +kernel)
  · exact List.eq_nil_of_length_eq_zero (by decide +kernel)
  · rw [SentUrl.longHost_text]
    exact String.append_empty
  · exact tokenReply_leads hlocation
  · refine AsyncClient.submit_requests_of_not_reaches (fun hempty ↦ ?_) hlong.reaches
      hlong.checkOrigin_eq hlocation hunreached .hopper 0 _
    have hlength := congrArg String.length hempty
    rw [SentUrl.length_longHost_text] at hlength
    exact absurd hlength (by decide)

end MeshAttest
