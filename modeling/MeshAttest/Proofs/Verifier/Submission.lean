import MeshAttest.Proofs.Attempt
import MeshAttest.Verifier.Client

/-!
# What a submission does

The requests of a submission are planned (`Client.plan`): one with the evidence, and one for the key
set of the verifier that the evidence was sent to. `Client.submit_follows` shows that a submission
sends nothing else. `Client.submit_runOn_eq_ok_iff` says when it returns: both requests have been
sent, and the two replies vouch for what it returns (`Vouches`).
-/

set_option autoImplicit false

namespace MeshAttest

open Outcome Attempt

/-! ### Replies -/

/-- The reply is an answer that means success, and its body is the text of a value. -/
def Reply.Carries (reply : Reply) (value : Json) : Prop :=
  ∃ status body, reply = .answer status body ∧ 200 ≤ status ∧ status < 300 ∧
    Json.parse body = .ok value

/-- A reply has the value that it carries, and it has none otherwise. -/
theorem Reply.decode_eq_ok_iff {reply : Reply} {method : Method} {url : String} {value : Json} :
    reply.decode method url = .ok value ↔ reply.Carries value := by
  unfold Carries
  cases reply with
  | failure cause => simp [decode]
  | answer status body =>
    rw [decode, decodeBody]
    by_cases hstatus : 200 ≤ status ∧ status < 300
    · rw [if_pos hstatus, mapError_eq_ok_iff]
      simp [hstatus]
    · rw [if_neg hstatus]
      simp only [reduceCtorEq, false_iff]
      rintro ⟨_, _, hsame, hlower, hupper, -⟩
      cases hsame
      exact hstatus ⟨hlower, hupper⟩

/-- A value that has been read comes from a reply that was there. -/
theorem Wire.replies_eq_of_carries {wire : Wire} {value : Json} (h : wire.reply.Carries value) :
    wire.replies = wire.reply :: wire.replies.tail := by
  obtain ⟨replies, events⟩ := wire
  cases replies with
  | nil =>
    obtain ⟨status, body, hsame, -⟩ := h
    cases hsame
  | cons reply rest => rfl

/-- The response is a list whose first element is a list with the token in second place. -/
def Signed (response : Json) (token : RawText) : Prop :=
  ∃ first others more,
    response = .array (.array (first :: .ofRawText token :: others) :: more)

/-- A token is taken from a response exactly if it stands where it has to. -/
theorem signedResult_eq_ok_iff {response : Json} {token : RawText} :
    signedResult response = .ok token ↔ Signed response token := by
  constructor
  · intro h
    unfold signedResult at h
    split at h
    · split at h
      · next other hother =>
        cases h
        rw [Json.rawText?_eq_some_iff.mp hother]
        exact ⟨_, _, _, rfl⟩
      · cases h
    · cases h
    · cases h
  · rintro ⟨first, others, more, rfl⟩
    rw [signedResult, Json.rawText?_eq_some_iff.mpr rfl]

/-! ### Documents -/

theorem exchange_decode_follows {planned : Request → Prop} {request : Request} (h : planned request)
    (method : Method) (url : String) :
    Follows (do
      let reply ← exchange request
      ofExcept ((reply.decode method url).mapError Failure.transport)) [planned] :=
  (follows_exchange h).bind fun _ _ _ _ ↦ follows_ofExcept _

/-- An exchange gives a value exactly if the next reply carries it. -/
theorem exchange_decode_runOn_eq_ok_iff {request : Request} {method : Method} {url : String}
    {wire after : Wire} {value : Json} :
    runOn (do
      let reply ← exchange request
      ofExcept ((reply.decode method url).mapError Failure.transport)) wire = (.ok value, after) ↔
        wire.reply.Carries value ∧ wire.sent request = after := by
  rw [runOn_bind_of_ok (runOn_exchange _ _), runOn_ofExcept, Prod.mk.injEq, mapError_eq_ok_iff,
    Reply.decode_eq_ok_iff]

theorem fetchJson_follows {planned : Request → Prop} {url : String} {timeout : Option Int}
    (h : planned (.get url timeout)) : (fetchJson url timeout).Follows [planned] :=
  exchange_decode_follows h .get url

theorem postJson_follows {planned : Request → Prop} {url : String} {body : Json}
    {headers : Option (List (String × String))} {timeout : Option Int}
    (h : planned (.post url body headers timeout)) :
    (postJson url body headers timeout).Follows [planned] :=
  exchange_decode_follows h .post url

theorem fetchJson_runOn_eq_ok_iff {url : String} {timeout : Option Int} {wire after : Wire}
    {value : Json} : (fetchJson url timeout).runOn wire = (.ok value, after) ↔
      wire.reply.Carries value ∧ wire.sent (.get url timeout) = after :=
  exchange_decode_runOn_eq_ok_iff

theorem postJson_runOn_eq_ok_iff {url : String} {body value : Json}
    {headers : Option (List (String × String))} {timeout : Option Int} {wire after : Wire} :
    (postJson url body headers timeout).runOn wire = (.ok value, after) ↔
      wire.reply.Carries value ∧ wire.sent (.post url body headers timeout) = after :=
  exchange_decode_runOn_eq_ok_iff

namespace Client

variable {client : Client} {now : Int} {items : List Item} {nonce : SubmittedNonce}
  {options : Option Options} {wire after : Wire}

/-! ### Requests -/

/-- The request has the evidence for the verifier. -/
def Submission (client : Client) (settings : Options) (items : List Item) (nonce : SubmittedNonce)
    (request : Request) : Prop :=
  ∃ body, payload items nonce settings.claimsVersion client.architecture = .ok body ∧
    request = .post (settings.url client.architecture) body (some settings.headers) settings.timeout

/-- The request is for the key set of the verifier. -/
def KeySetFetch (client : Client) (settings : Options) (request : Request) : Prop :=
  ∃ location, KeySet.location (settings.url client.architecture) = .ok location ∧
    request = .get location (settings.timeout <|> client.verifier.timeout)

/-- The requests of a submission. -/
def plan (client : Client) (settings : Options) (items : List Item) (nonce : SubmittedNonce) :
    Plan :=
  [client.Submission settings items nonce, client.KeySetFetch settings]

/-- A submission that is complete has posted the evidence and fetched the key set. -/
theorem plan_completed_iff {settings : Options} {requests : List Request} :
    (client.plan settings items nonce).Completed requests ↔
      ∃ post get, requests = [post, get] ∧ client.Submission settings items nonce post ∧
        client.KeySetFetch settings get := by
  constructor
  · intro h
    obtain _ | ⟨hpost, _ | ⟨hget, _ | _⟩⟩ := h
    exact ⟨_, _, rfl, hpost, hget⟩
  · rintro ⟨post, get, rfl, hpost, hget⟩
    exact .cons hpost (.cons hget .nil)

/-- To post evidence sends the one request with the evidence, if there is a body at all. -/
theorem postEvidence_follows (settings : Options) :
    (client.postEvidence items nonce (some settings)).Follows
      [client.Submission settings items nonce] := by
  refine Follows.ofExcept_bind fun body hbody ↦ ?_
  exact postJson_follows ⟨body, mapError_eq_ok_iff.mp hbody, rfl⟩

/-- To fetch a key set sends the one request for it, if there is a location at all. -/
theorem fetchKeySet_follows (settings : Options) :
    (client.verifier.fetchKeySet (settings.url client.architecture) settings.timeout).Follows
      [client.KeySetFetch settings] := by
  refine Follows.ofExcept_bind fun location hlocation ↦ ?_
  exact fetchJson_follows ⟨location, mapError_eq_ok_iff.mp hlocation, rfl⟩

/-- To verify a response sends nothing but the request for the key set. -/
theorem verifyResponse_follows (settings : Options) (response : Json) :
    (client.verifyResponse now response (some settings)).Follows [client.KeySetFetch settings] := by
  refine Follows.ofExcept_bind fun token _ ↦ ?_
  exact (fetchKeySet_follows settings).bind fun keySet _ _ _ ↦ follows_ofExcept _

/-- A submission sends the evidence, and fetches the key set after that. -/
theorem submit_follows :
    (client.submit now items nonce options).Follows
      (client.plan (client.effective options) items nonce) := by
  refine (postEvidence_follows _).bind fun response _ _ _ ↦ ?_
  refine (verifyResponse_follows _ response).bind fun claims _ _ _ ↦ ?_
  exact follows_pure _

/-! ### Results -/

/-- Posting evidence gives the response that the next reply carries. -/
theorem postEvidence_runOn_eq_ok_iff {settings : Options} {response : Json} :
    (client.postEvidence items nonce (some settings)).runOn wire = (.ok response, after) ↔
      ∃ request, client.Submission settings items nonce request ∧ wire.reply.Carries response ∧
        wire.sent request = after := by
  unfold postEvidence Submission
  simp only [runOn_bind_eq_ok_iff, runOn_ofExcept, Prod.mk.injEq, mapError_eq_ok_iff,
    postJson_runOn_eq_ok_iff]
  constructor
  · rintro ⟨body, middle, ⟨hbody, rfl⟩, hcarries, hafter⟩
    exact ⟨_, ⟨body, hbody, rfl⟩, hcarries, hafter⟩
  · rintro ⟨_, ⟨body, hbody, rfl⟩, hcarries, hafter⟩
    exact ⟨body, wire, ⟨hbody, rfl⟩, hcarries, hafter⟩

/-- A response is verified exactly if its token is accepted under the key set in the next reply. -/
theorem verifyResponse_runOn_eq_ok_iff {settings : Options} {response : Json} {claims : Claims} :
    (client.verifyResponse now response (some settings)).runOn wire = (.ok claims, after) ↔
      ∃ token keySet request, Signed response token ∧ client.KeySetFetch settings request ∧
        wire.reply.Carries keySet ∧ Token.verifyWith now token keySet = .ok claims ∧
        wire.sent request = after := by
  unfold verifyResponse TokenVerifier.verify TokenVerifier.fetchKeySet KeySetFetch
  simp only [runOn_bind_eq_ok_iff, runOn_ofExcept, Prod.mk.injEq, mapError_eq_ok_iff,
    fetchJson_runOn_eq_ok_iff, signedResult_eq_ok_iff]
  constructor
  · rintro ⟨token, _, ⟨htoken, rfl⟩, keySet, _,
      ⟨location, _, ⟨hlocation, rfl⟩, hcarries, rfl⟩, hclaims, rfl⟩
    exact ⟨token, keySet, _, htoken, ⟨location, hlocation, rfl⟩, hcarries, hclaims, rfl⟩
  · rintro ⟨token, keySet, _, htoken, ⟨location, hlocation, rfl⟩, hcarries, hclaims, rfl⟩
    exact ⟨token, wire, ⟨htoken, rfl⟩, keySet, _,
      ⟨location, wire, ⟨hlocation, rfl⟩, hcarries, rfl⟩, hclaims, rfl⟩

/-- What a verdict rests on: the token that the reply to a submission has, and the key set in the
reply after that, under which the token is accepted. -/
def Vouches (now : Int) (posted fetched : Reply) (passed : Bool) (response : Json) : Prop :=
  ∃ token keySet claims,
    posted.Carries response ∧ Signed response token ∧ fetched.Carries keySet ∧
      Token.verifyWith now token keySet = .ok claims ∧ passed = claims.verdict

/-- A submission returns what two replies vouch for, after it has sent all its requests. -/
theorem submit_runOn_eq_ok_iff {passed : Bool} {response : Json} :
    (client.submit now items nonce options).runOn wire = (.ok (passed, response), after) ↔
      ∃ requests posted fetched,
        (client.plan (client.effective options) items nonce).Completed requests ∧
        after.events = wire.events ++ requests.map .request ∧
        wire.replies = posted :: fetched :: after.replies ∧
        Vouches now posted fetched passed response := by
  unfold submit
  simp only [runOn_bind_eq_ok_iff, postEvidence_runOn_eq_ok_iff, verifyResponse_runOn_eq_ok_iff,
    runOn_pure, Prod.mk.injEq, Except.ok.injEq]
  constructor
  · rintro ⟨_, _, ⟨post, hpost, hposted, rfl⟩, claims, _,
      ⟨token, keySet, get, htoken, hget, hfetched, hclaims, rfl⟩, ⟨rfl, rfl⟩, rfl⟩
    refine ⟨[post, get], wire.reply, (wire.sent post).reply,
      plan_completed_iff.mpr ⟨post, get, rfl, hpost, hget⟩, ?_, ?_,
      token, keySet, claims, hposted, htoken, hfetched, hclaims, rfl⟩
    · rw [Wire.sent_events, Wire.sent_events, List.append_assoc]
      rfl
    · rw [Wire.replies_eq_of_carries hposted, ← Wire.sent_replies wire post,
        Wire.replies_eq_of_carries hfetched]
      rfl
  · rintro ⟨_, posted, fetched, hrequests, hevents, hreplies, token, keySet, claims, hposted,
      htoken, hfetched, hclaims, rfl⟩
    obtain ⟨post, get, rfl, hpost, hget⟩ := plan_completed_iff.mp hrequests
    -- The two replies are the next ones of the wire, one for each request.
    have hfirst : wire.reply = posted := by
      rw [Wire.reply, hreplies, List.headD_cons]
    have hsecond : (wire.sent post).reply = fetched := by
      rw [Wire.reply, Wire.sent_replies, hreplies, List.tail_cons, List.headD_cons]
    have hafter : (wire.sent post).sent get = after := by
      apply Wire.ext
      · rw [Wire.sent_replies, Wire.sent_replies, hreplies, List.tail_cons, List.tail_cons]
      · rw [Wire.sent_events, Wire.sent_events, hevents, List.append_assoc]
        rfl
    exact ⟨response, wire.sent post, ⟨post, hpost, hfirst ▸ hposted, rfl⟩, claims, after,
      ⟨token, keySet, get, htoken, hget, hsecond ▸ hfetched, hclaims, hafter⟩, ⟨rfl, rfl⟩, rfl⟩

end Client

end MeshAttest
