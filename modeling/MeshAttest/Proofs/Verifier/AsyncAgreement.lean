import MeshAttest.Proofs.KeySet.Location
import MeshAttest.Proofs.Verifier.Entries
import MeshAttest.Proofs.Verifier.Submission
import MeshAttest.Verifier.AsyncClient

/-!
# The client that does not wait

`AsyncClient` does what `Client` does, as far as the requests of both are sent as they are written.
That is a matter of URLs and headers, and `clients_alike` says of which ones: given the same
replies, the two clients send the same requests up to the case of schemes, and come to the same
outcome. Only a user in the URL shows in the headers of the second one. Both follow the same steps,
and `Attempt.Alike` is shown step by step. `clients_differ` has settings for which the clients part.
-/

set_option autoImplicit false

namespace MeshAttest

open Outcome Attempt

/-! ### Attempts that do the same -/

/-- The requests are the same, up to the case of the schemes of their URLs, and to what becomes of
the headers of the first one. -/
inductive Request.Alike (become : List (String × String) → List (String × String)) :
    Request → Request → Prop
  | get {url other : String} {timeout : Option Int}
    (h : Url.lowerScheme url = Url.lowerScheme other) :
    Alike become (.get url timeout) (.get other timeout)
  | post {url other : String} {body : Json} {headers : Option (List (String × String))}
    {timeout : Option Int} (h : Url.lowerScheme url = Url.lowerScheme other) :
    Alike become (.post url body headers timeout) (.post other body (headers.map become) timeout)

namespace Attempt

variable {α β : Type} {become : List (String × String) → List (String × String)}

/-- Given the same replies, the attempts send alike requests, and come to the same outcome. -/
def Alike (become : List (String × String) → List (String × String)) (attempt other : Attempt α) :
    Prop :=
  ∀ wire otherWire : Wire, wire.replies = otherWire.replies → ∃ requests otherRequests,
    List.Forall₂ (Request.Alike become) requests otherRequests ∧
      wire.Sends requests (attempt.runOn wire).2 ∧
      otherWire.Sends otherRequests (other.runOn otherWire).2 ∧
      (attempt.runOn wire).1 = (other.runOn otherWire).1

theorem alike_ofExcept (outcome : Except Failure α) :
    Alike become (ofExcept outcome : Attempt α) (ofExcept outcome) := by
  intro wire otherWire _
  rw [runOn_ofExcept, runOn_ofExcept]
  exact ⟨[], [], .nil, wire.sends_nil, otherWire.sends_nil, rfl⟩

/-- Two ways to send a request are alike if the requests are, and both come to the next reply. -/
theorem alike_of_sent {attempt other : Attempt Reply} {request otherRequest : Request}
    (h : request.Alike become otherRequest)
    (hrun : ∀ wire, attempt.runOn wire = (.ok wire.reply, wire.sent request))
    (hother : ∀ wire, other.runOn wire = (.ok wire.reply, wire.sent otherRequest)) :
    Alike become attempt other := by
  intro wire otherWire hreplies
  rw [hrun, hother]
  refine ⟨[request], [otherRequest], .cons h .nil, wire.sends_sent _, otherWire.sends_sent _, ?_⟩
  rw [Wire.reply, Wire.reply, hreplies]

/-- Sequences are alike part by part. The second parts need to be alike only where the first part
gives a value. -/
theorem Alike.bind {attempt other : Attempt α} {next otherNext : α → Attempt β}
    (h : Alike become attempt other)
    (hnext : ∀ a wire after, attempt.runOn wire = (.ok a, after) →
      Alike become (next a) (otherNext a)) :
    Alike become (attempt >>= next) (other >>= otherNext) := by
  intro wire otherWire hreplies
  obtain ⟨requests, otherRequests, hrequests, hsends, hotherSends, houtcome⟩ :=
    h wire otherWire hreplies
  rcases hrun : attempt.runOn wire with ⟨outcome, middle⟩
  rcases hother : other.runOn otherWire with ⟨otherOutcome, otherMiddle⟩
  rw [hrun, hother] at houtcome
  rw [hrun] at hsends
  rw [hother] at hotherSends
  change outcome = otherOutcome at houtcome
  subst houtcome
  cases outcome with
  | error failure =>
    rw [runOn_bind_of_error hrun, runOn_bind_of_error hother]
    exact ⟨requests, otherRequests, hrequests, hsends, hotherSends, rfl⟩
  | ok a =>
    rw [runOn_bind_of_ok hrun, runOn_bind_of_ok hother]
    have hmiddle : middle.replies = otherMiddle.replies := by
      rw [hsends.replies_eq, hotherSends.replies_eq, hreplies, hrequests.length_eq]
    obtain ⟨more, otherMore, hmore, hmoreSends, hotherMoreSends, hlast⟩ :=
      hnext a wire middle hrun middle otherMiddle hmiddle
    exact ⟨requests ++ more, otherRequests ++ otherMore, List.rel_append hrequests hmore,
      hsends.trans hmoreSends, hotherSends.trans hotherMoreSends, hlast⟩

/-- A check on the spot in front of both leaves them alike. -/
theorem Alike.ofExcept_bind {outcome : Except Failure α} {next otherNext : α → Attempt β}
    (hnext : ∀ a, outcome = .ok a → Alike become (next a) (otherNext a)) :
    Alike become ((ofExcept outcome : Attempt α) >>= next) (ofExcept outcome >>= otherNext) := by
  refine (alike_ofExcept outcome).bind fun a wire after hrun ↦ hnext a ?_
  rw [runOn_ofExcept] at hrun
  exact congrArg Prod.fst hrun

end Attempt

/-! ### Sending -/

/-- A value can be sent: all numbers in it are finite, and all strings are texts. -/
structure Json.IsSendable (value : Json) : Prop where
  finite : value.isFinite = true
  encodable : value.isEncodable = true

/-- A request that can be sent is sent in its own form, and the next reply is taken. -/
theorem Attempt.deliver_runOn {request outgoing : Request} {sent : SentUrl}
    (houtgoing : request.outgoing = .ok (sent, outgoing)) (horigin : sent.checkOrigin = .ok ())
    (wire : Wire) : (deliver request).runOn wire = (.ok wire.reply, wire.sent outgoing) := by
  rw [deliver, houtgoing]
  refine (runOn_bind_of_ok (runOn_ofExcept _ _)).trans ?_
  refine (runOn_bind_of_ok (runOn_exchange _ _)).trans ?_
  cases wire.reply with
  | failure cause => exact runOn_pure _ _
  | answer status body =>
    rw [horigin]
    exact runOn_bind_of_ok (runOn_ofExcept _ _)

namespace SentUrl

variable {url : String} {sent : SentUrl}

/-- A request for a URL that can be sent goes out in the form of this URL. -/
theorem Reaches.outgoing_get (h : Reaches url sent) (timeout : Option Int) :
    (Request.get url timeout).outgoing = .ok (sent, .get sent.text timeout) := by
  rw [Request.outgoing, h.address_eq]
  change (Request.checkHost sent >>= fun _ ↦ _) = _
  rw [h.checkHost_eq]
  rfl

theorem authorize_of_credentials (hcredentials : sent.credentials? = none)
    (headers : List (String × String)) : Request.authorize sent headers = headers := by
  rw [Request.authorize, hcredentials, ite_self]

/-- A body that can be sent goes out as it is, with the headers that the credentials of the URL call
for. -/
theorem Reaches.outgoing_post (h : Reaches url sent) {body : Json}
    (hbody : body.IsSendable) {headers : List (String × String)}
    (hheaders : headers.all (fun header ↦ Host.isAscii header.2.toList) = true)
    (timeout : Option Int) :
    (Request.post url body (some headers) timeout).outgoing =
      .ok (sent, .post sent.text body (some (Request.authorize sent headers)) timeout) := by
  rw [Request.outgoing, h.address_eq]
  simp only [Option.getD_some, hheaders, hbody.finite, hbody.encodable, Bool.not_true,
    Option.map_some]
  change (Request.checkHost sent >>= fun _ ↦ _) = _
  rw [h.checkHost_eq]
  rfl

/-- To fetch a URL that is sent as it is written is alike for both ways to send. -/
theorem AsWritten.fetch_alike (h : AsWritten url sent)
    (become : List (String × String) → List (String × String)) (timeout : Option Int) :
    Alike become (exchange (.get url timeout)) (deliver (.get url timeout)) :=
  alike_of_sent (.get h.lowerScheme_eq.symm) (runOn_exchange _)
    (deliver_runOn (h.reaches.outgoing_get timeout) h.checkOrigin_eq)

/-- To post to a URL that is sent as it is written is alike for both ways to send, up to what the
credentials of the URL make of the headers. -/
theorem AsWritten.post_alike (h : AsWritten url sent) {body : Json}
    (hbody : body.IsSendable) {headers : List (String × String)}
    (hheaders : headers.all (fun header ↦ Host.isAscii header.2.toList) = true)
    (timeout : Option Int) :
    Alike (Request.authorize sent) (exchange (.post url body (some headers) timeout))
      (deliver (.post url body (some headers) timeout)) :=
  alike_of_sent (.post h.lowerScheme_eq.symm) (runOn_exchange _)
    (deliver_runOn (h.reaches.outgoing_post hbody hheaders timeout) h.checkOrigin_eq)

end SentUrl

/-! ### Bodies and headers -/

/-- The evidence can be sent. -/
def Item.IsSendable (item : Item) : Prop :=
  ∀ entry, item.entry = .ok entry → entry.certificate.IsSendable ∧ entry.evidence.IsSendable

section Tests

variable {test : Json → Bool}

/-- What holds of both parts of every entry holds of the whole list of entries. -/
theorem Json.allItems_of_forall₂ {items : List Item} {entries : List Entry}
    (hitems : ∀ item ∈ items, ∀ entry, item.entry = .ok entry →
      entry.certificate.all test = true ∧ entry.evidence.all test = true)
    (h : List.Forall₂ (fun item entry ↦ item.entry = .ok entry) items entries) :
    allItems test (entries.map Entry.toJson) = true := by
  induction h with
  | nil => rfl
  | @cons item entry items entries hentry _ ih =>
    obtain ⟨hfirst, hrest⟩ := List.forall_mem_cons.mp hitems
    obtain ⟨hcertificate, hevidence⟩ := hfirst entry hentry
    rw [List.map_cons, allItems, ih hrest, Entry.toJson, all, allEntries, allEntries, allEntries,
      hcertificate, hevidence]
    rfl

/-- A test that texts and null pass is passed by a body if the evidence passes it. -/
theorem Json.all_of_payload {items : List Item} {nonce : SubmittedNonce}
    {claimsVersion : Option String} {architecture : Architecture} {body : Json}
    (htext : ∀ text, test (.string text) = true) (hnull : test .null = true)
    (hitems : ∀ item ∈ items, ∀ entry, item.entry = .ok entry →
      entry.certificate.all test = true ∧ entry.evidence.all test = true)
    (h : payload items nonce claimsVersion architecture = .ok body) : body.all test = true := by
  obtain ⟨entries, hentries, rfl⟩ := payload_eq_ok_iff.mp h
  have hlist := allItems_of_forall₂ hitems hentries
  have hnonce : nonce.toJson.all test = true := by
    cases nonce with
    | octets bytes => exact htext _
    | text chars => exact htext _
    | absent => rfl
  have hversion : ((claimsVersion.map Json.string).getD .null).all test = true := by
    cases claimsVersion with
    | none => exact hnull
    | some version => exact htext _
  simp only [bodyOf, all, allEntries, hlist, hnonce, hversion, htext, Bool.and_self]

end Tests

/-- A body can be sent if the evidence in it can. All else in it is text. -/
theorem isSendable_of_payload {items : List Item} {nonce : SubmittedNonce}
    {claimsVersion : Option String} {architecture : Architecture} {body : Json}
    (hitems : ∀ item ∈ items, item.IsSendable)
    (h : payload items nonce claimsVersion architecture = .ok body) : body.IsSendable where
  finite := Json.all_of_payload (fun _ ↦ rfl) rfl (fun item hitem entry hentry ↦
    (hitems item hitem entry hentry).imp (·.finite) (·.finite)) h
  encodable := Json.all_of_payload (fun _ ↦ rfl) rfl (fun item hitem entry hentry ↦
    (hitems item hitem entry hentry).imp (·.encodable) (·.encodable)) h

/-- The service key, if there is one, is ASCII. -/
def Options.HasAsciiKey (options : Options) : Prop :=
  ∀ key, options.serviceKey = some key → Host.isAscii key.toList = true

/-- With a service key in ASCII all headers are ASCII. -/
theorem Options.HasAsciiKey.headers_all {options : Options} (h : options.HasAsciiKey) :
    options.headers.all (fun header ↦ Host.isAscii header.2.toList) = true := by
  have hkey : ((nonempty options.serviceKey).map fun key ↦ (authorizationHeader, key)).toList.all
      (fun header ↦ Host.isAscii header.2.toList) = true := by
    cases hnonempty : nonempty options.serviceKey with
    | none => rfl
    | some key =>
      have hsome := (Option.filter_eq_some_iff.mp hnonempty).1
      rw [Option.map_some, Option.toList_some, List.all_cons, List.all_nil, h key hsome]
      rfl
  rw [Options.headers, List.all_append, List.all_append, hkey]
  split <;> decide

/-! ### The clients -/

namespace Client

/-- A submission, step by step. -/
theorem submit_eq (client : Client) (now : Int) (items : List Item) (nonce : SubmittedNonce)
    (options : Option Options) :
    client.submit now items nonce options = (do
      let settings := client.effective options
      let response ← client.postEvidence items nonce (some settings)
      let token ← ofExcept ((signedResult response).mapError .response)
      let location ← ofExcept
        ((KeySet.location (settings.url client.architecture)).mapError .location)
      let reply ← exchange (.get location (settings.timeout <|> client.verifier.timeout))
      let keySet ← ofExcept ((reply.decode .get location).mapError .transport)
      let claims ← ofExcept ((Token.verifyWith now token keySet).mapError .token)
      return (claims.verdict, response)) := by
  unfold submit verifyResponse TokenVerifier.verify TokenVerifier.fetchKeySet fetchJson
  simp only [bind_assoc]
  rfl

end Client

section Agreement

variable {architecture : Architecture} {clientOptions settings : Options} {verifier : TokenVerifier}
  {items : List Item} {sent : SentUrl}

/-- Both clients post the same evidence to a URL that is sent as it is written. Beyond the headers,
what the credentials of the URL make of them included, their requests do not differ. -/
theorem postEvidence_alike (hsent : SentUrl.AsWritten (settings.url architecture) sent)
    (hitems : ∀ item ∈ items, item.IsSendable) (hkey : settings.HasAsciiKey)
    (nonce : SubmittedNonce) :
    Alike (Request.authorize sent)
      ((Client.create architecture clientOptions verifier).postEvidence items nonce
        (some settings))
      (AsyncClient.postEvidence ⟨architecture, clientOptions⟩ items nonce (some settings)) := by
  refine Alike.ofExcept_bind fun body hbody ↦ ?_
  have hsendable := isSendable_of_payload hitems (mapError_eq_ok_iff.mp hbody)
  refine (hsent.post_alike hsendable hkey.headers_all settings.timeout).bind ?_
  exact fun reply _ _ _ ↦ alike_ofExcept _

/-- Both clients make the same submission: the same evidence is posted, the key set of the same
location is fetched, and the replies to both are judged alike. The clients would part where the port
is the usual one, since it is not sent then, and where the location is too long to be sent. -/
theorem submit_alike (hsent : SentUrl.AsWritten (settings.url architecture) sent)
    (hitems : ∀ item ∈ items, item.IsSendable) (hkey : settings.HasAsciiKey)
    (husual : ¬ sent.HasUsualPort)
    (hsize : ∀ location, KeySet.location (settings.url architecture) = .ok location →
      location.length ≤ SentUrl.maximumSize)
    (htimeout : settings.timeout.isSome = true) (now : Int) (nonce : SubmittedNonce) :
    Alike (Request.authorize sent)
      ((Client.create architecture clientOptions verifier).submit now items nonce (some settings))
      (AsyncClient.submit ⟨architecture, clientOptions⟩ now items nonce (some settings)) := by
  have hfallback : (settings.timeout <|> verifier.timeout) = settings.timeout := by
    obtain ⟨timeout, htimeout⟩ := Option.isSome_iff_exists.mp htimeout
    rw [htimeout]
    rfl
  rw [Client.submit_eq]
  refine (postEvidence_alike hsent hitems hkey nonce).bind fun response _ _ _ ↦ ?_
  refine Alike.ofExcept_bind fun token _ ↦ ?_
  refine Alike.ofExcept_bind fun location hfound ↦ ?_
  -- From here on the clients part unless the location is sent as it is written as well.
  have hlocation := mapError_eq_ok_iff.mp hfound
  obtain ⟨sentLocation, hsentLocation⟩ :=
    hsent.exists_location hlocation husual (hsize location hlocation)
  have hfetch : Alike (Request.authorize sent)
      (exchange (.get location (settings.timeout <|> verifier.timeout)))
      (deliver (.get location settings.timeout)) := by
    rw [hfallback]
    exact hsentLocation.fetch_alike _ settings.timeout
  refine Alike.bind hfetch fun reply _ _ _ ↦ ?_
  refine Alike.ofExcept_bind fun keySet _ ↦ ?_
  exact Alike.ofExcept_bind fun claims _ ↦ alike_ofExcept (.ok (claims.verdict, response))

end Agreement

/-- Both clients send the same evidence and take the same from the reply, if the URL of the verifier
is sent as it is written, the service key is ASCII and the evidence can be sent: its numbers are
finite, and its strings are texts. A submission is the same from start to end if there is a time
limit, and the key-set URL neither names the usual port nor gets too long. The headers are the same
too if there is no user in the URL. The time limit of the verifier that the first client has does
not matter. -/
theorem clients_alike (architecture : Architecture) (clientOptions : Options)
    (options : Option Options) (verifier : TokenVerifier) (items : List Item)
    (nonce : SubmittedNonce) (now : Int) (sent : SentUrl)
    (hsent : SentUrl.AsWritten ((options.getD clientOptions).url architecture) sent)
    (hkey : (options.getD clientOptions).HasAsciiKey) (hitems : ∀ item ∈ items, item.IsSendable) :
    Alike (Request.authorize sent)
        ((Client.create architecture clientOptions verifier).postEvidence items nonce options)
        (AsyncClient.postEvidence ⟨architecture, clientOptions⟩ items nonce options) ∧
      ((options.getD clientOptions).timeout.isSome = true → ¬ sent.HasUsualPort →
        (∀ location, KeySet.location ((options.getD clientOptions).url architecture) =
          .ok location → location.length ≤ SentUrl.maximumSize) →
        Alike (Request.authorize sent)
          ((Client.create architecture clientOptions verifier).submit now items nonce options)
          (AsyncClient.submit ⟨architecture, clientOptions⟩ now items nonce options)) ∧
      (sent.credentials? = none → Request.authorize sent = id) := by
  refine ⟨postEvidence_alike hsent hitems hkey nonce, ?_, ?_⟩
  · intro htimeout husual hsize
    exact submit_alike hsent hitems hkey husual hsize htimeout now nonce
  · intro hcredentials
    funext headers
    exact SentUrl.authorize_of_credentials hcredentials headers

/-! ### Settings for which the clients agree, and others -/

/-- Settings for a verifier, with a service key or without. -/
def settingsFor (url : String) (serviceKey : Option String) : Options :=
  { verifierUrl := some url, serviceKey }

/-- An address whose letters are in upper case, with a port that is not the usual one. -/
def addressText : String := "HTTP://[2001:DB8::1]:8080/attest"

/-- What is sent for the address. -/
def addressUrl : SentUrl :=
  ⟨"http".toList, [], "2001:DB8::1".toList, some 8080, "/attest".toList, none, none⟩

/-- The address is sent as it is written, in upper case. -/
theorem addressUrl_asWritten : SentUrl.AsWritten addressText addressUrl :=
  ⟨by decide +kernel, by decide +kernel, by decide +kernel, by decide +kernel⟩

theorem addressUrl_not_hasUsualPort : ¬ addressUrl.HasUsualPort := by
  rintro ⟨port, hport, hlookup⟩
  obtain rfl := Option.some.inj hport
  revert hlookup
  decide

theorem addressText_location :
    KeySet.location addressText = .ok "http://[2001:db8::1]:8080/.well-known/jwks.json" := by
  decide +kernel

/-- Neither the case of the address nor its port keeps the clients from doing the same. -/
theorem clients_alike_address :
    Alike id
      ((Client.create .hopper (settingsFor addressText (some "key")) ⟨none⟩).submit 0
        [.device ⟨.string "Yw==", .string "ZQ=="⟩] (.octets [1]) none)
      (AsyncClient.submit ⟨.hopper, settingsFor addressText (some "key")⟩ 0
        [.device ⟨.string "Yw==", .string "ZQ=="⟩] (.octets [1]) none) := by
  have hkey : (settingsFor addressText (some "key")).HasAsciiKey := by
    intro key hsome
    obtain rfl := Option.some.inj hsome
    decide
  have hitems : ∀ item ∈ [Item.device ⟨.string "Yw==", .string "ZQ=="⟩], item.IsSendable := by
    intro item hitem entry hentry
    obtain rfl := List.mem_singleton.mp hitem
    obtain rfl := Except.ok.inj hentry
    exact ⟨⟨rfl, rfl⟩, ⟨rfl, rfl⟩⟩
  have hsize : ∀ location, KeySet.location addressText = .ok location →
      location.length ≤ SentUrl.maximumSize := by
    intro location hlocation
    obtain rfl := Except.ok.inj (addressText_location.symm.trans hlocation)
    decide
  obtain ⟨-, hsubmit, hauthorize⟩ :=
    clients_alike .hopper (settingsFor addressText (some "key")) none ⟨none⟩
      [.device ⟨.string "Yw==", .string "ZQ=="⟩] (.octets [1]) 0 addressUrl addressUrl_asWritten
      hkey hitems
  rw [← hauthorize (by decide)]
  exact hsubmit rfl addressUrl_not_hasUsualPort hsize

/-- What alike requests have in common apart from the body. -/
def Request.heading : Request → String × Option (List (String × String)) × Option Int
  | .get url timeout => (Url.lowerScheme url, none, timeout)
  | .post url _ headers timeout => (Url.lowerScheme url, headers, timeout)

/-- Requests that are alike with the same headers have all but the body in common. -/
theorem Request.Alike.heading_eq {request other : Request} (h : request.Alike id other) :
    request.heading = other.heading := by
  cases h with
  | get h => rw [Request.heading, Request.heading, h]
  | post h => rw [Request.heading, Request.heading, h, Option.map_id, id_eq]

/-- Attempts that are alike send requests with the same headings, so that different headings tell
them apart. -/
theorem Attempt.Alike.headings_eq {α : Type} {attempt other : Attempt α}
    (h : Alike id attempt other) (replies : List Reply) :
    (attempt.runWith replies).2.requests.map Request.heading =
      (other.runWith replies).2.requests.map Request.heading := by
  obtain ⟨requests, otherRequests, hrequests, hsends, hotherSends, -⟩ :=
    h (Wire.ofReplies replies) (Wire.ofReplies replies) rfl
  rw [runWith_eq_runOn, runWith_eq_runOn, hsends.requests_eq, hotherSends.requests_eq]
  change requests.map Request.heading = otherRequests.map Request.heading
  rw [← List.forall₂_eq_eq_eq, List.forall₂_map_left_iff, List.forall₂_map_right_iff]
  exact hrequests.imp fun _ _ ↦ Request.Alike.heading_eq

/-- For URLs that are sent as they are written, the clients differ in the URL of the key set if the
port is the usual one, in the headers if there is a user in the URL, and in whether anything is sent
if the service key is not ASCII. -/
theorem clients_differ :
    (∃ sent, SentUrl.AsWritten "HTTPS://h:443/x" sent ∧
      ¬ Alike id
        ((Client.create .hopper (settingsFor "HTTPS://h:443/x" none)).submit 0 [] .absent none)
        (AsyncClient.submit ⟨.hopper, settingsFor "HTTPS://h:443/x" none⟩ 0 [] .absent none)) ∧
    (∃ sent, SentUrl.AsWritten "http://u@h/x" sent ∧
      ¬ Alike id
        ((Client.create .hopper (settingsFor "http://u@h/x" none)).postEvidence [] .absent none)
        (AsyncClient.postEvidence ⟨.hopper, settingsFor "http://u@h/x" none⟩ [] .absent none)) ∧
    ∃ sent, SentUrl.AsWritten "http://h/x" sent ∧
      ¬ Alike id
        ((Client.create .hopper (settingsFor "http://h/x" (some "é"))).postEvidence [] .absent none)
        (AsyncClient.postEvidence ⟨.hopper, settingsFor "http://h/x" (some "é")⟩ [] .absent
          none) := by
  refine ⟨⟨⟨"https".toList, [], ['h'], some 443, ['/', 'x'], none, none⟩,
      ⟨by decide +kernel, by decide +kernel, by decide +kernel, by decide +kernel⟩, ?_⟩,
    ⟨⟨"http".toList, ['u'], ['h'], none, ['/', 'x'], none, none⟩,
      ⟨by decide +kernel, by decide +kernel, by decide +kernel, by decide +kernel⟩, ?_⟩,
    ⟨"http".toList, [], ['h'], none, ['/', 'x'], none, none⟩,
      ⟨by decide +kernel, by decide +kernel, by decide +kernel, by decide +kernel⟩, ?_⟩
  · intro halike
    have hheadings := halike.headings_eq [.answer 200 "[[0, \"t\"]]"]
    revert hheadings
    decide +kernel
  · intro halike
    have hheadings := halike.headings_eq []
    revert hheadings
    decide +kernel
  · intro halike
    have hheadings := halike.headings_eq []
    revert hheadings
    decide +kernel

end MeshAttest
