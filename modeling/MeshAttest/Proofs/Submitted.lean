import MeshAttest.Attester
import MeshAttest.Proofs.Collection
import MeshAttest.Proofs.Octets
import MeshAttest.Proofs.Round
import MeshAttest.Proofs.Verifier.Entries

/-!
# What is submitted

The verifier gets what was checked on the spot, and nothing else. Between the reports that a check
has read and the body of a request there are base64, the entries of a submission and the plan of a
round; `Round.PostsVerified` says of the requests that were sent what all of them come to. A round
keeps to it over every wire (`Round.run_sends`). An attester does as well, with the evidence that
its sources have yielded for the nonce (`Attester.attempt_sends`).
-/

set_option autoImplicit false

namespace MeshAttest

open Outcome Attempt

/-! ### Bodies -/

/-- The text writes the nonce in lower-case hexadecimal digits. -/
structure WritesNonce (nonce : Bytes) (text : String) : Prop where
  lower : ∀ c ∈ text.toList, Bytes.IsLowerHexDigit c
  length_eq : text.toList.length = 2 * nonce.length
  ofHex?_eq : Bytes.ofHex? text = some nonce

/-- The hexadecimal text of a nonce writes it. -/
theorem writesNonce_hex (nonce : Bytes) : WritesNonce nonce nonce.hex := by
  have htext : nonce.hex.toList = nonce.hexChars := String.toList_ofList
  refine ⟨?_, ?_, nonce.ofHex?_hex⟩
  · rw [htext]
    intro c hc
    exact Bytes.isLowerHexDigit_of_mem_hexChars hc
  · rw [htext, Bytes.length_hexChars]

/-- The entry has a certificate, evidence, and no other key. They are the chain and the report in
base64. -/
def CollectedEvidence.EnteredAs (item : CollectedEvidence) (entry : Json) : Prop :=
  ∃ certificate evidence,
    entry = .object [("certificate", .string certificate), ("evidence", .string evidence)] ∧
      Base64.decode certificate = .ok item.chain ∧ Base64.decode evidence = .ok item.report

/-- The entry of a piece of evidence has its chain and its report, and both can be read back from
it. -/
theorem CollectedEvidence.enteredAs_entry (item : CollectedEvidence) :
    item.EnteredAs item.entry.toJson :=
  ⟨_, _, rfl, Base64.decode_encode item.chain, Base64.decode_encode item.report⟩

/-- The body has the text of a nonce, and one entry for each piece of evidence, in order. -/
structure Submits (body : Json) (nonceText : String) (items : List CollectedEvidence) : Prop where
  nonce_eq : body.get? "nonce" = some (.string nonceText)
  entered : ∃ entries, body.get? "evidence_list" = some (.array entries) ∧
    List.Forall₂ CollectedEvidence.EnteredAs items entries

/-- The form in which evidence is submitted does not show in the body. -/
theorem submits_of_payload {form : CollectedEvidence → Item}
    (hform : ∀ item, (form item).entry = .ok item.entry) {items : List CollectedEvidence}
    {nonce : Bytes} {claimsVersion : Option String} {architecture : Architecture} {body : Json}
    (h : payload (items.map form) (.octets nonce) claimsVersion architecture = .ok body) :
    Submits body nonce.hex items := by
  obtain rfl := (payload_map_eq_ok_iff hform).mp h
  refine ⟨rfl, _, rfl, ?_⟩
  rw [List.map_map, List.forall₂_map_right_iff]
  exact List.forall₂_same.mpr fun item _ ↦ item.enteredAs_entry

/-! ### Requests -/

/-- Any request of a plan that has been begun is the one that is planned in its place. -/
theorem Plan.Begun.exists_getElem? {plan : Plan} {requests : List Request}
    (h : plan.Begun requests) {i : Nat} {request : Request} (hi : requests[i]? = some request) :
    ∃ planned, plan[i]? = some planned ∧ planned request := by
  obtain ⟨first, ⟨rest, rfl⟩, hcompleted⟩ := h
  obtain ⟨hlt, rfl⟩ := List.getElem?_eq_some_iff.mp hi
  have hfirst : i < first.length := hcompleted.length_eq ▸ hlt
  refine ⟨first[i], ?_, hcompleted.get hfirst hlt⟩
  rw [List.getElem?_append_left hfirst, List.getElem?_eq_getElem hfirst]

/-- Nothing is posted to fetch a key set. -/
theorem Client.not_keySetFetch_post {client : Client} {settings : Options} {url : String}
    {body : Json} {headers : Option (List (String × String))} {timeout : Option Int} :
    ¬ client.KeySetFetch settings (.post url body headers timeout) := by
  rintro ⟨location, -, hsame⟩
  cases hsame

namespace Round

variable {round : Round} {now : Int} {gpus switches : List CollectedEvidence} {nonce : Bytes}
  {wire : Wire}

/-- The reports have passed both checks on the spot. -/
def Verifies (round : Round) (gpus switches : List CollectedEvidence) : Prop :=
  ∃ switchPdis gpuPdis, round.deviceCheck.run (gpus.map (·.report)) = .ok switchPdis ∧
    (round.neighborCheck switchPdis).run (switches.map (·.report)) = .ok gpuPdis

/-- Evidence that comes through the gate has passed both checks. -/
theorem verifies_of_gate_eq_ok {sets : PdiSet × PdiSet} (h : round.gate gpus switches = .ok sets) :
    round.Verifies gpus switches := by
  obtain ⟨switchPdis, gpuPdis⟩ := sets
  obtain ⟨hgpus, hswitches⟩ := describes_iff.mp (gate_eq_ok_iff.mp h)
  exact ⟨switchPdis, gpuPdis, DeviceCheck.run_eq_ok_iff.mpr hgpus,
    NeighborCheck.run_eq_ok_iff.mpr hswitches⟩

/-- Whatever the requests post has passed the checks. The first request may post the evidence of the
GPUs, the third one that of the switches, and no other request posts anything. -/
def PostsVerified (round : Round) (gpus switches : List CollectedEvidence) (nonceText : String)
    (requests : List Request) : Prop :=
  ∀ i url body headers timeout, requests[i]? = some (.post url body headers timeout) →
    round.Verifies gpus switches ∧
      ((i = 0 ∧ url = round.gpuClient.options.url round.gpuClient.architecture ∧
          Submits body nonceText gpus) ∨
        (i = 2 ∧ url = round.switchClient.options.url round.switchClient.architecture ∧
          Submits body nonceText switches))

theorem postsVerified_nil {nonceText : String} :
    round.PostsVerified gpus switches nonceText [] := by
  intro i url body headers timeout hi
  cases hi

/-- A round that keeps to its plan posts nothing but evidence that has passed the checks, each part
in its place. -/
theorem postsVerified_of_begun {requests : List Request} (hverifies : round.Verifies gpus switches)
    (hbegun : (round.plan gpus switches nonce).Begun requests) :
    round.PostsVerified gpus switches nonce.hex requests := by
  intro i url body headers timeout hi
  refine ⟨hverifies, ?_⟩
  obtain ⟨planned, hplanned, hpost⟩ := hbegun.exists_getElem? hi
  -- The plan has four requests, and every other one is for a key set.
  rcases i with _ | _ | _ | _ | i
  · left
    obtain rfl := Option.some.inj hplanned
    obtain ⟨_, hbody, hsame⟩ := hpost
    cases hsame
    exact ⟨rfl, rfl, submits_of_payload (fun _ ↦ rfl) hbody⟩
  · obtain rfl := Option.some.inj hplanned
    exact absurd hpost Client.not_keySetFetch_post
  · right
    obtain rfl := Option.some.inj hplanned
    obtain ⟨_, hbody, hsame⟩ := hpost
    cases hsame
    exact ⟨rfl, rfl, submits_of_payload (fun _ ↦ rfl) hbody⟩
  · obtain rfl := Option.some.inj hplanned
    exact absurd hpost Client.not_keySetFetch_post
  · cases hplanned

/-- A round sends nothing but what it has verified. -/
theorem run_sends (round : Round) (now : Int) (gpus switches : List CollectedEvidence)
    (nonce : Bytes) (wire : Wire) :
    ∃ requests, wire.Sends requests ((round.run now gpus switches nonce).runOn wire).2 ∧
      round.PostsVerified gpus switches nonce.hex requests := by
  cases hgate : round.gate gpus switches with
  | error fault =>
    rw [run_runOn_of_gate_error hgate]
    exact ⟨[], wire.sends_nil, postsVerified_nil⟩
  | ok sets =>
    obtain ⟨requests, hsends, hbegun, -⟩ := run_follows round now gpus switches nonce wire
    exact ⟨requests, hsends, postsVerified_of_begun (verifies_of_gate_eq_ok hgate) hbegun⟩

end Round

/-! ### Attesters -/

/-- To read a source is to send nothing. -/
theorem filterMap_request?_of_readsFor {nonce : Bytes} {readings : List Event}
    (h : ∀ event ∈ readings, event.ReadsFor nonce) :
    readings.filterMap Event.request? = [] := by
  rw [List.filterMap_eq_nil_iff]
  intro event hevent
  cases event with
  | source name call => rfl
  | request request => exact absurd (h _ hevent) id

namespace Attester

variable {attester : Attester} {now : Int} {nonce : Bytes} {gpuSource switchSource : EvidenceSource}

/-- The evidence is what the sources yield in two sessions after what has happened, first that for
the GPUs and then that for the switches. -/
def BothYield (gpuSource switchSource : EvidenceSource) (past : List Event) (nonce : Bytes)
    (gpus switches : List CollectedEvidence) : Prop :=
  gpuSource.Yields past nonce gpus ∧
    switchSource.Yields
      (gpuSource.since past (EvidenceSource.fullSession nonce (gpus.map (·.device)))) nonce switches

/-- What an attester does after what has happened: first it reads for the nonce, and then it may
send requests. What they post is what the sources have yielded, and it has been verified. -/
structure Sends (attester : Attester) (past : List Event) (nonce : Bytes)
    (gpuSource switchSource : EvidenceSource) (readings : List Event) (requests : List Request) :
    Prop where
  readsFor : ∀ event ∈ readings, event.ReadsFor nonce
  posted : requests ≠ [] → ∃ gpus switches,
    BothYield gpuSource switchSource past nonce gpus switches ∧
      attester.round.PostsVerified gpus switches nonce.hex requests

/-- The sessions come before the requests, so that a failure of one of them leaves readings only. -/
theorem attempt_sends (attester : Attester) (now : Int) (nonce : Bytes)
    (gpuSource switchSource : EvidenceSource) (wire : Wire) :
    ∃ readings requests,
      ((attester.attempt now nonce gpuSource switchSource).runOn wire).2.events =
        wire.events ++ (readings ++ requests.map .request) ∧
      attester.Sends wire.events nonce gpuSource switchSource readings requests := by
  obtain ⟨gpuReadings, hmiddle, hgpuReadings⟩ := gpuSource.session_collect_notes nonce wire
  rcases hgpus : (gpuSource.session (gpuSource.collect nonce none)).runOn wire with
    ⟨outcome, middle⟩
  rw [hgpus] at hmiddle
  change middle = _ at hmiddle
  cases outcome with
  | error failure =>
    refine ⟨gpuReadings, [], ?_, hgpuReadings, fun hne ↦ absurd rfl hne⟩
    rw [attempt, runOn_bind_of_error hgpus, hmiddle, List.map_nil, List.append_nil]
  | ok gpus =>
    obtain ⟨switchReadings, hlast, hswitchReadings⟩ :=
      switchSource.session_collect_notes nonce middle
    have hreadings := List.forall_mem_append.mpr ⟨hgpuReadings, hswitchReadings⟩
    rcases hswitches : (switchSource.session (switchSource.collect nonce none)).runOn middle with
      ⟨outcome, last⟩
    rw [hswitches] at hlast
    change last = _ at hlast
    cases outcome with
    | error failure =>
      refine ⟨gpuReadings ++ switchReadings, [], ?_, hreadings, fun hne ↦ absurd rfl hne⟩
      rw [attempt, runOn_bind_of_ok hgpus, runOn_bind_of_error hswitches, hlast, hmiddle,
        List.map_nil, List.append_nil, List.append_assoc]
    | ok switches =>
      obtain ⟨requests, hsends, hposts⟩ :=
        attester.round.run_sends now gpus switches nonce last
      obtain ⟨hgpuYields, hgpuAfter⟩ := EvidenceSource.yields_of_session_collect hgpus
      obtain ⟨hswitchYields, -⟩ := EvidenceSource.yields_of_session_collect hswitches
      -- The second session starts from what the first one leaves, which is part of its past.
      rw [hgpuAfter, EvidenceSource.called_events] at hswitchYields
      refine ⟨gpuReadings ++ switchReadings, requests, ?_, hreadings, fun _ ↦ ⟨gpus, switches,
        ⟨hgpuYields, hswitchYields⟩, hposts⟩⟩
      rw [attempt, runOn_bind_of_ok hgpus, runOn_bind_of_ok hswitches, hsends.events_eq, hlast,
        hmiddle, List.append_assoc, List.append_assoc, List.append_assoc]

end Attester

/-- There is one text for a nonce, and every submission made for the nonce has it. What is submitted
beside it is, entry by entry, the evidence whose reports were verified. An attester has fetched all
of that evidence for the nonce, from the devices that its sources list and in their order. -/
theorem exists_nonceText_forall_submitted (nonce : Bytes) :
    ∃ nonceText, WritesNonce nonce nonceText ∧
      (∀ (round : Round) (now : Int) (gpus switches : List CollectedEvidence)
        (replies : List Reply),
        round.PostsVerified gpus switches nonceText
          ((round.run now gpus switches nonce).runWith replies).2.requests) ∧
      ∀ (attester : Attester) (now : Int) (gpuSource switchSource : EvidenceSource)
        (replies : List Reply) (wire : Wire),
        (attester.attest now nonce gpuSource switchSource replies).1.2 = wire →
        (∀ name device used,
          Event.source name (.fetch device used) ∈ wire.events → used = nonce) ∧
        (wire.requests ≠ [] → ∃ gpus switches,
          Attester.BothYield gpuSource switchSource [] nonce gpus switches ∧
            attester.round.PostsVerified gpus switches nonceText wire.requests) := by
  refine ⟨nonce.hex, writesNonce_hex nonce, ?_, ?_⟩
  · intro round now gpus switches replies
    obtain ⟨requests, hsends, hposts⟩ :=
      round.run_sends now gpus switches nonce (Wire.ofReplies replies)
    rw [runWith_eq_runOn, hsends.requests_eq]
    exact hposts
  · rintro attester now gpuSource switchSource replies wire rfl
    obtain ⟨readings, requests, hevents, hsends⟩ :=
      attester.attempt_sends now nonce gpuSource switchSource (Wire.ofReplies replies)
    change (attester.attest now nonce gpuSource switchSource replies).1.2.events =
      readings ++ requests.map .request at hevents
    have hrequests :
        (attester.attest now nonce gpuSource switchSource replies).1.2.requests = requests := by
      rw [Wire.requests, hevents, List.filterMap_append, Wire.filterMap_request?_map,
        filterMap_request?_of_readsFor hsends.readsFor, List.nil_append]
    rw [hrequests, hevents]
    refine ⟨?_, hsends.posted⟩
    intro name device used hmem
    rcases List.mem_append.mp hmem with hread | hsent
    · exact hsends.readsFor _ hread
    · obtain ⟨request, -, hsame⟩ := List.mem_map.mp hsent
      cases hsame

end MeshAttest
