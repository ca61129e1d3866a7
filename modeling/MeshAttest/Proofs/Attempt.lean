import MeshAttest.Proofs.Outcome
import MeshAttest.Wire
import Mathlib.Data.List.Forall2

/-!
# Attempts over a wire

What an attempt comes to over a wire: its outcome and the wire that it leaves (`Attempt.runOn`). The
lemmas say this for each way in which attempts are made, so that no proof about an attempt has to
look into the layers that attempts consist of. A step that fails leaves the wire as it is then, and
what was to follow does not happen (`runOn_bind`).

A `Plan` says of one request after the other what it is to be. Attempts that stop early leave their
plan begun, and those that give a value complete it (`Attempt.Follows`). One rule for each way to
make attempts shows that they follow a plan; the rule for a sequence is `Follows.bind`.
-/

set_option autoImplicit false

namespace MeshAttest

/-- The request that an event is, if it is one. -/
def Event.request? : Event → Option Request
  | .request sent => some sent
  | .source _ _ => none

namespace Wire

theorem ext {wire other : Wire} (hreplies : wire.replies = other.replies)
    (hevents : wire.events = other.events) : wire = other := by
  cases wire
  cases other
  rw [Wire.mk.injEq]
  exact ⟨hreplies, hevents⟩

/-- The reply to the next request. -/
def reply (wire : Wire) : Reply := wire.replies.headD silence

/-- The wire after one more request. -/
def sent (wire : Wire) (request : Request) : Wire :=
  ⟨wire.replies.tail, wire.events ++ [.request request]⟩

@[simp] theorem sent_replies (wire : Wire) (request : Request) :
    (wire.sent request).replies = wire.replies.tail := rfl

@[simp] theorem sent_events (wire : Wire) (request : Request) :
    (wire.sent request).events = wire.events ++ [.request request] := rfl

theorem exchange_eq (wire : Wire) (request : Request) :
    wire.exchange request = (wire.reply, wire.sent request) := by
  obtain ⟨replies, events⟩ := wire
  cases replies with
  | nil => rfl
  | cons reply rest => rfl

/-- Between two wires there are some requests and nothing else, and each has taken one reply. -/
structure Sends (wire : Wire) (requests : List Request) (after : Wire) : Prop where
  events_eq : after.events = wire.events ++ requests.map .request
  replies_eq : after.replies = wire.replies.drop requests.length

theorem sends_nil (wire : Wire) : wire.Sends [] wire :=
  ⟨(List.append_nil _).symm, rfl⟩

theorem sends_sent (wire : Wire) (request : Request) : wire.Sends [request] (wire.sent request) :=
  ⟨rfl, List.drop_one.symm⟩

/-- What is sent over a wire and what is sent over the wire after it are sent in this order. -/
theorem Sends.trans {wire middle after : Wire} {requests others : List Request}
    (h : wire.Sends requests middle) (hothers : middle.Sends others after) :
    wire.Sends (requests ++ others) after := by
  constructor
  · rw [hothers.events_eq, h.events_eq, List.map_append, List.append_assoc]
  · rw [hothers.replies_eq, h.replies_eq, List.drop_drop, List.length_append]

/-- What has been sent between two wires can be told from the two of them. -/
theorem Sends.unique {wire after : Wire} {requests others : List Request}
    (h : wire.Sends requests after) (hothers : wire.Sends others after) : requests = others := by
  have hinjective : Function.Injective Event.request := fun _ _ hsame ↦ Event.request.inj hsame
  apply hinjective.list_map
  exact List.append_cancel_left (h.events_eq.symm.trans hothers.events_eq)

/-- The requests that have been sent. -/
def requests (wire : Wire) : List Request := wire.events.filterMap Event.request?

theorem filterMap_request?_map (requests : List Request) :
    (requests.map Event.request).filterMap Event.request? = requests := by
  rw [List.filterMap_map]
  exact List.filterMap_some

/-- The requests of a wire grow by what is sent over it, and nothing else is lost or added. -/
theorem Sends.requests_eq {wire after : Wire} {requests : List Request}
    (h : wire.Sends requests after) : after.requests = wire.requests ++ requests := by
  rw [Wire.requests, h.events_eq, List.filterMap_append, filterMap_request?_map, Wire.requests]

/-- On a wire on which nothing has happened, the requests determine what is left: each of them takes
one reply. -/
theorem ofReplies_sends_iff {replies : List Reply} {requests : List Request} {after : Wire} :
    (ofReplies replies).Sends requests after ↔
      after = ⟨replies.drop requests.length, requests.map .request⟩ := by
  constructor
  · intro h
    exact ext h.replies_eq h.events_eq
  · rintro rfl
    exact ⟨rfl, rfl⟩

end Wire

namespace Attempt

variable {α β : Type}

/-- The outcome of an attempt over a wire, and the wire that it leaves. -/
def runOn (attempt : Attempt α) (wire : Wire) : Except Failure α × Wire :=
  Id.run ((ExceptT.run attempt).run wire)

/-- To give replies to an attempt is to run it over a wire that holds these replies and no
events. -/
theorem runWith_eq_runOn (attempt : Attempt α) (replies : List Reply) :
    attempt.runWith replies = attempt.runOn (Wire.ofReplies replies) := rfl

@[simp] theorem runOn_pure (a : α) (wire : Wire) :
    runOn (pure a) wire = (.ok a, wire) := rfl

/-- An exchange comes to the next reply, of whatever kind it is. What it is good for is judged
later. -/
@[simp] theorem runOn_exchange (request : Request) (wire : Wire) :
    runOn (exchange request) wire = (.ok wire.reply, wire.sent request) := by
  have hexchange : runOn (exchange request) wire =
      (Except.ok (wire.exchange request).1, (wire.exchange request).2) := rfl
  rw [hexchange, Wire.exchange_eq]

/-- What is decided on the spot has no effect on the wire, also where it fails. -/
@[simp] theorem runOn_ofExcept (outcome : Except Failure α) (wire : Wire) :
    runOn (ofExcept outcome) wire = (outcome, wire) := by
  cases outcome with
  | error failure => rfl
  | ok a => rfl

/-- A sequence goes on over the wire that its first part leaves behind. If that part fails, so does
the sequence, over the same wire. -/
theorem runOn_bind (attempt : Attempt α) (next : α → Attempt β) (wire : Wire) :
    runOn (attempt >>= next) wire =
      match runOn attempt wire with
      | (.ok a, middle) => runOn (next a) middle
      | (.error failure, middle) => (.error failure, middle) := by
  unfold runOn ExceptT.run StateT.run Id.run
  simp only [bind, ExceptT.bind, ExceptT.mk, StateT.bind, ExceptT.bindCont]
  cases attempt wire with
  | mk outcome middle =>
    cases outcome with
    | error failure => rfl
    | ok a => rfl

theorem runOn_bind_of_ok {attempt : Attempt α} {next : α → Attempt β} {wire middle : Wire} {a : α}
    (h : runOn attempt wire = (.ok a, middle)) :
    runOn (attempt >>= next) wire = runOn (next a) middle := by
  rw [runOn_bind, h]

/-- Behind a failure nothing happens any more. -/
theorem runOn_bind_of_error {attempt : Attempt α} {next : α → Attempt β} {wire middle : Wire}
    {failure : Failure} (h : runOn attempt wire = (.error failure, middle)) :
    runOn (attempt >>= next) wire = (.error failure, middle) := by
  rw [runOn_bind, h]

/-- What is decided on the spot behind an attempt leaves the wire as the attempt does. -/
theorem runOn_bind_ofExcept_snd (attempt : Attempt α) (next : α → Except Failure β) (wire : Wire) :
    (runOn (attempt >>= fun a ↦ ofExcept (next a)) wire).2 = (runOn attempt wire).2 := by
  rw [runOn_bind]
  rcases runOn attempt wire with ⟨outcome, after⟩
  cases outcome with
  | error failure => rfl
  | ok a => exact congrArg Prod.snd (runOn_ofExcept _ _)

/-- A sequence gives a value exactly if both parts do, the second one over the wire that the first
one leaves behind. -/
theorem runOn_bind_eq_ok_iff {attempt : Attempt α} {next : α → Attempt β} {wire after : Wire}
    {b : β} : runOn (attempt >>= next) wire = (.ok b, after) ↔ ∃ a middle,
      runOn attempt wire = (.ok a, middle) ∧ runOn (next a) middle = (.ok b, after) := by
  rw [runOn_bind]
  obtain ⟨outcome, middle⟩ := runOn attempt wire
  cases outcome with
  | error failure => simp
  | ok a => simp

end Attempt

/-! ### Plans of requests -/

/-- What each of some requests is to be, in order. -/
abbrev Plan := List (Request → Prop)

namespace Plan

variable {plan more : Plan} {requests others : List Request}

/-- The requests are all of those that are planned. -/
def Completed (plan : Plan) (requests : List Request) : Prop :=
  List.Forall₂ (fun planned request ↦ planned request) plan requests

/-- The requests are the first ones of those that are planned. -/
def Begun (plan : Plan) (requests : List Request) : Prop :=
  ∃ first, first <+: plan ∧ Completed first requests

/-- Two plans one after the other are completed by requests for the one and then for the other. -/
theorem Completed.append (h : plan.Completed requests) (hmore : more.Completed others) :
    (plan ++ more).Completed (requests ++ others) :=
  List.rel_append h hmore

/-- Only such requests complete the two plans, so that they can be told apart again. -/
theorem completed_append_iff :
    (plan ++ more).Completed requests ↔ ∃ first second,
      requests = first ++ second ∧ plan.Completed first ∧ more.Completed second := by
  constructor
  · intro h
    have hfirst := List.forall₂_take plan.length h
    have hsecond := List.forall₂_drop plan.length h
    rw [List.take_left] at hfirst
    rw [List.drop_left] at hsecond
    exact ⟨_, _, (List.take_append_drop plan.length requests).symm, hfirst, hsecond⟩
  · rintro ⟨first, second, rfl, hfirst, hsecond⟩
    exact hfirst.append hsecond

theorem Completed.begun (h : plan.Completed requests) : plan.Begun requests :=
  ⟨plan, List.prefix_refl plan, h⟩

theorem begun_nil : plan.Begun [] := ⟨[], List.nil_prefix, List.Forall₂.nil⟩

theorem Begun.append_right (h : plan.Begun requests) : (plan ++ more).Begun requests := by
  obtain ⟨first, hfirst, hrequests⟩ := h
  exact ⟨first, hfirst.trans (List.prefix_append plan more), hrequests⟩

/-- A plan with as many requests as it has is not just begun. -/
theorem Begun.completed (h : plan.Begun requests) (hlength : plan.length ≤ requests.length) :
    plan.Completed requests := by
  obtain ⟨first, hfirst, hcompleted⟩ := h
  have hwhole : first = plan := hfirst.eq_of_length_le (hcompleted.length_eq ▸ hlength)
  exact hwhole ▸ hcompleted

/-- Once a plan is completed, the one behind it may be begun. -/
theorem Completed.append_begun (h : plan.Completed requests) (hmore : more.Begun others) :
    (plan ++ more).Begun (requests ++ others) := by
  obtain ⟨first, hfirst, hothers⟩ := hmore
  exact ⟨plan ++ first, (List.prefix_append_right_inj plan).mpr hfirst, h.append hothers⟩

end Plan

namespace Attempt

variable {α β : Type} {plan more : Plan}

/-- Over every wire, what the attempt does is to send the requests of a plan in order. It may stop
at any of them if it fails, and sends all of them if it gives a value. -/
def Follows (attempt : Attempt α) (plan : Plan) : Prop :=
  ∀ wire, ∃ requests, wire.Sends requests (attempt.runOn wire).2 ∧ plan.Begun requests ∧
    ∀ a, (attempt.runOn wire).1 = .ok a → plan.Completed requests

theorem follows_pure (a : α) : (pure a : Attempt α).Follows [] :=
  fun wire ↦ ⟨[], wire.sends_nil, Plan.begun_nil, fun _ _ ↦ List.Forall₂.nil⟩

/-- What is decided on the spot sends nothing. -/
theorem follows_ofExcept (outcome : Except Failure α) :
    Follows (ofExcept outcome : Attempt α) [] := by
  intro wire
  rw [runOn_ofExcept]
  exact ⟨[], wire.sends_nil, Plan.begun_nil, fun _ _ ↦ List.Forall₂.nil⟩

/-- An exchange sends the one request that was planned, whatever the reply is. -/
theorem follows_exchange {planned : Request → Prop} {request : Request} (h : planned request) :
    (exchange request).Follows [planned] := by
  intro wire
  rw [runOn_exchange]
  have hcompleted : Plan.Completed [planned] [request] := List.Forall₂.cons h List.Forall₂.nil
  exact ⟨[request], wire.sends_sent request, hcompleted.begun, fun _ _ ↦ hcompleted⟩

/-- What follows a failed attempt does not happen, so that the second plan is begun only when the
first one is completed. -/
theorem Follows.bind {attempt : Attempt α} {next : α → Attempt β} (h : attempt.Follows plan)
    (hnext : ∀ a wire middle, runOn attempt wire = (.ok a, middle) → (next a).Follows more) :
    (attempt >>= next).Follows (plan ++ more) := by
  intro wire
  obtain ⟨requests, hsends, hbegun, hcompleted⟩ := h wire
  rcases hrun : runOn attempt wire with ⟨outcome, middle⟩
  rw [hrun] at hsends hcompleted
  cases outcome with
  | error failure =>
    rw [runOn_bind_of_error hrun]
    refine ⟨requests, hsends, hbegun.append_right, ?_⟩
    intro b hb
    cases hb
  | ok a =>
    rw [runOn_bind_of_ok hrun]
    obtain ⟨others, hothers, hbegun', hcompleted'⟩ := hnext a wire middle hrun middle
    refine ⟨requests ++ others, hsends.trans hothers, ?_, ?_⟩
    · exact (hcompleted a rfl).append_begun hbegun'
    · exact fun b hb ↦ (hcompleted a rfl).append (hcompleted' b hb)

/-- A check on the spot in front of an attempt leaves its plan as it is. The rest may rely on what
the check has found. -/
theorem Follows.ofExcept_bind {outcome : Except Failure α} {next : α → Attempt β}
    (hnext : ∀ a, outcome = .ok a → (next a).Follows plan) :
    Follows ((ofExcept outcome : Attempt α) >>= next) plan := by
  refine (follows_ofExcept outcome).bind fun a wire middle hrun ↦ hnext a ?_
  rw [runOn_ofExcept] at hrun
  exact congrArg Prod.fst hrun

end Attempt

end MeshAttest
