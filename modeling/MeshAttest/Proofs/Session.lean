import MeshAttest.Evidence
import MeshAttest.Proofs.Attempt

/-!
# What a session does

A session reads a source and sends nothing. `Attempt.Notes` says which events an attempt may note
while it leaves the replies alone; one rule for each way to make attempts shows that it holds, and
from these it follows that a session notes nothing but calls of its source, and that every report is
fetched for the one nonce that was given (`EvidenceSource.session_collect_notes`).
-/

set_option autoImplicit false

namespace MeshAttest

open Outcome

namespace Attempt

variable {α β : Type} {admitted : Event → Prop}

@[simp] theorem runOn_record (event : Event) (wire : Wire) :
    runOn (record event) wire = (.ok (), wire.record event) := rfl

/-- All that the attempt does over a wire is to note events that are admitted. -/
def Notes (attempt : Attempt α) (admitted : Event → Prop) : Prop :=
  ∀ wire, ∃ events, (attempt.runOn wire).2 = ⟨wire.replies, wire.events ++ events⟩ ∧
    ∀ event ∈ events, admitted event

theorem notes_of_runOn_eq {attempt : Attempt α} (h : ∀ wire, (attempt.runOn wire).2 = wire) :
    attempt.Notes admitted := by
  intro wire
  refine ⟨[], ?_, List.forall_mem_nil _⟩
  rw [h wire, List.append_nil]

theorem notes_pure (a : α) : (pure a : Attempt α).Notes admitted :=
  notes_of_runOn_eq fun _ ↦ rfl

theorem notes_ofExcept (outcome : Except Failure α) :
    (ofExcept outcome : Attempt α).Notes admitted := by
  refine notes_of_runOn_eq fun wire ↦ ?_
  rw [runOn_ofExcept]

/-- What both parts of a sequence note is all that the sequence notes. -/
theorem Notes.bind {attempt : Attempt α} {next : α → Attempt β} (h : attempt.Notes admitted)
    (hnext : ∀ a, (next a).Notes admitted) : (attempt >>= next).Notes admitted := by
  intro wire
  obtain ⟨events, hmiddle, hevents⟩ := h wire
  rcases hrun : runOn attempt wire with ⟨outcome, middle⟩
  rw [hrun] at hmiddle
  cases outcome with
  | error failure =>
    rw [runOn_bind_of_error hrun]
    exact ⟨events, hmiddle, hevents⟩
  | ok a =>
    change middle = _ at hmiddle
    rw [runOn_bind_of_ok hrun]
    obtain ⟨others, hafter, hothers⟩ := hnext a middle
    refine ⟨events ++ others, ?_, List.forall_mem_append.mpr ⟨hevents, hothers⟩⟩
    rw [hafter, hmiddle, List.append_assoc]

end Attempt

namespace EvidenceSource

open Attempt

variable {α : Type} {source : EvidenceSource} {nonce : Bytes} {wire after : Wire}
  {admitted : Event → Prop}

/-! ### Calls and sessions -/

/-- A call is answered for what has happened before it, and then it has happened as well. -/
theorem runOn_call (source : EvidenceSource) (call : SourceCall) (answer : SourceAnswer α)
    (wire : Wire) :
    (source.call call answer).runOn wire =
      ((answer wire.events).mapError .unavailable, wire.record (.source source.name call)) := by
  have hget : runOn get wire = (.ok wire, wire) := rfl
  rw [EvidenceSource.call, runOn_bind_of_ok hget, runOn_bind_of_ok (runOn_record _ _),
    runOn_ofExcept]

/-- A call returns what the source answers after all that has happened, and the call is noted. -/
theorem call_runOn_eq_ok_iff {call : SourceCall} {answer : SourceAnswer α} {a : α} :
    (source.call call answer).runOn wire = (.ok a, after) ↔
      answer wire.events = .ok a ∧ wire.record (.source source.name call) = after := by
  rw [runOn_call, Prod.mk.injEq, mapError_eq_ok_iff]

/-- A call is noted whether or not it is answered. -/
theorem call_notes (call : SourceCall) (h : admitted (.source source.name call))
    (answer : SourceAnswer α) : (source.call call answer).Notes admitted := by
  intro wire
  rw [runOn_call]
  exact ⟨[.source source.name call], rfl, List.forall_mem_singleton.mpr h⟩

/-- To observe an attempt turns its failure into a value, so that what follows it happens in any
case. -/
theorem runOn_observing (body : Attempt α) (wire : Wire) :
    (session.observing body).runOn wire = (.ok (body.runOn wire).1, (body.runOn wire).2) := rfl

theorem observing_notes {body : Attempt α} (h : body.Notes admitted) :
    (session.observing body).Notes admitted :=
  fun wire ↦ h wire

/-- A session notes that it opens and closes the source, and what is noted in between. -/
theorem session_notes {body : Attempt α} (hopen : admitted (.source source.name .openSource))
    (hbody : body.Notes admitted) (hclose : admitted (.source source.name .close)) :
    (source.session body).Notes admitted := by
  refine (call_notes .openSource hopen _).bind fun _ ↦ ?_
  refine (observing_notes hbody).bind fun outcome ↦ ?_
  exact (call_notes .close hclose _).bind fun _ ↦ notes_ofExcept outcome

end EvidenceSource

/-! ### The nonce of a session -/

/-- The event is a call of a source, and if it fetches a report, then for the nonce. -/
def Event.ReadsFor (nonce : Bytes) : Event → Prop
  | .source _ (.fetch _ used) => used = nonce
  | .source _ _ => True
  | .request _ => False

namespace EvidenceSource

open Attempt

/-- Every report is fetched for the nonce that is given. -/
theorem collectDevices_notes (source : EvidenceSource) (nonce : Bytes) (devices : List String) :
    (source.collectDevices nonce devices).Notes (Event.ReadsFor nonce) := by
  induction devices with
  | nil => exact notes_pure []
  | cons device rest ih =>
    have hfirst : (source.collectDevice nonce device).Notes (Event.ReadsFor nonce) := by
      have hused : Event.ReadsFor nonce (.source source.name (.fetch device nonce)) := rfl
      refine (call_notes (.fetch device nonce) hused _).bind fun report ↦ ?_
      exact (call_notes (.chain device) trivial _).bind fun chain ↦ notes_pure _
    exact hfirst.bind fun first ↦ ih.bind fun others ↦ notes_pure _

/-- A collection fetches every report for the nonce that is given, also for devices that the source
lists. -/
theorem collect_notes (source : EvidenceSource) (nonce : Bytes) (devices : Option (List String)) :
    (source.collect nonce devices).Notes (Event.ReadsFor nonce) := by
  unfold collect
  split
  · exact notes_of_runOn_eq fun _ ↦ rfl
  · cases devices with
    | some devices => exact source.collectDevices_notes nonce devices
    | none =>
      refine (call_notes .list trivial _).bind fun devices ↦ ?_
      exact source.collectDevices_notes nonce devices

/-- A session in which evidence is collected sends nothing, and every report in it is fetched for
the nonce that is given. -/
theorem session_collect_notes (source : EvidenceSource) (nonce : Bytes) :
    (source.session (source.collect nonce none)).Notes (Event.ReadsFor nonce) :=
  session_notes trivial (source.collect_notes nonce none) trivial

end EvidenceSource

end MeshAttest
