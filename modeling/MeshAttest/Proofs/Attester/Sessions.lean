import MeshAttest.Proofs.Readings
import MeshAttest.Proofs.Submitted

/-!
# The course of an attestation

An attestation is a session of the source for the GPUs, then a session of the source for the
switches, and then requests. Each stage is entered only after the one before it has ended without a
failure, the closing of its source included, so that no source is open when anything is sent
(`Attester.Course`).
-/

set_option autoImplicit false

namespace MeshAttest

open Attempt

namespace EvidenceSource

variable {source : EvidenceSource} {past : List Event} {nonce : Bytes} {calls : List SourceCall}
  {failure : Option Failure}

/-- A nonce that does not have the size of one fails the session, whatever would be read. -/
theorem firstFailure?_of_nonce_ne (h : nonce.length ≠ Report.nonceSize)
    (readings : List SourceCall) :
    source.firstFailure? past nonce readings = some (.nonceSize nonce.length) := by
  rw [firstFailure?, if_neg h]

/-- Nothing is read for a nonce that does not have the size of one. -/
theorem SessionEnds.of_nonce_ne (h : source.SessionEnds past nonce calls failure)
    (hnonce : nonce.length ≠ Report.nonceSize) :
    failure ≠ none ∧ (calls = [.openSource] ∨ calls = [.openSource, .close]) := by
  cases h with
  | unopened hopen => exact ⟨nofun, Or.inl rfl⟩
  | closed hopen hreadings =>
    rw [hreadings.eq_nil hnonce, firstFailure?_of_nonce_ne hnonce]
    refine ⟨?_, Or.inr rfl⟩
    cases source.closeFault with
    | some fault => exact nofun
    | none => exact nofun

end EvidenceSource

namespace Attester

variable {past : List Event} {nonce : Bytes} {gpuSource switchSource : EvidenceSource}

/-- What happens in an attestation after what has happened before, and what it comes to. The calls
of the first session belong to the past of the second one. -/
inductive Course (gpuSource switchSource : EvidenceSource) (past : List Event) (nonce : Bytes) :
    List Event → Except Failure RoundResult → Prop
  /-- The session for the GPUs fails, and nothing else happens. -/
  | gpusFailed {gpuCalls : List SourceCall} {failure : Failure}
      (hgpus : gpuSource.SessionEnds past nonce gpuCalls (some failure)) :
    Course gpuSource switchSource past nonce (gpuCalls.map (.source gpuSource.name))
      (.error failure)
  /-- The session for the switches fails, and nothing is sent. -/
  | switchesFailed {gpuCalls switchCalls : List SourceCall} {failure : Failure}
      (hgpus : gpuSource.SessionEnds past nonce gpuCalls none)
      (hswitches : switchSource.SessionEnds (gpuSource.since past gpuCalls) nonce switchCalls
        (some failure)) :
    Course gpuSource switchSource past nonce
      (gpuCalls.map (.source gpuSource.name) ++ switchCalls.map (.source switchSource.name))
      (.error failure)
  /-- Both sessions end without a failure. From then on there are only requests. -/
  | collected {gpuCalls switchCalls : List SourceCall} {requests : List Request}
      {outcome : Except Failure RoundResult}
      (hgpus : gpuSource.SessionEnds past nonce gpuCalls none)
      (hswitches : switchSource.SessionEnds (gpuSource.since past gpuCalls) nonce switchCalls
        none) :
    Course gpuSource switchSource past nonce
      (gpuCalls.map (.source gpuSource.name) ++ switchCalls.map (.source switchSource.name) ++
        requests.map .request)
      outcome

/-- What happens in an attestation over any wire is one of the courses, and its outcome is the one
of this course. Nothing is assumed about the sources or the replies. -/
theorem exists_course (attester : Attester) (now : Int) (nonce : Bytes)
    (gpuSource switchSource : EvidenceSource) (wire : Wire) :
    ∃ events,
      ((attester.attempt now nonce gpuSource switchSource).runOn wire).2.events =
        wire.events ++ events ∧
      Course gpuSource switchSource wire.events nonce events
        ((attester.attempt now nonce gpuSource switchSource).runOn wire).1 := by
  obtain ⟨gpuCalls, hmiddle, hgpuEnds⟩ := gpuSource.session_ends nonce none wire
  rcases hgpus : (gpuSource.session (gpuSource.collect nonce none)).runOn wire with
    ⟨outcome, middle⟩
  rw [hgpus] at hmiddle hgpuEnds
  change middle = _ at hmiddle
  cases outcome with
  | error failure =>
    rw [attempt, runOn_bind_of_error hgpus, hmiddle]
    exact ⟨_, rfl, .gpusFailed hgpuEnds⟩
  | ok gpus =>
    obtain ⟨switchCalls, hlast, hswitchEnds⟩ := switchSource.session_ends nonce none middle
    rcases hswitches : (switchSource.session (switchSource.collect nonce none)).runOn middle with
      ⟨outcome, last⟩
    rw [hswitches] at hlast hswitchEnds
    -- The calls of the first session are in the past of the second one.
    rw [hmiddle, EvidenceSource.called_events] at hswitchEnds
    change last = _ at hlast
    cases outcome with
    | error failure =>
      rw [attempt, runOn_bind_of_ok hgpus, runOn_bind_of_error hswitches, hlast, hmiddle]
      exact ⟨_, List.append_assoc _ _ _, .switchesFailed hgpuEnds hswitchEnds⟩
    | ok switches =>
      obtain ⟨requests, hsends, -⟩ := attester.round.run_sends now gpus switches nonce last
      rw [attempt, runOn_bind_of_ok hgpus, runOn_bind_of_ok hswitches, hsends.events_eq, hlast,
        hmiddle]
      refine ⟨gpuCalls.map _ ++ switchCalls.map _ ++ requests.map _, ?_,
        .collected hgpuEnds hswitchEnds⟩
      simp only [Wire.called, List.append_assoc]

/-- With a nonce that does not have the size of one, an attestation fails. The first source is
opened, and closed again if it did open, and the second one is left alone. -/
theorem Course.of_nonce_ne {events : List Event} {outcome : Except Failure RoundResult}
    (h : Course gpuSource switchSource past nonce events outcome)
    (hnonce : nonce.length ≠ Report.nonceSize) :
    (∃ failure, outcome = .error failure) ∧
      (events = [.source gpuSource.name .openSource] ∨
        events = [.source gpuSource.name .openSource, .source gpuSource.name .close]) := by
  cases h with
  | gpusFailed hgpus =>
    refine ⟨⟨_, rfl⟩, ?_⟩
    rcases (hgpus.of_nonce_ne hnonce).2 with rfl | rfl
    · exact Or.inl rfl
    · exact Or.inr rfl
  | switchesFailed hgpus hswitches => exact absurd rfl (hgpus.of_nonce_ne hnonce).1
  | collected hgpus hswitches => exact absurd rfl (hgpus.of_nonce_ne hnonce).1

/-- Every attestation takes its course. For a nonce that does not have the size of one, it ends in
the session for the GPUs, before anything is read. -/
theorem attest_course (attester : Attester) (now : Int) (nonce : Bytes)
    (gpuSource switchSource : EvidenceSource) (replies : List Reply) :
    ∃ outcome wire,
      (attester.attest now nonce gpuSource switchSource replies).1 = (outcome, wire) ∧
      Course gpuSource switchSource [] nonce wire.events outcome ∧
      (nonce.length ≠ Report.nonceSize →
        (∃ failure, outcome = .error failure) ∧
        (wire.events = [.source gpuSource.name .openSource] ∨
          wire.events = [.source gpuSource.name .openSource, .source gpuSource.name .close])) := by
  obtain ⟨events, hevents, hcourse⟩ :=
    attester.exists_course now nonce gpuSource switchSource (Wire.ofReplies replies)
  refine ⟨_, ⟨_, events⟩, Prod.ext rfl (Wire.ext rfl hevents), hcourse, ?_⟩
  intro hnonce
  exact hcourse.of_nonce_ne hnonce

end Attester

end MeshAttest
