import MeshAttest.Proofs.Session

/-!
# What a source is asked

A source is asked one thing after the other, up to the first call that it does not answer
(`EvidenceSource.untilFault`). Whether it answers may depend on what has happened before, so that
the past goes along with the calls, and each call becomes a part of it (`EvidenceSource.since`).
`EvidenceSource.Asks` says of an attempt that it makes planned calls in this way and fails with what
the source gives as the reason. One rule for each way to make attempts shows that it holds of the
collection of evidence.

A session makes no other calls than these, and the two that open and close the source.
`EvidenceSource.SessionEnds` says which calls a session consists of, together with the failure that
it is left with.
-/

set_option autoImplicit false

namespace MeshAttest

open Attempt

/-- The fault of a failed step. -/
def Outcome.fault? {ε α : Type} : Except ε α → Option ε
  | .error fault => some fault
  | .ok _ => none

theorem Outcome.fault?_mapError {ε ε' α : Type} (f : ε → ε') (outcome : Except ε α) :
    Outcome.fault? (outcome.mapError f) = (Outcome.fault? outcome).map f := by
  cases outcome with
  | error fault => rfl
  | ok a => rfl

/-- The wire after some calls of the source of the name. -/
def Wire.called (wire : Wire) (name : String) (calls : List SourceCall) : Wire :=
  ⟨wire.replies, wire.events ++ calls.map (.source name)⟩

theorem Wire.called_nil (wire : Wire) (name : String) : wire.called name [] = wire :=
  Wire.ext rfl (List.append_nil _)

theorem Wire.called_called (wire : Wire) (name : String) (calls others : List SourceCall) :
    (wire.called name calls).called name others = wire.called name (calls ++ others) := by
  refine Wire.ext rfl ?_
  rw [called, called, called, List.map_append, List.append_assoc]

/-- The call reads something, so that it neither opens nor closes the source. -/
def SourceCall.IsReading (call : SourceCall) : Prop := call ≠ .openSource ∧ call ≠ .close

namespace EvidenceSource

variable {α β : Type} {source : EvidenceSource} {nonce : Bytes} {calls others : List SourceCall}
  {past : List Event} {wire : Wire}

/-- What has happened once the source has been called some more. -/
def since (source : EvidenceSource) (past : List Event) (calls : List SourceCall) : List Event :=
  past ++ calls.map (.source source.name)

theorem since_nil (source : EvidenceSource) (past : List Event) : source.since past [] = past :=
  List.append_nil past

theorem since_since (source : EvidenceSource) (past : List Event)
    (calls others : List SourceCall) :
    source.since (source.since past calls) others = source.since past (calls ++ others) := by
  rw [since, since, since, List.map_append, List.append_assoc]

theorem called_events (source : EvidenceSource) (wire : Wire) (calls : List SourceCall) :
    (wire.called source.name calls).events = source.since wire.events calls := rfl

/-! ### Calls that are not answered -/

/-- Why the source does not answer a call after what has happened, if it does not. -/
def fault? (source : EvidenceSource) (past : List Event) : SourceCall → Option String
  | .openSource => source.openFault
  | .list => Outcome.fault? source.devices
  | .fetch device nonce => Outcome.fault? (source.report device nonce past)
  | .chain device => Outcome.fault? (source.chain device past)
  | .close => source.closeFault

/-- The calls up to the first one that is not answered, which is the last one made. -/
def untilFault (source : EvidenceSource) (past : List Event) : List SourceCall → List SourceCall
  | [] => []
  | call :: rest =>
    match source.fault? past call with
    | some _ => [call]
    | none => call :: source.untilFault (source.since past [call]) rest

/-- Why the first of the calls that is not answered is not, if there is one. -/
def firstFault? (source : EvidenceSource) (past : List Event) : List SourceCall → Option String
  | [] => none
  | call :: rest =>
    match source.fault? past call with
    | some fault => some fault
    | none => source.firstFault? (source.since past [call]) rest

theorem untilFault_cons_of_some {call : SourceCall} {fault : String}
    (h : source.fault? past call = some fault) :
    source.untilFault past (call :: calls) = [call] := by
  rw [untilFault, h]

/-- Behind a call that is answered comes the next one, and the call is part of its past. -/
theorem untilFault_cons_of_none {call : SourceCall} (h : source.fault? past call = none) :
    source.untilFault past (call :: calls) =
      call :: source.untilFault (source.since past [call]) calls := by
  rw [untilFault, h]

theorem firstFault?_cons_of_some {call : SourceCall} {fault : String}
    (h : source.fault? past call = some fault) :
    source.firstFault? past (call :: calls) = some fault := by
  rw [firstFault?, h]

theorem firstFault?_cons_of_none {call : SourceCall} (h : source.fault? past call = none) :
    source.firstFault? past (call :: calls) =
      source.firstFault? (source.since past [call]) calls := by
  rw [firstFault?, h]

/-- Calls are made in the order in which they were planned, and none is left out in between. -/
theorem untilFault_prefix (source : EvidenceSource) (past : List Event)
    (calls : List SourceCall) : source.untilFault past calls <+: calls := by
  induction calls generalizing past with
  | nil => exact List.prefix_refl []
  | cons call rest ih =>
    cases hfault : source.fault? past call with
    | some fault =>
      rw [untilFault_cons_of_some hfault]
      exact List.prefix_append [call] rest
    | none =>
      rw [untilFault_cons_of_none hfault]
      exact (List.prefix_cons_inj call).mpr (ih _)

/-- What is not answered ends the calls, so that all before it are. -/
theorem firstFault?_dropLast_untilFault (source : EvidenceSource) (past : List Event)
    (calls : List SourceCall) :
    source.firstFault? past (source.untilFault past calls).dropLast = none := by
  induction calls generalizing past with
  | nil => rfl
  | cons first rest ih =>
    cases hfault : source.fault? past first with
    | some fault =>
      rw [untilFault_cons_of_some hfault]
      rfl
    | none =>
      rw [untilFault_cons_of_none hfault]
      by_cases hrest : source.untilFault (source.since past [first]) rest = []
      · rw [hrest]
        rfl
      · rw [List.dropLast_cons_of_ne_nil hrest, firstFault?_cons_of_none hfault, ih]

/-- The calls that were made are enough to tell the reason for which asking has stopped. -/
theorem firstFault?_untilFault (source : EvidenceSource) (past : List Event)
    (calls : List SourceCall) :
    source.firstFault? past (source.untilFault past calls) = source.firstFault? past calls := by
  induction calls generalizing past with
  | nil => rfl
  | cons call rest ih =>
    cases hfault : source.fault? past call with
    | some fault =>
      rw [untilFault_cons_of_some hfault, firstFault?_cons_of_some hfault,
        firstFault?_cons_of_some hfault]
    | none =>
      rw [untilFault_cons_of_none hfault, firstFault?_cons_of_none hfault,
        firstFault?_cons_of_none hfault, ih]

/-- After a call that is not answered it does not matter what was to follow. -/
theorem append_of_firstFault?_eq_some {fault : String}
    (h : source.firstFault? past calls = some fault) (others : List SourceCall) :
    source.untilFault past (calls ++ others) = source.untilFault past calls ∧
      source.firstFault? past (calls ++ others) = some fault := by
  induction calls generalizing past with
  | nil => cases h
  | cons call rest ih =>
    rw [List.cons_append]
    cases hfault : source.fault? past call with
    | some other =>
      rw [firstFault?_cons_of_some hfault] at h ⊢
      rw [untilFault_cons_of_some hfault, untilFault_cons_of_some hfault]
      exact ⟨rfl, h⟩
    | none =>
      rw [firstFault?_cons_of_none hfault] at h ⊢
      obtain ⟨hcalls, hfirst⟩ := ih h
      rw [untilFault_cons_of_none hfault, untilFault_cons_of_none hfault, hcalls]
      exact ⟨rfl, hfirst⟩

/-- Calls that are all answered become a part of the past for those that follow. -/
theorem append_of_firstFault?_eq_none (h : source.firstFault? past calls = none)
    (others : List SourceCall) :
    source.untilFault past (calls ++ others) =
        calls ++ source.untilFault (source.since past calls) others ∧
      source.firstFault? past (calls ++ others) =
        source.firstFault? (source.since past calls) others := by
  induction calls generalizing past with
  | nil =>
    rw [since_nil]
    exact ⟨rfl, rfl⟩
  | cons call rest ih =>
    rw [List.cons_append]
    cases hfault : source.fault? past call with
    | some fault =>
      rw [firstFault?_cons_of_some hfault] at h
      cases h
    | none =>
      rw [firstFault?_cons_of_none hfault] at h ⊢
      obtain ⟨hcalls, hfirst⟩ := ih h
      rw [since_since, List.singleton_append] at hcalls hfirst
      rw [untilFault_cons_of_none hfault, hcalls]
      exact ⟨rfl, hfirst⟩

/-- If every call is answered, then all of them are made. -/
theorem untilFault_of_answered (h : source.firstFault? past calls = none) :
    source.untilFault past calls = calls := by
  have hcalls := (append_of_firstFault?_eq_none h []).1
  rwa [List.append_nil, untilFault, List.append_nil] at hcalls

/-! ### Attempts that ask a source -/

/-- Over every wire, the attempt makes the calls up to the first one that is not answered, and does
nothing else. It fails if there is such a call, with the reason why it is not answered. -/
def Asks (source : EvidenceSource) (calls : List SourceCall) (attempt : Attempt α) : Prop :=
  ∀ wire,
    (attempt.runOn wire).2 = wire.called source.name (source.untilFault wire.events calls) ∧
      Outcome.fault? (attempt.runOn wire).1 =
        (source.firstFault? wire.events calls).map .unavailable

theorem asks_pure (source : EvidenceSource) (a : α) : source.Asks [] (pure a : Attempt α) :=
  fun wire ↦ ⟨(wire.called_nil source.name).symm, rfl⟩

/-- A single call is asked for, and it fails if the source does not answer it. -/
theorem asks_call {call : SourceCall} {answer : SourceAnswer α}
    (h : ∀ past, source.fault? past call = Outcome.fault? (answer past)) :
    source.Asks [call] (source.call call answer) := by
  intro wire
  rw [runOn_call, Outcome.fault?_mapError, ← h]
  cases hfault : source.fault? wire.events call with
  | some fault =>
    rw [untilFault_cons_of_some hfault, firstFault?_cons_of_some hfault]
    exact ⟨rfl, rfl⟩
  | none =>
    rw [untilFault_cons_of_none hfault, firstFault?_cons_of_none hfault]
    exact ⟨rfl, rfl⟩

/-- What was to follow a call that is not answered is not asked any more. -/
theorem Asks.bind {attempt : Attempt α} {next : α → Attempt β} (h : source.Asks calls attempt)
    (hnext : ∀ a wire middle, attempt.runOn wire = (.ok a, middle) →
      source.Asks others (next a)) :
    source.Asks (calls ++ others) (attempt >>= next) := by
  intro wire
  obtain ⟨hmiddle, hfault⟩ := h wire
  rcases hrun : attempt.runOn wire with ⟨outcome, middle⟩
  rw [hrun] at hmiddle hfault
  change middle = _ at hmiddle
  cases outcome with
  | error failure =>
    obtain ⟨fault, hcalls, hfailure⟩ := Option.map_eq_some_iff.mp hfault.symm
    obtain ⟨hsame, hfirst⟩ := append_of_firstFault?_eq_some hcalls others
    rw [runOn_bind_of_error hrun, hsame, hfirst]
    exact ⟨hmiddle, congrArg some hfailure.symm⟩
  | ok a =>
    have hcalls : source.firstFault? wire.events calls = none :=
      Option.map_eq_none_iff.mp hfault.symm
    rw [untilFault_of_answered hcalls] at hmiddle
    obtain ⟨hsame, hfirst⟩ := append_of_firstFault?_eq_none hcalls others
    obtain ⟨hafter, hlast⟩ := hnext a wire middle hrun middle
    rw [hmiddle, called_events] at hafter hlast
    rw [runOn_bind_of_ok hrun, hmiddle, hsame, hfirst, hafter, Wire.called_called]
    exact ⟨rfl, hlast⟩

/-! ### The collection of evidence -/

/-- The calls that read devices, in order: for each its report, and then its chain. -/
def deviceReadings (nonce : Bytes) (devices : List String) : List SourceCall :=
  devices.flatMap fun device ↦ [.fetch device nonce, .chain device]

/-- The calls that read the given devices, or all that the source lists. -/
def plannedCalls (source : EvidenceSource) (nonce : Bytes) : Option (List String) → List SourceCall
  | some devices => deviceReadings nonce devices
  | none => [.list] ++ match source.devices with
    | .ok devices => deviceReadings nonce devices
    | .error _ => []

/-- Devices are read one after the other, up to the first call that is not answered. -/
theorem collectDevices_asks (source : EvidenceSource) (nonce : Bytes) (devices : List String) :
    source.Asks (deviceReadings nonce devices) (source.collectDevices nonce devices) := by
  induction devices with
  | nil => exact source.asks_pure []
  | cons device rest ih =>
    have hfirst : source.Asks [.fetch device nonce, .chain device]
        (source.collectDevice nonce device) := by
      refine (asks_call fun _ ↦ rfl).bind fun report _ _ _ ↦ ?_
      refine (asks_call fun _ ↦ rfl).bind fun chain _ _ _ ↦ ?_
      exact source.asks_pure _
    rw [deviceReadings, List.flatMap_cons, collectDevices]
    refine hfirst.bind fun first _ _ _ ↦ ?_
    have hrest := ih.bind fun others _ _ _ ↦ source.asks_pure (first :: others)
    rwa [List.append_nil] at hrest

/-- With a nonce of the right size, a collection makes the planned calls up to the first one that is
not answered. -/
theorem collect_asks (source : EvidenceSource) (h : nonce.length = Report.nonceSize)
    (devices : Option (List String)) :
    source.Asks (source.plannedCalls nonce devices) (source.collect nonce devices) := by
  unfold collect
  rw [if_neg (not_not_intro h)]
  cases devices with
  | some devices => exact source.collectDevices_asks nonce devices
  | none =>
    refine (asks_call fun _ ↦ rfl).bind fun devices wire middle hlist ↦ ?_
    have hdevices : source.devices = .ok devices := (call_runOn_eq_ok_iff.mp hlist).1
    rw [hdevices]
    exact source.collectDevices_asks nonce devices

/-- With any other nonce, a collection fails before it asks for anything. -/
theorem runOn_collect_of_nonce_ne (h : nonce.length ≠ Report.nonceSize)
    (devices : Option (List String)) (wire : Wire) :
    (source.collect nonce devices).runOn wire = (.error (.nonceSize nonce.length), wire) := by
  unfold collect
  rw [if_pos h]
  rfl

theorem isReading_of_mem_deviceReadings {call : SourceCall} {devices : List String}
    (h : call ∈ deviceReadings nonce devices) : call.IsReading := by
  obtain ⟨device, -, hcall⟩ := List.mem_flatMap.mp h
  rcases List.mem_pair.mp hcall with rfl | rfl
  · exact ⟨nofun, nofun⟩
  · exact ⟨nofun, nofun⟩

/-- No planned call opens or closes the source. -/
theorem isReading_of_mem_plannedCalls {call : SourceCall} {devices : Option (List String)}
    (h : call ∈ source.plannedCalls nonce devices) : call.IsReading := by
  cases devices with
  | some devices => exact isReading_of_mem_deviceReadings h
  | none =>
    rcases List.mem_append.mp h with hlist | hread
    · obtain rfl := List.mem_singleton.mp hlist
      exact ⟨nofun, nofun⟩
    · cases hdevices : source.devices with
      | ok devices =>
        rw [hdevices] at hread
        exact isReading_of_mem_deviceReadings hread
      | error fault =>
        rw [hdevices] at hread
        cases hread

/-! ### Sessions -/

/-- What first goes wrong in an open session after what has happened, if anything does: the nonce is
looked at before the source is read. -/
def firstFailure? (source : EvidenceSource) (past : List Event) (nonce : Bytes)
    (readings : List SourceCall) : Option Failure :=
  if nonce.length = Report.nonceSize then (source.firstFault? past readings).map .unavailable
  else some (.nonceSize nonce.length)

/-- The calls with which an open source is read for a nonce. All but the last have been answered,
and there are none if the nonce does not have the size of one. -/
structure Reads (source : EvidenceSource) (past : List Event) (nonce : Bytes)
    (readings : List SourceCall) : Prop where
  isReading : ∀ call ∈ readings, call.IsReading
  answered : source.firstFault? past readings.dropLast = none
  eq_nil : nonce.length ≠ Report.nonceSize → readings = []

/-- A session of a source that is read for a nonce after what has happened, by its calls, and the
failure that it is left with, if with any. -/
inductive SessionEnds (source : EvidenceSource) (past : List Event) (nonce : Bytes) :
    List SourceCall → Option Failure → Prop
  /-- The source does not open, and there is nothing to close. -/
  | unopened {fault : String} (hopen : source.openFault = some fault) :
    SessionEnds source past nonce [.openSource] (some (.unavailable fault))
  /-- The source is open while it is read, and it is closed once. That it does not close is a
  failure that comes before any other. -/
  | closed {readings : List SourceCall} (hopen : source.openFault = none)
      (hreadings : source.Reads (source.since past [.openSource]) nonce readings) :
    SessionEnds source past nonce (.openSource :: (readings ++ [.close]))
      ((source.closeFault.map .unavailable).or
        (source.firstFailure? (source.since past [.openSource]) nonce readings))

/-- Over any wire, a collection reads the source, and it fails with what first goes wrong. -/
theorem exists_reads_of_collect (source : EvidenceSource) (nonce : Bytes)
    (devices : Option (List String)) (wire : Wire) :
    ∃ readings, source.Reads wire.events nonce readings ∧
      ((source.collect nonce devices).runOn wire).2 = wire.called source.name readings ∧
      Outcome.fault? ((source.collect nonce devices).runOn wire).1 =
        source.firstFailure? wire.events nonce readings := by
  by_cases hnonce : nonce.length = Report.nonceSize
  · obtain ⟨hafter, hfault⟩ := source.collect_asks hnonce devices wire
    refine ⟨source.untilFault wire.events (source.plannedCalls nonce devices), ⟨?_, ?_, ?_⟩,
      hafter, ?_⟩
    · intro call hcall
      exact isReading_of_mem_plannedCalls ((source.untilFault_prefix _ _).subset hcall)
    · exact source.firstFault?_dropLast_untilFault _ _
    · intro hne
      exact absurd hnonce hne
    · rw [hfault, firstFailure?, if_pos hnonce, firstFault?_untilFault]
  · rw [runOn_collect_of_nonce_ne hnonce]
    refine ⟨[], ⟨List.forall_mem_nil _, rfl, fun _ ↦ rfl⟩,
      (wire.called_nil source.name).symm, ?_⟩
    rw [firstFailure?, if_neg hnonce]
    rfl

/-- A source that does not open is neither read nor closed. -/
theorem runOn_session_of_openFault {fault : String} (h : source.openFault = some fault)
    (body : Attempt α) (wire : Wire) :
    (source.session body).runOn wire =
      (.error (.unavailable fault), wire.called source.name [.openSource]) := by
  refine runOn_bind_of_error ?_
  rw [runOn_call, h]
  rfl

/-- An open source is closed, whatever its use has come to. -/
theorem runOn_session_of_opened {body : Attempt α} {outcome : Except Failure α} {after : Wire}
    (h : source.openFault = none)
    (hbody : body.runOn (wire.called source.name [.openSource]) = (outcome, after)) :
    (source.session body).runOn wire =
      (match source.closeFault with
        | some fault => .error (.unavailable fault)
        | none => outcome,
      after.called source.name [.close]) := by
  have hopen : (source.call .openSource (done source.openFault)).runOn wire =
      (.ok (), wire.called source.name [.openSource]) := by
    rw [runOn_call, h]
    rfl
  have hobserved : (session.observing body).runOn (wire.called source.name [.openSource]) =
      (.ok outcome, after) := by
    rw [runOn_observing, hbody]
  rw [session, runOn_bind_of_ok hopen, runOn_bind_of_ok hobserved]
  cases hclose : source.closeFault with
  | some fault =>
    refine runOn_bind_of_error ?_
    rw [runOn_call]
    rfl
  | none =>
    have hclosed : (source.call .close (done none)).runOn after =
        (.ok (), after.called source.name [.close]) := by
      rw [runOn_call]
      rfl
    rw [runOn_bind_of_ok hclosed, runOn_ofExcept]

/-- A session that reads a source makes its calls and nothing else. -/
theorem session_ends (source : EvidenceSource) (nonce : Bytes) (devices : Option (List String))
    (wire : Wire) :
    ∃ calls, ((source.session (source.collect nonce devices)).runOn wire).2 =
        wire.called source.name calls ∧
      source.SessionEnds wire.events nonce calls
        (Outcome.fault? ((source.session (source.collect nonce devices)).runOn wire).1) := by
  cases hopen : source.openFault with
  | some fault =>
    rw [runOn_session_of_openFault hopen]
    exact ⟨[.openSource], rfl, .unopened hopen⟩
  | none =>
    obtain ⟨readings, hreadings, hafter, hfault⟩ :=
      source.exists_reads_of_collect nonce devices (wire.called source.name [.openSource])
    rcases hrun : (source.collect nonce devices).runOn (wire.called source.name [.openSource]) with
      ⟨outcome, after⟩
    rw [hrun, called_events] at hfault
    rw [hrun] at hafter
    change after = _ at hafter
    rw [called_events] at hreadings
    rw [runOn_session_of_opened hopen hrun]
    refine ⟨.openSource :: (readings ++ [.close]), ?_, ?_⟩
    · rw [hafter, Wire.called_called, Wire.called_called]
      rfl
    · have hends := SessionEnds.closed hopen hreadings
      -- What went wrong while the source was read counts only if it closes.
      cases hclose : source.closeFault with
      | some fault =>
        rw [hclose] at hends
        exact hends
      | none =>
        rw [hclose, ← hfault] at hends
        exact hends

end EvidenceSource

end MeshAttest
