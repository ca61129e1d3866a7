import MeshAttest.Proofs.Readings

/-!
# Collections of evidence

A collection of evidence reads devices in order, for each its report and then its chain. The calls
that it makes are the planned ones, or those up to the first that is not answered, so that no device
is left out or read more often than it is given. `EvidenceSource.Collects` says which outcome goes
with which calls. In a session they come between opening the source and closing it
(`EvidenceSource.session_collects`).

What is collected is what the source has answered to each call after all that had happened before it
(`EvidenceSource.Answers`), and a session that gives evidence has read all devices that the source
lists (`EvidenceSource.Yields`).
-/

set_option autoImplicit false

namespace MeshAttest.EvidenceSource

open Attempt

variable {α : Type} {source : EvidenceSource} {nonce : Bytes} {device : String}
  {devices : Option (List String)} {calls before later : List SourceCall} {call : SourceCall}
  {fault : String} {past : List Event} {item : CollectedEvidence} {items : List CollectedEvidence}
  {outcome : Except Failure (List CollectedEvidence)} {wire after : Wire}

/-! ### The first call that is not answered -/

/-- Asking stops at the first call that is not answered, and what was planned behind it is left
out. -/
theorem untilFault_append_cons (hbefore : source.firstFault? past before = none)
    (hfault : source.fault? (source.since past before) call = some fault) :
    source.untilFault past (before ++ call :: later) = before ++ [call] := by
  rw [(append_of_firstFault?_eq_none hbefore _).1, untilFault_cons_of_some hfault]

/-- The reason is the one that the source has for this call, after the calls in front of it. -/
theorem firstFault?_append_cons (hbefore : source.firstFault? past before = none)
    (hfault : source.fault? (source.since past before) call = some fault) :
    source.firstFault? past (before ++ call :: later) = some fault := by
  rw [(append_of_firstFault?_eq_none hbefore _).2, firstFault?_cons_of_some hfault]

/-- The calls before the first one that is not answered are. The induction is on the calls. -/
theorem exists_of_firstFault? (h : source.firstFault? past calls = some fault) :
    ∃ before call later, calls = before ++ call :: later ∧
      source.firstFault? past before = none ∧
      source.fault? (source.since past before) call = some fault := by
  induction calls generalizing past with
  | nil => cases h
  | cons first rest ih =>
    cases hfirst : source.fault? past first with
    | some other =>
      rw [firstFault?_cons_of_some hfirst] at h
      obtain rfl := Option.some.inj h
      refine ⟨[], first, rest, rfl, rfl, ?_⟩
      rwa [since_nil]
    | none =>
      rw [firstFault?_cons_of_none hfirst] at h
      obtain ⟨before, call, later, rfl, hbefore, hcall⟩ := ih h
      rw [since_since, List.singleton_append] at hcall
      refine ⟨first :: before, call, later, rfl, ?_, hcall⟩
      rw [firstFault?_cons_of_none hfirst, hbefore]

/-! ### The evidence that is read -/

/-- The evidence is what the source answers after what has happened: for each device the report for
the nonce, then the chain, and then the same for the next device. -/
inductive Answers (source : EvidenceSource) (nonce : Bytes) :
    List Event → List CollectedEvidence → Prop
  | nil (past : List Event) : Answers source nonce past []
  | cons {past : List Event} {item : CollectedEvidence} {rest : List CollectedEvidence}
      (hreport : source.report item.device nonce past = .ok item.report)
      (hchain : source.chain item.device (source.since past [.fetch item.device nonce]) =
        .ok item.chain)
      (hrest : Answers source nonce
        (source.since past [.fetch item.device nonce, .chain item.device]) rest) :
    Answers source nonce past (item :: rest)

/-- The calls that read the evidence have been answered. -/
theorem Answers.firstFault?_eq (h : source.Answers nonce past items) :
    source.firstFault? past (deviceReadings nonce (items.map (·.device))) = none := by
  induction h with
  | nil past => rfl
  | @cons past item rest hreport hchain _ ih =>
    have hfetched : source.fault? past (.fetch item.device nonce) = none :=
      congrArg Outcome.fault? hreport
    have hchained : source.fault? (source.since past [.fetch item.device nonce])
        (.chain item.device) = none := congrArg Outcome.fault? hchain
    rw [List.map_cons, deviceReadings, List.flatMap_cons, List.cons_append, List.cons_append,
      firstFault?_cons_of_none hfetched, firstFault?_cons_of_none hchained, since_since]
    exact ih

/-- The evidence of a device is the report and then the chain, each as the source answers at that
moment. The answer for the chain may depend on the report having been fetched. -/
theorem collectDevice_runOn_eq_ok_iff :
    (source.collectDevice nonce device).runOn wire = (.ok item, after) ↔
      item.device = device ∧ source.report device nonce wire.events = .ok item.report ∧
        source.chain device (source.since wire.events [.fetch device nonce]) = .ok item.chain ∧
        wire.called source.name [.fetch device nonce, .chain device] = after := by
  unfold collectDevice
  simp only [runOn_bind_eq_ok_iff, call_runOn_eq_ok_iff, runOn_pure, Prod.mk.injEq,
    Except.ok.injEq]
  have hcalled : (wire.record (.source source.name (.fetch device nonce))).record
      (.source source.name (.chain device)) =
        wire.called source.name [.fetch device nonce, .chain device] :=
    wire.called_called source.name [.fetch device nonce] [.chain device]
  constructor
  · rintro ⟨report, _, ⟨hreport, rfl⟩, chain, _, ⟨hchain, rfl⟩, rfl, rfl⟩
    exact ⟨rfl, hreport, hchain, hcalled.symm⟩
  · rintro ⟨rfl, hreport, hchain, rfl⟩
    exact ⟨item.report, _, ⟨hreport, rfl⟩, item.chain, _, ⟨hchain, rfl⟩, rfl, hcalled⟩

/-- The induction is on the devices, which are read one after the other. -/
theorem answers_of_collectDevices {devices : List String}
    (h : (source.collectDevices nonce devices).runOn wire = (.ok items, after)) :
    items.map (·.device) = devices ∧ source.Answers nonce wire.events items := by
  induction devices generalizing wire after items with
  | nil =>
    rw [collectDevices, runOn_pure, Prod.mk.injEq, Except.ok.injEq] at h
    obtain ⟨rfl, -⟩ := h
    exact ⟨rfl, .nil _⟩
  | cons device rest ih =>
    rw [collectDevices] at h
    simp only [runOn_bind_eq_ok_iff, collectDevice_runOn_eq_ok_iff, runOn_pure, Prod.mk.injEq,
      Except.ok.injEq] at h
    obtain ⟨first, _, ⟨rfl, hreport, hchain, rfl⟩, others, _, hothers, rfl, -⟩ := h
    obtain ⟨hdevices, hrest⟩ := ih hothers
    refine ⟨?_, .cons hreport hchain hrest⟩
    rw [List.map_cons, hdevices]

/-- The devices that are to be read: those that are given, or else those that the source lists. -/
def chosen (source : EvidenceSource) : Option (List String) → Except String (List String)
  | some devices => .ok devices
  | none => source.devices

/-- The calls that come before the first device is read. -/
def listing : Option (List String) → List SourceCall
  | some _ => []
  | none => [.list]

/-- What is planned is to list the devices, unless they are given, and then to read each of them. -/
theorem plannedCalls_of_chosen {given : List String} (h : source.chosen devices = .ok given) :
    source.plannedCalls nonce devices = listing devices ++ deviceReadings nonce given := by
  cases devices with
  | some devices =>
    obtain rfl := Except.ok.inj h
    rfl
  | none =>
    change source.devices = _ at h
    rw [plannedCalls, h]
    rfl

/-- What a collection returns is what the source has answered, for the chosen devices and in their
order. -/
theorem answers_of_collect
    (h : (source.collect nonce devices).runOn wire = (.ok items, after)) :
    source.chosen devices = .ok (items.map (·.device)) ∧
      source.Answers nonce (source.since wire.events (listing devices)) items := by
  unfold collect at h
  split at h
  · cases h
  · cases devices with
    | some devices =>
      obtain ⟨hdevices, hanswers⟩ := answers_of_collectDevices h
      rw [listing, since_nil]
      exact ⟨congrArg Except.ok hdevices.symm, hanswers⟩
    | none =>
      obtain ⟨devices, _, hlist, hitems⟩ := runOn_bind_eq_ok_iff.mp h
      obtain ⟨hlisted, rfl⟩ := call_runOn_eq_ok_iff.mp hlist
      obtain ⟨rfl, hanswers⟩ := answers_of_collectDevices hitems
      exact ⟨hlisted, hanswers⟩

/-- If the source answers for each of the chosen devices, it answers all that is planned. -/
theorem firstFault?_plannedCalls (hchosen : source.chosen devices = .ok (items.map (·.device)))
    (h : source.Answers nonce (source.since past (listing devices)) items) :
    source.firstFault? past (source.plannedCalls nonce devices) = none := by
  rw [plannedCalls_of_chosen hchosen]
  cases devices with
  | some devices =>
    rw [listing, since_nil] at h
    exact h.firstFault?_eq
  | none =>
    have hlisted : source.fault? past .list = none := congrArg Outcome.fault? hchosen
    rw [listing, List.singleton_append, firstFault?_cons_of_none hlisted]
    exact h.firstFault?_eq

/-! ### Collections -/

/-- A collection of evidence after what has happened, by the calls that are made and what it comes
to. -/
inductive Collects (source : EvidenceSource) (past : List Event) (nonce : Bytes)
    (devices : Option (List String)) :
    List SourceCall → Except Failure (List CollectedEvidence) → Prop
  /-- The nonce does not have the size of one, and nothing is asked. -/
  | refused (hnonce : nonce.length ≠ Report.nonceSize) :
    Collects source past nonce devices [] (.error (.nonceSize nonce.length))
  /-- All calls are answered. The evidence is what the source answers for the devices, one after the
  other. -/
  | collected {items : List CollectedEvidence} (hnonce : nonce.length = Report.nonceSize)
      (hdevices : source.chosen devices = .ok (items.map (·.device)))
      (hanswers : source.Answers nonce (source.since past (listing devices)) items) :
    Collects source past nonce devices (source.plannedCalls nonce devices) (.ok items)
  /-- A call is not answered. It is the last one, and nothing of what has been read is returned. -/
  | stopped {before later : List SourceCall} {call : SourceCall} {fault : String}
      (hnonce : nonce.length = Report.nonceSize)
      (hplanned : source.plannedCalls nonce devices = before ++ call :: later)
      (hbefore : source.firstFault? past before = none)
      (hfault : source.fault? (source.since past before) call = some fault) :
    Collects source past nonce devices (before ++ [call]) (.error (.unavailable fault))

/-- A collection returns evidence exactly if the nonce has the size of one and every planned call is
answered. -/
theorem Collects.returns_iff (h : source.Collects past nonce devices calls outcome) :
    (∃ items, outcome = .ok items) ↔ nonce.length = Report.nonceSize ∧
      source.firstFault? past (source.plannedCalls nonce devices) = none := by
  cases h with
  | refused hnonce => exact iff_of_false (nofun) (fun hall ↦ hnonce hall.1)
  | collected hnonce hdevices hanswers =>
    exact iff_of_true ⟨_, rfl⟩ ⟨hnonce, firstFault?_plannedCalls hdevices hanswers⟩
  | stopped hnonce hplanned hbefore hfault =>
    refine iff_of_false (nofun) ?_
    rintro ⟨-, hall⟩
    rw [hplanned, firstFault?_append_cons hbefore hfault] at hall
    cases hall

/-- Over any wire, a collection is one of those that `Collects` describes, and makes the calls of
that one. -/
theorem exists_collects (source : EvidenceSource) (nonce : Bytes) (devices : Option (List String))
    (wire : Wire) :
    ∃ calls outcome, source.Collects wire.events nonce devices calls outcome ∧
      (source.collect nonce devices).runOn wire = (outcome, wire.called source.name calls) := by
  by_cases hnonce : nonce.length = Report.nonceSize
  · obtain ⟨hafter, hfailure⟩ := source.collect_asks hnonce devices wire
    rcases hrun : (source.collect nonce devices).runOn wire with ⟨outcome, after⟩
    rw [hrun] at hafter hfailure
    change after = _ at hafter
    cases outcome with
    | ok items =>
      obtain ⟨hdevices, hanswers⟩ := answers_of_collect hrun
      refine ⟨_, _, .collected hnonce hdevices hanswers, ?_⟩
      rw [hafter, untilFault_of_answered (firstFault?_plannedCalls hdevices hanswers)]
    | error failure =>
      obtain ⟨fault, hfault, hunavailable⟩ := Option.map_eq_some_iff.mp hfailure.symm
      obtain ⟨before, call, later, hplanned, hbefore, hfault⟩ := exists_of_firstFault? hfault
      refine ⟨_, _, .stopped hnonce hplanned hbefore hfault, ?_⟩
      rw [hafter, hplanned, untilFault_append_cons hbefore hfault, hunavailable]
  · refine ⟨_, _, .refused hnonce, ?_⟩
    rw [runOn_collect_of_nonce_ne hnonce, Wire.called_nil]

/-- What a session comes to after its use has come to something. That the source does not close is
a failure that comes before any other. -/
def closing (source : EvidenceSource) (outcome : Except Failure α) : Except Failure α :=
  match source.closeFault with
  | some fault => .error (.unavailable fault)
  | none => outcome

/-- A session with a source that opens makes the calls of a collection between the two that open and
close it. It comes to what the collection comes to, unless the source does not close. -/
theorem exists_session_collects (source : EvidenceSource) (nonce : Bytes)
    (devices : Option (List String)) (wire : Wire) (hopen : source.openFault = none) :
    ∃ calls outcome,
      source.Collects (source.since wire.events [.openSource]) nonce devices calls outcome ∧
      (source.collect nonce devices).runOn (wire.called source.name [.openSource]) =
        (outcome, wire.called source.name (.openSource :: calls)) ∧
      (source.session (source.collect nonce devices)).runOn wire =
        (source.closing outcome, wire.called source.name (.openSource :: (calls ++ [.close]))) := by
  obtain ⟨calls, outcome, hcollects, hrun⟩ :=
    source.exists_collects nonce devices (wire.called source.name [.openSource])
  rw [Wire.called_called, List.singleton_append] at hrun
  refine ⟨calls, outcome, hcollects, hrun, ?_⟩
  rw [runOn_session_of_opened hopen hrun, Wire.called_called]
  rfl

/-- Evidence is collected from a source that opens by the planned calls in order, up to the first
one that is not answered. It is returned exactly if the nonce has the size of one and there is no
such call. In a session the source is opened before the calls and closed after them, and nothing
else is done. -/
theorem session_collects (source : EvidenceSource) (nonce : Bytes) (devices : Option (List String))
    (wire : Wire) (hopen : source.openFault = none) :
    ∃ calls outcome,
      source.Collects (source.since wire.events [.openSource]) nonce devices calls outcome ∧
      ((∃ items, outcome = .ok items) ↔ nonce.length = Report.nonceSize ∧
        source.firstFault? (source.since wire.events [.openSource])
          (source.plannedCalls nonce devices) = none) ∧
      (source.collect nonce devices).runOn (wire.called source.name [.openSource]) =
        (outcome, wire.called source.name (.openSource :: calls)) ∧
      (source.session (source.collect nonce devices)).runOn wire =
        (source.closing outcome, wire.called source.name (.openSource :: (calls ++ [.close]))) := by
  obtain ⟨calls, outcome, hcollects, hruns⟩ :=
    source.exists_session_collects nonce devices wire hopen
  exact ⟨calls, outcome, hcollects, hcollects.returns_iff, hruns⟩

/-- No chain can be read any more once a few things have happened. -/
def brokenChain : EvidenceSource where
  name := "source"
  openFault := none
  devices := .ok ["SW-0", "SW-1"]
  report := fun _ nonce ↦ .ok nonce
  chain := fun _ past ↦ if past.length < 4 then .ok [] else .error "no chain"
  closeFault := none

/-- The chain of the second device cannot be read after that of the first one. -/
theorem session_collects_brokenChain :
    brokenChain.openFault = none ∧ ∃ calls failure,
      (brokenChain.session (brokenChain.collect (List.replicate 32 0) none)).runOn
          (Wire.ofReplies []) =
        (.error failure,
          (Wire.ofReplies []).called "source" (.openSource :: (calls ++ [.close]))) := by
  obtain ⟨calls, outcome, -, hreturns, -, hrun⟩ :=
    session_collects brokenChain (List.replicate 32 0) none (Wire.ofReplies []) rfl
  cases outcome with
  | error failure => exact ⟨rfl, calls, failure, hrun⟩
  | ok items => cases (hreturns.mp ⟨items, rfl⟩).2

/-- A device that is given twice is read twice, and need not be answered for a second time. -/
example :
    (brokenChain.session (brokenChain.collect (List.replicate 32 0)
        (some ["SW-0", "SW-0", "SW-1"]))).runOn (Wire.ofReplies []) =
      (.error (.unavailable "no chain"), (Wire.ofReplies []).called "source"
        [.openSource, .fetch "SW-0" (List.replicate 32 0), .chain "SW-0",
          .fetch "SW-0" (List.replicate 32 0), .chain "SW-0", .close]) := rfl

/-! ### Sessions that give evidence -/

/-- The calls of a session in which all listed devices are read. -/
def fullSession (nonce : Bytes) (devices : List String) : List SourceCall :=
  .openSource :: .list :: (deviceReadings nonce devices ++ [.close])

/-- The evidence is what the source answers in a session after what has happened, for the devices
that it lists and in their order. -/
structure Yields (source : EvidenceSource) (past : List Event) (nonce : Bytes)
    (items : List CollectedEvidence) : Prop where
  devices_eq : source.devices = .ok (items.map (·.device))
  answers : source.Answers nonce (source.since past [.openSource, .list]) items

/-- Nothing is left out of a session that gives evidence. -/
theorem yields_of_session_collect
    (h : (source.session (source.collect nonce none)).runOn wire = (.ok items, after)) :
    source.Yields wire.events nonce items ∧
      after = wire.called source.name (fullSession nonce (items.map (·.device))) := by
  cases hopen : source.openFault with
  | some fault =>
    rw [runOn_session_of_openFault hopen] at h
    cases h
  | none =>
    obtain ⟨calls, outcome, hcollects, -, hrun⟩ :=
      source.exists_session_collects nonce none wire hopen
    obtain ⟨hclosing, hafter⟩ := Prod.mk.inj (hrun.symm.trans h)
    unfold closing at hclosing
    split at hclosing
    · cases hclosing
    · subst hclosing
      cases hcollects with
      | collected hnonce hdevices hanswers =>
        rw [since_since] at hanswers
        rw [plannedCalls_of_chosen hdevices] at hafter
        exact ⟨⟨hdevices, hanswers⟩, hafter.symm⟩

end MeshAttest.EvidenceSource
