import MeshAttest.Proofs.Round

/-!
# Disabled slots among attached GPUs

The set of switches that GPUs agree on is rid of disabled links before its members are counted. The
set of GPUs that switches agree on is not: a slot without a GPU is counted like a GPU, provided that
every switch reports it alike. `NeighborCheck.run_disabled_mem_iff` says exactly when the set that
the check returns holds the disabled PDI, and how many GPUs it then names; the set is free of it
exactly when the reports are. `Round.disabled_mem_gpuPdis_iff` is the same for the result of a
round. `EmptySlot` is a mesh with one GPU and one empty slot that passes as a mesh of two GPUs.
-/

set_option autoImplicit false

namespace MeshAttest

namespace PdiSet

theorem nodup_toList (pdis : PdiSet) : pdis.toList.Nodup := by
  refine pdis.increasing.imp ?_
  rintro p q hlt rfl
  exact List.lt_irrefl p hlt

/-- To take a member away makes a set smaller by one, and to take away anything else leaves its
size. -/
theorem size_erase_add (pdis : PdiSet) (p : Pdi) :
    (pdis.erase p).size + (if p ∈ pdis then 1 else 0) = pdis.size := by
  have herase : (pdis.erase p).toList = pdis.toList.erase p := by
    rw [pdis.nodup_toList.erase_eq_filter]
    exact List.filter_congr fun q _ ↦ Bool.eq_iff_iff.mpr (by simp)
  rw [size, size, herase]
  by_cases hmem : p ∈ pdis
  · have hpos : 0 < pdis.toList.length := List.length_pos_of_mem hmem
    rw [if_pos hmem, List.length_erase_of_mem hmem]
    omega
  · rw [if_neg hmem, List.erase_of_not_mem hmem]
    rfl

end PdiSet

namespace NeighborCheck

variable {check : NeighborCheck} {reports : List Bytes} {gpus : PdiSet} {report : Bytes} {p : Pdi}

/-- The report lists a PDI among those that are attached to the switch. -/
def Attaches (check : NeighborCheck) (report : Bytes) (p : Pdi) : Prop :=
  ∃ pdis own, Report.attachedPdis report check.deviceKind check.attachedKind = .ok (pdis, own) ∧
    p ∈ pdis

/-- Every report tells of the whole set, so that one report is as good as all. -/
theorem Consistent.mem_iff_attaches (h : check.Consistent reports gpus)
    (hreport : report ∈ reports) : p ∈ gpus ↔ check.Attaches report p := by
  obtain ⟨pdis, own, hread, -, hpdis⟩ := h.attached report hreport
  rw [hpdis p]
  constructor
  · intro hmem
    exact ⟨pdis, own, hread, hmem⟩
  · rintro ⟨otherPdis, otherOwn, hother, hmem⟩
    cases hread.symm.trans hother
    exact hmem

/-- A PDI is in the result exactly if every report lists it. -/
theorem Consistent.mem_iff_forall_attaches (h : check.Consistent reports gpus) :
    p ∈ gpus ↔ ∀ report ∈ reports, check.Attaches report p := by
  constructor
  · intro hmem report hreport
    exact (h.mem_iff_attaches hreport).mp hmem
  · intro hall
    obtain ⟨report, hreport⟩ :=
      List.exists_mem_of_ne_nil reports (ne_nil_of_length_eq h.reports_pos h.length_eq)
    exact (h.mem_iff_attaches hreport).mpr (hall report hreport)

/-- How many GPUs the set names, the disabled PDI not counted. -/
theorem Consistent.size_erase_disabled (h : check.Consistent reports gpus) :
    ((gpus.erase Pdi.disabled).size : Int) =
      check.attachments - if Pdi.disabled ∈ gpus then 1 else 0 := by
  have hsize := gpus.size_erase_add Pdi.disabled
  have hcount := h.size_eq
  split at hsize
  · next hmem =>
    rw [if_pos hmem]
    omega
  · next hmem =>
    rw [if_neg hmem]
    omega

/-- The disabled PDI is in the set of GPUs exactly when all reports list it, and it is there as soon
as one does. It stands in for a GPU then: the set names one GPU less than are asked for. -/
theorem run_disabled_mem_iff (check : NeighborCheck) (reports : List Bytes) (gpus : PdiSet)
    (hrun : check.run reports = .ok gpus) :
    (Pdi.disabled ∈ gpus ↔ ∀ report ∈ reports, check.Attaches report Pdi.disabled) ∧
      (Pdi.disabled ∈ gpus ↔ ∃ report ∈ reports, check.Attaches report Pdi.disabled) ∧
      ((gpus.erase Pdi.disabled).size : Int) =
        check.attachments - if Pdi.disabled ∈ gpus then 1 else 0 := by
  have hconsistent := run_eq_ok_iff.mp hrun
  refine ⟨hconsistent.mem_iff_forall_attaches, ?_, hconsistent.size_erase_disabled⟩
  constructor
  · intro hmem
    obtain ⟨report, hreport⟩ := List.exists_mem_of_ne_nil reports
      (ne_nil_of_length_eq hconsistent.reports_pos hconsistent.length_eq)
    exact ⟨report, hreport, (hconsistent.mem_iff_attaches hreport).mp hmem⟩
  · rintro ⟨report, hreport, hattaches⟩
    exact (hconsistent.mem_iff_attaches hreport).mpr hattaches

end NeighborCheck

/-! ### A mesh with an empty slot -/

namespace EmptySlot

/-- A report with typed fields, and with zeros in place of everything else. -/
def reportOf (fields : List Field) : Bytes :=
  Report.encode {
    request := List.replicate Report.requestSize 0
    version := 0
    responseCode := 0
    param1 := 0
    param2 := 0
    blockCount := 0
    record := []
    nonce := List.replicate Report.nonceSize 0
    fieldBlock := fields.flatMap Field.encode
    signature := [] }

/-- The four switches. -/
def switches : List Pdi :=
  [[0xa0, 0, 0, 0, 0, 0, 0, 0], [0xa1, 0, 0, 0, 0, 0, 0, 0], [0xa2, 0, 0, 0, 0, 0, 0, 0],
    [0xa3, 0, 0, 0, 0, 0, 0, 0]]

/-- The one GPU. -/
def gpu : Pdi := [1, 0, 0, 0, 0, 0, 0, 0]

/-- The reports of the switches: the GPU is attached to each of them, and its other slot is
disabled. -/
def switchReports : List Bytes :=
  switches.map fun own ↦ reportOf [⟨22, own⟩, ⟨26, gpu ++ Pdi.disabled⟩]

/-- What the switches agree on. -/
def attached : PdiSet := PdiSet.ofList [gpu, Pdi.disabled]

/-- A check for two GPUs. -/
def check : NeighborCheck := { attachments := 2, accepted := PdiSet.ofList switches }

theorem run_check : check.run switchReports = .ok attached := by
  decide +kernel

end EmptySlot

namespace NeighborCheck

/-- The switches pass the check for two GPUs, with one GPU. -/
theorem run_disabled_mem_emptySlot :
    EmptySlot.check.run EmptySlot.switchReports = .ok EmptySlot.attached ∧
      (∀ report ∈ EmptySlot.switchReports, EmptySlot.check.Attaches report Pdi.disabled) ∧
      ((EmptySlot.attached.erase Pdi.disabled).size : Int) = EmptySlot.check.attachments - 1 := by
  have hmem : Pdi.disabled ∈ EmptySlot.attached :=
    PdiSet.mem_ofList.mpr (List.mem_cons_of_mem _ List.mem_cons_self)
  obtain ⟨hall, -, hsize⟩ := run_disabled_mem_iff _ _ _ EmptySlot.run_check
  rw [if_pos hmem] at hsize
  exact ⟨EmptySlot.run_check, hall.mp hmem, hsize⟩

/-- It is not so that a set that passes the check has enabled GPUs only, and as many as are asked
for. -/
theorem not_forall_run_enabled :
    ¬ ∀ (check : NeighborCheck) (reports : List Bytes) (gpus : PdiSet),
      check.run reports = .ok gpus →
        Pdi.disabled ∉ gpus ∧ ((gpus.erase Pdi.disabled).size : Int) = check.attachments := by
  intro hclaim
  have hdisabled := (hclaim _ _ _ EmptySlot.run_check).1
  exact hdisabled (PdiSet.mem_ofList.mpr (List.mem_cons_of_mem _ List.mem_cons_self))

end NeighborCheck

namespace Round

variable {round : Round} {now : Int} {gpus switches : List CollectedEvidence} {nonce : Bytes}
  {replies : List Reply} {result : RoundResult} {after : Wire}

/-- In the result of a round the disabled PDI is among the GPUs exactly when the reports of all
switches list it. -/
theorem disabled_mem_gpuPdis_iff
    (hrun : (round.run now gpus switches nonce).runWith replies = (.ok result, after)) :
    Pdi.disabled ∈ result.gpuPdis ↔ ∀ switch ∈ switches,
      (round.neighborCheck result.switchPdis).Attaches switch.report Pdi.disabled := by
  rw [Attempt.runWith_eq_runOn, run_runOn_eq_ok_iff] at hrun
  have hswitches := (describes_iff.mp hrun.2.1).2
  rw [hswitches.mem_iff_forall_attaches, List.forall_mem_map]

end Round

end MeshAttest
