import MeshAttest.Proofs.Report.FirstFields
import MeshAttest.Proofs.Round
import MeshAttest.Proofs.Topology.Agreement

/-!
# Meshes in which nothing is wrong

No genuine mesh is refused. `HealthyMesh` describes the reports of a mesh that is connected as it
should be: every GPU lists the switches, and every switch has a PDI of its own and lists the GPUs.
Of a report this fixes the first fields of the kinds in question and no more. The lists may come in
any order, with repetitions and disabled links among the switches, and everything around them is
free, down to octets behind them that are no fields at all.

Both checks accept the reports that are written for such a mesh (`run_of_healthyMesh`), and so does
the gate of a round, if the mesh has the size of a full one (`Round.gate_of_healthyMesh`). What a
mesh and a check have in common is consistency: the reports of a healthy mesh are consistent, and
those are just what the checks accept.
-/

set_option autoImplicit false

namespace MeshAttest

/-- The report is that of a GPU which is connected to the switches of a set. The first field of type
22 lists them, and may have disabled links between them. -/
structure Report.Connects (report : Report) (switches : PdiSet) : Prop where
  fits : report.Fits
  lists : ∃ pdis : List Pdi, Field.IsFirstIn ⟨22, pdis.flatten⟩ report.fieldBlock ∧
    (∀ p ∈ pdis, p.length = Pdi.size) ∧ ∀ p, p ∈ switches ↔ p ∈ pdis ∧ p ≠ Pdi.disabled

/-- The report is that of a switch to which the GPUs of a set are attached. The first field of type
22 has the PDI of the switch, and the first one of type 26 lists the GPUs. -/
structure Report.Attaches (report : Report) (own : Pdi) (gpus : PdiSet) : Prop where
  fits : report.Fits
  own_first : Field.IsFirstIn ⟨22, own⟩ report.fieldBlock
  own_length : own.length = Pdi.size
  lists : ∃ pdis : List Pdi, Field.IsFirstIn ⟨26, pdis.flatten⟩ report.fieldBlock ∧
    (∀ p ∈ pdis, p.length = Pdi.size) ∧ ∀ p, p ∈ gpus ↔ p ∈ pdis

/-- The reports are those of a mesh whose GPUs are all connected to its switches, and whose switches
have the own PDIs given, in the order of their reports. There is a report of each side. -/
structure HealthyMesh (switches gpus : PdiSet) (gpuReports switchReports : List Report)
    (owns : List Pdi) : Prop where
  gpuReports_ne_nil : gpuReports ≠ []
  switchReports_ne_nil : switchReports ≠ []
  connects : ∀ report ∈ gpuReports, report.Connects switches
  attaches : List.Forall₂ (fun report own ↦ report.Attaches own gpus) switchReports owns
  owns_mem : ∀ own ∈ owns, own ∈ switches

/-! ### What is read from a report -/

variable {switches gpus : PdiSet} {gpuReports switchReports : List Report} {owns : List Pdi}

/-- From a report that connects a GPU to some switches, these switches are read. -/
theorem Report.Connects.exists_neighborPdis {report : Report} (h : report.Connects switches) :
    ∃ pdis, neighborPdis report.encode switchPdisKind = .ok pdis ∧
      ∀ p, p ∈ switches ↔ p ∈ pdis ∧ p ≠ Pdi.disabled := by
  obtain ⟨pdis, hfirst, hlength, hpdis⟩ := h.lists
  exact ⟨pdis, neighborPdis_encode h.fits hfirst hlength, hpdis⟩

/-- From a report that attaches GPUs to a switch, these GPUs and the switch are read. -/
theorem Report.Attaches.exists_attachedPdis {report : Report} {own : Pdi}
    (h : report.Attaches own gpus) :
    ∃ pdis, attachedPdis report.encode devicePdiKind attachedPdisKind = .ok (pdis, own) ∧
      ∀ p, p ∈ gpus ↔ p ∈ pdis := by
  obtain ⟨pdis, hfirst, hlength, hpdis⟩ := h.lists
  exact ⟨pdis, attachedPdis_encode h.fits (by decide) h.own_first h.own_length hfirst hlength,
    hpdis⟩

/-- The links that switches report, with the own PDIs in the order of the reports. The induction is
on the reports, side by side with the own PDIs. -/
theorem exists_links_of_attaches
    (h : List.Forall₂ (fun report own ↦ report.Attaches own gpus) switchReports owns) :
    ∃ links : List (List Pdi × Pdi), (switchReports.map Report.encode).map
        (Report.attachedPdis · Report.devicePdiKind Report.attachedPdisKind) = links.map .ok ∧
      links.map Prod.snd = owns ∧ ∀ link ∈ links, PdiSet.ofList link.1 = gpus := by
  induction h with
  | nil => exact ⟨[], rfl, rfl, List.forall_mem_nil _⟩
  | @cons report own reports owns hfirst _ ih =>
    obtain ⟨pdis, hread, hpdis⟩ := hfirst.exists_attachedPdis
    obtain ⟨links, hlinks, howns, hgpus⟩ := ih
    refine ⟨(pdis, own) :: links, ?_, ?_, ?_⟩
    · rw [List.map_cons, List.map_cons, List.map_cons, hread, hlinks]
    · rw [List.map_cons, howns]
    · exact List.forall_mem_cons.mpr ⟨PdiSet.ofList_eq_iff.mpr hpdis, hgpus⟩

/-! ### What the checks accept -/

namespace HealthyMesh

/-- The GPU reports of a healthy mesh are consistent with its switches. -/
theorem device_consistent (h : HealthyMesh switches gpus gpuReports switchReports owns) :
    DeviceCheck.Consistent { reports := gpuReports.length, switches := switches.size }
      (gpuReports.map Report.encode) switches := by
  have hpos : 0 < gpuReports.length := List.length_pos_iff.mpr h.gpuReports_ne_nil
  refine ⟨?_, ?_, ?_, rfl⟩
  · show (1 : Int) ≤ gpuReports.length
    omega
  · rw [List.length_map]
  · exact List.forall_mem_map.mpr fun report hreport ↦
      (h.connects report hreport).exists_neighborPdis

/-- The switch reports of a healthy mesh are consistent with its GPUs, also where the switches have
to be distinct if they are. -/
theorem neighbor_consistent (h : HealthyMesh switches gpus gpuReports switchReports owns)
    (distinct : Bool) (hdistinct : distinct = true → owns.Nodup) :
    NeighborCheck.Consistent
      { attachments := gpus.size, accepted := switches, reports := switchReports.length, distinct }
      (switchReports.map Report.encode) gpus := by
  have hpos : 0 < switchReports.length := List.length_pos_iff.mpr h.switchReports_ne_nil
  obtain ⟨links, hlinks, howns, hgpus⟩ := exists_links_of_attaches h.attaches
  refine NeighborCheck.consistent_iff.mpr ⟨?_, ?_, links, hlinks, ?_, hgpus, fun _ ↦ rfl,
    fun _ link _ ↦ PdiSet.not_mem_empty link.2, ?_⟩
  · show (1 : Int) ≤ switchReports.length
    omega
  · rw [List.length_map]
  · intro link hlink
    exact h.owns_mem link.2 (howns ▸ List.mem_map_of_mem hlink)
  · rw [howns]
    exact hdistinct

end HealthyMesh

/-- The reports of a healthy mesh pass both checks, for as many reports, switches and GPUs as there
are, and the checks give the two sets of the mesh. Two reports of one switch do not matter, unless
distinct switches are asked for. -/
theorem run_of_healthyMesh (switches gpus : PdiSet) (gpuReports switchReports : List Report)
    (owns : List Pdi) (h : HealthyMesh switches gpus gpuReports switchReports owns) :
    DeviceCheck.run { reports := gpuReports.length, switches := switches.size }
        (gpuReports.map Report.encode) = .ok switches ∧
      ∀ distinct : Bool, (distinct = true → owns.Nodup) →
        NeighborCheck.run
          { attachments := gpus.size, accepted := switches, reports := switchReports.length,
            distinct }
          (switchReports.map Report.encode) = .ok gpus := by
  constructor
  · exact DeviceCheck.run_eq_ok_iff.mpr h.device_consistent
  · intro distinct hdistinct
    exact NeighborCheck.run_eq_ok_iff.mpr (h.neighbor_consistent distinct hdistinct)

/-! ### A small mesh -/

namespace SmallMesh

/-- A PDI that differs in its last octet only. -/
def pdi (last : UInt8) : Pdi := [0x10, 0xde, 0, 0, 0, 0, 0, last]

/-- A report with a block of fields. -/
def reportOf (block : Bytes) : Report where
  request := List.replicate Report.requestSize 0x10
  version := 0x11
  responseCode := 0x60
  param1 := 0
  param2 := 0
  blockCount := 1
  record := [0x11]
  nonce := List.replicate Report.nonceSize 0x22
  fieldBlock := block
  signature := [0x33]

theorem reportOf_fits {block : Bytes} (h : block.length < 2 ^ 16) : (reportOf block).Fits :=
  ⟨rfl, Nat.one_lt_two_pow (by decide), rfl, h⟩

/-- The two switches. -/
def switchPdis : PdiSet := PdiSet.ofList [pdi 0xa0, pdi 0xa1]

/-- The two GPUs. -/
def gpuPdis : PdiSet := PdiSet.ofList [pdi 1, pdi 2]

/-- The first GPU has a disabled link. The list of the second one is in another order and has a
repetition, and an octet follows it that is no field. -/
def gpuBlocks : List Bytes :=
  [Field.encodeAll [⟨1, [0, 0, 0, 0]⟩, ⟨22, [pdi 0xa0, Pdi.disabled, pdi 0xa1].flatten⟩],
    Field.encodeAll [⟨22, [pdi 0xa1, pdi 0xa0, pdi 0xa1].flatten⟩] ++ [7]]

/-- The second switch has its list in front of its own PDI. -/
def switchBlocks : List Bytes :=
  [Field.encodeAll [⟨22, pdi 0xa0⟩, ⟨2, []⟩, ⟨26, [pdi 1, pdi 2].flatten⟩],
    Field.encodeAll [⟨26, [pdi 2, pdi 1, pdi 2].flatten⟩, ⟨22, pdi 0xa1⟩] ++ [26]]

theorem connects : ∀ report ∈ gpuBlocks.map reportOf, report.Connects switchPdis := by
  have hfirst : (reportOf gpuBlocks[0]).Connects switchPdis :=
    ⟨reportOf_fits (by decide), [pdi 0xa0, Pdi.disabled, pdi 0xa1],
      ⟨[⟨1, [0, 0, 0, 0]⟩], by decide, by decide, by decide⟩, by decide,
      PdiSet.erase_ofList_eq_iff.mp (by decide)⟩
  have hsecond : (reportOf gpuBlocks[1]).Connects switchPdis :=
    ⟨reportOf_fits (by decide), [pdi 0xa1, pdi 0xa0, pdi 0xa1],
      ⟨[], by decide, by decide, by decide⟩, by decide,
      PdiSet.erase_ofList_eq_iff.mp (by decide)⟩
  exact List.forall_mem_cons.mpr ⟨hfirst, List.forall_mem_singleton.mpr hsecond⟩

theorem attaches : List.Forall₂ (fun report own ↦ report.Attaches own gpuPdis)
    (switchBlocks.map reportOf) [pdi 0xa0, pdi 0xa1] := by
  have hfirst : (reportOf switchBlocks[0]).Attaches (pdi 0xa0) gpuPdis :=
    ⟨reportOf_fits (by decide), ⟨[], by decide, by decide, by decide⟩, rfl, [pdi 1, pdi 2],
      ⟨[⟨22, pdi 0xa0⟩, ⟨2, []⟩], by decide, by decide, by decide⟩, by decide,
      PdiSet.ofList_eq_iff.mp rfl⟩
  have hsecond : (reportOf switchBlocks[1]).Attaches (pdi 0xa1) gpuPdis :=
    ⟨reportOf_fits (by decide),
      ⟨[⟨26, [pdi 2, pdi 1, pdi 2].flatten⟩], by decide, by decide, by decide⟩, rfl,
      [pdi 2, pdi 1, pdi 2], ⟨[], by decide, by decide, by decide⟩, by decide,
      PdiSet.ofList_eq_iff.mp (by decide)⟩
  exact .cons hfirst (.cons hsecond .nil)

/-- The two GPUs and the two switches are a healthy mesh. -/
theorem healthy :
    HealthyMesh switchPdis gpuPdis (gpuBlocks.map reportOf) (switchBlocks.map reportOf)
      [pdi 0xa0, pdi 0xa1] :=
  ⟨List.cons_ne_nil _ _, List.cons_ne_nil _ _, connects, attaches, by decide⟩

end SmallMesh

/-- The small mesh passes both checks, also when distinct switches are asked for. -/
theorem run_smallMesh :
    DeviceCheck.run { reports := 2, switches := 2 }
        ((SmallMesh.gpuBlocks.map SmallMesh.reportOf).map Report.encode) =
          .ok SmallMesh.switchPdis ∧
      NeighborCheck.run
        { attachments := 2, accepted := SmallMesh.switchPdis, reports := 2, distinct := true }
        ((SmallMesh.switchBlocks.map SmallMesh.reportOf).map Report.encode) =
          .ok SmallMesh.gpuPdis := by
  obtain ⟨hdevice, hneighbor⟩ := run_of_healthyMesh _ _ _ _ _ SmallMesh.healthy
  exact ⟨hdevice, hneighbor true fun _ ↦ by decide⟩

/-- The evidence of a healthy mesh of full size passes the gate of a round. -/
theorem Round.gate_of_healthyMesh {round : Round}
    {gpuEvidence switchEvidence : List CollectedEvidence}
    (h : HealthyMesh switches gpus gpuReports switchReports owns)
    (hgpuEvidence : gpuEvidence.map (·.report) = gpuReports.map Report.encode)
    (hswitchEvidence : switchEvidence.map (·.report) = switchReports.map Report.encode)
    (hgpuReports : (gpuReports.length : Int) = round.gpuCount)
    (hgpus : (gpus.size : Int) = round.gpuCount) (hswitchReports : switchReports.length = 4)
    (hswitches : switches.size = 4) :
    round.gate gpuEvidence switchEvidence = .ok (switches, gpus) := by
  have hdevice := h.device_consistent
  have hneighbor := h.neighbor_consistent false fun hfalse ↦ nomatch hfalse
  rw [hgpuReports, hswitches] at hdevice
  rw [hgpus, hswitchReports] at hneighbor
  rw [Round.gate_eq_ok_iff, Round.describes_iff, hgpuEvidence, hswitchEvidence]
  exact ⟨hdevice, hneighbor⟩

end MeshAttest
