import MeshAttest.Proofs.Topology.FirstFault
import MeshAttest.Proofs.Topology.HealthyMesh

/-!
# Repeated reports of one switch

Two reports of one switch are let pass unless it is asked for that they are refused. Asking for it
adds one thing to what is looked for in a report, and takes nothing away: what one report is refused
for is either the same in both modes or that the switch has reported before
(`faultAt_of_strict`, `exists_faultAt_of_lenient`). `run_withDistinct` follows for all reports.
-/

set_option autoImplicit false

namespace MeshAttest

namespace NeighborCheck

variable {check : NeighborCheck} {reports : List Bytes} {k : Nat} {own : Pdi} {gpus : PdiSet}
  {fault : TopologyFault}

/-- The check that refuses two reports of one switch, or the one that does not. -/
def withDistinct (check : NeighborCheck) (distinct : Bool) : NeighborCheck :=
  { check with distinct := distinct }

/-- The report at the position is one of a switch that has reported before. -/
def Repeats (check : NeighborCheck) (reports : List Bytes) (k : Nat) (own : Pdi) : Prop :=
  (∃ report, reports[k]? = some report ∧ check.ReportsOwn report own) ∧
    check.ReportedBefore reports k own

/-- No two reports are of one switch. -/
def Distinct (check : NeighborCheck) (reports : List Bytes) : Prop :=
  reports.Pairwise fun first second ↦
    ∀ own, check.ReportsOwn first own → ¬ check.ReportsOwn second own

/-- No two reports are of one switch exactly if no report repeats an own PDI. -/
theorem distinct_iff : check.Distinct reports ↔ ∀ k own, ¬ check.Repeats reports k own := by
  rw [Distinct, List.pairwise_iff_getElem]
  constructor
  · rintro hne k own ⟨⟨second, hsecond, hsame⟩, j, hj, first, hfirst, hown⟩
    obtain ⟨hklt, rfl⟩ := List.getElem?_eq_some_iff.mp hsecond
    obtain ⟨hjlt, rfl⟩ := List.getElem?_eq_some_iff.mp hfirst
    exact hne j k hjlt hklt hj own hown hsame
  · intro hnone j k hjlt hklt hj own hown hsame
    exact hnone k own ⟨⟨_, List.getElem?_eq_getElem hklt, hsame⟩, j, hj, _,
      List.getElem?_eq_getElem hjlt, hown⟩

/-- Where the strict check finds a fault, an own PDI is repeated or the lenient check finds the same
fault. -/
theorem faultAt_of_strict (h : (check.withDistinct true).FaultAt reports k fault) :
    (∃ own, check.Repeats reports k own ∧ fault = .duplicate own) ∨
      (check.withDistinct false).FaultAt reports k fault := by
  cases h with
  | unreadable hreport hread => exact .inr (.unreadable hreport hread)
  | unrecognized hreport hown hother => exact .inr (.unrecognized hreport hown hother)
  | duplicate hreport hown _ _ hbefore => exact .inl ⟨_, ⟨⟨_, hreport, hown⟩, hbefore⟩, rfl⟩
  | names hreport hlinks haccepted _ hset => exact .inr (.names hreport hlinks haccepted nofun hset)

/-- Where the lenient check finds a fault, the strict check finds one, too. -/
theorem exists_faultAt_of_lenient (h : (check.withDistinct false).FaultAt reports k fault) :
    ∃ other, (check.withDistinct true).FaultAt reports k other := by
  cases h with
  | unreadable hreport hread => exact ⟨_, .unreadable hreport hread⟩
  | unrecognized hreport hown hother => exact ⟨_, .unrecognized hreport hown hother⟩
  | duplicate _ _ _ hdistinct _ => cases hdistinct
  | @names _ own _ _ hreport hlinks haccepted _ hset =>
    by_cases hbefore : check.ReportedBefore reports k own
    · exact ⟨_, .duplicate hreport ⟨_, hlinks⟩ haccepted rfl hbefore⟩
    · exact ⟨_, .names hreport hlinks haccepted (fun _ ↦ hbefore) hset⟩

/-- Lenient mode accepts what strict mode does. -/
theorem run_of_strict (h : (check.withDistinct true).run reports = .ok gpus) :
    (check.withDistinct false).run reports = .ok gpus := by
  have hmesh := run_eq_ok_iff.mp h
  exact run_eq_ok_iff.mpr ⟨hmesh.reports_pos, hmesh.length_eq, hmesh.attached, hmesh.size_eq, nofun⟩

/-- If the lenient check succeeds, it finds no fault in any report. -/
theorem not_faultAt_of_run (h : (check.withDistinct false).run reports = .ok gpus) :
    ¬ (check.withDistinct false).FaultAt reports k fault := by
  intro hfault
  have hmesh := run_eq_ok_iff.mp h
  obtain ⟨j, first, hfirst⟩ := exists_isFirst hfault
  have herror := ((check.withDistinct false).run_blamesFirst.first reports hmesh.reports_pos
    hmesh.length_eq first).mpr ⟨j, hfirst⟩
  cases h.symm.trans herror

/-- If no two reports are of one switch, the strict check has the result of the lenient one. -/
theorem run_of_distinct (h : (check.withDistinct false).run reports = .ok gpus)
    (hdistinct : check.Distinct reports) : (check.withDistinct true).run reports = .ok gpus := by
  have hmesh := run_eq_ok_iff.mp h
  cases hstrict : (check.withDistinct true).run reports with
  | ok other => exact (run_of_strict hstrict).symm.trans h
  | error fault =>
    obtain ⟨k, hfault, -⟩ := ((check.withDistinct true).run_blamesFirst.first reports
      hmesh.reports_pos hmesh.length_eq fault).mp hstrict
    rcases faultAt_of_strict hfault with ⟨own, hrepeats, -⟩ | hlenient
    · exact absurd hrepeats (distinct_iff.mp hdistinct k own)
    · exact absurd hlenient (not_faultAt_of_run h)

/-- If an own PDI is repeated, the strict check names the first one that is, although the lenient
check succeeds. -/
theorem run_of_isFirst (h : (check.withDistinct false).run reports = .ok gpus)
    (hfirst : IsFirst (check.Repeats reports) k own) :
    (check.withDistinct true).run reports = .error (.duplicate own) := by
  have hmesh := run_eq_ok_iff.mp h
  obtain ⟨⟨⟨report, hreport, hown⟩, hbefore⟩, hnone⟩ := hfirst
  have haccepted : own ∈ check.accepted := by
    by_contra hother
    exact not_faultAt_of_run h (.unrecognized hreport hown hother)
  refine ((check.withDistinct true).run_blamesFirst.first reports hmesh.reports_pos
    hmesh.length_eq _).mpr ⟨k, .duplicate hreport hown haccepted rfl hbefore, ?_⟩
  intro j hj fault hfault
  rcases faultAt_of_strict hfault with ⟨other, hrepeats, -⟩ | hlenient
  · exact hnone j hj other hrepeats
  · exact not_faultAt_of_run h hlenient

/-- Any other fault of the strict check is one of the lenient check as well. -/
theorem run_of_strict_error (h : (check.withDistinct true).run reports = .error fault)
    (hother : ∀ own, fault ≠ .duplicate own) :
    (check.withDistinct false).run reports = .error fault := by
  have hstrict := (check.withDistinct true).run_blamesFirst
  have hlenient := (check.withDistinct false).run_blamesFirst
  by_cases hpos : 1 ≤ check.reports
  · by_cases hlength : (reports.length : Int) = check.reports
    · obtain ⟨k, hfault, hnone⟩ := (hstrict.first reports hpos hlength fault).mp h
      refine (hlenient.first reports hpos hlength fault).mpr ⟨k, ?_, fun j hj other hsome ↦ ?_⟩
      · rcases faultAt_of_strict hfault with ⟨own, -, hduplicate⟩ | hsame
        · exact absurd hduplicate (hother own)
        · exact hsame
      · obtain ⟨strictFault, hstrictFault⟩ := exists_faultAt_of_lenient hsome
        exact hnone j hj strictFault hstrictFault
    · rw [← h, hlenient.count reports hpos hlength]
      exact (hstrict.count reports hpos hlength).symm
  · rw [← h, hlenient.noneExpected reports (Int.not_le.mp hpos)]
    exact (hstrict.noneExpected reports (Int.not_le.mp hpos)).symm

/-- To refuse two reports of one switch changes nothing for reports of different switches, nor for
reports that are refused for anything else. -/
theorem run_withDistinct (check : NeighborCheck) (reports : List Bytes) :
    (∀ gpus, (check.withDistinct true).run reports = .ok gpus →
      (check.withDistinct false).run reports = .ok gpus) ∧
    (∀ gpus, (check.withDistinct false).run reports = .ok gpus →
      (check.Distinct reports → (check.withDistinct true).run reports = .ok gpus) ∧
        (¬ check.Distinct reports → ∃ k own, IsFirst (check.Repeats reports) k own ∧
          (check.withDistinct true).run reports = .error (.duplicate own))) ∧
    ∀ fault, (check.withDistinct true).run reports = .error fault →
      (∀ own, fault ≠ .duplicate own) → (check.withDistinct false).run reports = .error fault := by
  refine ⟨fun gpus ↦ run_of_strict, fun gpus h ↦ ⟨run_of_distinct h, fun hrepeated ↦ ?_⟩,
    fun fault ↦ run_of_strict_error⟩
  simp only [distinct_iff, not_forall, not_not] at hrepeated
  obtain ⟨k, own, hrepeats⟩ := hrepeated
  obtain ⟨first, firstOwn, hfirst⟩ := exists_isFirst hrepeats
  exact ⟨first, firstOwn, hfirst, run_of_isFirst h hfirst⟩

/-! ### A switch that reports twice -/

def repeatedReport : Report := SmallMesh.reportOf SmallMesh.switchBlocks[0]

def repeatedReports : List Bytes := [repeatedReport.encode, repeatedReport.encode]

def repeatedCheck : NeighborCheck where
  attachments := 2
  accepted := SmallMesh.switchPdis
  reports := 2

theorem repeatedReport_attaches :
    repeatedReport.Attaches (SmallMesh.pdi 0xa0) SmallMesh.gpuPdis :=
  (List.forall₂_cons.mp SmallMesh.attaches).1

theorem run_repeatedReports :
    (repeatedCheck.withDistinct false).run repeatedReports = .ok SmallMesh.gpuPdis := by
  have hmesh : HealthyMesh SmallMesh.switchPdis SmallMesh.gpuPdis
      (SmallMesh.gpuBlocks.map SmallMesh.reportOf) [repeatedReport, repeatedReport]
      [SmallMesh.pdi 0xa0, SmallMesh.pdi 0xa0] :=
    ⟨List.cons_ne_nil _ _, List.cons_ne_nil _ _, SmallMesh.connects,
      .cons repeatedReport_attaches (.cons repeatedReport_attaches .nil), by decide⟩
  exact run_eq_ok_iff.mpr (hmesh.neighbor_consistent false nofun)

/-- The first switch of the small mesh stands in for the second one as well. -/
theorem run_withDistinct_repeatedReports :
    (repeatedCheck.withDistinct false).run repeatedReports = .ok SmallMesh.gpuPdis ∧
      (repeatedCheck.withDistinct true).run repeatedReports =
        .error (.duplicate (SmallMesh.pdi 0xa0)) := by
  obtain ⟨pdis, hread, hgpus⟩ := repeatedReport_attaches.exists_attachedPdis
  have hlinks : repeatedCheck.Links repeatedReport.encode SmallMesh.gpuPdis (SmallMesh.pdi 0xa0) :=
    ⟨pdis, hread, hgpus⟩
  have hrepeated : ¬ repeatedCheck.Distinct repeatedReports := by
    intro hdistinct
    have hother := (List.pairwise_cons.mp hdistinct).1 _ List.mem_cons_self
    exact hother _ ⟨_, hlinks⟩ ⟨_, hlinks⟩
  obtain ⟨k, own, hfirst, hstrict⟩ :=
    ((run_withDistinct repeatedCheck repeatedReports).2.1 _ run_repeatedReports).2 hrepeated
  obtain ⟨report, hreport, gpus, hown⟩ := hfirst.1.1
  obtain rfl : report = repeatedReport.encode := by
    have hmem := List.mem_of_getElem? hreport
    simpa [repeatedReports] using hmem
  obtain ⟨-, rfl⟩ := hown.unique hlinks
  exact ⟨run_repeatedReports, hstrict⟩

end NeighborCheck

end MeshAttest
