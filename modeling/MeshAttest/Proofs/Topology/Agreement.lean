import MeshAttest.Proofs.Outcome
import MeshAttest.Topology

/-!
# Reports of consistent meshes

The two checks of a mesh go through the reports one by one and keep the set that those read so far
agree on, and for switches also their own PDIs. `DeviceCheck.Consistent` and
`NeighborCheck.Consistent` say without any order what the reports have to have in common.
`DeviceCheck.run_eq_ok_iff` and `NeighborCheck.run_eq_ok_iff` show that the checks accept exactly
the reports of consistent meshes, and `NeighborCheck.run_decides_switches` that all others are
refused.
-/

set_option autoImplicit false

namespace MeshAttest

open Outcome

namespace PdiSet

theorem ofList_eq_iff {pdis : List Pdi} {set : PdiSet} :
    ofList pdis = set ↔ ∀ p, p ∈ set ↔ p ∈ pdis := by
  constructor
  · rintro rfl p
    exact mem_ofList
  · intro h
    exact ext fun p ↦ mem_ofList.trans (h p).symm

theorem erase_ofList_eq_iff {pdis : List Pdi} {set : PdiSet} {p : Pdi} :
    (ofList pdis).erase p = set ↔ ∀ q, q ∈ set ↔ q ∈ pdis ∧ q ≠ p := by
  constructor
  · rintro rfl q
    rw [mem_erase, mem_ofList]
  · intro h
    refine ext fun q ↦ ?_
    rw [mem_erase, mem_ofList, h q]

end PdiSet

/-- There have to be as many reports as are expected, and at least one. -/
theorem checkReportCount_eq_ok_iff {reporter : DeviceKind} {expected : Int} {actual : Nat}
    {done : Unit} : checkReportCount reporter expected actual = .ok done ↔
      1 ≤ expected ∧ (actual : Int) = expected := by
  unfold checkReportCount
  split
  · simp only [reduceCtorEq, false_iff]
    omega
  · split
    · simp only [reduceCtorEq, false_iff]
      omega
    · simp only [true_iff]
      omega

theorem ne_nil_of_length_eq {reports : List Bytes} {expected : Int} (hpos : 1 ≤ expected)
    (hlength : (reports.length : Int) = expected) : reports ≠ [] := by
  rintro rfl
  rw [List.length_nil] at hlength
  omega

/-- A set passes if it has the expected size and is the one of the reports before. -/
theorem checkSet_eq_ok_iff {reporter : DeviceKind} {expected : Int} {index : Nat}
    {common : Option PdiSet} {pdis agreed : PdiSet} :
    checkSet reporter expected index common pdis = .ok agreed ↔
      (pdis.size : Int) = expected ∧ (∀ earlier ∈ common, pdis = earlier) ∧ agreed = pdis := by
  unfold checkSet
  by_cases hsize : (pdis.size : Int) = expected
  · rw [if_neg (not_not_intro hsize)]
    cases common with
    | none => simp [hsize, eq_comm]
    | some earlier =>
      by_cases hsame : pdis = earlier
      · subst hsame
        simp [hsize, eq_comm]
      · simp [hsame]
  · rw [if_pos hsize]
    simp [hsize]

/-- What is agreed on when no report is left: the set of those before, if there are any. -/
theorem ok_getD_eq_ok_iff {common : Option PdiSet} {agreed : PdiSet} :
    (.ok (common.getD PdiSet.empty) : Except TopologyFault PdiSet) = .ok agreed ↔
      agreed = common.getD PdiSet.empty ∧ ∀ earlier ∈ common, agreed = earlier := by
  rw [Except.ok.injEq]
  constructor
  · rintro rfl
    refine ⟨rfl, fun earlier hearlier ↦ ?_⟩
    rw [Option.mem_def.mp hearlier, Option.getD_some]
  · exact fun h ↦ h.1.symm

/-! ### Reports of GPUs -/

namespace DeviceCheck

variable {check : DeviceCheck} {switches : PdiSet} {common : Option PdiSet} {index : Nat}
  {report : Bytes} {reports : List Bytes}

/-- The switches of a report are the PDIs in its list that are not disabled. -/
theorem switchSet_eq_ok_iff :
    check.switchSet report = .ok switches ↔
      ∃ pdis, Report.neighborPdis report check.kind = .ok pdis ∧
        ∀ p, p ∈ switches ↔ p ∈ pdis ∧ p ≠ Pdi.disabled := by
  unfold switchSet
  split
  · next pdis hread => simp [hread, PdiSet.erase_ofList_eq_iff]
  · next fault hread => simp [hread]

/-- The induction is on the reports. The set that all of them agree on is fixed by the first one, or
by those before it. -/
theorem agree_eq_ok_iff :
    check.agree index common reports = .ok switches ↔
      (reports = [] → switches = common.getD PdiSet.empty) ∧
        (∀ earlier ∈ common, switches = earlier) ∧
        ∀ report ∈ reports, check.switchSet report = .ok switches ∧
          (switches.size : Int) = check.switches := by
  induction reports generalizing index common with
  | nil =>
    rw [agree, ok_getD_eq_ok_iff]
    constructor
    · rintro ⟨hagreed, hcommon⟩
      exact ⟨fun _ ↦ hagreed, hcommon, by simp⟩
    · rintro ⟨hagreed, hcommon, -⟩
      exact ⟨hagreed rfl, hcommon⟩
  | cons report rest ih =>
    rw [agree, List.forall_mem_cons]
    simp only [bind_eq_ok_iff, checkSet_eq_ok_iff, ih]
    constructor
    · rintro ⟨pdis, hread, agreed, ⟨hsize, hcommon, hagreed⟩, -, hsame, hrest⟩
      obtain rfl : switches = pdis := (hsame agreed rfl).trans hagreed
      exact ⟨by simp, hcommon, ⟨hread, hsize⟩, hrest⟩
    · rintro ⟨-, hcommon, ⟨hread, hsize⟩, hrest⟩
      refine ⟨switches, hread, switches, ⟨hsize, hcommon, rfl⟩, fun _ ↦ rfl, ?_, hrest⟩
      intro earlier hearlier
      exact Option.some.inj (Option.mem_def.mp hearlier)

/-- The reports describe a mesh in which every GPU is connected to the switches of one set. -/
structure Consistent (check : DeviceCheck) (reports : List Bytes) (switches : PdiSet) : Prop where
  reports_pos : 1 ≤ check.reports
  length_eq : (reports.length : Int) = check.reports
  named : ∀ report ∈ reports, ∃ pdis, Report.neighborPdis report check.kind = .ok pdis ∧
    ∀ p, p ∈ switches ↔ p ∈ pdis ∧ p ≠ Pdi.disabled
  size_eq : (switches.size : Int) = check.switches

theorem Consistent.reports_ne_nil (h : check.Consistent reports switches) : reports ≠ [] :=
  ne_nil_of_length_eq h.reports_pos h.length_eq

/-- A disabled link is no switch. -/
theorem Consistent.disabled_not_mem (h : check.Consistent reports switches) :
    Pdi.disabled ∉ switches := by
  obtain ⟨report, hreport⟩ := List.exists_mem_of_ne_nil reports h.reports_ne_nil
  obtain ⟨pdis, -, hpdis⟩ := h.named report hreport
  exact fun hmem ↦ ((hpdis _).mp hmem).2 rfl

/-- The check accepts the reports of consistent meshes only, and all of them. -/
theorem run_eq_ok_iff : check.run reports = .ok switches ↔ check.Consistent reports switches := by
  rw [run]
  simp only [bind_eq_ok_iff, checkReportCount_eq_ok_iff, agree_eq_ok_iff, switchSet_eq_ok_iff]
  constructor
  · rintro ⟨-, ⟨hpos, hlength⟩, -, -, hreports⟩
    obtain ⟨report, hreport⟩ :=
      List.exists_mem_of_ne_nil reports (ne_nil_of_length_eq hpos hlength)
    exact ⟨hpos, hlength, fun report hreport ↦ (hreports report hreport).1,
      (hreports report hreport).2⟩
  · intro h
    exact ⟨(), ⟨h.reports_pos, h.length_eq⟩, fun hnil ↦ absurd hnil h.reports_ne_nil, by simp,
      fun report hreport ↦ ⟨h.named report hreport, h.size_eq⟩⟩

end DeviceCheck

/-! ### Reports of switches -/

namespace NeighborCheck

variable {check : NeighborCheck} {seen gpus : PdiSet} {common : Option PdiSet} {index : Nat}

/-- The GPUs of a report are the PDIs in its list, disabled ones included. -/
theorem gpuSet_eq_ok_iff {report : Bytes} {pdis : PdiSet × Pdi} :
    check.gpuSet report = .ok pdis ↔
      ∃ link, Report.attachedPdis report check.deviceKind check.attachedKind = .ok link ∧
        (PdiSet.ofList link.1, link.2) = pdis := by
  unfold gpuSet
  split
  · next attached own hread => simp [hread]
  · next fault hread => simp [hread]

/-- An own PDI passes if it is accepted and, where that is asked for, has not been seen. -/
theorem checkOwn_eq_ok_iff {own : Pdi} {done : Unit} :
    check.checkOwn seen own = .ok done ↔
      own ∈ check.accepted ∧ (check.distinct → own ∉ seen) := by
  unfold checkOwn
  by_cases haccepted : own ∈ check.accepted
  · rw [if_neg (not_not_intro haccepted)]
    by_cases hrepeated : check.distinct ∧ own ∈ seen
    · simp [hrepeated]
    · rw [if_neg hrepeated]
      simpa [haccepted] using hrepeated
  · rw [if_pos haccepted]
    simp [haccepted]

/-- The reports agree on a set if the first one passes and the others agree with it. -/
theorem agree_cons_eq_ok_iff {report : Bytes} {rest : List Bytes} :
    check.agree index seen common (report :: rest) = .ok gpus ↔
      ∃ link, Report.attachedPdis report check.deviceKind check.attachedKind = .ok link ∧
        link.2 ∈ check.accepted ∧ (check.distinct → link.2 ∉ seen) ∧
        ((PdiSet.ofList link.1).size : Int) = check.attachments ∧
        (∀ earlier ∈ common, PdiSet.ofList link.1 = earlier) ∧
        check.agree (index + 1) (seen.insert link.2) (some (PdiSet.ofList link.1)) rest =
          .ok gpus := by
  rw [agree]
  simp only [bind_eq_ok_iff, gpuSet_eq_ok_iff, checkOwn_eq_ok_iff, checkSet_eq_ok_iff]
  constructor
  · rintro ⟨_, ⟨link, hread, rfl⟩, _, ⟨haccepted, hfresh⟩, _, ⟨hsize, hcommon, rfl⟩, hrest⟩
    exact ⟨link, hread, haccepted, hfresh, hsize, hcommon, hrest⟩
  · rintro ⟨link, hread, haccepted, hfresh, hsize, hcommon, hrest⟩
    exact ⟨_, ⟨link, hread, rfl⟩, (), ⟨haccepted, hfresh⟩, _, ⟨hsize, hcommon, rfl⟩, hrest⟩

/-- What reports say, the attached PDIs and the own PDI of each, fits the check and one set of
GPUs. The own PDIs of the reports before them have been seen. -/
structure Fits (check : NeighborCheck) (seen : PdiSet) (gpus : PdiSet)
    (links : List (List Pdi × Pdi)) : Prop where
  accepted : ∀ link ∈ links, link.2 ∈ check.accepted
  attached : ∀ link ∈ links, PdiSet.ofList link.1 = gpus
  size : links ≠ [] → (gpus.size : Int) = check.attachments
  fresh : check.distinct → ∀ link ∈ links, link.2 ∉ seen
  nodup : check.distinct → (links.map Prod.snd).Nodup

theorem fits_nil : check.Fits seen gpus [] :=
  ⟨by simp, by simp, by simp, by simp, by simp⟩

/-- What reports say fits if what the first one says does, and the rest fits with one more PDI
seen. -/
theorem fits_cons_iff {link : List Pdi × Pdi} {links : List (List Pdi × Pdi)} :
    check.Fits seen gpus (link :: links) ↔
      link.2 ∈ check.accepted ∧ (check.distinct → link.2 ∉ seen) ∧
        PdiSet.ofList link.1 = gpus ∧ (gpus.size : Int) = check.attachments ∧
        check.Fits (seen.insert link.2) gpus links := by
  constructor
  · intro h
    obtain ⟨haccepted, hotherAccepted⟩ := List.forall_mem_cons.mp h.accepted
    obtain ⟨hattached, hotherAttached⟩ := List.forall_mem_cons.mp h.attached
    refine ⟨haccepted, fun hdistinct ↦ h.fresh hdistinct link List.mem_cons_self, hattached,
      h.size (List.cons_ne_nil _ _), hotherAccepted, hotherAttached,
      fun _ ↦ h.size (List.cons_ne_nil _ _), fun hdistinct other hother ↦ ?_,
      fun hdistinct ↦ (List.nodup_cons.mp (h.nodup hdistinct)).2⟩
    rw [PdiSet.mem_insert, not_or]
    refine ⟨?_, h.fresh hdistinct other (List.mem_cons_of_mem _ hother)⟩
    intro hsame
    exact (List.nodup_cons.mp (h.nodup hdistinct)).1 (hsame ▸ List.mem_map_of_mem hother)
  · rintro ⟨haccepted, hfresh, hattached, hsize, h⟩
    refine ⟨List.forall_mem_cons.mpr ⟨haccepted, h.accepted⟩,
      List.forall_mem_cons.mpr ⟨hattached, h.attached⟩, fun _ ↦ hsize,
      fun hdistinct ↦ List.forall_mem_cons.mpr ⟨hfresh hdistinct, fun other hother hseen ↦ ?_⟩,
      fun hdistinct ↦ List.nodup_cons.mpr ⟨fun hrepeated ↦ ?_, h.nodup hdistinct⟩⟩
    · exact h.fresh hdistinct other hother (PdiSet.mem_insert.mpr (Or.inr hseen))
    · obtain ⟨other, hother, hsame⟩ := List.mem_map.mp hrepeated
      exact h.fresh hdistinct other hother (PdiSet.mem_insert.mpr (Or.inl hsame))

/-- The induction is on the reports. The set that all of them agree on is fixed by the first one, or
by those before it. -/
theorem agree_eq_ok_iff {reports : List Bytes} :
    check.agree index seen common reports = .ok gpus ↔
      (reports = [] → gpus = common.getD PdiSet.empty) ∧ (∀ earlier ∈ common, gpus = earlier) ∧
        ∃ links, reports.map (Report.attachedPdis · check.deviceKind check.attachedKind) =
          links.map .ok ∧ check.Fits seen gpus links := by
  induction reports generalizing index seen common with
  | nil =>
    rw [agree, ok_getD_eq_ok_iff]
    constructor
    · rintro ⟨hagreed, hcommon⟩
      exact ⟨fun _ ↦ hagreed, hcommon, [], rfl, fits_nil⟩
    · rintro ⟨hagreed, hcommon, -⟩
      exact ⟨hagreed rfl, hcommon⟩
  | cons report rest ih =>
    rw [agree_cons_eq_ok_iff, map_eq_map_ok_cons_iff]
    simp only [ih, fits_cons_iff]
    constructor
    · rintro ⟨link, hread, haccepted, hfresh, hsize, hcommon, -, hsame, links, hrest, hfits⟩
      have hgpus : gpus = PdiSet.ofList link.1 := hsame _ rfl
      refine ⟨by simp, fun earlier hearlier ↦ ?_, link, hread, links, hrest, haccepted, hfresh,
        hgpus.symm, ?_, hfits⟩
      · rw [hgpus, hcommon earlier hearlier]
      · rw [hgpus, hsize]
    · rintro ⟨-, hcommon, link, hread, links, hrest, haccepted, hfresh, rfl, hsize, hfits⟩
      refine ⟨link, hread, haccepted, hfresh, hsize, hcommon, fun _ ↦ rfl, ?_, links, hrest, hfits⟩
      intro earlier hearlier
      exact Option.some.inj (Option.mem_def.mp hearlier)

/-- The reports describe a mesh in which every switch is an accepted one and is attached to the
GPUs of one set. -/
structure Consistent (check : NeighborCheck) (reports : List Bytes) (gpus : PdiSet) : Prop where
  reports_pos : 1 ≤ check.reports
  length_eq : (reports.length : Int) = check.reports
  attached : ∀ report ∈ reports, ∃ pdis own,
    Report.attachedPdis report check.deviceKind check.attachedKind = .ok (pdis, own) ∧
      own ∈ check.accepted ∧ ∀ p, p ∈ gpus ↔ p ∈ pdis
  size_eq : (gpus.size : Int) = check.attachments
  /-- The own PDIs at different positions differ, where that is asked for. -/
  distinct : check.distinct → ∀ (i j : Nat) (first second : Bytes) (link other : List Pdi × Pdi),
    reports[i]? = some first → reports[j]? = some second → i ≠ j →
    Report.attachedPdis first check.deviceKind check.attachedKind = .ok link →
    Report.attachedPdis second check.deviceKind check.attachedKind = .ok other →
    link.2 ≠ other.2

/-- That no own PDI occurs twice can be said of the positions of the reports. -/
theorem nodup_own_iff {reports : List Bytes} {links : List (List Pdi × Pdi)}
    (h : reports.map (Report.attachedPdis · check.deviceKind check.attachedKind) =
      links.map .ok) :
    (links.map Prod.snd).Nodup ↔
      ∀ (i j : Nat) (first second : Bytes) (link other : List Pdi × Pdi),
        reports[i]? = some first → reports[j]? = some second → i ≠ j →
        Report.attachedPdis first check.deviceKind check.attachedKind = .ok link →
        Report.attachedPdis second check.deviceKind check.attachedKind = .ok other →
        link.2 ≠ other.2 := by
  rw [List.nodup_iff_pairwise_ne, List.pairwise_map, List.pairwise_iff_getElem]
  constructor
  · intro hne i j first second link other hfirst hsecond hij hlink hother hsame
    obtain ⟨hi, rfl⟩ := List.getElem?_eq_some_iff.mp
      ((getElem?_eq_some_iff_of_map_eq h).mpr ⟨first, hfirst, hlink⟩)
    obtain ⟨hj, rfl⟩ := List.getElem?_eq_some_iff.mp
      ((getElem?_eq_some_iff_of_map_eq h).mpr ⟨second, hsecond, hother⟩)
    rcases Nat.lt_or_gt_of_ne hij with hlt | hlt
    · exact hne i j hi hj hlt hsame
    · exact hne j i hj hi hlt hsame.symm
  · intro hne i j hi hj hlt
    obtain ⟨first, hfirst, hlink⟩ :=
      (getElem?_eq_some_iff_of_map_eq h).mp (List.getElem?_eq_getElem hi)
    obtain ⟨second, hsecond, hother⟩ :=
      (getElem?_eq_some_iff_of_map_eq h).mp (List.getElem?_eq_getElem hj)
    exact hne i j first second _ _ hfirst hsecond (Nat.ne_of_lt hlt) hlink hother

/-- Reports are consistent if all of them can be read and what they say fits. -/
theorem consistent_iff {reports : List Bytes} :
    check.Consistent reports gpus ↔
      1 ≤ check.reports ∧ (reports.length : Int) = check.reports ∧
        ∃ links, reports.map (Report.attachedPdis · check.deviceKind check.attachedKind) =
          links.map .ok ∧ check.Fits PdiSet.empty gpus links := by
  constructor
  · intro h
    have hread : ∀ report ∈ reports, ∃ link,
        Report.attachedPdis report check.deviceKind check.attachedKind = .ok link := by
      intro report hreport
      obtain ⟨pdis, own, hread, -⟩ := h.attached report hreport
      exact ⟨(pdis, own), hread⟩
    obtain ⟨links, hlinks⟩ := exists_map_eq_map_ok hread
    -- What the reports say is all that counts from here on.
    have hlink : ∀ link ∈ links, link.2 ∈ check.accepted ∧ PdiSet.ofList link.1 = gpus := by
      intro link hmem
      obtain ⟨report, hreport, hread⟩ := (mem_iff_of_map_eq hlinks).mp hmem
      obtain ⟨pdis, own, hsame, haccepted, hpdis⟩ := h.attached report hreport
      cases hread.symm.trans hsame
      exact ⟨haccepted, PdiSet.ofList_eq_iff.mpr hpdis⟩
    exact ⟨h.reports_pos, h.length_eq, links, hlinks, fun link hmem ↦ (hlink link hmem).1,
      fun link hmem ↦ (hlink link hmem).2, fun _ ↦ h.size_eq,
      fun _ link _ ↦ PdiSet.not_mem_empty link.2,
      fun hdistinct ↦ (nodup_own_iff hlinks).mpr (h.distinct hdistinct)⟩
  · rintro ⟨hpos, hlength, links, hlinks, hfits⟩
    refine ⟨hpos, hlength, fun report hreport ↦ ?_, hfits.size ?_,
      fun hdistinct ↦ (nodup_own_iff hlinks).mp (hfits.nodup hdistinct)⟩
    · obtain ⟨link, hread⟩ := exists_of_map_eq hlinks hreport
      have hmem : link ∈ links := (mem_iff_of_map_eq hlinks).mpr ⟨report, hreport, hread⟩
      exact ⟨link.1, link.2, hread, hfits.accepted link hmem,
        PdiSet.ofList_eq_iff.mp (hfits.attached link hmem)⟩
    · rintro rfl
      rw [List.map_nil, List.map_eq_nil_iff] at hlinks
      exact ne_nil_of_length_eq hpos hlength hlinks

/-- The check accepts the reports of consistent meshes only, and all of them. -/
theorem run_eq_ok_iff {reports : List Bytes} :
    check.run reports = .ok gpus ↔ check.Consistent reports gpus := by
  rw [run, consistent_iff]
  simp only [bind_eq_ok_iff, checkReportCount_eq_ok_iff, agree_eq_ok_iff]
  constructor
  · rintro ⟨-, ⟨hpos, hlength⟩, -, -, hlinks⟩
    exact ⟨hpos, hlength, hlinks⟩
  · rintro ⟨hpos, hlength, hlinks⟩
    exact ⟨(), ⟨hpos, hlength⟩, fun hnil ↦ absurd hnil (ne_nil_of_length_eq hpos hlength),
      by simp, hlinks⟩

/-- The check returns the set of a consistent mesh, and refuses the reports of every other one. -/
theorem run_decides_switches (check : NeighborCheck) (reports : List Bytes) :
    (∀ gpus, check.run reports = .ok gpus ↔ check.Consistent reports gpus) ∧
      ((∃ fault, check.run reports = .error fault) ↔
        ¬ ∃ gpus, check.Consistent reports gpus) := by
  refine ⟨fun gpus ↦ run_eq_ok_iff, ?_⟩
  simp only [← run_eq_ok_iff]
  cases check.run reports with
  | error fault => simp
  | ok gpus => simp

end NeighborCheck

end MeshAttest
