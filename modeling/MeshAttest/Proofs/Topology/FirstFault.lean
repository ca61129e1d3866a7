import MeshAttest.Proofs.FirstPosition
import MeshAttest.Proofs.Topology.Agreement

/-!
# The report that a mesh is refused for

Many things may be wrong with the reports of a mesh, and with one report. What a check of them fails
with is the fault of the first report that has one, and of its faults the one that is looked for
first. `DeviceCheck.FaultAt` and `NeighborCheck.FaultAt` say what the fault of a report is, if the
reports in front of it are left as they are: it cannot be read, a switch is not accepted or has
reported before, or the set of PDIs that it names has the wrong size or is not the one of the first
report.

Both checks go through the reports one by one, so that the induction is the same for both
(`JudgesInOrder.loop_eq_error_iff`). They differ in how one report is judged, and in what is kept of
the reports before. `runs_blameFirst` says of both what they fail with, and that no report behind
the one that is blamed has a part in it.
-/

set_option autoImplicit false

namespace MeshAttest

open Outcome

/-! ### Loops over reports -/

/-- A loop judges report by report. What it has reached before a report is enough to tell the fault
of the report. -/
structure JudgesInOrder {σ : Type} (loop : Nat → σ → List Bytes → Except TopologyFault PdiSet)
    (judge : Nat → σ → Bytes → Except TopologyFault σ) (reached : List Bytes → σ → Prop)
    (faultAt : List Bytes → Nat → TopologyFault → Prop) : Prop where
  loop_nil : ∀ index state, ∃ agreed, loop index state [] = .ok agreed
  loop_cons : ∀ index state report rest, loop index state (report :: rest) =
    judge index state report >>= fun next ↦ loop (index + 1) next rest
  lt_length : ∀ reports k fault, faultAt reports k fault → k < reports.length
  /-- The reports behind a report have no part in its fault. -/
  congr : ∀ reports others k fault, faultAt reports k fault →
    (∀ i ≤ k, others[i]? = reports[i]?) → faultAt others k fault
  judge_eq_error_iff : ∀ before state report rest fault, reached before state →
    (judge before.length state report = .error fault ↔
      faultAt (before ++ report :: rest) before.length fault)
  reached_append : ∀ before state report next, reached before state →
    judge before.length state report = .ok next → reached (before ++ [report]) next

/-- The induction is on the reports that are left. Those before them are part of the statement, as
faults are counted by their positions among all. -/
theorem JudgesInOrder.loop_eq_error_iff {σ : Type}
    {loop : Nat → σ → List Bytes → Except TopologyFault PdiSet}
    {judge : Nat → σ → Bytes → Except TopologyFault σ} {reached : List Bytes → σ → Prop}
    {faultAt : List Bytes → Nat → TopologyFault → Prop} {before rest : List Bytes} {state : σ}
    {fault : TopologyFault} (h : JudgesInOrder loop judge reached faultAt)
    (hreached : reached before state) :
    loop before.length state rest = .error fault ↔
      FirstFrom (faultAt (before ++ rest)) before.length fault := by
  induction rest generalizing before state with
  | nil =>
    obtain ⟨agreed, hagreed⟩ := h.loop_nil before.length state
    rw [hagreed, List.append_nil]
    constructor
    · nofun
    · rintro ⟨k, hk, hfault, -⟩
      exact absurd (h.lt_length _ _ _ hfault) (Nat.not_lt.mpr hk)
  | cons report rest ih =>
    -- The report is judged wrong exactly for a fault at its position, which is then the first one.
    have hjudge := fun fault ↦ h.judge_eq_error_iff before state report rest fault hreached
    rw [h.loop_cons, firstFrom_iff]
    simp only [← hjudge]
    cases hnext : judge before.length state report with
    | error other => simp [error_bind]
    | ok next =>
      have hih := ih (h.reached_append before state report next hreached hnext)
      rw [List.length_append, List.length_singleton, List.append_assoc,
        List.singleton_append] at hih
      simpa [ok_bind] using hih

/-! ### The set that a report names -/

section NamedSet

variable {reporter : DeviceKind} {expected : Int} {names : Bytes → PdiSet → Prop}
  {before : List Bytes} {report : Bytes} {common : Option PdiSet} {pdis agreed : PdiSet}
  {fault : TopologyFault}

/-- What is wrong with the set of PDIs that the report at a position names. -/
inductive SetFault (reporter : DeviceKind) (expected : Int) (names : Bytes → PdiSet → Prop)
    (reports : List Bytes) (k : Nat) (pdis : PdiSet) : TopologyFault → Prop
  | size (h : (pdis.size : Int) ≠ expected) :
    SetFault reporter expected names reports k pdis (.pdiCount reporter k expected pdis.size)
  | mismatch {first : Bytes} {agreed : PdiSet} (hsize : (pdis.size : Int) = expected)
    (hk : 0 < k) (hfirst : reports[0]? = some first) (hagreed : names first agreed)
    (h : pdis ≠ agreed) :
    SetFault reporter expected names reports k pdis (.mismatch reporter k agreed pdis)

/-- What the sets of later reports are compared with is the set of the first report. -/
inductive IsCommon (names : Bytes → PdiSet → Prop) : List Bytes → Option PdiSet → Prop
  | nil : IsCommon names [] none
  | cons {first : Bytes} {agreed : PdiSet} (h : names first agreed) (others : List Bytes) :
    IsCommon names (first :: others) (some agreed)

/-- A set does not pass exactly for what `SetFault` says of it, by the set of the first report. -/
theorem checkSet_eq_error_iff (rest : List Bytes)
    (hunique : ∀ report pdis other, names report pdis → names report other → pdis = other)
    (hcommon : IsCommon names before common) :
    checkSet reporter expected before.length common pdis = .error fault ↔
      SetFault reporter expected names (before ++ rest) before.length pdis fault := by
  unfold checkSet
  split
  · next hsize =>
    constructor
    · rintro h
      obtain rfl := Except.error.inj h
      exact .size hsize
    · rintro (hsize | ⟨hsame, -, -, -, -⟩)
      · rfl
      · exact absurd hsame hsize
  · next hsize =>
    rw [not_not] at hsize
    -- The first report has nothing to differ from, and the others differ from the first one.
    cases hcommon with
    | nil =>
      constructor
      · nofun
      · rintro (hother | ⟨-, hk, -, -, -⟩)
        · exact absurd hsize hother
        · exact absurd hk (Nat.lt_irrefl 0)
    | @cons first agreed hagreed others =>
      constructor
      · intro h
        simp only at h
        split at h
        · cases h
        · next hne =>
          obtain rfl := Except.error.inj h
          exact .mismatch hsize (Nat.succ_pos _) rfl hagreed hne
      · rintro (hother | ⟨-, -, hfirst, hnames, hne⟩)
        · exact absurd hsize hother
        · obtain rfl := Option.some.inj hfirst
          obtain rfl := hunique _ _ _ hagreed hnames
          exact if_neg hne

/-- Once a report has passed, later reports are still compared with the first one. -/
theorem IsCommon.append (hcommon : IsCommon names before common) (hnames : names report pdis)
    (hcheck : checkSet reporter expected before.length common pdis = .ok agreed) :
    IsCommon names (before ++ [report]) (some agreed) := by
  obtain ⟨-, hsame, rfl⟩ := checkSet_eq_ok_iff.mp hcheck
  cases hcommon with
  | nil => exact .cons hnames []
  | cons hagreed others =>
    rw [hsame _ rfl]
    exact .cons hagreed (others ++ [report])

/-- What is wrong with a set does not depend on later reports. -/
theorem SetFault.congr {reports others : List Bytes} {k : Nat}
    (h : SetFault reporter expected names reports k pdis fault)
    (hsame : ∀ i ≤ k, others[i]? = reports[i]?) :
    SetFault reporter expected names others k pdis fault := by
  cases h with
  | size hsize => exact .size hsize
  | mismatch hsize hk hfirst hagreed hne =>
    exact .mismatch hsize hk ((hsame 0 (Nat.zero_le k)).trans hfirst) hagreed hne

end NamedSet

/-! ### Reports of GPUs -/

namespace DeviceCheck

variable {check : DeviceCheck} {report : Bytes} {reports others : List Bytes} {k : Nat}
  {fault : TopologyFault}

/-- The report can be read, and its list has the switches of the set and disabled links only. -/
def Names (check : DeviceCheck) (report : Bytes) (switches : PdiSet) : Prop :=
  ∃ pdis, Report.neighborPdis report check.kind = .ok pdis ∧
    ∀ p, p ∈ switches ↔ p ∈ pdis ∧ p ≠ Pdi.disabled

/-- What is wrong with the report at a position. -/
inductive FaultAt (check : DeviceCheck) (reports : List Bytes) (k : Nat) : TopologyFault → Prop
  | unreadable {report : Bytes} {fault : ReportFault} (hreport : reports[k]? = some report)
    (h : Report.neighborPdis report check.kind = .error fault) :
    FaultAt check reports k (.report fault)
  | names {report : Bytes} {switches : PdiSet} {fault : TopologyFault}
    (hreport : reports[k]? = some report) (hnames : check.Names report switches)
    (h : SetFault .gpu check.switches check.Names reports k switches fault) :
    FaultAt check reports k fault

theorem names_iff {switches : PdiSet} :
    check.Names report switches ↔ check.switchSet report = .ok switches :=
  switchSet_eq_ok_iff.symm

theorem names_unique (report : Bytes) (switches other : PdiSet)
    (h : check.Names report switches) (hother : check.Names report other) : switches = other :=
  Except.ok.inj ((names_iff.mp h).symm.trans (names_iff.mp hother))

theorem switchSet_eq_error_iff :
    check.switchSet report = .error fault ↔
      ∃ cause, Report.neighborPdis report check.kind = .error cause ∧ fault = .report cause := by
  unfold switchSet
  split
  · next hread => simp [hread]
  · next cause hread => simp [hread, eq_comm]

/-- Judges one report, and gives what the later ones are compared with. -/
def judge (check : DeviceCheck) (index : Nat) (common : Option PdiSet) (report : Bytes) :
    Except TopologyFault (Option PdiSet) := do
  let pdis ← check.switchSet report
  let agreed ← checkSet .gpu check.switches index common pdis
  return some agreed

/-- A GPU report is judged wrong exactly for the fault at its position. -/
theorem judge_eq_error_iff {before rest : List Bytes} {common : Option PdiSet}
    (hcommon : IsCommon check.Names before common) :
    check.judge before.length common report = .error fault ↔
      check.FaultAt (before ++ report :: rest) before.length fault := by
  have hreport : (before ++ report :: rest)[before.length]? = some report := by simp
  simp only [judge, bind_eq_error_iff, switchSet_eq_error_iff,
    checkSet_eq_error_iff (report :: rest) names_unique hcommon, ← names_iff]
  constructor
  · rintro (⟨cause, hread, rfl⟩ | ⟨switches, hnames, hset | ⟨agreed, -, hdone⟩⟩)
    · exact .unreadable hreport hread
    · exact .names hreport hnames hset
    · cases hdone
  · rintro (⟨hother, hread⟩ | ⟨hother, hnames, hset⟩)
    · obtain rfl := Option.some.inj (hreport.symm.trans hother)
      exact .inl ⟨_, hread, rfl⟩
    · obtain rfl := Option.some.inj (hreport.symm.trans hother)
      exact .inr ⟨_, hnames, .inl hset⟩

theorem FaultAt.congr (h : check.FaultAt reports k fault)
    (hsame : ∀ i ≤ k, others[i]? = reports[i]?) : check.FaultAt others k fault := by
  have hk := hsame k (Nat.le_refl k)
  cases h with
  | unreadable hreport hread => exact .unreadable (hk.trans hreport) hread
  | names hreport hnames hset => exact .names (hk.trans hreport) hnames (hset.congr hsame)

/-- The check of GPU reports judges them in order. -/
theorem judgesInOrder (check : DeviceCheck) :
    JudgesInOrder check.agree check.judge (IsCommon check.Names) check.FaultAt where
  loop_nil index common := ⟨_, rfl⟩
  loop_cons index common report rest := by simp only [agree, judge, bind_assoc, pure_bind]
  lt_length reports k fault h := by
    rcases h with ⟨hreport, -⟩ | ⟨hreport, -, -⟩
    · exact (List.getElem?_eq_some_iff.mp hreport).1
    · exact (List.getElem?_eq_some_iff.mp hreport).1
  congr reports others k fault h hsame := h.congr hsame
  judge_eq_error_iff before common report rest fault hcommon := judge_eq_error_iff hcommon
  reached_append before common report next hcommon h := by
    simp only [judge, bind_eq_ok_iff, pure_eq_ok_iff] at h
    obtain ⟨pdis, hread, agreed, hcheck, rfl⟩ := h
    exact hcommon.append (names_iff.mpr hread) hcheck

end DeviceCheck

/-! ### Reports of switches -/

namespace NeighborCheck

variable {check : NeighborCheck} {report : Bytes} {reports others before rest : List Bytes}
  {seen gpus : PdiSet} {common : Option PdiSet} {own : Pdi} {k : Nat} {fault : TopologyFault}

/-- The report can be read, and lists the GPUs of the set and the own PDI of the switch. -/
def Links (check : NeighborCheck) (report : Bytes) (gpus : PdiSet) (own : Pdi) : Prop :=
  ∃ pdis, Report.attachedPdis report check.deviceKind check.attachedKind = .ok (pdis, own) ∧
    ∀ p, p ∈ gpus ↔ p ∈ pdis

/-- The report names the set of GPUs. -/
def Names (check : NeighborCheck) (report : Bytes) (gpus : PdiSet) : Prop :=
  ∃ own, check.Links report gpus own

/-- The report is one of the switch with the PDI. -/
def ReportsOwn (check : NeighborCheck) (report : Bytes) (own : Pdi) : Prop :=
  ∃ gpus, check.Links report gpus own

/-- A report before the position is one of the switch with the PDI. -/
def ReportedBefore (check : NeighborCheck) (reports : List Bytes) (k : Nat) (own : Pdi) : Prop :=
  ∃ j < k, ∃ report, reports[j]? = some report ∧ check.ReportsOwn report own

/-- What is wrong with the report at a position, after those before it. -/
inductive FaultAt (check : NeighborCheck) (reports : List Bytes) (k : Nat) : TopologyFault → Prop
  | unreadable {report : Bytes} {fault : ReportFault} (hreport : reports[k]? = some report)
    (h : Report.attachedPdis report check.deviceKind check.attachedKind = .error fault) :
    FaultAt check reports k (.report fault)
  | unrecognized {report : Bytes} {own : Pdi} (hreport : reports[k]? = some report)
    (hown : check.ReportsOwn report own) (h : own ∉ check.accepted) :
    FaultAt check reports k (.unrecognized own check.accepted)
  | duplicate {report : Bytes} {own : Pdi} (hreport : reports[k]? = some report)
    (hown : check.ReportsOwn report own) (haccepted : own ∈ check.accepted)
    (hdistinct : check.distinct = true) (h : check.ReportedBefore reports k own) :
    FaultAt check reports k (.duplicate own)
  | names {report : Bytes} {own : Pdi} {gpus : PdiSet} {fault : TopologyFault}
    (hreport : reports[k]? = some report) (hlinks : check.Links report gpus own)
    (haccepted : own ∈ check.accepted)
    (hfresh : check.distinct = true → ¬ check.ReportedBefore reports k own)
    (h : SetFault .switch check.attachments check.Names reports k gpus fault) :
    FaultAt check reports k fault

theorem links_iff : check.Links report gpus own ↔ check.gpuSet report = .ok (gpus, own) := by
  rw [gpuSet_eq_ok_iff]
  constructor
  · rintro ⟨pdis, hread, hgpus⟩
    exact ⟨(pdis, own), hread, by rw [PdiSet.ofList_eq_iff.mpr hgpus]⟩
  · rintro ⟨⟨pdis, other⟩, hread, hsame⟩
    obtain ⟨hgpus, rfl⟩ := Prod.mk.inj hsame
    exact ⟨pdis, hread, PdiSet.ofList_eq_iff.mp hgpus⟩

/-- What a report of a switch says is determined. -/
theorem Links.unique {other : PdiSet} {otherOwn : Pdi} (h : check.Links report gpus own)
    (hother : check.Links report other otherOwn) : gpus = other ∧ own = otherOwn :=
  Prod.mk.inj (Except.ok.inj ((links_iff.mp h).symm.trans (links_iff.mp hother)))

theorem names_unique (report : Bytes) (gpus other : PdiSet) (h : check.Names report gpus)
    (hother : check.Names report other) : gpus = other := by
  obtain ⟨own, hlinks⟩ := h
  obtain ⟨otherOwn, hotherLinks⟩ := hother
  exact (hlinks.unique hotherLinks).1

theorem gpuSet_eq_error_iff :
    check.gpuSet report = .error fault ↔
      ∃ cause, Report.attachedPdis report check.deviceKind check.attachedKind = .error cause ∧
        fault = .report cause := by
  unfold gpuSet
  split
  · next hread => simp [hread]
  · next cause hread => simp [hread, eq_comm]

/-- An own PDI does not pass if it is not accepted, or else if it has been seen where that is not
allowed. -/
theorem checkOwn_eq_error_iff :
    check.checkOwn seen own = .error fault ↔
      own ∉ check.accepted ∧ fault = .unrecognized own check.accepted ∨
        own ∈ check.accepted ∧ check.distinct = true ∧ own ∈ seen ∧ fault = .duplicate own := by
  unfold checkOwn
  split
  · next hother =>
    rw [Except.error.injEq]
    constructor
    · rintro rfl
      exact .inl ⟨hother, rfl⟩
    · rintro (⟨-, rfl⟩ | ⟨haccepted, -⟩)
      · rfl
      · exact absurd haccepted hother
  · next haccepted =>
    rw [not_not] at haccepted
    split
    · next hrepeated =>
      rw [Except.error.injEq]
      constructor
      · rintro rfl
        exact .inr ⟨haccepted, hrepeated.1, hrepeated.2, rfl⟩
      · rintro (⟨hother, -⟩ | ⟨-, -, -, rfl⟩)
        · exact absurd haccepted hother
        · rfl
    · next hfresh =>
      constructor
      · nofun
      · rintro (⟨hother, -⟩ | ⟨-, hdistinct, hseen, -⟩)
        · exact absurd haccepted hother
        · exact absurd ⟨hdistinct, hseen⟩ hfresh

/-- The own PDIs of the reports before, and what the sets of later reports are compared with. -/
structure Reached (check : NeighborCheck) (before : List Bytes) (state : PdiSet × Option PdiSet) :
    Prop where
  seen : ∀ own, own ∈ state.1 ↔ ∃ report ∈ before, check.ReportsOwn report own
  common : IsCommon check.Names before state.2

/-- Whether a switch has reported before a position can be told from the reports in front of it. -/
theorem reportedBefore_append_iff :
    check.ReportedBefore (before ++ rest) before.length own ↔
      ∃ report ∈ before, check.ReportsOwn report own := by
  constructor
  · rintro ⟨j, hj, report, hreport, hown⟩
    rw [List.getElem?_append_left hj] at hreport
    exact ⟨report, List.mem_of_getElem? hreport, hown⟩
  · rintro ⟨report, hmem, hown⟩
    obtain ⟨j, hj, rfl⟩ := List.getElem_of_mem hmem
    refine ⟨j, hj, before[j], ?_, hown⟩
    rw [List.getElem?_append_left hj, List.getElem?_eq_getElem hj]

/-- Judges one report, and gives what the later ones are compared with. -/
def judge (check : NeighborCheck) (index : Nat) (state : PdiSet × Option PdiSet) (report : Bytes) :
    Except TopologyFault (PdiSet × Option PdiSet) := do
  let (pdis, own) ← check.gpuSet report
  check.checkOwn state.1 own
  let agreed ← checkSet .switch check.attachments index state.2 pdis
  return (state.1.insert own, some agreed)

/-- A switch report is judged wrong exactly for the fault at its position. -/
theorem judge_eq_error_iff {state : PdiSet × Option PdiSet}
    (hreached : check.Reached before state) :
    check.judge before.length state report = .error fault ↔
      check.FaultAt (before ++ report :: rest) before.length fault := by
  have hreport : (before ++ report :: rest)[before.length]? = some report := by simp
  have hseen : ∀ own, own ∈ state.1 ↔
      check.ReportedBefore (before ++ report :: rest) before.length own :=
    fun own ↦ (hreached.seen own).trans reportedBefore_append_iff.symm
  simp only [judge, bind_eq_error_iff, gpuSet_eq_error_iff, checkOwn_eq_error_iff,
    checkOwn_eq_ok_iff, checkSet_eq_error_iff (report :: rest) names_unique hreached.common,
    hseen, Prod.exists, ← links_iff]
  constructor
  · rintro (⟨cause, hread, rfl⟩ | ⟨gpus, own, hlinks, hown | ⟨-, ⟨haccepted, hfresh⟩, hset⟩⟩)
    · exact .unreadable hreport hread
    · rcases hown with ⟨hother, rfl⟩ | ⟨haccepted, hdistinct, hbefore, rfl⟩
      · exact .unrecognized hreport ⟨gpus, hlinks⟩ hother
      · exact .duplicate hreport ⟨gpus, hlinks⟩ haccepted hdistinct hbefore
    · rcases hset with hset | ⟨agreed, -, hdone⟩
      · exact .names hreport hlinks haccepted hfresh hset
      · cases hdone
  · rintro (⟨hother, hread⟩ | ⟨hother, ⟨gpus, hlinks⟩, hown⟩ |
      ⟨hother, ⟨gpus, hlinks⟩, haccepted, hdistinct, hbefore⟩ |
      ⟨hother, hlinks, haccepted, hfresh, hset⟩)
    all_goals obtain rfl := Option.some.inj (hreport.symm.trans hother)
    · exact .inl ⟨_, hread, rfl⟩
    · exact .inr ⟨gpus, _, hlinks, .inl (.inl ⟨hown, rfl⟩)⟩
    · exact .inr ⟨gpus, _, hlinks, .inl (.inr ⟨haccepted, hdistinct, hbefore, rfl⟩)⟩
    · exact .inr ⟨_, _, hlinks, .inr ⟨(), ⟨haccepted, hfresh⟩, .inl hset⟩⟩

/-- Once a report has passed, its own PDI has been seen and later reports are still compared with
the first one. -/
theorem Reached.append {state next : PdiSet × Option PdiSet} (hreached : check.Reached before state)
    (h : check.judge before.length state report = .ok next) :
    check.Reached (before ++ [report]) next := by
  simp only [judge, bind_eq_ok_iff, pure_eq_ok_iff, Prod.exists, ← links_iff] at h
  obtain ⟨pdis, own, hlinks, -, -, agreed, hcheck, rfl⟩ := h
  have hown : ∀ other, check.ReportsOwn report other ↔ other = own := by
    intro other
    constructor
    · rintro ⟨gpus, hother⟩
      exact (hother.unique hlinks).2
    · rintro rfl
      exact ⟨pdis, hlinks⟩
  refine ⟨fun other ↦ ?_, hreached.common.append ⟨own, hlinks⟩ hcheck⟩
  simp only [PdiSet.mem_insert, hreached.seen, List.mem_append, List.mem_singleton, or_and_right,
    exists_or, exists_eq_left, hown]
  exact or_comm

theorem ReportedBefore.congr (h : check.ReportedBefore reports k own)
    (hsame : ∀ i ≤ k, others[i]? = reports[i]?) : check.ReportedBefore others k own := by
  obtain ⟨j, hj, report, hreport, hown⟩ := h
  exact ⟨j, hj, report, (hsame j (Nat.le_of_lt hj)).trans hreport, hown⟩

theorem FaultAt.congr (h : check.FaultAt reports k fault)
    (hsame : ∀ i ≤ k, others[i]? = reports[i]?) : check.FaultAt others k fault := by
  have hk := hsame k (Nat.le_refl k)
  cases h with
  | unreadable hreport hread => exact .unreadable (hk.trans hreport) hread
  | unrecognized hreport hown h => exact .unrecognized (hk.trans hreport) hown h
  | duplicate hreport hown haccepted hdistinct h =>
    exact .duplicate (hk.trans hreport) hown haccepted hdistinct (h.congr hsame)
  | names hreport hlinks haccepted hfresh hset =>
    refine .names (hk.trans hreport) hlinks haccepted (fun hdistinct hbefore ↦ ?_)
      (hset.congr hsame)
    exact hfresh hdistinct (hbefore.congr fun i hi ↦ (hsame i hi).symm)

/-- The check of switch reports judges them in order. -/
theorem judgesInOrder (check : NeighborCheck) :
    JudgesInOrder (fun index state ↦ check.agree index state.1 state.2) check.judge check.Reached
      check.FaultAt where
  loop_nil index state := ⟨_, rfl⟩
  loop_cons index state report rest := by simp only [agree, judge, bind_assoc, pure_bind]
  lt_length reports k fault h := by
    rcases h with ⟨hreport, -⟩ | ⟨hreport, -, -⟩ | ⟨hreport, -, -, -, -⟩ | ⟨hreport, -, -, -, -⟩
    all_goals exact (List.getElem?_eq_some_iff.mp hreport).1
  congr reports others k fault h hsame := h.congr hsame
  judge_eq_error_iff before state report rest fault hreached := judge_eq_error_iff hreached
  reached_append before state report next hreached h := hreached.append h

end NeighborCheck

/-! ### Whole checks -/

theorem checkReportCount_of_lt {reporter : DeviceKind} {expected : Int} {actual : Nat}
    (h : expected < 1) :
    checkReportCount reporter expected actual = .error (.noReportsExpected expected) :=
  if_pos h

/-- Another number of reports than expected is a fault before any of them is looked at. -/
theorem checkReportCount_of_ne {reporter : DeviceKind} {expected : Int} {actual : Nat}
    (hpos : 1 ≤ expected) (h : (actual : Int) ≠ expected) :
    checkReportCount reporter expected actual = .error (.reportCount reporter expected actual) := by
  rw [checkReportCount, if_neg (Int.not_lt.mpr hpos), if_pos h]

/-- A check fails for the number of reports, or else with the first fault of the reports. Those
behind the first one that has a fault do not matter. -/
structure BlamesFirst (reporter : DeviceKind) (expected : Int)
    (run : List Bytes → Except TopologyFault PdiSet)
    (faultAt : List Bytes → Nat → TopologyFault → Prop) : Prop where
  noneExpected : ∀ reports, expected < 1 → run reports = .error (.noReportsExpected expected)
  count : ∀ reports, 1 ≤ expected → (reports.length : Int) ≠ expected →
    run reports = .error (.reportCount reporter expected reports.length)
  first : ∀ reports, 1 ≤ expected → (reports.length : Int) = expected →
    ∀ fault, run reports = .error fault ↔ ∃ k, IsFirst (faultAt reports) k fault
  behind : ∀ reports others, 1 ≤ expected → (reports.length : Int) = expected →
    others.length = reports.length → ∀ k fault, IsFirst (faultAt reports) k fault →
    others.take (k + 1) = reports.take (k + 1) → run others = .error fault

section Judged

variable {σ : Type} {loop : Nat → σ → List Bytes → Except TopologyFault PdiSet}
  {judge : Nat → σ → Bytes → Except TopologyFault σ} {reached : List Bytes → σ → Prop}
  {faultAt : List Bytes → Nat → TopologyFault → Prop}

/-- The first fault stays the first one if reports behind it are exchanged. -/
theorem JudgesInOrder.isFirst_congr {reports others : List Bytes} {k : Nat} {fault : TopologyFault}
    (h : JudgesInOrder loop judge reached faultAt) (hfirst : IsFirst (faultAt reports) k fault)
    (hsame : others.take (k + 1) = reports.take (k + 1)) : IsFirst (faultAt others) k fault := by
  have hget : ∀ i ≤ k, others[i]? = reports[i]? := by
    intro i hi
    rw [← List.getElem?_take_of_lt (Nat.lt_succ_of_le hi), hsame,
      List.getElem?_take_of_lt (Nat.lt_succ_of_le hi)]
  refine ⟨h.congr reports others k fault hfirst.1 hget, fun j hj other hother ↦ ?_⟩
  refine hfirst.2 j hj other (h.congr others reports j other hother fun i hi ↦ ?_)
  exact (hget i (Nat.le_trans hi (Nat.le_of_lt hj))).symm

/-- A loop that judges reports in order blames the first one with a fault, once their number is
right. -/
theorem JudgesInOrder.blamesFirst {reporter : DeviceKind} {expected : Int} {start : σ}
    {run : List Bytes → Except TopologyFault PdiSet} (h : JudgesInOrder loop judge reached faultAt)
    (hstart : reached [] start)
    (hrun : ∀ reports, run reports =
      checkReportCount reporter expected reports.length >>= fun _ ↦ loop 0 start reports) :
    BlamesFirst reporter expected run faultAt := by
  have hfirst : ∀ reports, 1 ≤ expected → (reports.length : Int) = expected →
      ∀ fault, run reports = .error fault ↔ ∃ k, IsFirst (faultAt reports) k fault := by
    intro reports hpos hlength fault
    have hcount : checkReportCount reporter expected reports.length = .ok () :=
      checkReportCount_eq_ok_iff.mpr ⟨hpos, hlength⟩
    rw [hrun, hcount, ok_bind, ← firstFrom_zero_iff]
    exact h.loop_eq_error_iff hstart
  refine ⟨fun reports hnone ↦ ?_, fun reports hpos hcount ↦ ?_, hfirst,
    fun reports others hpos hlength hothers k fault hfault hsame ↦ ?_⟩
  · rw [hrun, checkReportCount_of_lt hnone, error_bind]
  · rw [hrun, checkReportCount_of_ne hpos hcount, error_bind]
  · exact (hfirst others hpos (hothers ▸ hlength) fault).mpr ⟨k, h.isFirst_congr hfault hsame⟩

end Judged

/-- The check of GPU reports blames the first one with a fault. -/
theorem DeviceCheck.run_blamesFirst (check : DeviceCheck) :
    BlamesFirst .gpu check.reports check.run check.FaultAt :=
  check.judgesInOrder.blamesFirst .nil fun _ ↦ rfl

/-- The check of switch reports blames the first one with a fault. -/
theorem NeighborCheck.run_blamesFirst (check : NeighborCheck) :
    BlamesFirst .switch check.reports check.run check.FaultAt :=
  have hstart : check.Reached [] (PdiSet.empty, none) :=
    ⟨fun own ↦ by simp [PdiSet.not_mem_empty], .nil⟩
  check.judgesInOrder.blamesFirst hstart fun _ ↦ rfl

/-- What the checks of a mesh fail with is the fault of the first report that has any. -/
theorem runs_blameFirst (device : DeviceCheck) (neighbor : NeighborCheck) :
    BlamesFirst .gpu device.reports device.run device.FaultAt ∧
      BlamesFirst .switch neighbor.reports neighbor.run neighbor.FaultAt :=
  ⟨device.run_blamesFirst, neighbor.run_blamesFirst⟩

end MeshAttest
