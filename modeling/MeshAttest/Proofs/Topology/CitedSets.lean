import MeshAttest.Proofs.Pdi.Format
import MeshAttest.Proofs.Report.Lookup
import MeshAttest.Proofs.Topology.FirstFault
import MeshAttest.Proofs.Topology.HealthyMesh

/-!
# The sets that a fault cites

A report that diverges from the first one is refused with two sets of PDIs, and a switch that is not
accepted with one. Their texts stand in braces, and nothing else in the message does, so that they
can be read off it again (`TopologyFault.inBraces_message`). Where the PDIs have the size of those
in reports, the texts tell the sets (`TopologyFault.Cites.unique`).

The PDIs of a report do have this size, and sets that diverge are different. Hence no check shows
the same text twice and calls it a mismatch (`TellsMismatches`).
-/

set_option autoImplicit false

namespace MeshAttest

open Outcome

/-! ### Texts in braces -/

namespace Text

/-- The texts that stand in braces in a text. -/
def inBraces (chars : List Char) : List (List Char) :=
  ((pieces '{' chars).drop 1).map fun piece ↦ piece.takeWhile (· ≠ '}')

/-- What stands in a first pair of braces comes first, and the rest of the text follows. -/
theorem inBraces_append {front inner : List Char} (hfront : '{' ∉ front) (hopen : '{' ∉ inner)
    (hclose : '}' ∉ inner) (rest : List Char) :
    inBraces (front ++ '{' :: (inner ++ '}' :: rest)) = inner :: inBraces rest := by
  have hinner : '{' ∉ inner ++ ['}'] := by simpa using hopen
  obtain ⟨piece, others, hrest, hpieces⟩ := exists_pieces_append hinner rest
  rw [List.append_assoc, List.singleton_append] at hpieces
  rw [inBraces, pieces_append_cons hfront, hpieces, inBraces, hrest]
  simp only [List.drop_succ_cons, List.drop_zero, List.map_cons, List.append_assoc,
    List.singleton_append]
  rw [takeWhile_append_cons (decide_ne_of_not_mem hclose) (by simp)]

end Text

/-! ### Messages -/

/-- The text of a set in a message can be found by its braces. -/
theorem inBraces_format_append {front : List Char} (hfront : '{' ∉ front) (set : PdiSet)
    (rest : List Char) : Text.inBraces (front ++ (set.format.toList ++ rest)) =
      Pdi.listed set.toList :: Text.inBraces rest := by
  have hopen : '{' ∉ Pdi.listed set.toList :=
    Pdi.not_mem_listed (by unfold Bytes.IsLowerHexDigit; decide) (by decide) (by decide) _
  have hclose : '}' ∉ Pdi.listed set.toList :=
    Pdi.not_mem_listed (by unfold Bytes.IsLowerHexDigit; decide) (by decide) (by decide) _
  rw [PdiSet.toList_format, List.cons_append, List.append_assoc, List.singleton_append,
    Text.inBraces_append hfront hopen hclose]

namespace TopologyFault

/-- The sets of PDIs that the message of a fault cites. -/
inductive Cites : TopologyFault → List PdiSet → Prop
  | mismatch (reporter : DeviceKind) (index : Nat) (expected actual : PdiSet) :
    Cites (.mismatch reporter index expected actual) [expected, actual]
  | unrecognized (pdi : Pdi) (accepted : PdiSet) : Cites (.unrecognized pdi accepted) [accepted]

theorem not_mem_toString {c : Char} (h : c.isDigit = false) (n : Nat) :
    c ∉ (toString n).toList := by
  intro hmem
  change c ∈ n.repr.toList at hmem
  rw [Nat.toList_repr] at hmem
  rw [Nat.isDigit_of_mem_toDigits (by decide) (by decide) hmem] at h
  exact Bool.false_ne_true h.symm

/-- The message of a mismatch has the expected set and then the one that was found. -/
theorem message_mismatch (reporter : DeviceKind) (index : Nat) (expected actual : PdiSet) :
    (mismatch reporter index expected actual).message =
      reporter.partner.name.capitalize ++ " PDI set in " ++ reporter.name ++ " report " ++
        toString index ++ " does not match: " ++
        ("expected " ++ expected.format ++ ", got " ++ actual.format) := rfl

theorem message_unrecognized (pdi : Pdi) (accepted : PdiSet) :
    (unrecognized pdi accepted).message =
      "Switch PDI " ++ pdi.hex ++ " is not in the accepted set " ++ accepted.format := rfl

/-- The sets can be read off the message. -/
theorem inBraces_message {fault : TopologyFault} {sets : List PdiSet} (h : fault.Cites sets) :
    Text.inBraces fault.message.toList = sets.map fun set ↦ Pdi.listed set.toList := by
  -- No text around the sets has a brace in it, so that the braces found are those of the sets.
  cases h with
  | mismatch reporter index expected actual =>
    have hfront : '{' ∉ (reporter.partner.name.capitalize ++ " PDI set in " ++ reporter.name ++
        " report " ++ toString index ++ " does not match: " ++ "expected ").toList := by
      have hindex : '{' ∉ (toString index).toList := not_mem_toString (by decide) index
      have hpartner : '{' ∉ reporter.partner.name.capitalize.toList := by
        cases reporter <;> decide
      have hreporter : '{' ∉ reporter.name.toList := by
        cases reporter <;> decide
      simp only [String.toList_append, List.mem_append, hindex, hpartner, hreporter]
      decide
    have hbetween : '{' ∉ ", got ".toList := by decide
    have hmessage : (mismatch reporter index expected actual).message.toList =
        (reporter.partner.name.capitalize ++ " PDI set in " ++ reporter.name ++ " report " ++
          toString index ++ " does not match: " ++ "expected ").toList ++ (expected.format.toList ++
            (", got ".toList ++ (actual.format.toList ++ []))) := by
      rw [message_mismatch]
      simp only [String.toList_append, List.append_assoc, List.append_nil]
    rw [hmessage, inBraces_format_append hfront, inBraces_format_append hbetween]
    rfl
  | unrecognized pdi accepted =>
    have hfront : '{' ∉ ("Switch PDI " ++ pdi.hex ++ " is not in the accepted set ").toList := by
      have hpdi : '{' ∉ Bytes.hexChars pdi :=
        Bytes.not_mem_hexChars (by unfold Bytes.IsLowerHexDigit; decide) pdi
      simp only [String.toList_append, List.mem_append, Bytes.hex, String.toList_ofList, hpdi]
      decide
    have hmessage : (unrecognized pdi accepted).message.toList =
        ("Switch PDI " ++ pdi.hex ++ " is not in the accepted set ").toList ++
          (accepted.format.toList ++ []) := by
      rw [message_unrecognized, String.toList_append, List.append_nil]
    rw [hmessage, inBraces_format_append hfront]
    rfl

/-- The induction is on the sets. -/
theorem eq_of_map_listed_eq {sets others : List PdiSet}
    (h : ∀ set ∈ sets, Pdi.AllSized set.toList) (hothers : ∀ set ∈ others, Pdi.AllSized set.toList)
    (hsame : (sets.map fun set ↦ Pdi.listed set.toList) =
      others.map fun set ↦ Pdi.listed set.toList) : sets = others := by
  induction sets generalizing others with
  | nil => exact (List.map_eq_nil_iff.mp hsame.symm).symm
  | cons first rest ih =>
    cases others with
    | nil => exact List.map_eq_nil_iff.mp hsame
    | cons other more =>
      rw [List.forall_mem_cons] at h hothers
      rw [List.map_cons, List.map_cons, List.cons.injEq] at hsame
      rw [PdiSet.listed_toList_inj h.1 hothers.1 hsame.1, ih h.2 hothers.2 hsame.2]

/-- Faults with the same message cite the same sets, if these are of PDIs of the right size. -/
theorem Cites.unique {fault other : TopologyFault} {sets others : List PdiSet}
    (h : fault.Cites sets) (hother : other.Cites others)
    (hsized : ∀ set ∈ sets ++ others, Pdi.AllSized set.toList)
    (hmessage : fault.message = other.message) : sets = others := by
  rw [List.forall_mem_append] at hsized
  refine eq_of_map_listed_eq hsized.1 hsized.2 ?_
  rw [← inBraces_message h, ← inBraces_message hother, hmessage]

end TopologyFault

/-! ### PDIs of reports -/

namespace Report

variable {kind deviceKind attachedKind : Int} {bytes : Bytes} {pdis : List Pdi} {own : Pdi}

/-- A value is split into PDIs of the right size. -/
theorem splitPdis_allSized {value : Bytes} (h : splitPdis kind value = .ok pdis) :
    Pdi.AllSized pdis :=
  (splitPdis_eq_ok_iff.mp h).1

theorem neighborPdis_allSized (h : neighborPdis bytes kind = .ok pdis) : Pdi.AllSized pdis := by
  obtain ⟨report, value, -, -, hsplit⟩ := neighborPdis_eq_ok_iff.mp h
  exact splitPdis_allSized hsplit

/-- The induction is on the scan. It may be for one and the same kind twice, which is why the scan
itself is looked at. -/
theorem scanAttached_allSized {fault : Option ReportFault} {seenOwn : Option Pdi}
    {seenAttached : Option (List Pdi)} {fields : List Field}
    (h : scanAttached deviceKind attachedKind fault seenOwn seenAttached fields = .ok (pdis, own))
    (hseen : ∀ seen, seenAttached = some seen → Pdi.AllSized seen) : Pdi.AllSized pdis := by
  fun_induction scanAttached deviceKind attachedKind fault seenOwn seenAttached fields with
  | case1 fields own attached =>
    obtain ⟨rfl, -⟩ := Prod.mk.inj (Except.ok.inj h)
    exact hseen _ rfl
  | case2 seenAttached => cases h
  | case3 own => cases h
  | case4 seenAttached field rest hkind hsize ih => exact ih h hseen
  | case5 seenAttached field rest hkind hsize => cases h
  | case6 seenAttached field rest hdevice hkind ih =>
    obtain ⟨read, hsplit, hscan⟩ := bind_eq_ok_iff.mp h
    refine ih read hscan ?_
    rintro _ ⟨⟩
    exact splitPdis_allSized hsplit
  | case7 seenAttached field rest hdevice hkind ih => exact ih h hseen
  | case8 own field rest hkind ih =>
    obtain ⟨read, hsplit, hscan⟩ := bind_eq_ok_iff.mp h
    refine ih read hscan ?_
    rintro _ ⟨⟩
    exact splitPdis_allSized hsplit
  | case9 own field rest hkind ih => exact ih h hseen

theorem attachedPdis_allSized (h : attachedPdis bytes deviceKind attachedKind = .ok (pdis, own)) :
    Pdi.AllSized pdis := by
  obtain ⟨report, -, hscan⟩ := bind_eq_ok_iff.mp h
  exact scanAttached_allSized hscan nofun

end Report

/-! ### Mismatches -/

/-- The two sets of a mismatch are of PDIs that have the size of those in reports, and their texts
are different. -/
structure Diverge (expected actual : PdiSet) : Prop where
  expected_sized : Pdi.AllSized expected.toList
  actual_sized : Pdi.AllSized actual.toList
  format_ne : expected.format ≠ actual.format

/-- What the check calls a mismatch is one. -/
def TellsMismatches (run : List Bytes → Except TopologyFault PdiSet) : Prop :=
  ∀ reports reporter index expected actual,
    run reports = .error (.mismatch reporter index expected actual) → Diverge expected actual

/-- A mismatch is between sets that are different and of PDIs of the right size, so that their texts
differ. -/
theorem SetFault.diverge {reporter named : DeviceKind} {count : Int}
    {names : Bytes → PdiSet → Prop} {reports : List Bytes} {k index : Nat}
    {pdis expected actual : PdiSet}
    (h : SetFault reporter count names reports k pdis (.mismatch named index expected actual))
    (hnames : ∀ report set, names report set → Pdi.AllSized set.toList)
    (hpdis : Pdi.AllSized pdis.toList) : Diverge expected actual := by
  cases h with
  | mismatch hsize hk hfirst hexpected hne =>
    have hsized := hnames _ _ hexpected
    refine ⟨hsized, hpdis, fun hformat ↦ hne ?_⟩
    exact ((PdiSet.format_eq_format_iff hsized hpdis).mp hformat).symm

/-- A mismatch that a check reports is the fault of a report at some position. -/
theorem BlamesFirst.exists_faultAt {reporter named : DeviceKind} {count : Int}
    {run : List Bytes → Except TopologyFault PdiSet}
    {faultAt : List Bytes → Nat → TopologyFault → Prop} (h : BlamesFirst reporter count run faultAt)
    {reports : List Bytes} {index : Nat} {expected actual : PdiSet}
    (hrun : run reports = .error (.mismatch named index expected actual)) :
    ∃ k, faultAt reports k (.mismatch named index expected actual) := by
  rcases Int.lt_or_le count 1 with hnone | hpos
  · cases hrun.symm.trans (h.noneExpected reports hnone)
  · by_cases hlength : (reports.length : Int) = count
    · obtain ⟨k, hfirst⟩ := (h.first reports hpos hlength _).mp hrun
      exact ⟨k, hfirst.1⟩
    · cases hrun.symm.trans (h.count reports hpos hlength)

theorem DeviceCheck.Names.allSized {check : DeviceCheck} {report : Bytes} {switches : PdiSet}
    (h : check.Names report switches) : Pdi.AllSized switches.toList := by
  obtain ⟨pdis, hread, hswitches⟩ := h
  exact fun p hp ↦ Report.neighborPdis_allSized hread p ((hswitches p).mp hp).1

theorem NeighborCheck.Links.allSized {check : NeighborCheck} {report : Bytes} {gpus : PdiSet}
    {own : Pdi} (h : check.Links report gpus own) : Pdi.AllSized gpus.toList := by
  obtain ⟨pdis, hread, hgpus⟩ := h
  exact fun p hp ↦ Report.attachedPdis_allSized hread p ((hgpus p).mp hp)

/-- What the check of GPU reports calls a mismatch is one. -/
theorem DeviceCheck.run_tellsMismatches (check : DeviceCheck) : TellsMismatches check.run := by
  intro reports reporter index expected actual hrun
  obtain ⟨k, hfault⟩ := check.run_blamesFirst.exists_faultAt hrun
  cases hfault with
  | names hreport hnames hset => exact hset.diverge (fun _ _ h ↦ h.allSized) hnames.allSized

/-- What the check of switch reports calls a mismatch is one. -/
theorem NeighborCheck.run_tellsMismatches (check : NeighborCheck) : TellsMismatches check.run := by
  intro reports reporter index expected actual hrun
  obtain ⟨k, hfault⟩ := check.run_blamesFirst.exists_faultAt hrun
  cases hfault with
  | names hreport hlinks haccepted hfresh hset =>
    refine hset.diverge ?_ hlinks.allSized
    rintro report gpus ⟨own, hnames⟩
    exact hnames.allSized

/-- The text of a list of PDIs is made of their texts in order, and so the PDIs are in order in it.
It is the text of all rearrangements of the list, and of nothing else as long as PDIs have the size
of those in reports. Thus a message tells the sets that it cites, and the two sets of a mismatch
never look alike. -/
theorem format_unambiguous :
    (∀ pdis : List Pdi, Pdi.IsWrittenAs pdis (Pdi.format pdis) ∧
      Pdi.format pdis = "\x7b" ++
        ", ".intercalate ((pdis.map Bytes.hex).mergeSort fun s t ↦ decide (s ≤ t)) ++ "\x7d") ∧
    (∀ pdis others : List Pdi, Pdi.AllSized pdis → Pdi.AllSized others →
      (Pdi.format pdis = Pdi.format others ↔ pdis.Perm others)) ∧
    (∀ set other : PdiSet, Pdi.AllSized set.toList → Pdi.AllSized other.toList →
      (set.format = other.format ↔ set = other)) ∧
    (∀ (fault other : TopologyFault) (sets others : List PdiSet), fault.Cites sets →
      other.Cites others → (∀ set ∈ sets ++ others, Pdi.AllSized set.toList) →
      fault.message = other.message → sets = others) ∧
    (∀ device : DeviceCheck, TellsMismatches device.run) ∧
    ∀ neighbor : NeighborCheck, TellsMismatches neighbor.run := by
  refine ⟨fun pdis ↦ ⟨Pdi.isWrittenAs_format pdis, Pdi.format_eq_of_texts pdis⟩, ?_,
    fun set other ↦ PdiSet.format_eq_format_iff, ?_, DeviceCheck.run_tellsMismatches,
    NeighborCheck.run_tellsMismatches⟩
  · intro pdis others h hothers
    exact Pdi.format_eq_format_iff h.nil_not_mem hothers.nil_not_mem
  · intro fault other sets others h hothers hsized hmessage
    exact h.unique hothers hsized hmessage

/-- The GPUs of the second report are connected to another switch. -/
def divergentReports : List Bytes :=
  [[SmallMesh.pdi 0xa1, SmallMesh.pdi 0xa0], [SmallMesh.pdi 0xa0, SmallMesh.pdi 0xa2]].map
    fun switches ↦ (SmallMesh.reportOf (Field.encode ⟨22, switches.flatten⟩)).encode

/-- A mismatch does occur, and its two texts are different. -/
theorem format_unambiguous_divergent :
    DeviceCheck.run { reports := 2, switches := 2 } divergentReports =
        .error (.mismatch .gpu 1 SmallMesh.switchPdis
          (PdiSet.ofList [SmallMesh.pdi 0xa0, SmallMesh.pdi 0xa2])) ∧
      SmallMesh.switchPdis.format ≠
        (PdiSet.ofList [SmallMesh.pdi 0xa0, SmallMesh.pdi 0xa2]).format := by
  have hrun : DeviceCheck.run { reports := 2, switches := 2 } divergentReports =
      .error (.mismatch .gpu 1 SmallMesh.switchPdis
        (PdiSet.ofList [SmallMesh.pdi 0xa0, SmallMesh.pdi 0xa2])) := by
    decide +kernel
  obtain ⟨-, -, -, -, htells, -⟩ := format_unambiguous
  exact ⟨hrun, (htells _ _ _ _ _ _ hrun).format_ne⟩

end MeshAttest
