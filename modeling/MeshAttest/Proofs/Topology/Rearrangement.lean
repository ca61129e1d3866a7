import MeshAttest.Proofs.Topology.Agreement
import Mathlib.Data.List.Forall2

/-!
# Rearranged reports of GPUs

What GPUs agree on is a matter of which switches each of them names, and of nothing else. Two
reports that list the same enabled switches are as good as each other (`DeviceCheck.NamesAlike`):
neither the order of the list, nor repetitions, nor disabled links in it count. Nor does it matter
in which order the reports come, so that reports and any rearrangement of them
(`DeviceCheck.Rearranged`) pass the check together and with one set.
-/

set_option autoImplicit false

namespace MeshAttest.DeviceCheck

variable {check : DeviceCheck} {switches : PdiSet} {report other : Bytes}
  {reports others : List Bytes}

/-- The reports are the same, or both can be read and list the same enabled switches. -/
def NamesAlike (check : DeviceCheck) (report other : Bytes) : Prop :=
  report = other ∨ ∃ pdis otherPdis,
    Report.neighborPdis report check.kind = .ok pdis ∧
      Report.neighborPdis other check.kind = .ok otherPdis ∧
      ∀ p, p ≠ Pdi.disabled → (p ∈ pdis ↔ p ∈ otherPdis)

/-- The other reports are these ones in some order, except that in place of any of them there may be
one that names the same switches. -/
def Rearranged (check : DeviceCheck) (reports others : List Bytes) : Prop :=
  ∃ ordered, reports.Perm ordered ∧ List.Forall₂ check.NamesAlike ordered others

/-- Reports that name the same switches have the same set. -/
theorem NamesAlike.switchSet_eq_ok_iff (h : check.NamesAlike report other) :
    check.switchSet report = .ok switches ↔ check.switchSet other = .ok switches := by
  rcases h with rfl | ⟨pdis, otherPdis, hread, hother, hsame⟩
  · exact Iff.rfl
  · have henabled : ∀ p, (p ∈ pdis ∧ p ≠ Pdi.disabled) ↔ (p ∈ otherPdis ∧ p ≠ Pdi.disabled) :=
      fun p ↦ and_congr_left (hsame p)
    simp only [DeviceCheck.switchSet_eq_ok_iff, hread, hother, Except.ok.injEq, exists_eq_left',
      henabled]

/-- Reports are consistent exactly if each of them has the set, so that their order is of no
account. -/
theorem consistent_iff_forall_switchSet :
    check.Consistent reports switches ↔
      1 ≤ check.reports ∧ (reports.length : Int) = check.reports ∧
        (∀ report ∈ reports, check.switchSet report = .ok switches) ∧
        (switches.size : Int) = check.switches := by
  simp only [DeviceCheck.switchSet_eq_ok_iff]
  constructor
  · intro h
    exact ⟨h.reports_pos, h.length_eq, h.named, h.size_eq⟩
  · rintro ⟨hpos, hlength, hnamed, hsize⟩
    exact ⟨hpos, hlength, hnamed, hsize⟩

/-- The induction is on the reports, side by side with those in their places. -/
theorem forall_switchSet_iff_of_forall₂ (h : List.Forall₂ check.NamesAlike reports others) :
    (∀ report ∈ reports, check.switchSet report = .ok switches) ↔
      ∀ other ∈ others, check.switchSet other = .ok switches := by
  induction h with
  | nil => simp
  | cons hfirst _ ih =>
    rw [List.forall_mem_cons, List.forall_mem_cons, hfirst.switchSet_eq_ok_iff, ih]

/-- Reports that are rearranged are consistent with the same set. -/
theorem Rearranged.consistent_iff (h : check.Rearranged reports others) :
    check.Consistent reports switches ↔ check.Consistent others switches := by
  obtain ⟨ordered, hperm, halike⟩ := h
  have hlength : reports.length = others.length := hperm.length_eq.trans halike.length_eq
  have hnamed : (∀ report ∈ reports, check.switchSet report = .ok switches) ↔
      ∀ other ∈ others, check.switchSet other = .ok switches := by
    rw [← forall_switchSet_iff_of_forall₂ halike]
    simp only [hperm.mem_iff]
  rw [consistent_iff_forall_switchSet, consistent_iff_forall_switchSet, hlength, hnamed]

/-- The check returns the set of switches of a consistent mesh, and refuses the reports of every
other one. No disabled link is in the set, and it is the same however the reports are rearranged. -/
theorem run_decides_gpus (check : DeviceCheck) (reports : List Bytes) :
    (∀ switches, check.run reports = .ok switches ↔ check.Consistent reports switches) ∧
      ((∃ fault, check.run reports = .error fault) ↔
        ¬ ∃ switches, check.Consistent reports switches) ∧
      (∀ switches, check.run reports = .ok switches → Pdi.disabled ∉ switches) ∧
      ∀ others, check.Rearranged reports others →
        ∀ switches, check.run reports = .ok switches ↔ check.run others = .ok switches := by
  refine ⟨fun switches ↦ run_eq_ok_iff, ?_, ?_, ?_⟩
  · simp only [← run_eq_ok_iff]
    cases check.run reports with
    | error fault => simp
    | ok switches => simp
  · intro switches hrun
    exact (run_eq_ok_iff.mp hrun).disabled_not_mem
  · intro others hrearranged switches
    rw [run_eq_ok_iff, run_eq_ok_iff]
    exact hrearranged.consistent_iff

end MeshAttest.DeviceCheck
