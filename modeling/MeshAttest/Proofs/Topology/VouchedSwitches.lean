import Mathlib.Data.List.Nodup
import Mathlib.Data.List.Perm.Subperm
import MeshAttest.Proofs.Topology.HealthyMesh

/-!
# Switches that are vouched for

The check of switch reports looks for switches that are not accepted and, if it is asked to, for
switches that report twice. It never looks for accepted switches that do not report. With as many
reports as accepted switches there are none: PDIs that are all accepted and all different leave no
accepted one out (`NeighborCheck.Fits.own_perm`). So every accepted switch vouches for the mesh in
exactly one report (`NeighborCheck.run_vouchesOnce`), and no other switch does.
-/

set_option autoImplicit false

namespace MeshAttest.NeighborCheck

open Outcome

variable {check : NeighborCheck} {seen gpus : PdiSet} {links : List (List Pdi × Pdi)}
  {reports : List Bytes}

/-- The own PDIs of the reports, taken by their positions, go through the accepted set and meet
every member once. -/
def VouchesOnce (check : NeighborCheck) (reports : List Bytes) : Prop :=
  ∃ own : Fin reports.length → {p // p ∈ check.accepted},
    (∀ i, ∃ attached, Report.attachedPdis reports[i] check.deviceKind check.attachedKind =
      .ok (attached, (own i).val)) ∧ Function.Bijective own

/-- Distinct own PDIs that are all accepted, as many as are accepted, are the accepted ones. -/
theorem Fits.own_perm (h : check.Fits seen gpus links) (hdistinct : check.distinct = true)
    (hlength : links.length = check.accepted.size) :
    (links.map Prod.snd).Perm check.accepted.toList := by
  have hsubset : links.map Prod.snd ⊆ check.accepted.toList := by
    intro own hown
    obtain ⟨link, hlink, rfl⟩ := List.mem_map.mp hown
    exact h.accepted link hlink
  have hcount : (links.map Prod.snd).length = check.accepted.toList.length := by
    rw [List.length_map, hlength, PdiSet.size]
  -- Distinct members of the set, as many as it has, leave none out.
  exact (List.subperm_of_subset (h.nodup hdistinct) hsubset).perm_of_length_le
    (Nat.le_of_eq hcount.symm)

/-- In consistent reports, as many as switches are accepted and of distinct switches, each accepted
switch vouches once. -/
theorem Consistent.vouchesOnce (h : check.Consistent reports gpus)
    (hdistinct : check.distinct = true) (hcount : check.reports = check.accepted.size) :
    check.VouchesOnce reports := by
  obtain ⟨-, hlength, links, hlinks, hfits⟩ := consistent_iff.mp h
  have hlinksLength : links.length = reports.length := by
    simpa using (congrArg List.length hlinks).symm
  have hperm := hfits.own_perm hdistinct (by omega)
  have hlt (i : Fin reports.length) : i.val < links.length := hlinksLength.symm ▸ i.isLt
  refine ⟨fun i ↦ ⟨links[i.val].2, hfits.accepted _ (List.getElem_mem (hlt i))⟩, ?_, ?_, ?_⟩
  · intro i
    obtain ⟨report, hreport, hread⟩ :=
      (getElem?_eq_some_iff_of_map_eq hlinks).mp (List.getElem?_eq_getElem (hlt i))
    obtain ⟨hi, rfl⟩ := List.getElem?_eq_some_iff.mp hreport
    exact ⟨links[i.val].1, hread⟩
  · intro i j hsame
    have hi : i.val < (links.map Prod.snd).length := by simpa using hlt i
    have hj : j.val < (links.map Prod.snd).length := by simpa using hlt j
    have hown : (links.map Prod.snd)[i.val] = (links.map Prod.snd)[j.val] := by
      simpa using congrArg Subtype.val hsame
    exact Fin.ext ((hfits.nodup hdistinct).getElem_inj_iff.mp hown)
  · rintro ⟨p, hp⟩
    obtain ⟨i, hi, hown⟩ := List.getElem_of_mem (hperm.mem_iff.mpr hp)
    rw [List.length_map, hlinksLength] at hi
    refine ⟨⟨i, hi⟩, Subtype.ext ?_⟩
    simpa using hown

/-- Distinct reports, as many as there are accepted switches, vouch for every accepted switch once.
That is so in particular for the switches that the GPUs agree on, if each GPU is connected to as
many switches as there are reports. -/
theorem run_vouchesOnce (check : NeighborCheck) (reports : List Bytes) (gpus : PdiSet)
    (hdistinct : check.distinct = true) (hrun : check.run reports = .ok gpus) :
    (check.reports = check.accepted.size → check.VouchesOnce reports) ∧
      ∀ (device : DeviceCheck) (deviceReports : List Bytes),
        device.run deviceReports = .ok check.accepted → device.switches = reports.length →
          check.VouchesOnce reports := by
  have hconsistent := run_eq_ok_iff.mp hrun
  refine ⟨hconsistent.vouchesOnce hdistinct, ?_⟩
  intro device deviceReports hdevice hswitches
  have hsize := (DeviceCheck.run_eq_ok_iff.mp hdevice).size_eq
  have hlength := hconsistent.length_eq
  exact hconsistent.vouchesOnce hdistinct (by omega)

/-- A check for distinct switches, of which there are as many as reports. -/
def smallCheck : NeighborCheck :=
  { attachments := 2, accepted := SmallMesh.switchPdis, reports := 2, distinct := true }

/-- Both switches of the small mesh vouch for it, as its GPUs agree on two. -/
theorem vouchesOnce_smallMesh :
    smallCheck.run ((SmallMesh.switchBlocks.map SmallMesh.reportOf).map Report.encode) =
        .ok SmallMesh.gpuPdis ∧
      smallCheck.VouchesOnce
        ((SmallMesh.switchBlocks.map SmallMesh.reportOf).map Report.encode) := by
  have hdevice := DeviceCheck.run_eq_ok_iff.mpr SmallMesh.healthy.device_consistent
  have hneighbor := SmallMesh.healthy.neighbor_consistent true fun _ ↦ by decide
  have hrun := run_eq_ok_iff.mpr hneighbor
  exact ⟨hrun, (run_vouchesOnce smallCheck _ _ rfl hrun).2 _ _ hdevice rfl⟩

end MeshAttest.NeighborCheck
