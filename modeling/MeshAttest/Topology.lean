import MeshAttest.Pdi
import MeshAttest.Report.Link

/-!
# Agreement of the reports of a mesh

One report vouches for one device only. A mesh is consistent when every GPU names the same set of
switches (`DeviceCheck.run`) and every switch is one of them and names the same set of GPUs
(`NeighborCheck.run`), so that an exchanged or rewired component shows up as a difference of sets.

Disabled links are left out of the sets that GPUs name; the sets that switches name are taken as
they stand.
-/

set_option autoImplicit false

namespace MeshAttest

/-- The two kinds of devices of a mesh. -/
inductive DeviceKind where
  | gpu
  | switch
deriving DecidableEq, Repr

/-- The name of a kind of device in messages. -/
def DeviceKind.name : DeviceKind → String
  | .gpu => "GPU"
  | .switch => "switch"

/-- The kind of device at the other end of the links. -/
def DeviceKind.partner : DeviceKind → DeviceKind
  | .gpu => .switch
  | .switch => .gpu

/-- A reason why reports do not describe one consistent mesh. -/
inductive TopologyFault where
  /-- Fewer than one report was asked for. -/
  | noReportsExpected (expected : Int)
  /-- A report cannot be read. -/
  | report (fault : ReportFault)
  | reportCount (reporter : DeviceKind) (expected : Int) (actual : Nat)
  | pdiCount (reporter : DeviceKind) (index : Nat) (expected : Int) (actual : Nat)
  | mismatch (reporter : DeviceKind) (index : Nat) (expected actual : PdiSet)
  | unrecognized (pdi : Pdi) (accepted : PdiSet)
  | duplicate (pdi : Pdi)
deriving DecidableEq

/-- The message of a fault. -/
def TopologyFault.message : TopologyFault → String
  | .noReportsExpected expected => s!"expected_reports must be at least 1, got {expected}"
  | .report fault => fault.message
  | .reportCount reporter expected actual =>
    s!"Invalid number of {reporter.name} attestation reports: expected {expected}, got {actual}"
  | .pdiCount reporter index expected actual =>
    s!"Invalid number of {reporter.partner.name} PDIs in {reporter.name} report {index}: "
      ++ s!"expected {expected}, got {actual}"
  | .mismatch reporter index expected actual =>
    let subject := reporter.partner.name.capitalize
    s!"{subject} PDI set in {reporter.name} report {index} does not match: "
      ++ s!"expected {expected.format}, got {actual.format}"
  | .unrecognized pdi accepted =>
    s!"Switch PDI {pdi.hex} is not in the accepted set {accepted.format}"
  | .duplicate pdi => s!"Switch PDI {pdi.hex} is reported by more than one switch"

/-- The number of reports has to be the expected one, which has to be positive. -/
def checkReportCount (reporter : DeviceKind) (expected : Int) (actual : Nat) :
    Except TopologyFault Unit :=
  if expected < 1 then .error (.noReportsExpected expected)
  else if (actual : Int) ≠ expected then .error (.reportCount reporter expected actual)
  else .ok ()

/-- The set of report `index` has to have the expected size, and to be the set that the reports
before it agree on, if there are any. -/
def checkSet (reporter : DeviceKind) (expected : Int) (index : Nat) (common : Option PdiSet)
    (pdis : PdiSet) : Except TopologyFault PdiSet :=
  if (pdis.size : Int) ≠ expected then .error (.pdiCount reporter index expected pdis.size)
  else match common with
    | none => .ok pdis
    | some agreed =>
      if pdis = agreed then .ok agreed else .error (.mismatch reporter index agreed pdis)

/-- The number of GPUs of a full mesh, each of which sends a report. -/
def meshGpuCount : Int := 8

/-- The number of switches of a full mesh, which every GPU is connected to. -/
def meshSwitchCount : Int := 4

/-- The number of switch reports that are checked. -/
def switchReportCount : Int := 4

/-- What GPU reports are checked against. -/
structure DeviceCheck where
  /-- The number of reports. -/
  reports : Int := meshGpuCount
  /-- The number of enabled switches that every report names. -/
  switches : Int := meshSwitchCount
  /-- The type of the field that lists the switches. -/
  kind : Int := Report.switchPdisKind

namespace DeviceCheck

/-- The enabled switches that a GPU report names. -/
def switchSet (check : DeviceCheck) (report : Bytes) : Except TopologyFault PdiSet :=
  match Report.neighborPdis report check.kind with
  | .ok pdis => .ok ((PdiSet.ofList pdis).erase Pdi.disabled)
  | .error fault => .error (.report fault)

/-- Checks the reports from position `index` on against the set that those before agree on. -/
def agree (check : DeviceCheck) (index : Nat) (common : Option PdiSet) :
    List Bytes → Except TopologyFault PdiSet
  | [] => .ok (common.getD PdiSet.empty)
  | report :: rest => do
    let pdis ← check.switchSet report
    let agreed ← checkSet .gpu check.switches index common pdis
    check.agree (index + 1) (some agreed) rest

/-- The set of switches that all GPU reports agree on. -/
def run (check : DeviceCheck) (reports : List Bytes) : Except TopologyFault PdiSet := do
  checkReportCount .gpu check.reports reports.length
  check.agree 0 none reports

end DeviceCheck

/-- What switch reports are checked against. -/
structure NeighborCheck where
  /-- The number of GPUs that every report names. -/
  attachments : Int
  /-- The switches that are part of the mesh. -/
  accepted : PdiSet
  /-- The number of reports. -/
  reports : Int := switchReportCount
  /-- The type of the field that has the switch's own PDI. -/
  deviceKind : Int := Report.devicePdiKind
  /-- The type of the field that lists the GPUs. -/
  attachedKind : Int := Report.attachedPdisKind
  /-- Whether two reports of one switch are refused. -/
  distinct : Bool := false

namespace NeighborCheck

/-- The GPUs that a switch report names, and the switch's own PDI. -/
def gpuSet (check : NeighborCheck) (report : Bytes) : Except TopologyFault (PdiSet × Pdi) :=
  match Report.attachedPdis report check.deviceKind check.attachedKind with
  | .ok (attached, own) => .ok (PdiSet.ofList attached, own)
  | .error fault => .error (.report fault)

/-- The own PDI of a report has to be accepted, and to differ from those seen before if that is
asked for. -/
def checkOwn (check : NeighborCheck) (seen : PdiSet) (own : Pdi) : Except TopologyFault Unit :=
  if own ∉ check.accepted then .error (.unrecognized own check.accepted)
  else if check.distinct ∧ own ∈ seen then .error (.duplicate own)
  else .ok ()

/-- Checks the reports from position `index` on against the set that those before agree on and the
own PDIs that they have. -/
def agree (check : NeighborCheck) (index : Nat) (seen : PdiSet) (common : Option PdiSet) :
    List Bytes → Except TopologyFault PdiSet
  | [] => .ok (common.getD PdiSet.empty)
  | report :: rest => do
    let (pdis, own) ← check.gpuSet report
    check.checkOwn seen own
    let agreed ← checkSet .switch check.attachments index common pdis
    check.agree (index + 1) (seen.insert own) (some agreed) rest

/-- The set of GPUs that all switch reports agree on. -/
def run (check : NeighborCheck) (reports : List Bytes) : Except TopologyFault PdiSet := do
  checkReportCount .switch check.reports reports.length
  check.agree 0 PdiSet.empty none reports

end NeighborCheck

end MeshAttest
