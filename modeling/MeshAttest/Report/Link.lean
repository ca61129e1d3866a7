import MeshAttest.Pdi
import MeshAttest.Report.Field
import MeshAttest.Report.Layout

/-!
# Link partners named by a report

A GPU report lists the PDIs of the switches that the GPU is connected to (`neighborPdis`). A switch
report has the PDI of the switch itself and lists the PDIs of the GPUs attached to it
(`attachedPdis`). Each is the value of the first field of a given type. The block is read only as
far as needed: what stands behind the last field in question has no influence, well-formed or not.
-/

set_option autoImplicit false

namespace MeshAttest.Report

/-- The type of the field of a GPU report that lists the switches. -/
def switchPdisKind : Int := 22

/-- The type of the field of a switch report that has its own PDI. -/
def devicePdiKind : Int := 22

/-- The type of the field of a switch report that lists the GPUs. -/
def attachedPdisKind : Int := 26

/-- The PDIs of a field value, which has to be a whole number of them. -/
def splitPdis (kind : Int) (value : Bytes) : Except ReportFault (List Pdi) :=
  if value.length % Pdi.size = 0 then .ok (Pdi.pieces value)
  else .error (.pdiListSize kind value.length)

/-- The PDIs that the first field of a type lists. Where no field has the type, the fault that ended
the walk comes before the fault that the field is missing. -/
def neighborPdis (report : Bytes) (kind : Int := switchPdisKind) :
    Except ReportFault (List Pdi) := do
  let parsed ← parse report
  let walk := FieldWalk.ofBlock parsed.fieldBlock
  match walk.fields.find? fun field ↦ decide ((field.kind : Int) = kind) with
  | some field => splitPdis kind field.value
  | none => .error (walk.fault.getD (.missing kind .switchPdis))

/-- Goes through the fields until the own PDI and the attached PDIs have been seen. A field of both
types is the own PDI as long as none has been seen. -/
def scanAttached (deviceKind attachedKind : Int) (fault : Option ReportFault) :
    Option Pdi → Option (List Pdi) → List Field → Except ReportFault (List Pdi × Pdi)
  | some own, some attached, _ => .ok (attached, own)
  | none, _, [] => .error (fault.getD (.missing deviceKind .devicePdi))
  | some _, none, [] => .error (fault.getD (.missing attachedKind .attachedPdis))
  | none, attached, field :: rest =>
    if (field.kind : Int) = deviceKind then
      if field.value.length = Pdi.size then
        scanAttached deviceKind attachedKind fault (some field.value) attached rest
      else .error (.devicePdiSize field.value.length)
    else if attached.isNone ∧ (field.kind : Int) = attachedKind then do
      let pdis ← splitPdis attachedKind field.value
      scanAttached deviceKind attachedKind fault none (some pdis) rest
    else scanAttached deviceKind attachedKind fault none attached rest
  | some own, none, field :: rest =>
    if (field.kind : Int) = attachedKind then do
      let pdis ← splitPdis attachedKind field.value
      scanAttached deviceKind attachedKind fault (some own) (some pdis) rest
    else scanAttached deviceKind attachedKind fault (some own) none rest

/-- The PDIs of the attached GPUs, and the switch's own PDI. -/
def attachedPdis (report : Bytes) (deviceKind : Int := devicePdiKind)
    (attachedKind : Int := attachedPdisKind) : Except ReportFault (List Pdi × Pdi) := do
  let parsed ← parse report
  let walk := FieldWalk.ofBlock parsed.fieldBlock
  scanAttached deviceKind attachedKind walk.fault none none walk.fields

end MeshAttest.Report
