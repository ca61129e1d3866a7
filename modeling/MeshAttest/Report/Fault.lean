/-!
# Faults of attestation reports

The ways in which a report cannot be read, each with the numbers that its message cites. A field
type is an integer because callers may ask for any, also one that no report can hold.
-/

set_option autoImplicit false

namespace MeshAttest

/-- The parts of a measurement response whose end depends on octets of the response. -/
inductive ReportPart where
  | record
  | nonce
  | blockLength
  | block
deriving DecidableEq, Repr

/-- The name of a part in messages. -/
def ReportPart.name : ReportPart → String
  | .record => "Measurement record"
  | .nonce => "Nonce"
  | .blockLength => "Opaque data length"
  | .block => "Opaque data"

/-- What a typed field is looked up for. -/
inductive FieldRole where
  | switchPdis
  | devicePdi
  | attachedPdis
deriving DecidableEq, Repr

/-- The description of a role in messages. -/
def FieldRole.name : FieldRole → String
  | .switchPdis => "switch PDIs"
  | .devicePdi => "device PDI"
  | .attachedPdis => "attached GPU PDIs"

/-- A reason why a report, or a typed field in it, cannot be read. -/
inductive ReportFault where
  /-- The report is shorter than the request and the fixed part of the response. -/
  | tooShort (size : Nat)
  /-- A part ends at `stop`, counted from the start of a response of `size` octets. -/
  | overrun (part : ReportPart) (stop size : Nat)
  /-- One octet is left where a field type should stand. -/
  | truncatedType (offset : Nat)
  /-- At most one octet is left where the length of a field should stand. -/
  | truncatedLength (kind offset : Nat)
  /-- A field declares more octets than the block still holds. -/
  | truncatedValue (kind declared remaining : Nat)
  /-- A list of PDIs is not a whole number of PDIs. -/
  | pdiListSize (kind : Int) (size : Nat)
  /-- The PDI of the reporting device does not have the size of one PDI. -/
  | devicePdiSize (size : Nat)
  /-- No field has the type that is looked up. -/
  | missing (kind : Int) (role : FieldRole)
deriving DecidableEq, Repr

/-- The message of a fault. -/
def ReportFault.message : ReportFault → String
  | .tooShort size => s!"Report too short: {size} bytes, expected at least 45"
  | .overrun part stop size =>
    s!"{part.name} ends at offset {stop}, but response is only {size} bytes"
  | .truncatedType offset => s!"Truncated opaque field type at offset {offset}"
  | .truncatedLength kind offset =>
    s!"Truncated length for opaque field {kind} at offset {offset}"
  | .truncatedValue kind declared remaining =>
    s!"Opaque field {kind} declares {declared} bytes, only {remaining} remain"
  | .pdiListSize kind size => s!"Opaque field {kind} length {size} is not a multiple of 8"
  | .devicePdiSize size => s!"Device PDI field size is {size}, expected 8"
  | .missing kind role => s!"Opaque field {kind} ({role.name}) not found in report"

end MeshAttest
