import MeshAttest.Report.Layout
import MeshAttest.Verifier.Submission
import MeshAttest.Wire

/-!
# Sources of evidence

A source gives access to the reports and certificate chains of devices. It is used inside a session
(`EvidenceSource.session`), which closes it again whatever happens once it is open. `collect` reads
every device once, in order, and stops at the first one that cannot be read.

A session opens the source, has it list its devices and closes it no more than once each, so that
one answer will do for each of these. But a device may be read again and again. What is answered
then may depend on all that has happened before (`SourceAnswer`).
-/

set_option autoImplicit false

namespace MeshAttest

/-- What is answered after all that has happened before. A text in place of an answer says why there
is none. -/
def SourceAnswer (α : Type) := List Event → Except String α

namespace SourceAnswer

variable {α : Type}

/-- An answer that is always the same. -/
def ok (answer : α) : SourceAnswer α := fun _ ↦ .ok answer

/-- No answer, for a reason that is always the same. -/
def error (fault : String) : SourceAnswer α := fun _ ↦ .error fault

end SourceAnswer

/-- A source of evidence, by its answers. A text in place of an answer says why there is none. -/
structure EvidenceSource where
  name : String
  /-- Why the source does not open, if it does not. -/
  openFault : Option String
  devices : Except String (List String)
  /-- The report of a device, made for a nonce. -/
  report : String → Bytes → SourceAnswer Bytes
  chain : String → SourceAnswer Bytes
  /-- Why the source does not close, if it does not. -/
  closeFault : Option String

namespace EvidenceSource

/-- Notes a call and returns its answer. -/
def call {α : Type} (source : EvidenceSource) (call : SourceCall) (answer : SourceAnswer α) :
    Attempt α := do
  let wire ← get
  Attempt.record (.source source.name call)
  ofExcept ((answer wire.events).mapError .unavailable)

/-- The answer of a call that returns nothing. -/
def done : Option String → SourceAnswer Unit
  | none => .ok ()
  | some fault => .error fault

/-- Does something with an open source, and closes it afterwards. If it does not close, that is the
failure of the session, also after another one. -/
def session {α : Type} (source : EvidenceSource) (body : Attempt α) : Attempt α := do
  source.call .openSource (done source.openFault)
  let outcome ← observing body
  source.call .close (done source.closeFault)
  ofExcept outcome
where
  /-- The outcome of an attempt, as a value. -/
  observing (attempt : Attempt α) : Attempt (Except Failure α) :=
    ExceptT.mk ((ExceptT.run attempt).map .ok)

/-- Reads the report and the chain of a device. -/
def collectDevice (source : EvidenceSource) (nonce : Bytes) (device : String) :
    Attempt CollectedEvidence := do
  let report ← source.call (.fetch device nonce) (source.report device nonce)
  let chain ← source.call (.chain device) (source.chain device)
  return ⟨device, report, chain⟩

/-- Reads devices in order. -/
def collectDevices (source : EvidenceSource) (nonce : Bytes) :
    List String → Attempt (List CollectedEvidence)
  | [] => pure []
  | device :: rest => do
    let first ← source.collectDevice nonce device
    let others ← source.collectDevices nonce rest
    return first :: others

/-- Reads the given devices, or all that the source lists. -/
def collect (source : EvidenceSource) (nonce : Bytes) (devices : Option (List String)) :
    Attempt (List CollectedEvidence) :=
  if nonce.length ≠ Report.nonceSize then throw (.nonceSize nonce.length)
  else match devices with
    | some devices => source.collectDevices nonce devices
    | none => do
      let devices ← source.call .list fun _ ↦ source.devices
      source.collectDevices nonce devices

end EvidenceSource

end MeshAttest
