import MeshAttest.Base64
import MeshAttest.Json.Value
import MeshAttest.Verifier.Options

/-!
# Submitted evidence

A submission lists for each device an entry of certificate and evidence, next to the nonce, the
version of the claims that are asked for, and the architecture. Entries come from devices and
switches, or from mappings that hold more than is submitted.
-/

set_option autoImplicit false

namespace MeshAttest

/-- The entry of one device. -/
structure Entry where
  certificate : Json
  evidence : Json

namespace Entry

/-- An entry as it is submitted. -/
def toJson (entry : Entry) : Json :=
  .object [("certificate", entry.certificate), ("evidence", entry.evidence)]

/-- The value of a key that a mapping has to have. -/
def require (key : String) (mapping : List (String × Json)) : Except EntryFault Json :=
  match Json.lookup? key mapping with
  | some value => .ok value
  | none => .error (.missing key)

/-- The entry that a mapping holds. -/
def ofMapping (mapping : List (String × Json)) : Except EntryFault Entry := do
  let certificate ← require "certificate" mapping
  let evidence ← require "evidence" mapping
  return ⟨certificate, evidence⟩

/-- The entry that a saved value holds. -/
def ofJson : Json → Except EntryFault Entry
  | .object mapping => ofMapping mapping
  | _ => .error .notEntries

/-- The entries of saved values. An empty object or text has none. -/
def listOfJson : Json → Except EntryFault (List Entry)
  | .array items => items.mapM ofJson
  | .object [] => .ok []
  | .string text => if text = "" then .ok [] else .error .notEntries
  | _ => .error .notEntries

end Entry

/-- Evidence of one device, in one of its forms. -/
inductive Item where
  | device (entry : Entry)
  /-- Evidence of a switch, with the identifier of the switch. -/
  | switch (entry : Entry) (uuid : Json)
  | mapping (entries : List (String × Json))

/-- The entry that an item is submitted as. -/
def Item.entry : Item → Except EntryFault Entry
  | .device entry | .switch entry _ => .ok entry
  | .mapping entries => Entry.ofMapping entries

/-- A nonce in a submission. -/
inductive SubmittedNonce where
  | octets (bytes : Bytes)
  | text (chars : String)
  /-- No nonce has been given. -/
  | absent
deriving DecidableEq, Repr

/-- The value that is submitted: octets as hexadecimal text, a text as it is. -/
def SubmittedNonce.toJson : SubmittedNonce → Json
  | .octets bytes => .string bytes.hex
  | .text chars => .string chars
  | .absent => .array []

/-- The body of a submission. -/
def payload (items : List Item) (nonce : SubmittedNonce) (claimsVersion : Option String)
    (architecture : Architecture) : Except EntryFault Json := do
  let entries ← items.mapM Item.entry
  return .object [
    ("nonce", nonce.toJson),
    ("evidence_list", .array (entries.map Entry.toJson)),
    ("claims_version", (claimsVersion.map Json.string).getD .null),
    ("arch", .string architecture.name)]

/-- The report of a device and the chain of certificates that goes with it. -/
structure CollectedEvidence where
  device : String
  report : Bytes
  chain : Bytes
deriving DecidableEq, Repr

namespace CollectedEvidence

/-- The entry of a device: chain and report in base64. -/
def entry (collected : CollectedEvidence) : Entry :=
  ⟨.string (Base64.encode collected.chain), .string (Base64.encode collected.report)⟩

/-- The evidence of a GPU. -/
def deviceItem (collected : CollectedEvidence) : Item := .device collected.entry

/-- The evidence of a switch, which is identified by its device name. -/
def switchItem (collected : CollectedEvidence) : Item :=
  .switch collected.entry (.string collected.device)

end CollectedEvidence

end MeshAttest
