import MeshAttest.Failure

/-!
# Settings of submissions

The two architectures that the verifier knows, with the places where it takes their evidence, and
the settings of a submission.
-/

set_option autoImplicit false

namespace MeshAttest

/-- An architecture of devices. -/
inductive Architecture where
  | hopper
  | ls10
deriving DecidableEq, Repr

namespace Architecture

/-- All architectures. -/
def all : List Architecture := [.hopper, .ls10]

/-- The name of an architecture. -/
def name : Architecture → String
  | .hopper => "HOPPER"
  | .ls10 => "LS10"

/-- The architecture of a name. -/
def ofName (name : String) : Except Failure Architecture :=
  match all.find? fun architecture ↦ decide (architecture.name = name) with
  | some architecture => .ok architecture
  | none => .error (.architecture name)

/-- Where the verifier takes evidence of an architecture. -/
def verifierUrl : Architecture → String
  | .hopper => "https://nras.attestation.nvidia.com/v3/attest/gpu"
  | .ls10 => "https://nras.attestation.nvidia.com/v3/attest/switch"

end Architecture

/-- The settings of a submission. Times are in milliseconds. -/
structure Options where
  /-- The URL of the verifier, if it is not the one of the architecture. -/
  verifierUrl : Option String := none
  /-- Whether certificates on hold are admitted. -/
  allowHold : Bool := false
  claimsVersion : Option String := some "2.0"
  serviceKey : Option String := none
  timeout : Option Int := some 30000
deriving DecidableEq, Repr

namespace Options

/-- A text, unless it is empty. -/
def nonempty (text : Option String) : Option String := text.filter (· ≠ "")

/-- The URL that evidence of an architecture is sent to. -/
def url (options : Options) (architecture : Architecture) : String :=
  (nonempty options.verifierUrl).getD architecture.verifierUrl

/-- The name of the header that admits certificates on hold. -/
def holdHeader : String := "X-NVIDIA-OCSP-ALLOW-CERT-HOLD"

/-- The name of the header that authorizes a submission. -/
def authorizationHeader : String := "Authorization"

/-- The headers of a submission. -/
def headers (options : Options) : List (String × String) :=
  [("Content-Type", "application/json")]
    ++ (if options.allowHold then [(holdHeader, "true")] else [])
    ++ ((nonempty options.serviceKey).map fun key ↦ (authorizationHeader, key)).toList

/-- The variable that admits certificates on hold, if its value is `true`. -/
def holdVariable : String := "NV_ALLOW_HOLD_CERT"

/-- The variable that has the service key. -/
def serviceKeyVariable : String := "NRAS_SERVICE_KEY"

/-- The settings that an environment asks for. -/
def ofEnvironment (environment : List (String × String)) : Options where
  allowHold := decide (environment.lookup holdVariable = some "true")
  serviceKey := nonempty (environment.lookup serviceKeyVariable)

end Options

end MeshAttest
