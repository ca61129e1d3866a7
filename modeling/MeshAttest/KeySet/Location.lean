import MeshAttest.Url.Basic

/-!
# Where a verifier publishes its keys

The key set of a verifier lies at a fixed path of the verifier's own origin: same scheme, same host,
same port, and nothing else of the verifier's URL.
-/

set_option autoImplicit false

namespace MeshAttest.KeySet

/-- The path of the key set. -/
def path : String := "/.well-known/jwks.json"

/-- Why the location of a key set cannot be derived from a verifier URL. -/
inductive LocationFault where
  /-- The text cannot be taken apart. -/
  | url (fault : Url.Fault)
  /-- The port is none. -/
  | port (text : String) (fault : Url.PortFault)
  /-- The scheme or the host is missing. -/
  | incomplete (text : String)
deriving DecidableEq, Repr

/-- The message of a fault. -/
def LocationFault.message : LocationFault → String
  | .url fault => fault.message
  | .port text fault => s!"Invalid verifier URL {Text.quoted text}: {fault.message}"
  | .incomplete text => s!"Invalid verifier URL {Text.quoted text}"

/-- The key-set URL of an origin. A host that has a colon is put in brackets. -/
def urlOf (scheme host : List Char) (port : Option Nat) : String :=
  let bracketed := if ':' ∈ host then '[' :: (host ++ [']']) else host
  let portPart := match port with
    | some port => s!":{port}"
    | none => ""
  s!"{String.ofList scheme}://{String.ofList bracketed}{portPart}{path}"

/-- The URL of the key set that goes with a verifier URL. -/
def location (verifierUrl : String) : Except LocationFault String := do
  let url ← (Url.parse verifierUrl.toList).mapError .url
  let port ← url.port?.mapError (.port verifierUrl)
  if url.scheme = [] ∨ url.host = [] then .error (.incomplete verifierUrl)
  else .ok (urlOf url.scheme url.host port)

end MeshAttest.KeySet
