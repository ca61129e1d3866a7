import MeshAttest.KeySet.Location
import MeshAttest.Token.Verification
import MeshAttest.Verifier.Response
import MeshAttest.Verifier.Submission

/-!
# Submission and verification

A client submits evidence of one architecture with one request, and verifies the signed result
against the key set of the same verifier, which takes one more. A negative verdict that verifies is
a result like a positive one. A request here is a call of the HTTP library (`Attempt.exchange`).
-/

set_option autoImplicit false

namespace MeshAttest

/-- Verifies results against the key set that a verifier publishes. -/
structure TokenVerifier where
  /-- The time limit for fetching a key set, where no other is given. -/
  timeout : Option Int := some 30000
deriving DecidableEq, Repr

namespace TokenVerifier

/-- Fetches the key set of a verifier. -/
def fetchKeySet (verifier : TokenVerifier) (url : String) (timeout : Option Int) :
    Attempt Json := do
  let location ← ofExcept ((KeySet.location url).mapError .location)
  fetchJson location (timeout <|> verifier.timeout)

/-- Verifies a result under the key set of a verifier, at the time of the clock. -/
def verify (verifier : TokenVerifier) (now : Int) (url : String) (token : RawText)
    (timeout : Option Int) : Attempt Claims := do
  let keySet ← verifier.fetchKeySet url timeout
  ofExcept ((Token.verifyWith now token keySet).mapError .token)

end TokenVerifier

/-- A client for evidence of one architecture. -/
structure Client where
  architecture : Architecture
  options : Options
  verifier : TokenVerifier
deriving DecidableEq, Repr

namespace Client

/-- A client with settings. Without a verifier of its own it uses one with the same time limit. -/
def create (architecture : Architecture) (options : Options := {})
    (verifier : TokenVerifier := ⟨options.timeout⟩) : Client :=
  ⟨architecture, options, verifier⟩

/-- The settings of a call: those given with it, or else those of the client. -/
def effective (client : Client) (options : Option Options) : Options :=
  options.getD client.options

/-- Submits evidence and returns the answer as it is. -/
def postEvidence (client : Client) (items : List Item) (nonce : SubmittedNonce)
    (options : Option Options) : Attempt Json := do
  let settings := client.effective options
  let body ← ofExcept
    ((payload items nonce settings.claimsVersion client.architecture).mapError .entry)
  postJson (settings.url client.architecture) body (some settings.headers) settings.timeout

/-- Verifies the signed result in the answer to a submission. -/
def verifyResponse (client : Client) (now : Int) (response : Json) (options : Option Options) :
    Attempt Claims := do
  let settings := client.effective options
  let token ← ofExcept ((signedResult response).mapError .response)
  client.verifier.verify now (settings.url client.architecture) token settings.timeout

/-- Submits evidence and verifies the result. Returns the verdict and the answer. -/
def submit (client : Client) (now : Int) (items : List Item) (nonce : SubmittedNonce)
    (options : Option Options) : Attempt (Bool × Json) := do
  let settings := some (client.effective options)
  let response ← client.postEvidence items nonce settings
  let claims ← client.verifyResponse now response settings
  return (claims.verdict, response)

end Client

end MeshAttest
