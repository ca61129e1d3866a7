import MeshAttest.Verifier.Client
import MeshAttest.Verifier.Sending

/-!
# Submission without waiting

A client like `Client`, for callers that do other work in the meantime. It gives each request the
time limit of the settings, and each URL the form in which it is sent; what it says of a request
cites the URL as it was given. Nothing is kept between calls. Its requests are those that reach the
transport (`Attempt.deliver`).
-/

set_option autoImplicit false

namespace MeshAttest

/-- A client for evidence of one architecture. -/
structure AsyncClient where
  architecture : Architecture
  options : Options := {}
deriving DecidableEq, Repr

namespace AsyncClient

/-- The settings of a call: those given with it, or else those of the client. -/
def effective (client : AsyncClient) (options : Option Options) : Options :=
  options.getD client.options

/-- Submits evidence and returns the answer as it is. -/
def postEvidence (client : AsyncClient) (items : List Item) (nonce : SubmittedNonce)
    (options : Option Options) : Attempt Json := do
  let settings := client.effective options
  let url := settings.url client.architecture
  let body ← ofExcept
    ((payload items nonce settings.claimsVersion client.architecture).mapError .entry)
  let reply ← Attempt.deliver (.post url body (some settings.headers) settings.timeout)
  ofExcept ((reply.decode .post url).mapError .transport)

/-- Submits evidence and verifies the result. Returns the verdict and the answer. -/
def submit (client : AsyncClient) (now : Int) (items : List Item) (nonce : SubmittedNonce)
    (options : Option Options) : Attempt (Bool × Json) := do
  let settings := client.effective options
  let response ← client.postEvidence items nonce (some settings)
  let token ← ofExcept ((signedResult response).mapError .response)
  let location ← ofExcept
    ((KeySet.location (settings.url client.architecture)).mapError .location)
  let reply ← Attempt.deliver (.get location settings.timeout)
  let keySet ← ofExcept ((reply.decode .get location).mapError .transport)
  let claims ← ofExcept ((Token.verifyWith now token keySet).mapError .token)
  return (claims.verdict, response)

end AsyncClient

end MeshAttest
