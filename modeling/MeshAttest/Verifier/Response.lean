import MeshAttest.Json.Parser
import MeshAttest.Wire

/-!
# Exchanges with the verifier

A request is sent once and never repeated. Its answer has to mean success, which only a status from
200 to 299 does, and its body has to be a JSON text. `signedResult` takes the signed result from the
answer to a submission; that need not be a text, as long as it is a string.
-/

set_option autoImplicit false

namespace MeshAttest

/-- Reads the body of an answer. The body is not looked at unless the status means success. -/
def decodeBody (status : Int) (body : String) : Except TransportFault Json :=
  if 200 ≤ status ∧ status < 300 then (Json.parse body).mapError .body
  else .error (.status status body)

/-- Reads the reply to a request for a URL. -/
def Reply.decode (method : Method) (url : String) : Reply → Except TransportFault Json
  | .failure cause => .error (.request method url cause)
  | .answer status body => decodeBody status body

/-- Fetches a JSON document. -/
def fetchJson (url : String) (timeout : Option Int) : Attempt Json := do
  let reply ← Attempt.exchange (.get url timeout)
  ofExcept ((reply.decode .get url).mapError .transport)

/-- Sends a JSON document, and reads the one that comes back. -/
def postJson (url : String) (body : Json) (headers : Option (List (String × String)))
    (timeout : Option Int) : Attempt Json := do
  let reply ← Attempt.exchange (.post url body headers timeout)
  ofExcept ((reply.decode .post url).mapError .transport)

/-- The signed result in the answer to a submission: the second part of the first element. -/
def signedResult : Json → Except ResponseFault RawText
  | .array (.array (_ :: value :: _) :: _) =>
    match value.rawText? with
    | some token => .ok token
    | none => .error .notText
  | .array (_ :: _) => .error .notPair
  | _ => .error .notArray

/-- The signed result in the answer to a submission, if it is a text. -/
def resultToken (response : Json) : Except ResponseFault String := do
  match ← signedResult response with
  | .text token => return token
  | .halved _ => .error .notText

end MeshAttest
