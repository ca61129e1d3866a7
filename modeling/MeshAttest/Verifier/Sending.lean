import MeshAttest.Base64
import MeshAttest.Url.Sent
import MeshAttest.Verifier.Options
import MeshAttest.Wire

/-!
# Sending requests

What becomes of a request when it is sent (`Request.outgoing`): its URL takes the form in which URLs
are sent, and the information on a user in the URL becomes the header that authorizes the request.
A request that cannot be sent so is refused, and then nothing has happened. `Attempt.deliver` sends
a request, and takes the answer only if the URL that it comes from has a scheme and can be taken
apart.

This is what httpx 0.28 does before and after it uses the transport, so that it applies to
`AsyncClient` only. The requests of `Client` are calls of its library, and what that library makes
of them is not looked into.
-/

set_option autoImplicit false

namespace MeshAttest

namespace Request

/-- What is sent for a URL. -/
def address (url : String) : Except SendFault SentUrl :=
  match SentUrl.parse? url.toList with
  | none => .error .url
  | some sent => if sent.fits then .ok sent else .error .url

/-- Checks the host that is to receive a request. -/
def checkHost (url : SentUrl) : Except SendFault Unit :=
  if !url.isAbsolute then .ok ()
  else if !Host.isAscii url.host then .error .header
  else if Host.encodedPrefix.isPrefixOf url.host then (Host.checkEncoded url.host).mapError .host
  else .ok ()

/-- The headers with those that the user in the URL of the request calls for. -/
def authorize (url : SentUrl) (headers : List (String × String)) : List (String × String) :=
  match if url.isAbsolute then url.credentials? else none with
  | none => headers
  | some credentials =>
    headers.filter (·.1 ≠ Options.authorizationHeader)
      ++ [(Options.authorizationHeader, "Basic " ++ Base64.encode credentials)]

/-- What is sent for a request, with the URL that it is sent to. The headers are checked before the
body, and the host last. -/
def outgoing : Request → Except SendFault (SentUrl × Request)
  | .get url timeout => do
    let sent ← address url
    checkHost sent
    return (sent, .get sent.text timeout)
  | .post url body headers timeout => do
    let sent ← address url
    if !(headers.getD []).all (fun header ↦ Host.isAscii header.2.toList) then throw .header
    if !body.isFinite then throw .body
    if !body.isEncodable then throw .header
    checkHost sent
    return (sent, .post sent.text body (headers.map (authorize sent)) timeout)

end Request

/-- Checks the URL that an answer comes from. -/
def SentUrl.checkOrigin (url : SentUrl) : Except SendFault Unit :=
  if url.isAbsolute then (Url.parse url.text.toList).map (fun _ ↦ ()) |>.mapError .urlParts
  else .error (.urlType url.text)

/-- Sends a request and takes the answer. -/
def Attempt.deliver (request : Request) : Attempt Reply := do
  let (sent, outgoing) ← ofExcept (request.outgoing.mapError .sending)
  let reply ← Attempt.exchange outgoing
  match reply with
  | .failure cause => return .failure cause
  | .answer status body =>
    ofExcept (sent.checkOrigin.mapError .sending)
    return .answer status body

end MeshAttest
