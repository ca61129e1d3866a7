import MeshAttest.Curve.Signature
import MeshAttest.KeySet.Basic
import MeshAttest.Token.Claims

/-!
# Verification of result tokens

A token is accepted under a certificate (`Token.verify`) if its form is right, its signature holds
under the key of the certificate, and its payload is valid at the time of the clock and has a
verdict. Under a key set (`Token.verifyWith`) the certificate is that of the key that the header
names. A token is any string, and one that is no text fails once it is to be encoded.

The payload is not read before the signature has been checked, and the clock is not asked before the
payload has been read.
-/

set_option autoImplicit false

namespace MeshAttest.Token

/-- The algorithm that tokens are signed with. -/
def algorithm : String := "ES384"

/-- The header has to name the algorithm, and may not say that the payload is detached. -/
def checkHeader (header : List (String × Json)) : Except TokenFlaw Unit :=
  if TokenParts.isDetached header then
    if (Json.lookup? "crit" header).isNone then .error .detachedNotCritical
    else .error .detachedPayloadAbsent
  else match Json.lookup? "alg" header with
    | none => .error .algorithmAbsent
    | some (.string name) => if name = algorithm then .ok () else .error .algorithmNotAllowed
    | some _ => .error .algorithmNotAllowed

/-- The text of a token. -/
def textOf : RawText → Except TokenFault String
  | .text chars => .ok chars
  | .halved value => .error (.encoding value)

/-- The parts of a token whose signature holds under a key. -/
def authenticate (key : Point) (token : RawText) : Except TokenFault TokenParts := do
  let text ← textOf token
  let parts ← (TokenParts.ofText text).mapError .invalid
  (checkHeader parts.header).mapError .invalid
  if Es384.verify key parts.signed parts.signature then return parts
  else .error .signature

/-- The payload of a token whose signature holds under a key. -/
def payload (key : Point) (token : RawText) : Except TokenFault (List (String × Json)) := do
  let parts ← authenticate key token
  (TokenParts.readObject .payload parts.payload).mapError .invalid

/-- The claims of a token that is valid under a certificate. -/
def verify (now : Int) (token : RawText) (certificate : Bytes) : Except TokenFault Claims := do
  let key ← (Certificate.verificationKey certificate).mapError .certificate
  let payload ← payload key token
  (checkRegistered now payload).mapError .invalid
  Claims.ofPayload payload

/-- The identifier of the key that a token names in its header. -/
def keyId (token : RawText) : Except TokenFault RawText := do
  let text ← textOf token
  let parts ← (TokenParts.ofText text).mapError .unreadable
  match (Json.lookup? "kid" parts.header).bind Json.rawText? with
  | some name => if name = .text "" then .error .keyIdAbsent else return name
  | none => .error .keyIdAbsent

/-- The certificate that a key set has for a token. -/
def certificate (token : RawText) (keySet : Json) : Except TokenFault Bytes := do
  let name ← keyId token
  match KeySet.find? keySet name with
  | none => .error (.keyNotFound name)
  | some key => KeySet.leafCertificate key

/-- The claims of a token that is valid under a key set. -/
def verifyWith (now : Int) (token : RawText) (keySet : Json) : Except TokenFault Claims := do
  let certificate ← certificate token keySet
  verify now token certificate

end MeshAttest.Token
