import MeshAttest.Base64
import MeshAttest.Certificate.Key
import MeshAttest.Json.Parser
import MeshAttest.Text.Quoted

/-!
# Faults of result tokens

`TokenFlaw` is what can be wrong with a token by itself, whoever signed it. `TokenFault` is why a
token is not accepted under a key set: a flaw found while its header or the whole of it was judged,
a key that cannot be found or read, a signature that does not hold, or claims without a verdict.

The flaws and their messages are those of PyJWT 2.15.1.
-/

set_option autoImplicit false

namespace MeshAttest

/-- The three segments of a token. -/
inductive Segment where
  | header
  | payload
  | signature
deriving DecidableEq, Repr

/-- The name of a segment in messages. -/
def Segment.name : Segment → String
  | .header => "header"
  | .payload => "payload"
  | .signature => "crypto"

/-- The claims that say when a token is valid. -/
inductive TimeClaim where
  | issuedAt
  | notBefore
  | expiration
deriving DecidableEq, Repr

/-- The key of a claim. -/
def TimeClaim.key : TimeClaim → String
  | .issuedAt => "iat"
  | .notBefore => "nbf"
  | .expiration => "exp"

/-- The name of a claim in messages. -/
def TimeClaim.name : TimeClaim → String
  | .issuedAt => "Issued At"
  | .notBefore => "Not Before"
  | .expiration => "Expiration Time"

/-- What is wrong with a token. -/
inductive TokenFlaw where
  | notEnoughSegments
  | padding (segment : Segment)
  /-- The header or the payload is no JSON text. -/
  | json (segment : Segment) (fault : Json.OctetsFault)
  /-- The header or the payload is no object. -/
  | notObject (segment : Segment)
  | detachedPayloadNotEmpty
  | keyIdNotString
  | criticalNotList
  | criticalNotString
  | criticalUnknown (name : RawText)
  | criticalMissing (name : String)
  | detachedNotCritical
  | detachedPayloadAbsent
  | algorithmAbsent
  | algorithmNotAllowed
  | timeNotInteger (claim : TimeClaim)
  | notYetValid (claim : TimeClaim)
  | expired
  | subjectNotString
  | tokenIdNotString
deriving DecidableEq, Repr

/-- The message of a flaw. -/
def TokenFlaw.message : TokenFlaw → String
  | .notEnoughSegments => "Not enough segments"
  | .padding segment => s!"Invalid {segment.name} padding"
  | .json segment fault => s!"Invalid {segment.name} string: {fault.message}"
  | .notObject segment => s!"Invalid {segment.name} string: must be a json object"
  | .detachedPayloadNotEmpty => "Payload segment must be empty when 'b64' is false."
  | .keyIdNotString => "Key ID header parameter must be a string"
  | .criticalNotList => "Invalid 'crit' header: must be a non-empty list"
  | .criticalNotString => "Invalid 'crit' header: values must be strings"
  | .criticalUnknown name => s!"Unsupported critical extension: {name.shown}"
  | .criticalMissing name => s!"Critical extension '{name}' is missing from headers"
  | .detachedNotCritical =>
    "The 'b64' header parameter requires 'b64' to be listed in 'crit'."
  | .detachedPayloadAbsent =>
    "It is required that you pass in a value for the \"detached_payload\" argument to decode "
      ++ "a message having the b64 header set to false."
  | .algorithmAbsent => "Algorithm not specified"
  | .algorithmNotAllowed => "The specified alg value is not allowed"
  | .timeNotInteger claim => s!"{claim.name} claim ({claim.key}) must be an integer."
  | .notYetValid claim => s!"The token is not yet valid ({claim.key})"
  | .expired => "Signature has expired"
  | .subjectNotString => "Subject must be a string"
  | .tokenIdNotString => "JWT ID must be a string"

/-- The key of the claim that holds the verdict. -/
def verdictKey : String := "x-nvidia-overall-att-result"

/-- Why a token is not accepted. -/
inductive TokenFault where
  /-- The token is no text, so that it cannot be encoded. -/
  | encoding (token : HalvedText)
  /-- The header cannot be read. -/
  | unreadable (flaw : TokenFlaw)
  | keyIdAbsent
  | keyNotFound (keyId : RawText)
  /-- The key has no list of certificates. -/
  | chainAbsent
  /-- The list of certificates does not start with a text. -/
  | leafAbsent
  | leafEncoding (fault : Base64.Fault)
  | certificate (fault : CertificateFault)
  /-- The token is not valid under the key. -/
  | invalid (flaw : TokenFlaw)
  | signature
  | verdictAbsent
  /-- The verdict is no truth value, but of another kind. -/
  | verdictKind (kind : String)
deriving DecidableEq, Repr

/-- The message of a fault. -/
def TokenFault.message : TokenFault → String
  | .encoding token => token.encodingMessage
  | .unreadable flaw => s!"Failed to decode token header: {flaw.message}"
  | .keyIdAbsent => "Kid not found in token header"
  | .keyNotFound keyId =>
    s!"Matching key not found in JWKS data for kid {keyId.quoted}"
  | .chainAbsent => "No x5c field in the matching key"
  | .leafAbsent => "No certificate found in x5c field"
  | .leafEncoding fault => s!"Failed to decode x5c certificate: {fault.message}"
  | .certificate fault => fault.message
  | .invalid flaw => s!"Token validation failed: {flaw.message}"
  | .signature => "Token signature verification failed: Signature verification failed"
  | .verdictAbsent => s!"Token is missing the {verdictKey} claim"
  | .verdictKind kind => s!"{verdictKey} must be a boolean, got {kind}"

end MeshAttest
