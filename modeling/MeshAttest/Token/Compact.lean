import MeshAttest.Text.Split
import MeshAttest.Token.Fault

/-!
# The compact form of tokens

A token is three segments of URL-safe base64 with dots between them: the signature stands behind the
last dot, the header before the first one, and what is between is the payload. `TokenParts.ofText`
decodes all three and judges those entries of the header that concern the form itself, whichever key
the token may be signed with.

What a token may look like, what is checked first, and what is said of a token that is not right,
are as in PyJWT 2.15.1.
-/

set_option autoImplicit false

namespace MeshAttest

/-- A token, cut into its segments. -/
structure CompactToken where
  header : List Char
  payload : List Char
  signature : List Char
deriving DecidableEq, Repr

namespace CompactToken

/-- Cuts a text at its last and at its first dot. -/
def ofText? (text : List Char) : Option CompactToken :=
  let signature := Text.afterLast '.' text
  let signed := text.take (text.length - signature.length - 1)
  if '.' ∉ text ∨ '.' ∉ signed then none
  else
    let (header, payload) := Text.cutFirst '.' signed
    some ⟨header, payload, signature⟩

/-- The octets that the signature is made for. -/
def signedOctets (token : CompactToken) : Bytes :=
  (token.header ++ '.' :: token.payload).flatMap String.utf8EncodeChar

end CompactToken

/-- The parts of a token. -/
structure TokenParts where
  header : List (String × Json)
  payload : Bytes
  signature : Bytes
  /-- The octets that the signature is made for. -/
  signed : Bytes

namespace TokenParts

/-- Reads a segment. -/
def readSegment (segment : Segment) (chars : List Char) : Except TokenFlaw Bytes :=
  match Base64.decodeSegment? chars with
  | some octets => .ok octets
  | none => .error (.padding segment)

/-- Reads an object from the octets of a segment. -/
def readObject (segment : Segment) (octets : Bytes) : Except TokenFlaw (List (String × Json)) :=
  match Json.parseOctets octets with
  | .error fault => .error (.json segment fault)
  | .ok (.object entries) => .ok entries
  | .ok _ => .error (.notObject segment)

/-- Whether a header says that the payload is not part of the token. -/
def isDetached (header : List (String × Json)) : Bool :=
  match Json.lookup? "b64" header with
  | some (.bool false) => true
  | _ => false

/-- Reads the payload. A detached one has to be left out of the token. -/
def readPayload (header : List (String × Json)) (chars : List Char) : Except TokenFlaw Bytes :=
  if isDetached header then
    if chars = [] then .ok [] else .error .detachedPayloadNotEmpty
  else readSegment .payload chars

/-- A key identifier has to be a string. -/
def checkKeyId (header : List (String × Json)) : Except TokenFlaw Unit :=
  match Json.lookup? "kid" header with
  | none => .ok ()
  | some value => if value.isString then .ok () else .error .keyIdNotString

/-- The one extension that a header may call critical. -/
def knownExtension : String := "b64"

/-- Every critical extension has to be known and present. -/
def checkExtensions (header : List (String × Json)) : List Json → Except TokenFlaw Unit
  | [] => .ok ()
  | .string name :: rest =>
    if name ≠ knownExtension then .error (.criticalUnknown name)
    else if (Json.lookup? name header).isNone then .error (.criticalMissing name)
    else checkExtensions header rest
  | .halved name :: _ => .error (.criticalUnknown (.halved name))
  | _ :: _ => .error .criticalNotString

/-- Critical extensions are given by a list that is not empty. -/
def checkCritical (header : List (String × Json)) : Except TokenFlaw Unit :=
  match Json.lookup? "crit" header with
  | none => .ok ()
  | some (.array (first :: rest)) => checkExtensions header (first :: rest)
  | some _ => .error .criticalNotList

/-- Reads the parts of a token. -/
def ofText (text : String) : Except TokenFlaw TokenParts :=
  match CompactToken.ofText? text.toList with
  | none => .error .notEnoughSegments
  | some token => do
    let headerOctets ← readSegment .header token.header
    let header ← readObject .header headerOctets
    let payload ← readPayload header token.payload
    let signature ← readSegment .signature token.signature
    checkKeyId header
    checkCritical header
    return ⟨header, payload, signature, token.signedOctets⟩

end TokenParts

end MeshAttest
