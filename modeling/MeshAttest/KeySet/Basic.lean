import MeshAttest.Token.Fault

/-!
# Key sets

A key set is an object with a list of keys, each an object with an identifier and a chain of
certificates. Of the keys with one identifier the first one counts. The certificate of a key is the
first one of its chain.
-/

set_option autoImplicit false

namespace MeshAttest.KeySet

/-- The keys of a key set. A value of another shape has none. -/
def keys (keySet : Json) : List Json :=
  match keySet.get? "keys" with
  | some (.array keys) => keys
  | _ => []

/-- Whether a value is a key with a given identifier. -/
def hasId (keyId : RawText) (key : Json) : Bool :=
  match key.get? "kid" with
  | some value => value.rawText? == some keyId
  | none => false

/-- The first key with a given identifier. -/
def find? (keySet : Json) (keyId : RawText) : Option Json :=
  (keys keySet).find? (hasId keyId)

/-- The identifiers of all keys that have one. -/
def identifiers (keySet : Json) : List Json :=
  (keys keySet).filterMap fun key ↦ key.get? "kid"

/-- The certificate of a key. It has to be ASCII before it is decoded. -/
def leafCertificate (key : Json) : Except TokenFault Bytes :=
  match key.get? "x5c" with
  | some (.array (.string text :: _)) => (Base64.decode text).mapError .leafEncoding
  | some (.array (.halved _ :: _)) => .error (.leafEncoding .notAscii)
  | some (.array _) => .error .leafAbsent
  | _ => .error .chainAbsent

end MeshAttest.KeySet
