import MeshAttest.Certificate.Algorithm

/-!
# Certificates

`Certificate.ofOctets?` reads octets that are exactly one certificate. Every part has to have the
form that its type asks for, but what the parts say is not judged: names, times, extensions and the
signature may be any. What is kept is the version and the public key.

Which octets are a certificate is what `cryptography` 50 takes for one when it loads it, and so are
the parts in `Certificate.Algorithm`, `Certificate.Parameters` and `Certificate.OctetKey`.
-/

set_option autoImplicit false

namespace MeshAttest

/-- A public key, as it stands in a certificate. -/
structure PublicKeyInfo where
  algorithm : Algorithm
  key : Der.BitString
deriving DecidableEq, Repr

/-- A certificate. The version is given as it is encoded, one below its name. -/
structure Certificate where
  version : Nat
  publicKey : PublicKeyInfo
deriving DecidableEq, Repr

namespace Certificate

/-- Reads a public key with its algorithm. -/
def publicKeyInfo? (element : Der.Element) : Option PublicKeyInfo := do
  match ← element.children? .sequence with
  | [algorithm, key] =>
    if key.tag = .bitString then
      return ⟨← Algorithm.ofElement? algorithm, ← Der.bitString? key.content⟩
    else none
  | _ => none

/-- Whether an element is a time. -/
def isTime (element : Der.Element) : Bool :=
  (element.tag == .utcTime && Der.isUtcTime element.content)
    || (element.tag == .generalizedTime && Der.isGeneralizedTime element.content)

/-- Whether an element is a period between two times. -/
def isValidity (element : Der.Element) : Bool :=
  match element.children? .sequence with
  | some [first, last] => isTime first && isTime last
  | _ => false

/-- Whether the content of the value of an attribute has the form that its tag asks for. Values of
most types are not looked into. -/
def isAttributeValue (value : Der.Element) : Bool :=
  if value.tag = .printableString then Der.isPrintableText value.content
  else if value.tag = .bmpString then Der.isBmpText value.content
  else if value.tag = .universalString then Der.isUniversalText value.content
  else true

/-- Whether an element is an attribute of a name: an object identifier and a value of any type. -/
def isAttribute (element : Der.Element) : Bool :=
  match element.children? .sequence with
  | some [name, value] =>
    name.tag == .objectId && (Der.objectId? name.content).isSome && isAttributeValue value
  | _ => false

/-- Whether elements stand in the order of their encodings. -/
def isOrdered : List Der.Element → Bool
  | first :: second :: rest =>
    decide (first.encoding ≤ second.encoding) && isOrdered (second :: rest)
  | _ => true

/-- Whether an element is a set of attributes. -/
def isAttributeSet (element : Der.Element) : Bool :=
  match element.children? .set with
  | some attributes => attributes.all isAttribute && isOrdered attributes
  | none => false

/-- Whether an element is a name. -/
def isName (element : Der.Element) : Bool :=
  match element.children? .sequence with
  | some parts => parts.all isAttributeSet
  | none => false

/-- Whether an element is an extension. The mark of a critical one may not be given as false. -/
def isExtension (element : Der.Element) : Bool :=
  let isId := fun (name : Der.Element) ↦
    name.tag == .objectId && (Der.objectId? name.content).isSome
  match element.children? .sequence with
  | some [name, value] => isId name && value.tag == .octetString
  | some [name, critical, value] =>
    isId name && critical.tag == .boolean && Der.boolean? critical.content == some true
      && value.tag == .octetString
  | _ => false

/-- Whether an element is a list of extensions. -/
def isExtensionList (element : Der.Element) : Bool :=
  match element.children? .sequence with
  | some extensions => extensions.all isExtension
  | none => false

/-- Whether elements are what may follow the public key: two identifiers and the extensions. -/
def isTail : List Der.Element → Bool
  | [] => true
  | element :: rest =>
    if element.tag = .implicit 1 then
      (Der.bitString? element.content).isSome && isTailFrom 2 rest
    else isTailFrom 2 (element :: rest)
where
  /-- The same for what follows the first identifier, or the second. -/
  isTailFrom (next : Nat) : List Der.Element → Bool
    | [] => true
    | element :: rest =>
      if next = 2 ∧ element.tag = .implicit 2 then
        (Der.bitString? element.content).isSome && isTailFrom 3 rest
      else match element.children? (.explicit 3) with
        | some [extensions] => isExtensionList extensions && rest.isEmpty
        | _ => false

/-- Takes the version from the front of the fields. One that is not given is zero; given it has to
be another number below 256. -/
def takeVersion? : List Der.Element → Option (Nat × List Der.Element)
  | [] => none
  | element :: rest =>
    if element.tag = .explicit 0 then
      match Der.elements? element.content with
      | some [number] =>
        if number.tag = .integer then
          match Der.integer? number.content with
          | some version =>
            if 0 < version ∧ version < 256 then some (version.toNat, rest) else none
          | none => none
        else none
      | _ => none
    else some (0, element :: rest)

/-- Reads the signed part of a certificate. -/
def ofSigned? (signed : Der.Element) : Option Certificate := do
  let (version, fields) ← takeVersion? (← signed.children? .sequence)
  match fields with
  | serial :: algorithm :: issuer :: validity :: subject :: publicKey :: tail =>
    if serial.tag = .integer ∧ (Der.integer? serial.content).isSome
        ∧ (Algorithm.ofElement? algorithm).isSome ∧ isName issuer ∧ isValidity validity
        ∧ isName subject ∧ isTail tail then
      return ⟨version, ← publicKeyInfo? publicKey⟩
    else none
  | _ => none

/-- Reads a certificate. -/
def ofOctets? (octets : Bytes) : Option Certificate := do
  match ← Der.elements? octets with
  | [whole] =>
    match ← whole.children? .sequence with
    | [signed, algorithm, signature] =>
      if (Algorithm.ofElement? algorithm).isSome ∧ signature.tag = .bitString
          ∧ (Der.bitString? signature.content).isSome then
        ofSigned? signed
      else none
    | _ => none
  | _ => none

end Certificate

end MeshAttest
