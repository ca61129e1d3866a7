import MeshAttest.Curve.Domain
import MeshAttest.Der.Fields

/-!
# Parameters of algorithms

An algorithm identifier is an object identifier with parameters. What parameters there may be
depends on the algorithm (`ParameterForm`), and an identifier with others is none
(`isAlgorithmIdentifier`). The parameters of algorithms that are not known here may be any. Some
algorithms are put together from others, so that their parameters have identifiers in turn. The
forms are those in which `cryptography` 50 reads a certificate.
-/

set_option autoImplicit false

namespace MeshAttest

open Der (Fields)

namespace CurveDomain

/-- The object identifier of fields of prime order. -/
def primeFieldId : List Nat := [1, 2, 840, 10045, 1, 1]

/-- The field of a curve, which is of a kind that its object identifier tells. -/
def field : Fields (Option Nat) := do
  let kind ← Fields.objectId
  if kind = primeFieldId then return some (← Fields.natural)
  else Fields.next fun _ ↦ some none

/-- The coefficients of a curve, and the seed that they are derived from. -/
def coefficients : Fields (Bytes × Bytes × Option Der.BitString) := do
  let a ← Fields.octets
  let b ← Fields.octets
  let seed ← Fields.optional .bitString fun element ↦ Der.bitString? element.content
  return (a, b, seed)

/-- The parameters of a curve. The version and the cofactor are below 256. -/
def fields : Fields CurveDomain := do
  let version ← Fields.naturalOfSize 8
  let prime ← field.sequence
  let (a, b, seed) ← coefficients.sequence
  let base ← Fields.octets
  let order ← Fields.natural
  let cofactor ← Fields.optionalNaturalOfSize 8
  return ⟨version, prime, a, b, seed, base, order, cofactor⟩

end CurveDomain

/-- The parameters of a key on an elliptic curve. -/
inductive CurveParameters where
  | named (curve : List Nat)
  | specified (domain : CurveDomain)
  /-- The curve is that of the issuer. -/
  | implicit
deriving DecidableEq, Repr

namespace CurveParameters

/-- Reads the parameters of a key on an elliptic curve. -/
def ofElement? (element : Der.Element) : Option CurveParameters :=
  if element.tag = .objectId then (Der.objectId? element.content).map .named
  else if element.tag = .null then if element.content.isEmpty then some .implicit else none
  else (CurveDomain.fields.ofElement? .sequence element).map .specified

/-- The curve of a key, if it is a known one. -/
def curve? : CurveParameters → Option Curve
  | .named name => Curve.ofName? name
  | .specified domain => Curve.ofDomain? domain
  | .implicit => none

end CurveParameters

/-- What the parameters of an algorithm have to be. -/
inductive ParameterForm where
  | absent
  | nullOrAbsent
  /-- The curve of a key. -/
  | curve
  /-- The modulus, the order and the generator of a group of signatures. -/
  | signatureGroup
  /-- The modulus and the generator of a group of key agreement, and a length. -/
  | agreementGroup
  /-- The same with the order of the generator, a cofactor and how the group was validated. -/
  | validatedGroup
  /-- How signatures with random salt are made. -/
  | saltedSignature
  /-- The first block of a cipher in a chain. -/
  | firstBlock (size : Nat)
  /-- The first block of a cipher with keys of several lengths. -/
  | versionedBlock
  /-- The derivation of a key from a password, and the encryption with that key. -/
  | passwordEncryption
  /-- A salt of so many octets, or of any number, and a count. -/
  | saltAndCount (size : Option Nat)
  | passwordKey
  | memoryHardKey
  | any
deriving DecidableEq, Repr

namespace ParameterForm

/-- A null element, if it comes next. -/
def optionalNull : Fields Unit := do
  let _ ← Fields.optional .null fun element ↦
    if element.content.isEmpty then some () else none

/-- An element in an element with a tag for the place. If that is given, it is right and not the
default. -/
def wrapped (number : Nat) (isRight isDefault : Der.Element → Bool) : Fields Unit := do
  let _ ← Fields.optional (.explicit number) fun element ↦
    (Fields.next fun inner ↦ if isRight inner && !isDefault inner then some () else none).ofElement?
      (.explicit number) element

/-- Whether an element is a natural number of at most so many bits. -/
def isNaturalOfSize (bits : Nat) (element : Der.Element) : Bool :=
  ((Fields.naturalOfSize bits).fill? [element]).isSome

/-- Whether an element is a given natural number. -/
def isNatural (number : Nat) (element : Der.Element) : Bool :=
  Fields.natural.fill? [element] == some number

/-- The identifier of the digest that is taken for salted signatures if none is given. -/
def defaultDigest : Bytes :=
  [0x30, 0x09, 0x06, 0x05, 0x2b, 0x0e, 0x03, 0x02, 0x1a, 0x05, 0x00]

/-- The identifier of the mask that is taken for salted signatures if none is given. -/
def defaultMask : Bytes :=
  [0x30, 0x16, 0x06, 0x09, 0x2a, 0x86, 0x48, 0x86, 0xf7, 0x0d, 0x01, 0x01, 0x08] ++ defaultDigest

/-- The identifier of the function that keys are derived with if none is given. -/
def defaultDerivation : Bytes :=
  [0x30, 0x0c, 0x06, 0x08, 0x2a, 0x86, 0x48, 0x86, 0xf7, 0x0d, 0x02, 0x07, 0x05, 0x00]

/-- How signatures with random salt are made: the digest, the mask with its own digest, the length
of the salt and the last octet. -/
def saltedSignatureFields (isIdentifier : Der.Element → Bool) : Fields Unit := do
  let isMask := fun (element : Der.Element) ↦
    let mask : Fields Unit := do
      let _ ← Fields.objectId
      Fields.next fun digest ↦ if isIdentifier digest then some () else none
    (mask.ofElement? .sequence element).isSome
  wrapped 0 isIdentifier (·.encoding == defaultDigest)
  wrapped 1 isMask (·.encoding == defaultMask)
  wrapped 2 (isNaturalOfSize 16) (isNatural 20)
  wrapped 3 (isNaturalOfSize 8) (isNatural 1)

/-- The fields that a form stands for, given what an algorithm identifier is. -/
def fields (isIdentifier : Der.Element → Bool) : ParameterForm → Fields Unit
  | .absent => return ()
  | .nullOrAbsent => optionalNull
  | .curve => Fields.next fun element ↦ (CurveParameters.ofElement? element).map fun _ ↦ ()
  | .signatureGroup => Fields.sequence do
    let _ ← Fields.natural
    let _ ← Fields.natural
    let _ ← Fields.natural
  | .agreementGroup => Fields.sequence do
    let _ ← Fields.natural
    let _ ← Fields.natural
    let _ ← Fields.optionalNaturalOfSize 32
  | .validatedGroup => Fields.sequence do
    let _ ← Fields.natural
    let _ ← Fields.natural
    let _ ← Fields.natural
    let _ ← Fields.optional .integer fun element ↦ Der.natural? element.content
    let _ ← Fields.optional .sequence fun element ↦ Der.elements? element.content
  | .saltedSignature => do
    let _ ← Fields.optional .sequence
      ((saltedSignatureFields isIdentifier).ofElement? .sequence)
  | .firstBlock size => do
    let _ ← Fields.octetsOfSize size
  | .versionedBlock => Fields.sequence do
    let _ ← Fields.optionalNaturalOfSize 32
    let _ ← Fields.octetsOfSize 8
  | .passwordEncryption => Fields.sequence do
    identifier
    identifier
  | .saltAndCount size => Fields.sequence do
    let _ ← match size with
      | some size => Fields.octetsOfSize size
      | none => Fields.octets
    let _ ← Fields.naturalOfSize 64
  | .passwordKey => Fields.sequence do
    let _ ← Fields.octets
    let _ ← Fields.naturalOfSize 64
    let _ ← Fields.optionalNaturalOfSize 64
    let _ ← Fields.optional .sequence fun element ↦
      if isIdentifier element && element.encoding != defaultDerivation then some () else none
  | .memoryHardKey => Fields.sequence do
    let _ ← Fields.octets
    let _ ← Fields.naturalOfSize 64
    let _ ← Fields.naturalOfSize 64
    let _ ← Fields.naturalOfSize 64
    let _ ← Fields.optionalNaturalOfSize 32
  | .any => fun elements ↦ some ((), elements.drop 1)
where
  /-- An algorithm identifier. -/
  identifier : Fields Unit :=
    Fields.next fun element ↦ if isIdentifier element then some () else none

/-- The object identifiers that a form is for: those that start alike, with what they end in. -/
structure Family where
  start : List Nat
  ends : List (List Nat)
  form : ParameterForm
deriving DecidableEq, Repr

/-- The known algorithms with the forms of their parameters. -/
def families : List Family :=
  [⟨[1, 2, 840, 10045, 2, 1], [[]], .curve⟩,
   ⟨[1, 3, 101], [[110], [111], [112], [113]], .absent⟩,
   ⟨[1, 3, 14, 3, 2], [[26], [29]], .nullOrAbsent⟩,
   ⟨[1, 2, 840, 113549, 1, 1], [[1], [5], [11], [12], [13], [14]], .nullOrAbsent⟩,
   ⟨[1, 2, 840, 113549, 1, 1], [[10]], .saltedSignature⟩,
   ⟨[1, 2, 840, 113549, 2], [[7], [8], [9], [10], [11]], .nullOrAbsent⟩,
   ⟨[1, 2, 840, 10045, 4, 3], [[1], [2], [3], [4]], .absent⟩,
   ⟨[2, 16, 840, 1, 101, 3, 4, 2], [[1], [2], [3], [4], [7], [8], [9], [10]], .nullOrAbsent⟩,
   ⟨[2, 16, 840, 1, 101, 3, 4, 3],
    [[1], [2], [3], [4], [9], [10], [11], [12], [17], [18], [19]], .absent⟩,
   ⟨[2, 16, 840, 1, 101, 3, 4, 3], [[13], [14], [15], [16]], .nullOrAbsent⟩,
   ⟨[2, 16, 840, 1, 101, 3, 4, 4], [[2], [3]], .absent⟩,
   ⟨[2, 16, 840, 1, 101, 3, 4, 1], [[2], [22], [42]], .firstBlock 16⟩,
   ⟨[1, 2, 840, 113549, 3], [[7]], .firstBlock 8⟩,
   ⟨[1, 2, 840, 113549, 3], [[2]], .versionedBlock⟩,
   ⟨[1, 2, 840, 10040, 4, 1], [[]], .signatureGroup⟩,
   ⟨[1, 2, 840, 113549, 1, 3, 1], [[]], .agreementGroup⟩,
   ⟨[1, 2, 840, 10046, 2, 1], [[]], .validatedGroup⟩,
   ⟨[1, 2, 840, 113549, 1, 5], [[3]], .saltAndCount (some 8)⟩,
   ⟨[1, 2, 840, 113549, 1, 5], [[12]], .passwordKey⟩,
   ⟨[1, 2, 840, 113549, 1, 5], [[13]], .passwordEncryption⟩,
   ⟨[1, 2, 840, 113549, 1, 12, 1], [[3], [6]], .saltAndCount none⟩,
   ⟨[1, 3, 6, 1, 4, 1, 11591, 4, 11], [[]], .memoryHardKey⟩]

/-- The form of the parameters of an algorithm. -/
def ofName (name : List Nat) : ParameterForm :=
  match families.find? fun family ↦ (family.ends.map (family.start ++ ·)).contains name with
  | some family => family.form
  | none => .any

end ParameterForm

/-- An algorithm identifier. -/
structure AlgorithmIdentifier where
  name : List Nat
  parameters : List Der.Element
deriving DecidableEq, Repr

namespace AlgorithmIdentifier

/-- Reads an algorithm identifier in which there are others down to some depth. -/
def within : Nat → Der.Element → Option AlgorithmIdentifier
  | 0, _ => none
  | depth + 1, element => do
    match ← element.children? .sequence with
    | first :: parameters =>
      let name ← Fields.typed .objectId Der.objectId? first
      let form := (ParameterForm.ofName name).fields fun inner ↦ (within depth inner).isSome
      let _ ← form.fill? parameters
      return ⟨name, parameters⟩
    | [] => none

/-- Reads an algorithm identifier. Those in its parameters are shorter than itself, which bounds
the depth. -/
def ofElement? (element : Der.Element) : Option AlgorithmIdentifier :=
  within (element.content.length + 1) element

end AlgorithmIdentifier

end MeshAttest
