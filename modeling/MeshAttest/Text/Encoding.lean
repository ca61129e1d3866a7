import MeshAttest.Bytes
import MeshAttest.Text.CodePoint

/-!
# Text encodings

`Encoding.detect` finds out how octets encode a text: by a byte order mark, which is left out of the
text, or else by where the zeros stand among the first octets, for a text that starts with two ASCII
characters. `decode` reads UTF-8, UTF-16 and UTF-32; its faults cite the octets at which the octets
cease to be an encoded text. Half of a surrogate pair is read as the code point that it is.
-/

set_option autoImplicit false

namespace MeshAttest.Text

/-- An encoding of text. -/
inductive Encoding where
  | utf8
  | utf16 (bigEndian : Bool)
  | utf32 (bigEndian : Bool)
deriving DecidableEq, Repr

/-- The name of an encoding in messages. -/
def Encoding.name : Encoding → String
  | .utf8 => "utf-8"
  | .utf16 bigEndian => if bigEndian then "utf-16-be" else "utf-16-le"
  | .utf32 bigEndian => if bigEndian then "utf-32-be" else "utf-32-le"

/-- What is wrong with octets that encode no text. -/
inductive EncodingFlaw where
  | startByte
  | continuationByte
  | unexpectedEnd
  | truncated
  | outOfRange
deriving DecidableEq, Repr

/-- The description of a flaw. -/
def EncodingFlaw.message : EncodingFlaw → String
  | .startByte => "invalid start byte"
  | .continuationByte => "invalid continuation byte"
  | .unexpectedEnd => "unexpected end of data"
  | .truncated => "truncated data"
  | .outOfRange => "code point not in range(0x110000)"

/-- A flaw, and the octets that have it. -/
structure EncodingFault where
  encoding : Encoding
  offset : Nat
  octets : Bytes
  flaw : EncodingFlaw
deriving DecidableEq, Repr

/-- The message of a fault. -/
def EncodingFault.message (fault : EncodingFault) : String :=
  let place := match fault.octets with
    | [octet] => s!"byte 0x{Bytes.hex [octet]} in position {fault.offset}"
    | octets => s!"bytes in position {fault.offset}-{fault.offset + octets.length - 1}"
  s!"'{fault.encoding.name}' codec can't decode {place}: {fault.flaw.message}"

/-- The encoding of octets, the number of octets before the text that count for places in it, and
the octets of the text. -/
def Encoding.detect (octets : Bytes) : Encoding × Nat × Bytes :=
  match octets with
  | 0x00 :: 0x00 :: 0xfe :: 0xff :: rest => (.utf32 true, 4, rest)
  | 0xff :: 0xfe :: 0x00 :: 0x00 :: rest => (.utf32 false, 4, rest)
  | 0xfe :: 0xff :: rest => (.utf16 true, 2, rest)
  | 0xff :: 0xfe :: rest => (.utf16 false, 2, rest)
  | 0xef :: 0xbb :: 0xbf :: rest => (.utf8, 0, rest)
  | a :: b :: c :: d :: _ =>
    if a = 0 then (if b = 0 then .utf32 true else .utf16 true, 0, octets)
    else if b = 0 then (if c = 0 ∧ d = 0 then .utf32 false else .utf16 false, 0, octets)
    else (.utf8, 0, octets)
  | [a, b] => (if a = 0 then .utf16 true else if b = 0 then .utf16 false else .utf8, 0, octets)
  | _ => (.utf8, 0, octets)

/-- A UTF-8 sequence that is not complete yet. -/
structure Sequence where
  /-- The octets so far, the last one first. -/
  octets : Bytes
  /-- The number of octets to come, after the next one. -/
  missing : Nat
  /-- The least value of the next octet. -/
  least : Nat
  /-- The greatest value of the next octet. -/
  greatest : Nat
  /-- The value so far. -/
  value : Nat

/-- The sequence that starts with an octet above the ASCII range. The range of the second octet
excludes longer forms than needed and what lies beyond the last code point. -/
def Sequence.start? (octet : UInt8) (rest : Bytes) : Option Sequence :=
  let n := octet.toNat
  if n < 0xc2 then none
  else if n < 0xe0 then some ⟨[octet], 0, 0x80, 0xbf, n - 0xc0⟩
  else if n = 0xe0 then some ⟨[octet], 1, 0xa0, 0xbf, 0⟩
  else if n = 0xed then
    let surrogate := match rest with
      | second :: third :: _ => 0xa0 ≤ second && second ≤ 0xbf && 0x80 ≤ third && third ≤ 0xbf
      | _ => false
    some ⟨[octet], 1, 0x80, if surrogate then 0xbf else 0x9f, n - 0xe0⟩
  else if n < 0xf0 then some ⟨[octet], 1, 0x80, 0xbf, n - 0xe0⟩
  else if n = 0xf0 then some ⟨[octet], 2, 0x90, 0xbf, 0⟩
  else if n < 0xf4 then some ⟨[octet], 2, 0x80, 0xbf, n - 0xf0⟩
  else if n = 0xf4 then some ⟨[octet], 2, 0x80, 0x8f, n - 0xf0⟩
  else none

/-- Decodes UTF-8 from an offset on. The points so far are given, last one first, and the
sequence that has begun, if one has. -/
def decodeUtf8 (offset : Nat) (done : List CodePoint) (sequence : Option Sequence) :
    Bytes → Except EncodingFault (List CodePoint)
  | [] =>
    match sequence with
    | none => .ok done.reverse
    | some begun => .error ⟨.utf8, offset, begun.octets.reverse, .unexpectedEnd⟩
  | octet :: rest =>
    match sequence with
    | none =>
      if octet < 0x80 then decodeUtf8 (offset + 1) (.ofNat octet.toNat :: done) none rest
      else match Sequence.start? octet rest with
        | none => .error ⟨.utf8, offset, [octet], .startByte⟩
        | some started => decodeUtf8 offset done (some started) rest
    | some begun =>
      if octet.toNat < begun.least ∨ begun.greatest < octet.toNat then
        .error ⟨.utf8, offset, begun.octets.reverse, .continuationByte⟩
      else
        let octets := octet :: begun.octets
        let value := begun.value * 64 + (octet.toNat - 0x80)
        match begun.missing with
        | 0 => decodeUtf8 (offset + octets.length) (.ofNat value :: done) none rest
        | missing + 1 => decodeUtf8 offset done (some ⟨octets, missing, 0x80, 0xbf, value⟩) rest

/-- The number of octets of either order. -/
def ofOctets (bigEndian : Bool) (octets : Bytes) : Nat :=
  if bigEndian then octets.toNatBE else octets.toNatLE

/-- Decodes UTF-16 from an offset on. The points so far are given, last one first, and the high
surrogate in front, if there is one. -/
def decodeUtf16 (bigEndian : Bool) (offset : Nat) (done : List CodePoint) (high : Option Nat) :
    Bytes → Except EncodingFault (List CodePoint)
  | a :: b :: rest =>
    let unit := ofOctets bigEndian [a, b]
    match high with
    | some first =>
      if 0xdc00 ≤ unit ∧ unit ≤ 0xdfff then
        let codePoint := 0x10000 + (first - 0xd800) * 0x400 + (unit - 0xdc00)
        decodeUtf16 bigEndian (offset + 2) (.ofNat codePoint :: done) none rest
      else if 0xd800 ≤ unit ∧ unit ≤ 0xdbff then
        decodeUtf16 bigEndian (offset + 2) (.ofNat first :: done) (some unit) rest
      else
        decodeUtf16 bigEndian (offset + 2) (.ofNat unit :: .ofNat first :: done) none rest
    | none =>
      if 0xd800 ≤ unit ∧ unit ≤ 0xdbff then
        decodeUtf16 bigEndian (offset + 2) done (some unit) rest
      else decodeUtf16 bigEndian (offset + 2) (.ofNat unit :: done) none rest
  | [] => .ok (high.toList.map CodePoint.ofNat ++ done).reverse
  | octets => .error ⟨.utf16 bigEndian, offset, octets, .truncated⟩

/-- Decodes UTF-32 from an offset on. The points so far are given, last one first. -/
def decodeUtf32 (bigEndian : Bool) (offset : Nat) (done : List CodePoint) :
    Bytes → Except EncodingFault (List CodePoint)
  | a :: b :: c :: d :: rest =>
    let codePoint := ofOctets bigEndian [a, b, c, d]
    if 0x110000 ≤ codePoint then
      .error ⟨.utf32 bigEndian, offset, [a, b, c, d], .outOfRange⟩
    else decodeUtf32 bigEndian (offset + 4) (.ofNat codePoint :: done) rest
  | [] => .ok done.reverse
  | octets => .error ⟨.utf32 bigEndian, offset, octets, .truncated⟩

/-- Decodes octets in the encoding that they have. -/
def decode (octets : Bytes) : Except EncodingFault (List CodePoint) :=
  let (encoding, offset, rest) := Encoding.detect octets
  match encoding with
  | .utf8 => decodeUtf8 offset [] none rest
  | .utf16 bigEndian => decodeUtf16 bigEndian offset [] none rest
  | .utf32 bigEndian => decodeUtf32 bigEndian offset [] rest

end MeshAttest.Text
