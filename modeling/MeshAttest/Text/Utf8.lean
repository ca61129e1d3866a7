import MeshAttest.Text.Encoding

/-!
# UTF-8 octets

The octets that a text has in UTF-8 (`utf8`), and the octets of the text that is read from octets
which need not be UTF-8 (`repairUtf8`): what is wrong in them is read as the replacement character.
-/

set_option autoImplicit false

namespace MeshAttest.Text

/-- The octets of a text. -/
def utf8 (chars : List Char) : Bytes := chars.flatMap String.utf8EncodeChar

/-- The octets of the replacement character. -/
def replacement : Bytes := [0xef, 0xbf, 0xbd]

/-- The octets of what is read from octets, within a sequence that has begun, if one has. The
longest beginning of a sequence is replaced as one, and the octet that cannot follow it begins
anew. -/
def repairUtf8From (sequence : Option Sequence) : Bytes → Bytes
  | [] => if sequence.isSome then replacement else []
  | octet :: rest =>
    let anew :=
      if octet < 0x80 then octet :: repairUtf8From none rest
      else match Sequence.start? octet [] with
        | none => replacement ++ repairUtf8From none rest
        | some started => repairUtf8From (some started) rest
    match sequence with
    | none => anew
    | some begun =>
      if octet.toNat < begun.least ∨ begun.greatest < octet.toNat then replacement ++ anew
      else
        let octets := octet :: begun.octets
        match begun.missing with
        | 0 => octets.reverse ++ repairUtf8From none rest
        | missing + 1 => repairUtf8From (some ⟨octets, missing, 0x80, 0xbf, 0⟩) rest

/-- The octets of the text that is read from octets. -/
def repairUtf8 (octets : Bytes) : Bytes := repairUtf8From none octets

end MeshAttest.Text
