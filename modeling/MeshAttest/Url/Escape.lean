import MeshAttest.Text.Utf8

/-!
# Escapes in URLs

A character that may not stand in a part of a URL is written as the octets that it has in UTF-8,
each as a percent sign and two hexadecimal digits. The percent sign itself is left alone, so that
what is escaped already stays as it is. Which characters may stand where is as in httpx 0.28.
-/

set_option autoImplicit false

namespace MeshAttest.Url

/-- The escape of an octet, with digits in upper case. -/
def escapeOctet (octet : UInt8) : List Char := '%' :: (Bytes.hexChars [octet]).map Char.toUpper

/-- A text in which all characters but some are escaped. -/
def escape (isPlain : Char → Bool) (chars : List Char) : List Char :=
  chars.flatMap fun c ↦
    if isPlain c then [c] else (String.utf8EncodeChar c).flatMap escapeOctet

/-- Whether a character is a visible ASCII character other than some. -/
def isVisibleExcept (others : List Char) (c : Char) : Bool :=
  0x20 < c.toNat && c.toNat < 0x7f && !others.contains c

/-- Whether a character may stand in a query. -/
def isQueryChar (c : Char) : Bool := isVisibleExcept ['"', '#', '<', '>'] c

/-- Whether a character may stand in a path. -/
def isPathChar (c : Char) : Bool :=
  isQueryChar c && isVisibleExcept ['?', '\x60', '\x7b', '\x7d'] c

/-- Whether a character may stand in a fragment. -/
def isFragmentChar (c : Char) : Bool := isVisibleExcept ['"', '<', '>', '\x60'] c

/-- Whether a character may stand in the information on a user. -/
def isUserInfoChar (c : Char) : Bool :=
  isPathChar c && isVisibleExcept ['/', ';', '=', '@', '[', '\\', ']', '^', '|'] c

/-- Whether a character may stand in a host. -/
def isHostChar (c : Char) : Bool :=
  isVisibleExcept ['#', '/', ':', '<', '>', '?', '@', '[', ']', '^'] c

/-- The octets of a text in ASCII with escapes. -/
def unescape : List Char → Bytes
  | '%' :: high :: low :: rest =>
    match Bytes.hexValue? high, Bytes.hexValue? low with
    | some h, some l => UInt8.ofNat (16 * h + l) :: unescape rest
    | _, _ => 0x25 :: unescape (high :: low :: rest)
  | c :: rest => UInt8.ofNat c.toNat :: unescape rest
  | [] => []

end MeshAttest.Url
