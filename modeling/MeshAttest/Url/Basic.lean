import MeshAttest.Text.Decimal
import MeshAttest.Text.Lowercase
import MeshAttest.Text.Quoted
import MeshAttest.Url.Address

/-!
# URLs

`Url.parse` takes a URL apart into its five components. A URL that has brackets where they make no
sense, or a character that stands for a delimiter in a normal form of Unicode, has a fault. From the
authority come user information, host and port; the port is judged only when it is asked for.
-/

set_option autoImplicit false

namespace MeshAttest

/-- The components of a URL. A component that is absent is empty. -/
structure Url where
  scheme : List Char
  authority : List Char
  path : List Char
  query : List Char
  fragment : List Char
deriving DecidableEq, Repr

namespace Url

/-- Why a text cannot be taken apart as a URL. -/
inductive Fault where
  | brackets
  | futureAddress
  | bracketedIpv4
  | address (host : List Char)
  | normalization (authority : List Char)
deriving DecidableEq, Repr

/-- The message of a fault. -/
def Fault.message : Fault → String
  | .brackets => "Invalid IPv6 URL"
  | .futureAddress => "IPvFuture address is invalid"
  | .bracketedIpv4 => "An IPv4 address cannot be in brackets"
  | .address host =>
    s!"{Text.quoted (String.ofList host)} does not appear to be an IPv4 or IPv6 address"
  | .normalization authority =>
    s!"netloc '{String.ofList authority}' contains invalid characters under NFKC normalization"

/-- Why a port is none. -/
inductive PortFault where
  | notDecimal (port : List Char)
  | tooLong (digits : Nat)
  | outOfRange
deriving DecidableEq, Repr

/-- The message of a fault. -/
def PortFault.message : PortFault → String
  | .notDecimal port =>
    s!"Port could not be cast to integer value as {Text.quoted (String.ofList port)}"
  | .tooLong digits => Text.tooManyDigits digits
  | .outOfRange => "Port out of range 0-65535"

/-- A text without the control characters and spaces in front, and without any tab, line feed and
carriage return. -/
def clean (chars : List Char) : List Char :=
  (chars.dropWhile fun c ↦ c.toNat ≤ 0x20).filter fun c ↦ c ≠ '\t' ∧ c ≠ '\n' ∧ c ≠ '\r'

/-- A character that a scheme may have. -/
def isSchemeChar (c : Char) : Bool :=
  c.isAlpha || c.isDigit || c == '+' || c == '-' || c == '.'

/-- Takes the scheme, in lower case, from the front of a text, if there is one. -/
def takeScheme (chars : List Char) : List Char × List Char :=
  let scheme := chars.takeWhile isSchemeChar
  match scheme, chars.dropWhile isSchemeChar with
  | first :: _, ':' :: rest =>
    if first.isAlpha then (scheme.map Char.toLower, rest) else ([], chars)
  | _, _ => ([], chars)

/-- A character that ends the authority. -/
def endsAuthority (c : Char) : Bool := c == '/' || c == '?' || c == '#'

/-- Takes the authority from the front of a text, if there is one, that is, two slashes. -/
def takeAuthority : List Char → List Char × List Char
  | '/' :: '/' :: rest =>
    (rest.takeWhile fun c ↦ !endsAuthority c, rest.dropWhile fun c ↦ !endsAuthority c)
  | chars => ([], chars)

/-- What an authority says of the host: what is in brackets, or else the host before the colon; and
what follows it. -/
def hostAndRest (authority : List Char) : List Char × List Char :=
  let hostInfo := Text.afterLast '@' authority
  if '[' ∈ hostInfo then
    let inner := (Text.cutFirst '[' hostInfo).2
    ((Text.cutFirst ']' inner).1, (Text.cutFirst ']' inner).2)
  else (hostInfo.takeWhile (· ≠ ':'), hostInfo.dropWhile (· ≠ ':'))

/-- A host in brackets has to be an IPv6 address or an address of a future version. -/
def checkHost (host : List Char) : Except Fault Unit :=
  if host.head? = some 'v' then
    if isFutureAddress host then .ok () else .error .futureAddress
  else if isIpv4 host then .error .bracketedIpv4
  else if isIpv6 host then .ok ()
  else .error (.address host)

/-- Brackets come in pairs. They are right around the host, with nothing but a port behind. -/
def checkBrackets (authority : List Char) : Except Fault Unit :=
  if ('[' ∈ authority) ≠ (']' ∈ authority) then .error .brackets
  else if '[' ∉ authority then .ok ()
  else
    let hostInfo := Text.afterLast '@' authority
    let (host, rest) := hostAndRest authority
    if '[' ∈ hostInfo ∧ hostInfo.head? ≠ some '[' then .error .brackets
    else if rest ≠ [] ∧ rest.head? ≠ some ':' then .error .brackets
    else checkHost host

/-- The code points of the characters whose compatibility form has a delimiter of URLs. -/
def delimiterLookalikes : List Nat :=
  [0x2047, 0x2048, 0x2049, 0x2100, 0x2101, 0x2105, 0x2106, 0x2a74, 0xfe13, 0xfe16, 0xfe55, 0xfe56,
   0xfe5f, 0xfe6b, 0xff03, 0xff0f, 0xff1a, 0xff1f, 0xff20]

/-- No character may turn into a delimiter when the host is normalized. -/
def checkNormalization (authority : List Char) : Except Fault Unit :=
  if authority.any fun c ↦ delimiterLookalikes.contains c.toNat then
    .error (.normalization authority)
  else .ok ()

/-- Takes a URL apart. -/
def parse (text : List Char) : Except Fault Url := do
  let (scheme, rest) := takeScheme (clean text)
  let (authority, rest) := takeAuthority rest
  checkBrackets authority
  checkNormalization authority
  let (rest, fragment) := Text.cutFirst '#' rest
  let (path, query) := Text.cutFirst '?' rest
  return ⟨scheme, authority, path, query, fragment⟩

/-- The user information, in front of the last at sign. -/
def userInfo? (url : Url) : Option (List Char) :=
  if '@' ∈ url.authority then
    some (url.authority.take (url.authority.length - (Text.afterLast '@' url.authority).length - 1))
  else none

/-- The host, in lower case up to the first percent sign, or nothing. -/
def host (url : Url) : List Char :=
  let host := (hostAndRest url.authority).1
  Text.lowercase (host.takeWhile (· ≠ '%')) ++ host.dropWhile (· ≠ '%')

/-- The text of the port, behind the first colon after the host. -/
def portText (url : Url) : List Char := (Text.cutFirst ':' (hostAndRest url.authority).2).2

/-- The port, if there is one. -/
def port? (url : Url) : Except PortFault (Option Nat) :=
  let text := url.portText
  if text = [] then .ok none
  else if !text.all Char.isDigit then .error (.notDecimal text)
  else if Text.maximumDigits < text.length then .error (.tooLong text.length)
  else
    let port := text.foldl (fun n c ↦ 10 * n + (c.toNat - 48)) 0
    if 65535 < port then .error .outOfRange else .ok (some port)

end Url

end MeshAttest
