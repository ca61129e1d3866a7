import MeshAttest.Host.Name
import MeshAttest.Url.Basic
import MeshAttest.Url.Escape

/-!
# URLs as they are sent

A URL is not sent as it is written: the scheme and the host are in lower case, a host in another
script is in its ASCII form, the usual port of the scheme is left out, the path has no steps back,
and characters that may not stand where they do are escaped. `SentUrl.parse?` takes a URL apart into
what is sent, and `SentUrl.text` is the text of it. A URL that lacks its scheme or its host names a
path only, which is what is sent of it.

All of this is the form that httpx 0.28 gives to a URL, with the limits that it has.
-/

set_option autoImplicit false

namespace MeshAttest

/-- The components of a URL in the form in which they are sent. -/
structure SentUrl where
  scheme : List Char
  /-- The information on a user, or nothing. -/
  userInfo : List Char
  /-- The host, without brackets, or nothing. -/
  host : List Char
  port : Option Int
  path : List Char
  query : Option (List Char)
  fragment : Option (List Char)
deriving DecidableEq, Repr

namespace SentUrl

/-- The most characters that a URL has, or a part of it. -/
def maximumSize : Nat := 65536

/-- Whether a character is a control character of ASCII. -/
def isControl (c : Char) : Bool := c.toNat < 0x20 || c.toNat == 0x7f

/-- Takes the scheme, as it is written, from the front of a text, if there is one. It may be empty
in front of a colon. -/
def cutScheme (chars : List Char) : List Char × List Char :=
  match chars.takeWhile Url.isSchemeChar, chars.dropWhile Url.isSchemeChar with
  | [], ':' :: rest => ([], rest)
  | first :: more, ':' :: rest => if first.isAlpha then (first :: more, rest) else ([], chars)
  | _, _ => ([], chars)

/-- What follows a mark that ends at another mark, if the text starts with the first mark; and what
is left of the text. -/
def cutMarked (mark : Char) (ends : Char → Bool) (chars : List Char) :
    Option (List Char) × List Char :=
  match chars with
  | first :: rest =>
    if first = mark then
      (some (rest.takeWhile fun c ↦ !ends c), rest.dropWhile fun c ↦ !ends c)
    else (none, chars)
  | [] => (none, [])

/-- The information on a user, the host and the text of the port in an authority. A host in brackets
goes up to the last bracket, and any other one up to the first colon. -/
def splitAuthority (authority : List Char) : List Char × List Char × List Char :=
  let place := Text.afterLast '@' authority
  let userInfo := authority.take (authority.length - place.length - 1)
  let behind := Text.afterLast ']' place
  let (host, rest) :=
    if place.head? = some '[' ∧ ']' ∈ place then
      (place.take (place.length - behind.length), behind)
    else (place.takeWhile (· ≠ ':'), place.dropWhile (· ≠ ':'))
  (userInfo, host, if rest.head? = some ':' then rest.drop 1 else rest)

/-- Whether a host is made like a numeric address: four groups of digits with one character between
two groups, which may be a digit too. -/
def isNumeric (host : List Char) : Bool :=
  let runs := Text.pieces '.' (host.map fun c ↦ if c.isDigit then c else '.')
  let groups := runs.foldl (fun groups run ↦ groups + (run.length + 1) / 2) 0
  runs.length ≤ 4 && runs.all (· ≠ []) && 4 ≤ groups

/-- The host that is sent for a host. Only addresses may look like addresses. -/
def sentHost? (host : List Char) : Option (List Char) :=
  if host = [] then some []
  else if isNumeric host then if Url.isIpv4 host then some host else none
  else if host.head? = some '[' ∧ host.getLast? = some ']' then
    let address := (host.drop 1).dropLast
    if Url.isIpv6 address then some address else none
  else if Host.isAscii host then some (Url.escape Url.isHostChar (host.map Char.toLower))
  else Host.encode? (Text.lowercase host)

/-- The usual ports of schemes, which count only where the scheme is written in lower case. -/
def usualPorts : List (String × Int) :=
  [("ftp", 21), ("http", 80), ("https", 443), ("ws", 80), ("wss", 443)]

/-- The port that is sent under a scheme for the text of a port, if one is. -/
def sentPort? (scheme text : List Char) : Option (Option Int) :=
  if text = [] then some none
  else (Text.integer? text).map fun port ↦
    if usualPorts.lookup (String.ofList scheme) = some port then none else some port

/-- The path without the segments that mean the same place or a step back. The root stays. -/
def resolveSteps (path : List Char) : List Char :=
  let kept := (Text.pieces '/' path).foldl (fun kept segment ↦
    if segment = ['.'] then kept
    else if segment = ['.', '.'] then if kept = [[]] then kept else kept.dropLast
    else kept ++ [segment]) []
  ['/'].intercalate kept

/-- Takes a URL apart into what is sent. -/
def parse? (text : List Char) : Option SentUrl := do
  if maximumSize < text.length ∨ text.any isControl then none
  let (scheme, rest) := cutScheme text
  let (authority, rest) := Url.takeAuthority rest
  let path := rest.takeWhile fun c ↦ c != '?' && c != '#'
  let rest := rest.drop path.length
  let (query, rest) := cutMarked '?' (· == '#') rest
  let (fragment, _) := cutMarked '#' (fun _ ↦ false) rest
  let (userInfo, host, port) := splitAuthority authority
  let host ← sentHost? host
  let port ← sentPort? scheme port
  let isPathOnly := scheme = [] ∧ userInfo = [] ∧ host = [] ∧ port = none
  if isPathOnly ∧ (['/', '/'].isPrefixOf path ∨ path.head? = some ':') then none
  return {
    scheme := scheme.map Char.toLower
    userInfo := Url.escape Url.isUserInfoChar userInfo
    host
    port
    path := Url.escape Url.isPathChar (if isPathOnly then path else resolveSteps path)
    query := query.map (Url.escape Url.isQueryChar)
    fragment := fragment.map (Url.escape Url.isFragmentChar) }

/-- Whether a URL has a scheme and a host. -/
def isAbsolute (url : SentUrl) : Bool := url.scheme != [] && url.host != []

/-- Whether a URL that names a path only is not too long in its escaped form. -/
def fits (url : SentUrl) : Bool :=
  url.isAbsolute || ((url.path.dropWhile (· == '/')).length < maximumSize
    && (url.query.getD []).length ≤ maximumSize)

/-- A component behind its mark, or nothing. -/
def marked (mark : Char) : Option (List Char) → List Char
  | some chars => mark :: chars
  | none => []

/-- The authority: the host, in brackets if there are colons in it, with what surrounds it. -/
def authority (url : SentUrl) : List Char :=
  (if url.userInfo = [] then [] else url.userInfo ++ ['@'])
    ++ (if ':' ∈ url.host then '[' :: (url.host ++ [']']) else url.host)
    ++ marked ':' (url.port.map fun port ↦ (toString port).toList)

/-- The text that is sent. -/
def text (url : SentUrl) : String :=
  let resource := url.path ++ marked '?' url.query
  String.ofList <|
    if url.isAbsolute then
      url.scheme ++ [':', '/', '/'] ++ url.authority ++ resource ++ marked '#' url.fragment
    else '/' :: resource.dropWhile (· == '/')

/-- The name and the password of the user with a colon between them, unless both are empty. -/
def credentials? (url : SentUrl) : Option Bytes :=
  let (name, password) := Text.cutFirst ':' url.userInfo
  if name = [] ∧ password = [] then none
  else some (Text.repairUtf8 (Url.unescape name) ++ 0x3a :: Text.repairUtf8 (Url.unescape password))

end SentUrl

end MeshAttest
