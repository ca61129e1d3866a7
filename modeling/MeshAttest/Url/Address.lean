import MeshAttest.Bytes
import MeshAttest.Text.Split

/-!
# Numeric host addresses

Which texts are IPv4 addresses, IPv6 addresses with an optional zone, or addresses of a future
version, as they may stand in the brackets of a URL.
-/

set_option autoImplicit false

namespace MeshAttest.Url

/-- A number from 0 to 255 in decimal digits without superfluous zeros. -/
def isDecimalOctet (chars : List Char) : Bool :=
  chars.all Char.isDigit && 1 ≤ chars.length && chars.length ≤ 3
    && (chars == ['0'] || chars.head? != some '0')
    && chars.foldl (fun n c ↦ 10 * n + (c.toNat - 48)) 0 ≤ 255

/-- Four octets, separated by points. -/
def isIpv4 (chars : List Char) : Bool :=
  let octets := Text.pieces '.' chars
  octets.length == 4 && octets.all isDecimalOctet

/-- One to four hexadecimal digits, as a part of an IPv6 address. -/
def isHextet (chars : List Char) : Bool :=
  1 ≤ chars.length && chars.length ≤ 4 && chars.all fun c ↦ (Bytes.hexValue? c).isSome

/-- The parts of an IPv6 address, without an IPv4 address at its end, which counts for two parts. -/
def ipv6Parts? (chars : List Char) : Option (List (List Char)) :=
  let parts := Text.pieces ':' chars
  if parts.length < 3 then none
  else match parts.getLast? with
    | some final =>
      if '.' ∈ final then
        if isIpv4 final then some (parts.dropLast ++ [['0'], ['0']]) else none
      else some parts
    | none => none

/-- The parts that stand for themselves at one end of a gap. An empty part is admitted only as the
outermost one of a gap at the end of the address, so if it is the only one. -/
def besideGap (outermost : Option (List Char)) (parts : List (List Char)) :
    Option (List (List Char)) :=
  if outermost = some [] then if parts.length = 1 then some [] else none else some parts

/-- Whether parts make up an IPv6 address: eight of them, or fewer and one gap, an empty part that
is not at either end. -/
def isIpv6Parts (parts : List (List Char)) : Bool :=
  let inner := parts.dropLast.drop 1
  match inner.idxOf? [] with
  | none => parts.length == 8 && parts.all isHextet
  | some index =>
    let high := parts.take (index + 1)
    let low := parts.drop (index + 2)
    match besideGap high.head? high, besideGap low.getLast? low with
    | some high, some low =>
      (inner.drop (index + 1)).all (· ≠ []) && high.length + low.length < 8
        && high.all isHextet && low.all isHextet
    | _, _ => false

/-- An IPv6 address, with a zone behind a percent sign or without. -/
def isIpv6 (chars : List Char) : Bool :=
  let (address, zone) := Text.cutFirst '%' chars
  let zoned := decide ('%' ∉ chars) || (zone != [] && decide ('%' ∉ zone))
  zoned && match ipv6Parts? address with
    | some parts => parts.length ≤ 9 && isIpv6Parts parts
    | none => false

/-- An address of a future version: the letter v, a version in hexadecimal, a point and more. -/
def isFutureAddress : List Char → Bool
  | 'v' :: rest =>
    let isHex := fun c ↦ (Bytes.hexValue? c).isSome
    rest.takeWhile isHex != [] && match rest.dropWhile isHex with
      | '.' :: _ :: _ => true
      | _ => false
  | _ => false

end MeshAttest.Url
