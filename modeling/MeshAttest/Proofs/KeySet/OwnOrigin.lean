import MeshAttest.Proofs.KeySet.Location
import MeshAttest.Proofs.Url.Splitting
import Mathlib.Data.Nat.Digits.Defs

/-!
# The key set of a verifier is in the verifier's own origin

What is put together as the URL of a key set is taken apart again when the key set is fetched. If
the host had a delimiter in it, or were left without its brackets, the key set would be looked for
elsewhere than at the verifier. But whatever host and port are read from a URL in ASCII, the same
ones are read from the URL of the key set (`KeySet.parse_urlOf`), and nothing else of the verifier's
URL has a part in it (`KeySet.location_ownOrigin`).

One thing is asked of the host, that it has no brackets in it. An address of a future version may
have one, and then the URL of the key set cannot be taken apart.
-/

set_option autoImplicit false

namespace MeshAttest

open Outcome Text

namespace Url

variable {text host digits : List Char} {parsed : Url}

/-! ### Characters of an authority -/

/-- A character that may stand behind the user information of an authority in ASCII. -/
def isPlaceChar (c : Char) : Bool :=
  c.toNat < 0x80 && !endsAuthority c && c != '@' && !decide (IsLeftOut c)

/-- A character of a place neither ends the authority nor the user information, and it is not left
out. -/
theorem isPlaceChar_iff {c : Char} :
    isPlaceChar c = true ↔
      c.toNat < 0x80 ∧ endsAuthority c = false ∧ c ≠ '@' ∧ ¬ IsLeftOut c := by
  simp only [isPlaceChar, Bool.and_eq_true, decide_eq_true_eq, Bool.not_eq_true', bne_iff_ne,
    decide_eq_false_iff_not, and_assoc]

theorem isPlaceChar_toLower (c : Char) (h : isPlaceChar c = true) : isPlaceChar c.toLower = true :=
  forall_ascii (fun c ↦ isPlaceChar c = true → isPlaceChar c.toLower = true) (by decide)
    (isPlaceChar_iff.mp h).1 h

theorem isPlaceChar_of_isPortChar (c : Char) (h : IsPortChar c) : isPlaceChar c = true :=
  forall_ascii (fun c ↦ c.isDigit = true ∨ c = '-' → isPlaceChar c = true) (by decide)
    (SentUrl.toNat_lt_of_isPortChar c h) h

theorem isPlaceChar_of_isSchemeChar {c : Char} (h : isSchemeChar c = true) : isPlaceChar c = true :=
  forall_ascii (fun c ↦ isSchemeChar c = true → isPlaceChar c = true) (by decide)
    (toNat_lt_of_isSchemeChar h) h

theorem of_mem_authorityOf {c : Char} (h : c ∈ authorityOf text) :
    c ∈ clean text ∧ endsAuthority c = false := by
  obtain ⟨hrest, hinside⟩ := of_mem_takeAuthority _ h
  exact ⟨takeScheme_snd_subset _ hrest, hinside⟩

/-- What is read from a text is its scheme and its authority, whose brackets fit. -/
theorem of_parse_eq_ok (h : parse text = .ok parsed) :
    parsed.scheme = (takeScheme (clean text)).1 ∧ parsed.authority = authorityOf text ∧
      BracketsFit parsed.authority := by
  rw [parse, bind_eq_ok_iff] at h
  obtain ⟨_, hbrackets, h⟩ := h
  rw [bind_eq_ok_iff] at h
  obtain ⟨_, -, h⟩ := h
  obtain rfl := Except.ok.inj h
  exact ⟨rfl, rfl, checkBrackets_eq_ok_iff.mp hbrackets⟩

/-- A scheme that is read is one, and it is in lower case. -/
theorem isScheme_of_parse (h : parse text = .ok parsed) (hne : parsed.scheme ≠ []) :
    IsScheme parsed.scheme ∧ lower parsed.scheme = parsed.scheme := by
  obtain ⟨hscheme, -, -⟩ := of_parse_eq_ok h
  rw [hscheme] at hne ⊢
  rcases takeScheme_cases (clean text) with hnone | ⟨scheme, rest, hisScheme, -, hsome⟩
  · rw [hnone] at hne
    exact absurd rfl hne
  · rw [hsome]
    exact ⟨hisScheme.lower, hisScheme.lower_lower⟩

theorem hostAndRest_fst_subset (authority : List Char) :
    (hostAndRest authority).1 ⊆ afterLast '@' authority := by
  unfold hostAndRest
  simp only
  split
  · intro c hc
    exact List.dropWhile_subset _ (List.mem_of_mem_drop (List.takeWhile_subset _ hc))
  · exact List.takeWhile_subset _

/-- The host of a URL in ASCII has characters of a place only. -/
theorem isPlaceChar_of_mem_host (hascii : Host.isAscii text = true) (h : parse text = .ok parsed) :
    ∀ c ∈ (hostAndRest parsed.authority).1, isPlaceChar c = true := by
  obtain ⟨-, hauthority, -⟩ := of_parse_eq_ok h
  intro c hc
  have hplace := hostAndRest_fst_subset _ hc
  rw [hauthority] at hplace
  obtain ⟨hclean, hinside⟩ := of_mem_authorityOf (SentUrl.afterLast_subset _ _ hplace)
  obtain ⟨htext, hkept⟩ := of_mem_clean hclean
  exact isPlaceChar_iff.mpr ⟨Host.isAscii_iff.mp hascii c htext, hinside,
    ne_of_mem_of_not_mem hplace (not_mem_afterLast '@' _), hkept⟩

/-! ### Hosts that are read -/

/-- A host as it is read from a URL in ASCII, without any brackets in it. If it has a colon, it is
an address. -/
structure IsReadHost (host : List Char) : Prop where
  plain : ∀ c ∈ host, isPlaceChar c = true
  opens : '[' ∉ host
  closes : ']' ∉ host
  address : ':' ∈ host → isFutureAddress host = true ∨ isIpv6 host = true
  lower_eq : lowerHost host = host

/-- Without an opening bracket the host ends at the first colon. -/
theorem colon_not_mem_of_bare {authority : List Char} (h : '[' ∉ authority) :
    ':' ∉ (hostAndRest authority).1 := by
  have hinfo : '[' ∉ afterLast '@' authority := fun hmem ↦ h (SentUrl.afterLast_subset _ _ hmem)
  unfold hostAndRest
  simp only [hinfo, if_false]
  exact not_mem_takeWhile_ne ':' _

/-- The host of a URL in ASCII is one that can be written into another URL. -/
theorem isReadHost_of_parse (hascii : Host.isAscii text = true) (h : parse text = .ok parsed)
    (hopens : '[' ∉ parsed.host) (hcloses : ']' ∉ parsed.host) : IsReadHost parsed.host := by
  have hplain := isPlaceChar_of_mem_host hascii h
  obtain ⟨-, -, hfit⟩ := of_parse_eq_ok h
  have hhostAscii : Host.isAscii (hostAndRest parsed.authority).1 = true :=
    Host.isAscii_iff.mpr fun c hc ↦ (isPlaceChar_iff.mp (hplain c hc)).1
  change '[' ∉ lowerHost (hostAndRest parsed.authority).1 at hopens
  change ']' ∉ lowerHost (hostAndRest parsed.authority).1 at hcloses
  change IsReadHost (lowerHost (hostAndRest parsed.authority).1)
  refine ⟨forall_mem_lowerHost isPlaceChar_toLower hhostAscii hplain, hopens, hcloses,
    fun hcolon ↦ ?_, lowerHost_lowerHost hhostAscii⟩
  rcases hfit with ⟨hbare, -⟩ | ⟨-, -, host, behind, hstands, -, haddress⟩
  · exact absurd hcolon (not_mem_lowerHost (by decide) hhostAscii (colon_not_mem_of_bare hbare))
  · rw [(stands_iff.mp hstands).2] at hhostAscii ⊢
    exact haddress.imp (isFutureAddress_lowerHost hhostAscii) (isIpv6_lowerHost hhostAscii)

namespace IsReadHost

theorem isPlaceChar_of_mem (h : IsReadHost host) (hdigits : ∀ c ∈ digits, IsPortChar c) :
    ∀ c ∈ SentUrl.hostText host ++ portPart digits, isPlaceChar c = true :=
  List.forall_mem_append.mpr ⟨SentUrl.forall_mem_hostText (by decide) (by decide) h.plain,
    SentUrl.forall_mem_portPart (by decide) fun c hc ↦ isPlaceChar_of_isPortChar c (hdigits c hc)⟩

theorem at_not_mem (h : IsReadHost host) (hdigits : ∀ c ∈ digits, IsPortChar c) :
    '@' ∉ SentUrl.hostText host ++ portPart digits :=
  fun hmem ↦ absurd (h.isPlaceChar_of_mem hdigits '@' hmem) (by decide)

/-- A host that was read stands in front of its port, between brackets if it is an address. -/
theorem stands (h : IsReadHost host) (hdigits : ∀ c ∈ digits, IsPortChar c) :
    Stands host (portPart digits) (SentUrl.hostText host ++ portPart digits) := by
  unfold SentUrl.hostText
  split
  · rw [List.cons_append, List.append_assoc, List.singleton_append]
    exact .closed h.closes
  · next hcolon =>
    exact .bare hcolon (portPart_cases digits)
      (not_mem_append_portPart h.opens (by decide) (by decide) hdigits)

/-- A host that was read can be written and is read again, and so is the port behind it. -/
theorem hostAndRest_eq (h : IsReadHost host) (hdigits : ∀ c ∈ digits, IsPortChar c) :
    hostAndRest (SentUrl.hostText host ++ portPart digits) = (host, portPart digits) := by
  have hstands := h.stands hdigits
  rw [← afterLast_of_not_mem (h.at_not_mem hdigits)] at hstands
  exact (stands_iff.mp hstands).2

theorem bracketsFit (h : IsReadHost host) (hdigits : ∀ c ∈ digits, IsPortChar c) :
    BracketsFit (SentUrl.hostText host ++ portPart digits) := by
  by_cases hcolon : ':' ∈ host
  · have hopen : '[' ∈ SentUrl.hostText host := by simp [SentUrl.hostText, hcolon]
    have hclose : ']' ∈ SentUrl.hostText host := by simp [SentUrl.hostText, hcolon]
    refine .inr ⟨List.mem_append_left _ hopen, List.mem_append_left _ hclose, host,
      portPart digits, ?_, portPart_cases digits, h.address hcolon⟩
    rw [afterLast_of_not_mem (h.at_not_mem hdigits)]
    exact h.stands hdigits
  · rw [SentUrl.hostText, if_neg hcolon]
    exact .inl ⟨not_mem_append_portPart h.opens (by decide) (by decide) hdigits,
      not_mem_append_portPart h.closes (by decide) (by decide) hdigits⟩

end IsReadHost

/-! ### Ports that are read -/

/-- A port that is read is below the limit of ports. -/
theorem le_of_port?_eq_ok {port : Nat} (h : parsed.port? = .ok (some port)) : port ≤ 65535 := by
  unfold port? at h
  simp only at h
  split at h
  · cases h
  · split at h
    · cases h
    · split at h
      · cases h
      · split at h
        · cases h
        · next hle =>
          obtain rfl := Option.some.inj (Except.ok.inj h)
          exact Nat.le_of_not_lt hle

/-- The digits of a port below the limit are read as this port. -/
theorem port?_of_digits {port : Nat} (hport : port ≤ 65535)
    (htext : parsed.portText = (toString port).toList) : parsed.port? = .ok (some port) := by
  have hne : (toString port).toList ≠ [] := by
    rw [Nat.toString_eq_repr, Nat.toList_repr]
    exact Nat.toDigits_ne_nil
  have hdigits : (toString port).toList.all Char.isDigit = true := by
    rw [List.all_eq_true, Nat.toString_eq_repr, Nat.toList_repr]
    exact fun c hc ↦ Nat.isDigit_of_mem_toDigits (by decide) (by decide) hc
  have hlength : ¬ maximumDigits < (toString port).toList.length := by
    have hle : port.repr.length ≤ 5 := Nat.repr_length port 5 (by decide) (by omega)
    rw [Nat.toString_eq_repr, String.length_toList, maximumDigits]
    omega
  rw [port?]
  simp only [htext, hne, if_false, hdigits, hlength, foldl_toString, Bool.not_true,
    Bool.false_eq_true, Nat.not_lt.mpr hport]

/-- The same scheme, host and port are read from two URLs. -/
structure SameOrigin (url other : Url) : Prop where
  scheme_eq : url.scheme = other.scheme
  host_eq : url.host = other.host
  port?_eq : url.port? = other.port?

end Url

/-! ### URLs of key sets -/

namespace KeySet

open Url

variable {url location : String} {scheme host : List Char} {port : Option Nat} {parsed : Url}

theorem isPortChar_of_mem_portDigits (port : Option Nat) : ∀ c ∈ portDigits port, IsPortChar c := by
  cases port with
  | none => exact List.forall_mem_nil _
  | some port =>
    intro c hc
    rw [portDigits, Nat.toString_eq_repr, Nat.toList_repr] at hc
    exact .inl (Nat.isDigit_of_mem_toDigits (by decide) (by decide) hc)

/-- The authority of a location has characters of a place only, so that nothing in it ends it. -/
theorem isPlaceChar_of_mem_authority (port : Option Nat) (hhost : IsReadHost host) :
    ∀ c ∈ SentUrl.hostText host ++ portPart (portDigits port), isPlaceChar c = true :=
  hhost.isPlaceChar_of_mem (isPortChar_of_mem_portDigits port)

/-- A location has the scheme, the authority and the path of key sets as its parts. -/
theorem urlOf_written (port : Option Nat) (hscheme : IsScheme scheme) (hhost : IsReadHost host) :
    Written (urlOf scheme host port).toList scheme
      (SentUrl.hostText host ++ portPart (portDigits port)) path.toList where
  text_eq := toList_urlOf scheme host port
  isScheme := hscheme
  inside c hc := (isPlaceChar_iff.mp (isPlaceChar_of_mem_authority port hhost c hc)).2.1
  isTail := isTail_cons rfl _

/-- Nothing in a location is left out. -/
theorem not_isLeftOut_of_mem_urlOf (port : Option Nat) (hscheme : IsScheme scheme)
    (hhost : IsReadHost host) : ∀ c ∈ (urlOf scheme host port).toList, ¬ IsLeftOut c := by
  have hplace : ∀ c, isPlaceChar c = true → ¬ IsLeftOut c :=
    fun c hc ↦ (isPlaceChar_iff.mp hc).2.2.2
  have hpath : ∀ c ∈ path.toList, ¬ IsLeftOut c := fun c hc ↦ not_isLeftOut_of_isControl
    (Bool.not_eq_true _ ▸ List.any_eq_false.mp SentUrl.isSentPath_keySet.any_isControl c hc)
  rw [toList_urlOf]
  refine List.forall_mem_append.mpr
    ⟨fun c hc ↦ hplace c (isPlaceChar_of_isSchemeChar (hscheme.all c hc)), ?_⟩
  simp only [List.forall_mem_cons, List.forall_mem_append]
  refine ⟨by decide, by decide, by decide, ?_, hpath⟩
  rw [← List.forall_mem_append]
  exact fun c hc ↦ hplace c (isPlaceChar_of_mem_authority port hhost c hc)

/-- The URL of a key set is taken apart into what it has been put together of. -/
theorem parse_urlOf (port : Option Nat) (hscheme : IsScheme scheme) (hlower : lower scheme = scheme)
    (hhost : IsReadHost host) :
    Url.parse (urlOf scheme host port).toList =
      .ok ⟨scheme, SentUrl.hostText host ++ portPart (portDigits port), path.toList, [], []⟩ := by
  have hbrackets := checkBrackets_eq_ok_iff.mpr
    (hhost.bracketsFit (isPortChar_of_mem_portDigits port))
  have hplain := checkNormalization_of_isAscii (Host.isAscii_iff.mpr fun c hc ↦
    (isPlaceChar_iff.mp (isPlaceChar_of_mem_authority port hhost c hc)).1)
  rw [parse_of_not_isLeftOut (urlOf_written port hscheme hhost)
    (not_isLeftOut_of_mem_urlOf port hscheme hhost), hbrackets, hplain, hlower]
  rfl

/-- The port of a location is read back, and so is its absence. -/
theorem port?_of_portDigits (hport : ∀ n, port = some n → n ≤ 65535)
    (htext : parsed.portText = portDigits port) : parsed.port? = .ok port := by
  cases port with
  | none =>
    rw [port?, htext]
    rfl
  | some n => exact port?_of_digits (hport n rfl) htext

/-- From the authority of a location its host and its port are read, and no user information. -/
theorem origin_of_authority (reread : Url) (hhost : IsReadHost host)
    (hport : ∀ n, port = some n → n ≤ 65535)
    (h : reread.authority = SentUrl.hostText host ++ portPart (portDigits port)) :
    reread.host = host ∧ reread.port? = .ok port ∧ reread.userInfo? = none := by
  have hdigits := isPortChar_of_mem_portDigits port
  have hparts := hhost.hostAndRest_eq hdigits
  rw [← h] at hparts
  refine ⟨?_, port?_of_portDigits hport ?_, ?_⟩
  · change lowerHost (hostAndRest reread.authority).1 = host
    rw [hparts, hhost.lower_eq]
  · rw [portText, hparts, cutFirst_portPart]
  · rw [userInfo?, h, if_neg (hhost.at_not_mem hdigits)]

/-- Besides its origin, the URL has the path of key sets and nothing else. -/
structure NamesKeySet (url : Url) : Prop where
  userInfo?_eq : url.userInfo? = none
  path_eq : url.path = path.toList
  query_eq : url.query = []
  fragment_eq : url.fragment = []

/-- A location can be read. It has the origin of the URL, and besides it the path of key sets. -/
theorem exists_parse_location (hascii : Host.isAscii url.toList = true)
    (hparsed : Url.parse url.toList = .ok parsed) (hopens : '[' ∉ parsed.host)
    (hcloses : ']' ∉ parsed.host) (h : KeySet.location url = .ok location) :
    ∃ reread, Url.parse location.toList = .ok reread ∧ reread.SameOrigin parsed ∧
      NamesKeySet reread := by
  obtain ⟨other, port, hother, hport, hschemeNe, -, rfl⟩ := location_eq_ok_iff.mp h
  obtain rfl := Except.ok.inj (hparsed.symm.trans hother)
  obtain ⟨hscheme, hlower⟩ := isScheme_of_parse hparsed hschemeNe
  have hhost := isReadHost_of_parse hascii hparsed hopens hcloses
  have hle : ∀ n, port = some n → n ≤ 65535 := by
    rintro n rfl
    exact le_of_port?_eq_ok hport
  obtain ⟨hrereadHost, hrereadPort, huserInfo⟩ :=
    origin_of_authority ⟨parsed.scheme, _, path.toList, [], []⟩ hhost hle rfl
  exact ⟨_, parse_urlOf port hscheme hlower hhost,
    ⟨rfl, hrereadHost, hrereadPort.trans hport.symm⟩, ⟨huserInfo, rfl, rfl, rfl⟩⟩

/-- URLs of the same origin have the same location. -/
theorem location_of_sameOrigin {other : String} {otherParsed : Url}
    (hparsed : Url.parse url.toList = .ok parsed) (h : KeySet.location url = .ok location)
    (hother : Url.parse other.toList = .ok otherParsed) (hsame : otherParsed.SameOrigin parsed) :
    KeySet.location other = .ok location := by
  obtain ⟨same, port, hagain, hport, hscheme, hhost, rfl⟩ := location_eq_ok_iff.mp h
  obtain rfl := Except.ok.inj (hparsed.symm.trans hagain)
  refine location_eq_ok_iff.mpr
    ⟨otherParsed, port, hother, hsame.port?_eq.trans hport, ?_, ?_, ?_⟩
  · rwa [hsame.scheme_eq]
  · rwa [hsame.host_eq]
  · rw [hsame.scheme_eq, hsame.host_eq]

/-- The key set is fetched from the origin of the verifier. The same scheme, host and port are read
from its URL as from that of the verifier, it is its own location, and it is the same one for all
URLs of the origin. -/
theorem location_ownOrigin {url location : String} {parsed : Url}
    (hascii : Host.isAscii url.toList = true) (hparsed : Url.parse url.toList = .ok parsed)
    (hopens : '[' ∉ parsed.host) (hcloses : ']' ∉ parsed.host)
    (h : KeySet.location url = .ok location) :
    (∃ reread, Url.parse location.toList = .ok reread ∧ reread.SameOrigin parsed ∧
      NamesKeySet reread) ∧
    KeySet.location location = .ok location ∧
    ∀ other otherParsed, Url.parse other.toList = .ok otherParsed →
      otherParsed.SameOrigin parsed → KeySet.location other = .ok location := by
  obtain ⟨reread, hreread, hsame, hparts⟩ := exists_parse_location hascii hparsed hopens hcloses h
  exact ⟨⟨reread, hreread, hsame, hparts⟩, location_of_sameOrigin hparsed h hreread hsame,
    fun other otherParsed hother hsame ↦ location_of_sameOrigin hparsed h hother hsame⟩

/-- The origin of an address with a zone and a port with a zero in front. -/
theorem location_ownOrigin_address :
    KeySet.location "HTTPS://u:p@[FE80::1%Eth0]:0443/v3?x#y" =
        .ok "https://[fe80::1%Eth0]:443/.well-known/jwks.json" ∧
      KeySet.location "https://[fe80::1%Eth0]:443/.well-known/jwks.json" =
        .ok "https://[fe80::1%Eth0]:443/.well-known/jwks.json" ∧
      KeySet.location "https://[fe80::1%Eth0]:443" =
        .ok "https://[fe80::1%Eth0]:443/.well-known/jwks.json" := by
  have hparsed : Url.parse "HTTPS://u:p@[FE80::1%Eth0]:0443/v3?x#y".toList =
      .ok ⟨"https".toList, "u:p@[FE80::1%Eth0]:0443".toList, "/v3".toList, ['x'], ['y']⟩ := by
    decide +kernel
  have hlocation : KeySet.location "HTTPS://u:p@[FE80::1%Eth0]:0443/v3?x#y" =
      .ok "https://[fe80::1%Eth0]:443/.well-known/jwks.json" := by
    decide +kernel
  have hother : Url.parse "https://[fe80::1%Eth0]:443".toList =
      .ok ⟨"https".toList, "[fe80::1%Eth0]:443".toList, [], [], []⟩ := by
    decide +kernel
  obtain ⟨-, hagain, hsame⟩ := location_ownOrigin (by decide) hparsed (by decide +kernel)
    (by decide +kernel) hlocation
  exact ⟨hlocation, hagain, hsame _ _ hother (by constructor <;> decide +kernel)⟩

example : KeySet.location "http://[v1.[x]/" = .ok "http://v1.[x/.well-known/jwks.json" ∧
    Url.parse "http://v1.[x/.well-known/jwks.json".toList = .error .brackets := by
  decide +kernel

end KeySet

end MeshAttest
