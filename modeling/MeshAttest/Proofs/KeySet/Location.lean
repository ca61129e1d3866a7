import MeshAttest.KeySet.Location
import MeshAttest.Proofs.Url.Origin

/-!
# Key-set URLs that are sent as they are written

The URL of a key set has little that could be changed when it is sent: a path of an origin is sent
as it is written (`SentUrl.ofOrigin_asWritten`). If the URL of the verifier is sent as it is
written, then so is the one of its key set (`SentUrl.AsWritten.exists_location`), with two
exceptions. Its scheme is in lower case, so that the usual port of the scheme is left out; and it
may be too long, and then it is not sent at all (`SentUrl.exists_location_not_reaches`).
-/

set_option autoImplicit false

namespace MeshAttest

open Outcome Text Url

namespace KeySet

/-- A URL has a location exactly if it can be taken apart, with a port that is a number and a scheme
and a host that are there. These three make up the location. -/
theorem location_eq_ok_iff {url location : String} :
    KeySet.location url = .ok location ↔
      ∃ parsed port, Url.parse url.toList = .ok parsed ∧ parsed.port? = .ok port ∧
        parsed.scheme ≠ [] ∧ parsed.host ≠ [] ∧
        location = urlOf parsed.scheme parsed.host port := by
  simp only [KeySet.location, bind_eq_ok_iff, mapError_eq_ok_iff]
  constructor
  · rintro ⟨parsed, hparsed, port, hport, h⟩
    split at h
    · cases h
    · next hcomplete =>
      rw [not_or] at hcomplete
      exact ⟨parsed, port, hparsed, hport, hcomplete.1, hcomplete.2, (Except.ok.inj h).symm⟩
  · rintro ⟨parsed, port, hparsed, hport, hscheme, hhost, rfl⟩
    exact ⟨parsed, hparsed, port, hport, if_neg (not_or.mpr ⟨hscheme, hhost⟩)⟩

/-- The text of a port, if there is one. -/
def portDigits : Option Nat → List Char
  | none => []
  | some port => (toString port).toList

theorem toList_urlOf (scheme host : List Char) (port : Option Nat) :
    (urlOf scheme host port).toList = scheme ++ ':' :: '/' :: '/' ::
      ((SentUrl.hostText host ++ portPart (portDigits port)) ++ path.toList) := by
  cases port with
  | none =>
    have hurl : urlOf scheme host none =
        String.ofList scheme ++ "://" ++ String.ofList (SentUrl.hostText host) ++ "" ++ path := rfl
    rw [hurl]
    simp [portDigits, portPart]
  | some port =>
    have hurl : urlOf scheme host (some port) =
        String.ofList scheme ++ "://" ++ String.ofList (SentUrl.hostText host)
          ++ (":" ++ toString port) ++ path := rfl
    rw [hurl]
    simp [portDigits, portPart]

end KeySet

/-! ### What is sent for a path of an origin -/

namespace SentUrl

variable {scheme host path : List Char} {port : Option Int}

theorem splitAuthority_fst {authority : List Char} (hat : '@' ∉ authority) :
    (splitAuthority authority).1 = [] := by
  unfold splitAuthority
  simp only [afterLast_of_not_mem hat, Nat.sub_self, Nat.zero_sub, List.take_zero]

/-- What is sent for a path of an origin. -/
def ofOrigin (scheme host : List Char) (port : Option Int) (path : List Char) : SentUrl where
  scheme
  userInfo := []
  host
  port
  path
  query := none
  fragment := none

/-- The path is sent as it is written. -/
structure IsSentPath (path : List Char) : Prop where
  isTail : IsTail path
  any_isControl : path.any isControl = false
  takeWhile_eq : (path.takeWhile fun c ↦ c != '?' && c != '#') = path
  escape_eq : escape isPathChar (resolveSteps path) = path

/-- The authority of an origin is its host and its port, and there is no user in front of them. -/
theorem ofOrigin_authority (scheme host : List Char) (port : Option Int) (path : List Char) :
    (ofOrigin scheme host port path).authority =
      hostText host ++ portPart (ofOrigin scheme host port path).portDigits :=
  authority_eq_append _

theorem ofOrigin_resource (scheme host : List Char) (port : Option Int) (path : List Char) :
    (ofOrigin scheme host port path).resource = path := by
  rw [resource]
  exact (List.append_nil _).trans (List.append_nil _)

theorem ofOrigin_isAbsolute (hscheme : IsScheme scheme) (hhost : host ≠ []) :
    (ofOrigin scheme host port path).isAbsolute = true := by
  rw [isAbsolute, Bool.and_eq_true, bne_iff_ne, bne_iff_ne]
  exact ⟨hscheme.ne_nil, hhost⟩

/-- The character may stand in an authority. -/
def IsAuthorityChar (c : Char) : Prop :=
  endsAuthority c = false ∧ isControl c = false ∧ c.toNat < 0x80

theorem isAuthorityChar_of_isPortChar (c : Char) (h : IsPortChar c) : IsAuthorityChar c := by
  refine ⟨endsAuthority_of_isPortChar c h, ?_, toNat_lt_of_isPortChar c h⟩
  exact forall_ascii (fun c ↦ c.isDigit = true ∨ c = '-' → isControl c = false) (by decide)
    (toNat_lt_of_isPortChar c h) h

theorem isAuthorityChar_toLower (c : Char) (h : IsAuthorityChar c) : IsAuthorityChar c.toLower := by
  obtain ⟨hends, hcontrol, hascii⟩ := h
  refine ⟨?_, ?_, toNat_toLower_lt hascii⟩
  · rw [← hends]
    exact forall_ascii (fun c ↦ endsAuthority c.toLower = endsAuthority c) (by decide) hascii
  · rw [← hcontrol]
    exact forall_ascii (fun c ↦ isControl c.toLower = isControl c) (by decide) hascii

theorem ofOrigin_forall_mem_authority (hhost : ∀ c ∈ host, IsAuthorityChar c) :
    ∀ c ∈ (ofOrigin scheme host port path).authority, IsAuthorityChar c :=
  forall_mem_authority ⟨rfl, rfl, by decide⟩ ⟨rfl, rfl, by decide⟩ ⟨rfl, rfl, by decide⟩
    ⟨rfl, rfl, by decide⟩ (List.forall_mem_nil _) hhost isAuthorityChar_of_isPortChar

/-- The text of an origin and a path has the scheme, the authority and the path as its parts. -/
theorem ofOrigin_written (hscheme : IsScheme scheme) (hhost : IsSentHost host)
    (hchars : ∀ c ∈ host, IsAuthorityChar c) (hpath : IsSentPath path) :
    Written (ofOrigin scheme host port path).text.toList scheme
      (ofOrigin scheme host port path).authority path := by
  refine ⟨?_, hscheme, fun c hc ↦ (ofOrigin_forall_mem_authority hchars c hc).1, hpath.isTail⟩
  rw [text_of_isAbsolute (ofOrigin_isAbsolute hscheme hhost.ne_nil), String.toList_ofList,
    ofOrigin_resource]
  rfl

theorem ofOrigin_any_isControl (hscheme : IsScheme scheme) (hhost : IsSentHost host)
    (hchars : ∀ c ∈ host, IsAuthorityChar c) (hpath : IsSentPath path) :
    (ofOrigin scheme host port path).text.toList.any isControl = false := by
  rw [(ofOrigin_written hscheme hhost hchars hpath).text_eq, List.any_append,
    Bool.or_eq_false_iff]
  constructor
  · rw [List.any_eq_false]
    intro c hc
    have hclear := forall_ascii (fun c ↦ isSchemeChar c = true → isControl c = false) (by decide)
      (toNat_lt_of_isSchemeChar (hscheme.all c hc)) (hscheme.all c hc)
    rw [hclear]
    exact Bool.false_ne_true
  · have hauthority : (ofOrigin scheme host port path).authority.any isControl = false := by
      rw [List.any_eq_false]
      intro c hc
      rw [(ofOrigin_forall_mem_authority hchars c hc).2.1]
      exact Bool.false_ne_true
    simp only [List.any_cons, List.any_append, hauthority, hpath.any_isControl]
    decide

theorem ofOrigin_splitAuthority (hhost : IsSentHost host) :
    splitAuthority (ofOrigin scheme host port path).authority =
      ([], hostText host, (ofOrigin scheme host port path).portDigits) := by
  have hdigits := (ofOrigin scheme host port path).forall_mem_portDigits
  have hparts := hhost.splitAuthority_append (.inl rfl) hdigits
  rw [List.nil_append, ← ofOrigin_authority] at hparts
  have hat : '@' ∉ (ofOrigin scheme host port path).authority := by
    rw [ofOrigin_authority]
    exact not_mem_append_portPart hhost.at_not_mem (by decide) (by decide) hdigits
  exact Prod.ext (splitAuthority_fst hat) hparts

/-- What is sent for an origin is read back as it is, provided that the text is not too long. -/
theorem ofOrigin_parse? (hscheme : IsScheme scheme) (hlower : lower scheme = scheme)
    (hhost : IsSentHost host) (hchars : ∀ c ∈ host, IsAuthorityChar c)
    (hport : sentPort? scheme (ofOrigin scheme host port path).portDigits = some port)
    (hpath : IsSentPath path)
    (hsize : (ofOrigin scheme host port path).text.toList.length ≤ maximumSize) :
    parse? (ofOrigin scheme host port path).text.toList =
      some (ofOrigin scheme host port path) := by
  rw [parse?_of_written (ofOrigin_written hscheme hhost hchars hpath)
    (ofOrigin_any_isControl hscheme hhost hchars hpath) hsize]
  simp only [hpath.takeWhile_eq, List.drop_length, cutMarked, ofOrigin_splitAuthority hhost,
    hhost.sentHost?_hostText, hport, hlower, hpath.escape_eq]
  rfl

/-- An authority in ASCII is not changed by normalization. -/
theorem ofOrigin_checkNormalization (hchars : ∀ c ∈ host, IsAuthorityChar c) :
    checkNormalization (ofOrigin scheme host port path).authority = .ok () :=
  checkNormalization_of_isAscii
    (Host.isAscii_iff.mpr fun c hc ↦ (ofOrigin_forall_mem_authority hchars c hc).2.2)

/-- The reader of standard URLs finds the same authority in the text of an origin. -/
theorem ofOrigin_parse (hscheme : IsScheme scheme) (hhost : IsSentHost host)
    (hchars : ∀ c ∈ host, IsAuthorityChar c) (hpath : IsSentPath path) :
    ∃ parsed, Url.parse (ofOrigin scheme host port path).text.toList = .ok parsed ∧
      parsed.authority = (ofOrigin scheme host port path).authority := by
  have hbrackets : checkBrackets (ofOrigin scheme host port path).authority = .ok () := by
    rw [ofOrigin_authority]
    exact hhost.checkBrackets_append (ofOrigin scheme host port path).forall_mem_portDigits
  rw [parse_of_written (ofOrigin_written hscheme hhost hchars hpath)
    (ofOrigin_any_isControl hscheme hhost hchars hpath), hbrackets,
    ofOrigin_checkNormalization hchars]
  exact ⟨_, rfl, rfl⟩

theorem ofOrigin_checkOrigin (hscheme : IsScheme scheme) (hhost : IsSentHost host)
    (hchars : ∀ c ∈ host, IsAuthorityChar c) (hpath : IsSentPath path) :
    (ofOrigin scheme host port path).checkOrigin = .ok () := by
  obtain ⟨parsed, hparsed, -⟩ : ∃ parsed,
      Url.parse (ofOrigin scheme host port path).text.toList = .ok parsed ∧ _ :=
    ofOrigin_parse hscheme hhost hchars hpath
  rw [checkOrigin, if_pos (ofOrigin_isAbsolute hscheme hhost.ne_nil), hparsed]
  rfl

/-- What is sent for a path of an origin is sent as it is written. -/
theorem ofOrigin_asWritten (hscheme : IsScheme scheme) (hlower : lower scheme = scheme)
    (hhost : IsSentHost host) (hchars : ∀ c ∈ host, IsAuthorityChar c)
    (hport : sentPort? scheme (ofOrigin scheme host port path).portDigits = some port)
    (hpath : IsSentPath path) (hcheck : Request.checkHost (ofOrigin scheme host port path) = .ok ())
    (hsize : (ofOrigin scheme host port path).text.toList.length ≤ maximumSize) :
    AsWritten (ofOrigin scheme host port path).text (ofOrigin scheme host port path) := by
  refine ⟨?_, hcheck, ofOrigin_checkOrigin hscheme hhost hchars hpath, rfl⟩
  have hfits : (ofOrigin scheme host port path).fits = true := by
    rw [fits, ofOrigin_isAbsolute hscheme hhost.ne_nil, Bool.true_or]
  rw [Request.address, ofOrigin_parse? hscheme hlower hhost hchars hport hpath hsize]
  exact if_pos hfits

/-- What is sent for the key set of an origin. -/
abbrev keySet (scheme host : List Char) (port : Option Int) : SentUrl :=
  ofOrigin scheme host port KeySet.path.toList

/-- The path of key sets is sent as it is written. -/
theorem isSentPath_keySet : IsSentPath KeySet.path.toList :=
  ⟨isTail_cons rfl _, by decide, by decide, by decide⟩

/-- A host in ASCII is checked only if it starts like an encoded one. -/
theorem checkHost_of_isAscii {sent : SentUrl} (habsolute : sent.isAbsolute = true)
    (hascii : Host.isAscii sent.host = true) :
    Request.checkHost sent =
      if Host.encodedPrefix.isPrefixOf sent.host then
        (Host.checkEncoded sent.host).mapError .host
      else .ok () := by
  rw [Request.checkHost, habsolute, hascii]
  rfl

/-- No address starts like an encoded host. -/
theorem encodedPrefix_of_isIpv6 (h : isIpv6 host = true) :
    Host.encodedPrefix.isPrefixOf host = false := by
  rw [Bool.eq_false_iff]
  intro hlead
  obtain ⟨rest, rfl⟩ := List.isPrefixOf_iff_prefix.mp hlead
  rcases head?_of_isIpv6 h with hcolon | hdigit
  · exact absurd hcolon (by decide)
  · exact absurd hdigit (by decide)

end SentUrl

/-! ### Locations -/

namespace SentUrl.AsWritten

variable {url location : String} {sent : SentUrl} {parsed : Url} {port : Option Nat}

/-- The port of the location has the same digits as the one that is sent. -/
theorem portDigits_eq (h : AsWritten url sent) (hparsed : Url.parse url.toList = .ok parsed)
    (hport : parsed.port? = .ok port) : KeySet.portDigits port = sent.portDigits := by
  have htext := h.portText_eq hparsed hport
  have hdigits := isDigit_of_port?_eq_ok hport
  unfold SentUrl.portDigits at htext ⊢
  cases hsent : sent.port with
  | none =>
    simp only [hsent] at htext ⊢
    rw [port?, if_pos htext] at hport
    obtain rfl := Except.ok.inj hport
    rfl
  | some sentPort =>
    simp only [hsent] at htext ⊢
    cases sentPort with
    | ofNat n =>
      obtain rfl := port?_of_portText htext hport
      rfl
    | negSucc n =>
      have hsign : '-' ∈ (toString (Int.negSucc n)).toList := by
        change '-' ∈ ("-" ++ (n + 1).repr).toList
        rw [String.toList_append]
        exact List.mem_append_left _ (by decide)
      exact absurd (hdigits '-' (htext ▸ hsign)) (by decide)

/-- A port that is not the usual one is kept when it is read again. -/
theorem sentPort?_scheme (h : AsWritten url sent) (husual : ¬ sent.HasUsualPort)
    (hhost : IsSentHost sent.host) : sentPort? sent.scheme sent.portDigits = some sent.port := by
  obtain ⟨-, scheme, tail, -, hfrom⟩ := h.exists_written
  have hport := hfrom.port_eq
  rw [authority_eq_append, hhost.splitAuthority_append sent.isUserPart_userPart
    sent.forall_mem_portDigits] at hport
  unfold SentUrl.portDigits at hport ⊢
  cases hsent : sent.port with
  | none => rfl
  | some sentPort =>
    simp only [hsent, sentPort?, if_neg (toList_toString_ne_nil sentPort)] at hport ⊢
    obtain ⟨read, hread, hkept⟩ := Option.map_eq_some_iff.mp hport
    split at hkept
    · cases hkept
    · obtain rfl := Option.some.inj hkept
      rw [hread, Option.map_some, if_neg fun hlookup ↦ husual ⟨_, hsent, hlookup⟩]

/-- The location is the text that is sent for the key set of the origin. -/
theorem location_eq (h : AsWritten url sent) (hparsed : Url.parse url.toList = .ok parsed)
    (hport : parsed.port? = .ok port) :
    KeySet.urlOf parsed.scheme parsed.host port =
      (keySet sent.scheme (lowerHost sent.host) sent.port).text := by
  obtain ⟨hcontrol, scheme, tail, hwritten, hfrom⟩ := h.exists_written
  have hhost := (h.isSentHost hparsed hport).lowerHost h.isAscii_host
  obtain ⟨hscheme, -, -⟩ := exists_of_parse_of_written hwritten hcontrol hparsed
  have hisScheme : IsScheme sent.scheme := hfrom.scheme_eq ▸ hwritten.isScheme.lower
  apply String.toList_injective
  rw [KeySet.toList_urlOf, hscheme, h.host_eq hparsed hport, h.portDigits_eq hparsed hport,
    ← hfrom.scheme_eq, text_of_isAbsolute (ofOrigin_isAbsolute hisScheme hhost.ne_nil),
    String.toList_ofList, ofOrigin_resource, ofOrigin_authority]
  rfl

theorem isAuthorityChar_of_mem_host (h : AsWritten url sent) :
    ∀ c ∈ sent.host, IsAuthorityChar c := by
  obtain ⟨hcontrol, scheme, tail, hwritten, hfrom⟩ := h.exists_written
  intro c hc
  have hmem : c ∈ sent.authority := by
    rw [authority_eq_append]
    refine List.mem_append_right _ (List.mem_append_left _ ?_)
    unfold hostText
    split
    · exact List.mem_cons_of_mem _ (List.mem_append_left _ hc)
    · exact hc
  have hurl : c ∈ url.toList := by
    rw [hwritten.text_eq]
    simp [hmem]
  refine ⟨hwritten.inside c hmem, ?_, Host.isAscii_iff.mp h.isAscii_host c hc⟩
  exact Bool.not_eq_true _ ▸ List.any_eq_false.mp hcontrol c hurl

/-- The host of a URL that can be sent can be sent in lower case as well. -/
theorem checkHost_keySet (h : AsWritten url sent) (hhost : IsSentHost sent.host)
    (habsolute : (keySet sent.scheme (lowerHost sent.host) sent.port).isAbsolute = true) :
    Request.checkHost (keySet sent.scheme (lowerHost sent.host) sent.port) = .ok () := by
  have hascii := isAscii_lowerHost h.isAscii_host
  cases hhost with
  | address hipv6 hclose hat =>
    have hlead : Host.encodedPrefix.isPrefixOf (lowerHost sent.host) = false :=
      encodedPrefix_of_isIpv6 (isIpv6_lowerHost h.isAscii_host hipv6)
    rw [checkHost_of_isAscii habsolute hascii]
    change (if Host.encodedPrefix.isPrefixOf (lowerHost sent.host) = true then _ else _) = _
    rw [hlead, if_neg Bool.false_ne_true]
  | name hne hplain hlower hsent =>
    have hcheck := h.checkHost_eq
    rw [checkHost_of_isAscii h.isAbsolute h.isAscii_host] at hcheck
    rw [checkHost_of_isAscii habsolute hascii]
    change (if Host.encodedPrefix.isPrefixOf (lowerHost sent.host) = true then
      (Host.checkEncoded (lowerHost sent.host)).mapError _ else _) = _
    rw [IsSentHost.lowerHost_of_name hplain hlower]
    exact hcheck

/-- The key-set URL is sent as it is written if the URL of the verifier is, unless it gets too long
or names the usual port. -/
theorem exists_location (h : AsWritten url sent) (hlocation : KeySet.location url = .ok location)
    (husual : ¬ sent.HasUsualPort) (hsize : location.length ≤ maximumSize) :
    ∃ sentLocation, AsWritten location sentLocation := by
  obtain ⟨parsed, port, hparsed, hport, -, -, rfl⟩ := KeySet.location_eq_ok_iff.mp hlocation
  obtain ⟨-, scheme, tail, hwritten, hfrom⟩ := h.exists_written
  have hhost := h.isSentHost hparsed hport
  have hlowerHost := hhost.lowerHost h.isAscii_host
  have hscheme : IsScheme sent.scheme := hfrom.scheme_eq ▸ hwritten.isScheme.lower
  have hlower : lower sent.scheme = sent.scheme := by
    rw [hfrom.scheme_eq, hwritten.isScheme.lower_lower]
  have hchars := forall_mem_lowerHost isAuthorityChar_toLower h.isAscii_host
    h.isAuthorityChar_of_mem_host
  rw [h.location_eq hparsed hport] at hsize ⊢
  exact ⟨_, ofOrigin_asWritten hscheme hlower hlowerHost hchars (h.sentPort?_scheme husual hhost)
    isSentPath_keySet
    (h.checkHost_keySet hhost (ofOrigin_isAbsolute hscheme hlowerHost.ne_nil)) hsize⟩

end SentUrl.AsWritten

/-! ### Locations that are too long -/

namespace SentUrl

variable {scheme host path : List Char} {n : Nat}

/-- The key set of an origin without a port is derived from any URL of the origin. -/
theorem ofOrigin_location (hscheme : IsScheme scheme) (hhost : IsSentHost host)
    (hchars : ∀ c ∈ host, IsAuthorityChar c) (hpath : IsSentPath path)
    (h : AsWritten (ofOrigin scheme host none path).text (ofOrigin scheme host none path)) :
    KeySet.location (ofOrigin scheme host none path).text =
      .ok (keySet scheme (lowerHost host) none).text := by
  obtain ⟨parsed, hparsed, hauthority⟩ : ∃ parsed,
      Url.parse (ofOrigin scheme host none path).text.toList = .ok parsed ∧ _ :=
    ofOrigin_parse hscheme hhost hchars hpath
  have hrest := hhost.hostAndRest_append (.inl rfl)
    (ofOrigin scheme host none path).forall_mem_portDigits
  rw [List.nil_append, ← ofOrigin_authority, ← hauthority] at hrest
  have hport : parsed.port? = .ok none := by
    rw [port?, portText, hrest, cutFirst_portPart]
    rfl
  obtain ⟨hparsedScheme, -⟩ := exists_of_parse_of_written
    (ofOrigin_written hscheme hhost hchars hpath)
    (ofOrigin_any_isControl hscheme hhost hchars hpath) hparsed
  refine KeySet.location_eq_ok_iff.mpr ⟨parsed, none, hparsed, hport, ?_, ?_, ?_⟩
  · rw [hparsedScheme]
    exact hscheme.lower.ne_nil
  · rw [h.host_eq hparsed hport]
    exact (hhost.lowerHost h.isAscii_host).ne_nil
  · exact (h.location_eq hparsed hport).symm

/-- A URL that is longer than the limit cannot be sent. -/
theorem not_reaches_of_maximumSize_lt {url : String} (h : maximumSize < url.length)
    (sent : SentUrl) : ¬ Reaches url sent := by
  intro hreaches
  have haddress := hreaches.address_eq
  rw [Request.address, parse?, if_pos (.inl h)] at haddress
  cases haddress

/-- A host of one letter, repeated. -/
def longHost (n : Nat) : List Char := 'a' :: List.replicate n 'a'

theorem forall_mem_longHost {P : Char → Prop} (h : P 'a') : ∀ c ∈ longHost n, P c := by
  refine List.forall_mem_cons.mpr ⟨h, fun c hc ↦ ?_⟩
  rw [List.eq_of_mem_replicate hc]
  exact h

theorem lower_longHost : lower (longHost n) = longHost n :=
  congrArg ('a' :: ·) List.map_replicate

theorem isSentHost_longHost : IsSentHost (longHost n) :=
  isSentHost_cons rfl (forall_mem_longHost rfl) lower_longHost

theorem isScheme_http : IsScheme "http".toList :=
  ⟨⟨'h', _, rfl, rfl⟩, List.all_eq_true.mp rfl⟩

theorem longHost_text (n : Nat) (path : List Char) :
    (ofOrigin "http".toList (longHost n) none path).text =
      "http://" ++ String.ofList (longHost n) ++ String.ofList path := by
  have hhost : hostText (longHost n) = longHost n :=
    hostText_of_forall_isHostChar (forall_mem_longHost rfl)
  rw [text_of_isAbsolute (ofOrigin_isAbsolute isScheme_http isSentHost_longHost.ne_nil),
    ofOrigin_authority, ofOrigin_resource, hhost]
  apply String.toList_injective
  simp [ofOrigin, portDigits, portPart]

theorem length_longHost_text (n : Nat) (path : List Char) :
    (ofOrigin "http".toList (longHost n) none path).text.length = 8 + n + path.length := by
  have hscheme : "http://".length = 7 := by decide
  have hhost : (longHost n).length = n + 1 := congrArg (· + 1) List.length_replicate
  rw [longHost_text, String.length_append, String.length_append, hscheme, String.length_ofList,
    String.length_ofList, hhost]
  omega

/-- A URL with a host of any length is sent as it is written, up to the limit. -/
theorem longHost_asWritten (hsize : 8 + n ≤ maximumSize) :
    AsWritten (ofOrigin "http".toList (longHost n) none []).text
      (ofOrigin "http".toList (longHost n) none []) := by
  have hascii : Host.isAscii (longHost n) = true :=
    Host.isAscii_iff.mpr (forall_mem_longHost (by decide))
  refine ofOrigin_asWritten isScheme_http (by decide) isSentHost_longHost
    (forall_mem_longHost ⟨rfl, rfl, by decide⟩) rfl ⟨isTail_nil, rfl, rfl, rfl⟩ ?_ ?_
  · rw [checkHost_of_isAscii (ofOrigin_isAbsolute isScheme_http isSentHost_longHost.ne_nil) hascii]
    rfl
  · rw [String.length_toList, length_longHost_text]
    exact hsize

/-- A URL that is sent as it is written may have a key-set URL that is not sent at all. -/
theorem exists_location_not_reaches (hsize : 8 + n ≤ maximumSize) (hlong : maximumSize < 30 + n) :
    ∃ location, KeySet.location (ofOrigin "http".toList (longHost n) none []).text = .ok location ∧
      ∀ sent, ¬ Reaches location sent := by
  refine ⟨_, ofOrigin_location isScheme_http isSentHost_longHost
    (forall_mem_longHost ⟨rfl, rfl, by decide⟩) ⟨isTail_nil, rfl, rfl, rfl⟩
    (longHost_asWritten hsize), not_reaches_of_maximumSize_lt ?_⟩
  have hlower : lowerHost (longHost n) = longHost n :=
    IsSentHost.lowerHost_of_name (forall_mem_longHost rfl) lower_longHost
  have hpath : KeySet.path.toList.length = 22 := by decide
  rw [hlower, length_longHost_text]
  omega

end SentUrl

end MeshAttest
