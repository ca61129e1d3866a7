import MeshAttest.Proofs.Outcome
import MeshAttest.Proofs.Url.Sent

/-!
# Origins of URLs that are sent as they are written

Two readers take a URL apart: one for sending it, and one for the origin that it belongs to. The
host of a URL that is sent as it is written (`SentUrl.AsWritten.isSentHost`) and its port are the
same for both of them, except that an IPv6 address is put in lower case for the origin.
-/

set_option autoImplicit false

namespace MeshAttest

open Outcome Text Url

/-! ### Brackets -/

namespace Url

variable {authority host : List Char}

/-- Where there are brackets of both kinds, they have to be around the host. -/
theorem checkBrackets_of_mem (hopen : '[' ∈ authority) (hclose : ']' ∈ authority) :
    checkBrackets authority =
      if '[' ∈ afterLast '@' authority ∧ (afterLast '@' authority).head? ≠ some '[' then
        .error .brackets
      else if (hostAndRest authority).2 ≠ [] ∧ (hostAndRest authority).2.head? ≠ some ':' then
        .error .brackets
      else checkHost (hostAndRest authority).1 := by
  unfold checkBrackets
  rw [if_neg (by rw [eq_true hopen, eq_true hclose]; exact fun hne ↦ hne rfl),
    if_neg (not_not_intro hopen)]

theorem checkBrackets_of_not_mem (hopen : '[' ∉ authority) (hclose : ']' ∉ authority) :
    checkBrackets authority = .ok () := by
  unfold checkBrackets
  rw [if_neg (by rw [eq_false hopen, eq_false hclose]; exact fun hne ↦ hne rfl), if_pos hopen]

theorem checkHost_of_isIpv6 (h : isIpv6 host = true) : checkHost host = .ok () := by
  have hhead : host.head? ≠ some 'v' := by
    intro hfirst
    cases host with
    | nil => cases hfirst
    | cons first rest =>
      obtain rfl := Option.some.inj hfirst
      rcases head?_of_isIpv6 h with hcolon | hdigit
      · exact absurd hcolon (by decide)
      · exact absurd hdigit (by decide)
  rw [checkHost, if_neg hhead, not_isIpv4_of_isIpv6 h, if_neg Bool.false_ne_true, if_pos h]

/-- An authority in ASCII looks like no delimiter. -/
theorem checkNormalization_of_isAscii (h : Host.isAscii authority = true) :
    checkNormalization authority = .ok () := by
  have hnone : authority.any (fun c ↦ delimiterLookalikes.contains c.toNat) = false := by
    rw [List.any_eq_false]
    intro c hc hmem
    have hfar : ∀ code ∈ delimiterLookalikes, 0x80 ≤ code := by decide
    have hcode := hfar c.toNat (List.contains_iff_mem.mp hmem)
    have hlt := Host.isAscii_iff.mp h c hc
    omega
  rw [checkNormalization, hnone]
  rfl

end Url

/-! ### Hosts of origins -/

namespace SentUrl

variable {host before digits : List Char}

/-- The host is one that is sent as it is written: an IPv6 address that goes into brackets, or a
host in lower case that needs no escapes. -/
inductive IsSentHost (host : List Char) : Prop
  | address (hipv6 : isIpv6 host = true) (hclose : ']' ∉ host) (hat : '@' ∉ host)
  | name (hne : host ≠ []) (hplain : ∀ c ∈ host, isHostChar c = true) (hlower : lower host = host)
    (hsent : sentHost? host = some host)

/-- A name in lower case that needs no escapes is sent as it is, unless it starts like an IPv4
address. -/
theorem isSentHost_cons {c : Char} (hc : c.isDigit = false)
    (hplain : ∀ d ∈ c :: host, isHostChar d = true) (hlower : lower (c :: host) = c :: host) :
    IsSentHost (c :: host) := by
  have hascii : Host.isAscii (c :: host) = true :=
    Host.isAscii_iff.mpr fun d hd ↦ toNat_lt_of_isHostChar d (hplain d hd)
  have hhead : (c :: host).head? ≠ some '[' := by
    intro hsome
    obtain rfl := Option.some.inj hsome
    exact absurd (hplain '[' List.mem_cons_self) (by decide)
  refine .name (List.cons_ne_nil _ _) hplain hlower ?_
  unfold sentHost?
  rw [if_neg (List.cons_ne_nil _ _), isNumeric_cons hc, if_neg Bool.false_ne_true,
    if_neg fun hbrackets ↦ hhead hbrackets.1, if_pos hascii]
  change some (escape isHostChar (lower (c :: host))) = _
  rw [hlower, escape_of_forall_isPlain hplain]

theorem hostText_of_isIpv6 (h : isIpv6 host = true) : hostText host = '[' :: (host ++ [']']) :=
  if_pos (colon_mem_of_isIpv6 h)

theorem hostText_of_forall_isHostChar (h : ∀ c ∈ host, isHostChar c = true) :
    hostText host = host :=
  if_neg (not_mem_of_forall_isHostChar rfl h)

theorem hostText_append_of_isIpv6 (h : isIpv6 host = true) (rest : List Char) :
    hostText host ++ rest = '[' :: (host ++ ']' :: rest) := by
  rw [hostText_of_isIpv6 h, List.cons_append, List.append_assoc, List.singleton_append]

namespace IsSentHost

/-- A host that is sent as it is written is taken from the authority as it is. -/
theorem sentHost?_hostText (h : IsSentHost host) : sentHost? (hostText host) = some host := by
  cases h with
  | address hipv6 hclose hat =>
    rw [hostText_of_isIpv6 hipv6]
    exact sentHost?_bracketed hipv6
  | name hne hplain hlower hsent =>
    rw [hostText_of_forall_isHostChar hplain]
    exact hsent

/-- The library finds host and port of a written authority. -/
theorem splitAuthority_append (h : IsSentHost host) (hbefore : IsUserPart before)
    (hdigits : ∀ c ∈ digits, IsPortChar c) :
    (splitAuthority (before ++ (hostText host ++ portPart digits))).2 =
      (hostText host, digits) := by
  cases h with
  | address hipv6 hclose hat =>
    rw [hostText_append_of_isIpv6 hipv6, hostText_of_isIpv6 hipv6]
    exact splitAuthority_bracketed hbefore hat hdigits
  | name hne hplain hlower hsent =>
    rw [hostText_of_forall_isHostChar hplain]
    exact splitAuthority_plain hbefore hne hplain hdigits

/-- The reader of standard URLs finds the same host and the same port in a written authority. -/
theorem hostAndRest_append (h : IsSentHost host) (hbefore : IsUserPart before)
    (hdigits : ∀ c ∈ digits, IsPortChar c) :
    hostAndRest (before ++ (hostText host ++ portPart digits)) = (host, portPart digits) := by
  cases h with
  | address hipv6 hclose hat =>
    rw [hostText_append_of_isIpv6 hipv6, hostAndRest_bracketed hbefore hat hdigits]
    exact cutFirst_append hclose _
  | name hne hplain hlower hsent =>
    rw [hostText_of_forall_isHostChar hplain]
    exact hostAndRest_plain hbefore hplain hdigits

theorem lowerHost_of_name (hplain : ∀ c ∈ host, isHostChar c = true) (hlower : lower host = host) :
    lowerHost host = host := by
  have hascii : Host.isAscii host = true :=
    Host.isAscii_iff.mpr fun c hc ↦ toNat_lt_of_isHostChar c (hplain c hc)
  have hfixed : ∀ c ∈ host, c.toLower = id c := List.map_inj_left.mp (hlower.trans host.map_id.symm)
  have hname : lower (host.takeWhile (· ≠ '%')) = host.takeWhile (· ≠ '%') := by
    rw [lower, List.map_congr_left fun c hc ↦ hfixed c (List.takeWhile_subset _ hc), List.map_id]
  rw [lowerHost_of_isAscii hascii, hname, List.takeWhile_append_dropWhile]

/-- A host that is sent as it is written is still one in lower case. -/
theorem lowerHost (h : IsSentHost host) (hascii : Host.isAscii host = true) :
    IsSentHost (lowerHost host) := by
  cases h with
  | address hipv6 hclose hat =>
    exact .address (isIpv6_lowerHost hascii hipv6) (not_mem_lowerHost (by decide) hascii hclose)
      (not_mem_lowerHost (by decide) hascii hat)
  | name hne hplain hlower hsent =>
    rw [lowerHost_of_name hplain hlower]
    exact .name hne hplain hlower hsent

/-- The brackets of a written authority are around an address, if there are any. -/
theorem checkBrackets_append (h : IsSentHost host) (hdigits : ∀ c ∈ digits, IsPortChar c) :
    checkBrackets (hostText host ++ portPart digits) = .ok () := by
  have hparts := h.hostAndRest_append (.inl rfl) hdigits
  rw [List.nil_append] at hparts
  cases h with
  | address hipv6 hclose hat =>
    rw [hostText_append_of_isIpv6 hipv6] at hparts ⊢
    have hplace := afterLast_of_not_mem (at_not_mem_bracketed hat hdigits)
    rw [checkBrackets_of_mem List.mem_cons_self
      (List.mem_cons_of_mem _ (List.mem_append_right _ List.mem_cons_self)), hplace, hparts,
      if_neg fun hopen ↦ hopen.2 rfl,
      if_neg fun hbehind ↦ (portPart_cases digits).elim hbehind.1 hbehind.2]
    exact checkHost_of_isIpv6 hipv6
  | name hne hplain hlower hsent =>
    rw [hostText_of_forall_isHostChar hplain]
    exact checkBrackets_of_not_mem (not_mem_place rfl (by decide) (by decide) hplain hdigits)
      (not_mem_place rfl (by decide) (by decide) hplain hdigits)

theorem ne_nil (h : IsSentHost host) : host ≠ [] := by
  cases h with
  | address hipv6 hclose hat =>
    rintro rfl
    exact absurd (colon_mem_of_isIpv6 hipv6) List.not_mem_nil
  | name hne hplain hlower hsent => exact hne

theorem at_not_mem (h : IsSentHost host) : '@' ∉ hostText host := by
  cases h with
  | address hipv6 hclose hat =>
    rw [hostText_of_isIpv6 hipv6]
    simpa using hat
  | name hne hplain hlower hsent =>
    rw [hostText_of_forall_isHostChar hplain]
    exact not_mem_of_forall_isHostChar rfl hplain

end IsSentHost

end SentUrl

/-! ### Taking URLs apart -/

namespace Url

variable {text scheme authority tail : List Char} {parsed : Url}

/-- A written text is read with its scheme in lower case and its authority as it is. -/
theorem exists_of_parse_of_written (hwritten : Written text scheme authority tail)
    (hcontrol : text.any SentUrl.isControl = false) (h : Url.parse text = .ok parsed) :
    parsed.scheme = lower scheme ∧ parsed.authority = authority ∧
      checkBrackets authority = .ok () := by
  rw [parse_of_written hwritten hcontrol, bind_eq_ok_iff] at h
  obtain ⟨_, hbrackets, h⟩ := h
  rw [bind_eq_ok_iff] at h
  obtain ⟨_, -, h⟩ := h
  obtain rfl := Except.ok.inj h
  exact ⟨rfl, rfl, hbrackets⟩

/-- A port that can be read has digits only. -/
theorem isDigit_of_port?_eq_ok {port : Option Nat} (h : parsed.port? = .ok port) :
    ∀ c ∈ parsed.portText, c.isDigit = true := by
  unfold port? at h
  simp only at h
  split at h
  · next hnil =>
    rw [hnil]
    exact List.forall_mem_nil _
  · split at h
    · cases h
    · next hdigits =>
      rw [Bool.not_eq_true', Bool.not_eq_false] at hdigits
      exact List.all_eq_true.mp hdigits

theorem foldl_toString (n : Nat) :
    (toString n).toList.foldl (fun n c ↦ 10 * n + (c.toNat - 48)) 0 = n := by
  rw [Nat.toString_eq_repr, Nat.toList_repr]
  exact Nat.ofDigitChars_toDigits (by decide) (by decide)

/-- A port that is written as a number is read as this number. -/
theorem port?_of_portText {n : Nat} {port : Option Nat}
    (htext : parsed.portText = (toString n).toList) (h : parsed.port? = .ok port) :
    port = some n := by
  have hne : (toString n).toList ≠ [] := by
    rw [Nat.toString_eq_repr, Nat.toList_repr]
    exact Nat.toDigits_ne_nil
  unfold port? at h
  simp only [htext, hne, if_false, foldl_toString] at h
  split at h
  · cases h
  · split at h
    · cases h
    · split at h
      · cases h
      · exact (Except.ok.inj h).symm

/-- A bracket in a bracketed host would end it, with no port behind. -/
theorem close_not_mem_of_port?_eq_ok {before host digits : List Char} {port : Option Nat}
    (hauthority : parsed.authority = before ++ '[' :: (host ++ ']' :: portPart digits))
    (hbefore : IsUserPart before) (hat : '@' ∉ host) (hdigits : ∀ c ∈ digits, IsPortChar c)
    (hbrackets : checkBrackets parsed.authority = .ok ()) (hport : parsed.port? = .ok port) :
    ']' ∉ host := by
  intro hmem
  obtain ⟨inside, behind, rfl, habsent⟩ := List.eq_append_cons_of_mem hmem
  -- The host that is read ends at the first such bracket, and the other one is behind it.
  have hparts : hostAndRest parsed.authority = (inside, behind ++ ']' :: portPart digits) := by
    rw [hauthority, hostAndRest_bracketed hbefore hat hdigits, List.append_assoc, List.cons_append]
    exact cutFirst_append habsent _
  have hopen : '[' ∈ parsed.authority := by
    rw [hauthority]
    exact List.mem_append_right _ List.mem_cons_self
  have hclose : ']' ∈ parsed.authority := by
    rw [hauthority]
    exact List.mem_append_right _
      (List.mem_cons_of_mem _ (List.mem_append_right _ List.mem_cons_self))
  rw [checkBrackets_of_mem hopen hclose, hparts] at hbrackets
  split at hbrackets
  · cases hbrackets
  · split at hbrackets
    · cases hbrackets
    · next hrest =>
      rw [not_and, not_not] at hrest
      have hcolon := hrest (by simp)
      cases behind with
      | nil => exact absurd (Option.some.inj hcolon) (by decide)
      | cons first more =>
        -- What is behind the host starts like a port, but a port has no bracket in it.
        obtain rfl := Option.some.inj hcolon
        have hportText : parsed.portText = more ++ ']' :: portPart digits := by
          rw [portText, hparts]
          exact congrArg Prod.snd (cutFirst_append List.not_mem_nil _)
        have hdigit := isDigit_of_port?_eq_ok hport ']' (by
          rw [hportText]
          exact List.mem_append_right _ List.mem_cons_self)
        exact absurd hdigit (by decide)

end Url

/-! ### URLs that are sent as they are written -/

namespace SentUrl.AsWritten

variable {url location : String} {sent : SentUrl}

/-- A URL that is sent as it is written has a scheme and the authority that is sent. -/
theorem exists_written (h : AsWritten url sent) : url.toList.any isControl = false ∧
    ∃ scheme tail, Written url.toList scheme sent.authority tail ∧
      sent.IsFrom scheme sent.authority tail := by
  obtain ⟨hcontrol, scheme, authority, tail, hwritten, hfrom⟩ :=
    exists_written_of_parse? h.parse?_eq h.isAbsolute
  obtain rfl := h.authority_eq hwritten hfrom
  exact ⟨hcontrol, scheme, tail, hwritten, hfrom⟩

theorem isHostChar_of_isDigit {c : Char} (h : c.isDigit = true) : isHostChar c = true :=
  forall_ascii (fun c ↦ c.isDigit = true → isHostChar c = true) (by decide)
    (toNat_lt_of_isDigit h) h

theorem authority_eq_of_name (hplain : ∀ c ∈ sent.host, isHostChar c = true) :
    sent.authority = sent.userPart ++ (sent.host ++ portPart sent.portDigits) := by
  rw [authority_eq_append, hostText_of_forall_isHostChar hplain]

theorem authority_eq_of_address (hipv6 : isIpv6 sent.host = true) :
    sent.authority = sent.userPart ++ '[' :: (sent.host ++ ']' :: portPart sent.portDigits) := by
  rw [authority_eq_append, hostText_append_of_isIpv6 hipv6]

variable {parsed : Url} {port : Option Nat}

/-- An IPv4 address is sent as it is written. -/
theorem isSentHost_of_isIpv4 (h : AsWritten url sent) (hipv4 : isIpv4 sent.host = true)
    (hsent : sentHost? sent.host = some sent.host) : IsSentHost sent.host := by
  refine .name h.host_ne_nil (fun c hc ↦ ?_) (lower_of_isIpv4 hipv4) hsent
  rcases eq_or_isDigit_of_isIpv4 hipv4 hc with rfl | hdigit
  · rfl
  · exact isHostChar_of_isDigit hdigit

/-- An address between brackets is sent as it is written, if the port behind it can be read. -/
theorem isSentHost_of_bracketed (h : AsWritten url sent)
    (hparsed : Url.parse url.toList = .ok parsed) (hport : parsed.port? = .ok port)
    (hipv6 : isIpv6 sent.host = true)
    (hbracketed : (splitAuthority sent.authority).2.1 = '[' :: (sent.host ++ [']'])) :
    IsSentHost sent.host := by
  obtain ⟨hcontrol, scheme, tail, hwritten, -⟩ := h.exists_written
  have hat : '@' ∉ sent.host := by
    intro hmem
    refine not_mem_afterLast '@' sent.authority (host_subset_of_splitAuthority _ ?_)
    rw [hbracketed]
    exact List.mem_cons_of_mem _ (List.mem_append_left _ hmem)
  obtain ⟨-, hauthority, hbrackets⟩ := exists_of_parse_of_written hwritten hcontrol hparsed
  refine .address hipv6 ?_ hat
  rw [← hauthority] at hbrackets
  exact close_not_mem_of_port?_eq_ok (hauthority.trans (authority_eq_of_address hipv6))
    sent.isUserPart_userPart hat sent.forall_mem_portDigits hbrackets hport

/-- An escaped host is sent as it is written only if there was nothing to escape. -/
theorem isSentHost_of_escaped (h : AsWritten url sent)
    (hsent : sentHost? (splitAuthority sent.authority).2.1 = some sent.host)
    (hescaped : sent.host = escape isHostChar (lower (splitAuthority sent.authority).2.1)) :
    IsSentHost sent.host := by
  have hplain : ∀ c ∈ sent.host, isHostChar c = true := by
    rw [hescaped]
    exact forall_mem_escape (fun _ hc ↦ hc) (by decide) (by decide) _
  have hsplit := splitAuthority_plain sent.isUserPart_userPart h.host_ne_nil hplain
    sent.forall_mem_portDigits
  rw [← authority_eq_of_name hplain] at hsplit
  rw [hsplit] at hsent hescaped
  -- The host is its own escaped form in lower case, which is too short for any escapes.
  have hlower : ∀ c ∈ lower sent.host, isHostChar c = true := by
    apply forall_isPlain_of_length_escape
    rw [← hescaped, lower, List.length_map]
  have hsame := escape_of_forall_isPlain hlower
  exact .name h.host_ne_nil hplain (hsame.symm.trans hescaped.symm) hsent

/-- The host of a URL that is sent as it is written is sent as it is written, whichever kind of host
it is. -/
theorem isSentHost (h : AsWritten url sent) (hparsed : Url.parse url.toList = .ok parsed)
    (hport : parsed.port? = .ok port) : IsSentHost sent.host := by
  obtain ⟨-, scheme, tail, -, hfrom⟩ := h.exists_written
  have hsent := hfrom.host_eq
  have hascii : Host.isAscii (splitAuthority sent.authority).2.1 = true :=
    Host.isAscii_iff.mpr fun c hc ↦ Host.isAscii_iff.mp (h.isAscii_authority hfrom) c
      (afterLast_subset _ _ (host_subset_of_splitAuthority _ hc))
  rcases sentHost?_cases hascii hsent h.host_ne_nil with
    ⟨hipv4, hsame⟩ | ⟨hipv6, hbracketed⟩ | hescaped
  · rw [← hsame] at hsent hipv4
    exact h.isSentHost_of_isIpv4 hipv4 hsent
  · exact h.isSentHost_of_bracketed hparsed hport hipv6 hbracketed
  · exact h.isSentHost_of_escaped hsent hescaped

/-- What is read as host and port of the URL is what is sent as host and port. -/
theorem hostAndRest_authority (h : AsWritten url sent) (hparsed : Url.parse url.toList = .ok parsed)
    (hport : parsed.port? = .ok port) :
    hostAndRest parsed.authority = (sent.host, portPart sent.portDigits) := by
  obtain ⟨hcontrol, scheme, tail, hwritten, hfrom⟩ := h.exists_written
  obtain ⟨-, hauthority, -⟩ := exists_of_parse_of_written hwritten hcontrol hparsed
  rw [hauthority, authority_eq_append]
  exact (h.isSentHost hparsed hport).hostAndRest_append sent.isUserPart_userPart
    sent.forall_mem_portDigits

/-- Both readers find the same port in a URL that is sent as it is written. -/
theorem portText_eq (h : AsWritten url sent) (hparsed : Url.parse url.toList = .ok parsed)
    (hport : parsed.port? = .ok port) : parsed.portText = sent.portDigits := by
  rw [portText, h.hostAndRest_authority hparsed hport, cutFirst_portPart]

/-- Both readers find the same host in a URL that is sent as it is written, one of them in lower
case. -/
theorem host_eq (h : AsWritten url sent) (hparsed : Url.parse url.toList = .ok parsed)
    (hport : parsed.port? = .ok port) : parsed.host = lowerHost sent.host := by
  change lowerHost (hostAndRest parsed.authority).1 = _
  rw [h.hostAndRest_authority hparsed hport]

end SentUrl.AsWritten

end MeshAttest
