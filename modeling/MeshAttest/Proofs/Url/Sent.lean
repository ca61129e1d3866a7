import MeshAttest.Proofs.Url.Hosts

/-!
# The authority of a URL that is sent as it is written

If a URL is sent as it is written, then the authority that is put together for sending it is the one
that stands in the URL (`SentUrl.AsWritten.authority_eq`).
-/

set_option autoImplicit false

namespace MeshAttest

open Text Url

namespace SentUrl

variable {text : List Char} {sent : SentUrl} {scheme authority tail rest : List Char}

/-! ### Components -/

/-- The components of what is sent come from the parts of a text. -/
structure IsFrom (sent : SentUrl) (scheme authority tail : List Char) : Prop where
  scheme_eq : sent.scheme = lower scheme
  host_eq : sentHost? (splitAuthority authority).2.1 = some sent.host
  port_eq : sentPort? scheme (splitAuthority authority).2.2 = some sent.port
  userInfo_eq : ∃ userInfo, sent.userInfo = escape isUserInfoChar userInfo
  path_eq : sent.path =
    escape isPathChar (resolveSteps (tail.takeWhile fun c ↦ c != '?' && c != '#'))
  query_eq : ∃ query, sent.query = Option.map (escape isQueryChar) query
  fragment_eq : ∃ fragment, sent.fragment = Option.map (escape isFragmentChar) fragment

/-- What is sent for a text has the scheme and the host of the text, which has neither control
characters nor more than the admitted length. -/
theorem scheme_host_of_parse? (h : parse? text = some sent)
    (hscheme : cutScheme text = (scheme, rest))
    (hauthority : takeAuthority rest = (authority, tail)) :
    text.length ≤ maximumSize ∧ text.any isControl = false ∧ sent.scheme = lower scheme ∧
      sentHost? (splitAuthority authority).2.1 = some sent.host := by
  by_cases hadmitted : maximumSize < text.length ∨ text.any isControl = true
  · rw [parse?, if_pos hadmitted] at h
    cases h
  · rw [parse?, if_neg hadmitted] at h
    rw [not_or, Nat.not_lt, Bool.not_eq_true] at hadmitted
    simp only [hscheme, hauthority, Option.pure_def, Option.bind_eq_bind,
      Option.bind_eq_some_iff] at h
    obtain ⟨host, hhost, port, -, hsent⟩ := h
    split at hsent
    · cases hsent
    · obtain rfl := Option.some.inj hsent
      exact ⟨hadmitted.1, hadmitted.2, rfl, hhost⟩

/-- A URL that is sent with a scheme and a host is written with them. -/
theorem exists_written_of_parse? (h : parse? text = some sent)
    (habsolute : sent.isAbsolute = true) : text.any isControl = false ∧ ∃ scheme authority tail,
      Written text scheme authority tail ∧ sent.IsFrom scheme authority tail := by
  rw [isAbsolute, Bool.and_eq_true, bne_iff_ne, bne_iff_ne] at habsolute
  rcases hscheme : cutScheme text with ⟨scheme, rest⟩
  rcases hauthority : takeAuthority rest with ⟨authority, tail⟩
  obtain ⟨hsize, hcontrol, hsentScheme, hsentHost⟩ := scheme_host_of_parse? h hscheme hauthority
  have hschemeNe : scheme ≠ [] := by
    rintro rfl
    exact habsolute.1 hsentScheme
  have hauthorityNe : authority ≠ [] := by
    rintro rfl
    exact habsolute.2 (Option.some.inj hsentHost).symm
  have hwritten := written_of_takeAuthority hscheme hschemeNe hauthority hauthorityNe
  refine ⟨hcontrol, scheme, authority, tail, hwritten, ?_⟩
  rw [parse?_of_written hwritten hcontrol hsize] at h
  simp only [Option.pure_def, Option.bind_eq_bind, Option.bind_eq_some_iff] at h
  obtain ⟨host, hhost, port, hport, hsent⟩ := h
  obtain rfl := Option.some.inj hsent
  exact ⟨rfl, hhost, hport, ⟨_, rfl⟩, rfl, ⟨_, rfl⟩, ⟨_, rfl⟩⟩

/-! ### Paths -/

/-- The induction is on the segments that follow the root, which stays whatever they are. -/
theorem exists_foldl_steps (segments kept : List (List Char)) :
    ∃ others, segments.foldl (fun kept segment ↦
      if segment = ['.'] then kept
      else if segment = ['.', '.'] then if kept = [[]] then kept else kept.dropLast
      else kept ++ [segment]) ([] :: kept) = [] :: others := by
  induction segments generalizing kept with
  | nil => exact ⟨kept, rfl⟩
  | cons segment rest ih =>
    rw [List.foldl_cons]
    by_cases hsame : segment = ['.']
    · rw [if_pos hsame]
      exact ih kept
    · by_cases hback : segment = ['.', '.']
      · rw [if_neg hsame, if_pos hback]
        cases kept with
        | nil => exact ih []
        | cons first more => exact ih (first :: more).dropLast
      · rw [if_neg hsame, if_neg hback]
        exact ih (kept ++ [segment])

/-- A path with its steps resolved is empty or begins with a slash if the path does. -/
theorem resolveSteps_cases (hpath : tail = [] ∨ ∃ rest, tail = '/' :: rest) :
    resolveSteps tail = [] ∨ ∃ rest, resolveSteps tail = '/' :: rest := by
  rcases hpath with rfl | ⟨rest, rfl⟩
  · exact .inl rfl
  · obtain ⟨others, hothers⟩ := exists_foldl_steps (pieces '/' rest) []
    rw [resolveSteps, pieces_cons_self, List.foldl_cons]
    change ['/'].intercalate ((pieces '/' rest).foldl _ [[]]) = [] ∨
      ∃ more, ['/'].intercalate ((pieces '/' rest).foldl _ [[]]) = '/' :: more
    rw [hothers]
    cases others with
    | nil => exact .inl rfl
    | cons first more => exact .inr ⟨_, rfl⟩

/-- What is sent behind the authority. -/
def resource (url : SentUrl) : List Char :=
  url.path ++ marked '?' url.query ++ marked '#' url.fragment

/-- The text that is sent has the scheme, the authority and what is behind it. -/
theorem text_of_isAbsolute (h : sent.isAbsolute = true) :
    sent.text = String.ofList
      (sent.scheme ++ ':' :: '/' :: '/' :: (sent.authority ++ sent.resource)) := by
  rw [text, resource]
  simp [h]

/-- What is sent behind the authority cannot continue it. -/
theorem IsFrom.isTail_resource (h : sent.IsFrom scheme authority tail) (htail : IsTail tail) :
    IsTail sent.resource := by
  -- In front of a query or a fragment there is nothing, or a path that starts with a slash.
  have hpath : (tail.takeWhile fun c ↦ c != '?' && c != '#') = [] ∨
      ∃ rest, (tail.takeWhile fun c ↦ c != '?' && c != '#') = '/' :: rest := by
    cases tail with
    | nil => exact .inl rfl
    | cons c rest =>
      have hc := htail c rfl
      simp only [endsAuthority, Bool.or_eq_true, beq_iff_eq] at hc
      rcases hc with (rfl | rfl) | rfl
      · exact .inr ⟨_, rfl⟩
      · exact .inl rfl
      · exact .inl rfl
  rw [resource, h.path_eq]
  rcases resolveSteps_cases hpath with hnil | ⟨rest, hcons⟩
  · rw [hnil]
    obtain ⟨query, hquery⟩ := h.query_eq
    obtain ⟨fragment, hfragment⟩ := h.fragment_eq
    rw [hquery, hfragment]
    cases query with
    | some query => exact isTail_cons rfl _
    | none =>
      cases fragment with
      | some fragment => exact isTail_cons rfl _
      | none => exact isTail_nil
  · rw [hcons]
    exact isTail_cons rfl _

/-! ### Characters -/

theorem toNat_lt_of_isVisibleExcept {others : List Char} {c : Char}
    (h : isVisibleExcept others c = true) : c.toNat < 0x80 := by
  simp only [isVisibleExcept, Bool.and_eq_true, decide_eq_true_eq] at h
  omega

/-- An escaped text is ASCII if the plain characters are. -/
theorem isAscii_escape {isPlain : Char → Bool} (hplain : ∀ c, isPlain c = true → c.toNat < 0x80)
    (chars : List Char) : Host.isAscii (escape isPlain chars) = true :=
  Host.isAscii_iff.mpr (forall_mem_escape hplain (by decide) (by decide) chars)

theorem toNat_lt_of_isQueryChar (c : Char) (h : isQueryChar c = true) : c.toNat < 0x80 :=
  toNat_lt_of_isVisibleExcept h

theorem toNat_lt_of_isPathChar (c : Char) (h : isPathChar c = true) : c.toNat < 0x80 := by
  rw [isPathChar, Bool.and_eq_true] at h
  exact toNat_lt_of_isQueryChar c h.1

theorem toNat_lt_of_isFragmentChar (c : Char) (h : isFragmentChar c = true) : c.toNat < 0x80 :=
  toNat_lt_of_isVisibleExcept h

theorem toNat_lt_of_isUserInfoChar (c : Char) (h : isUserInfoChar c = true) : c.toNat < 0x80 := by
  rw [isUserInfoChar, Bool.and_eq_true] at h
  exact toNat_lt_of_isPathChar c h.1

theorem toNat_lt_of_isHostChar (c : Char) (h : isHostChar c = true) : c.toNat < 0x80 :=
  toNat_lt_of_isVisibleExcept h

/-- What is sent behind the authority is ASCII. -/
theorem IsFrom.isAscii_resource (h : sent.IsFrom scheme authority tail) :
    Host.isAscii sent.resource = true := by
  obtain ⟨query, hquery⟩ := h.query_eq
  obtain ⟨fragment, hfragment⟩ := h.fragment_eq
  rw [resource, h.path_eq, hquery, hfragment, Host.isAscii_append, Host.isAscii_append]
  refine ⟨⟨isAscii_escape toNat_lt_of_isPathChar _, ?_⟩, ?_⟩
  · cases query with
    | none => rfl
    | some query =>
      rw [Host.isAscii_iff]
      refine List.forall_mem_cons.mpr ⟨by decide, ?_⟩
      exact Host.isAscii_iff.mp (isAscii_escape toNat_lt_of_isQueryChar query)
  · cases fragment with
    | none => rfl
    | some fragment =>
      rw [Host.isAscii_iff]
      refine List.forall_mem_cons.mpr ⟨by decide, ?_⟩
      exact Host.isAscii_iff.mp (isAscii_escape toNat_lt_of_isFragmentChar fragment)

/-! ### Authorities -/

theorem isPortChar_of_mem_toString {port : Int} {c : Char} (h : c ∈ (toString port).toList) :
    IsPortChar c := by
  cases port with
  | ofNat n =>
    change c ∈ n.repr.toList at h
    rw [Nat.toList_repr] at h
    exact .inl (Nat.isDigit_of_mem_toDigits (by decide) (by decide) h)
  | negSucc n =>
    change c ∈ ("-" ++ (n + 1).repr).toList at h
    rw [String.toList_append, Nat.toList_repr, List.mem_append] at h
    rcases h with hsign | hdigit
    · exact .inr (List.mem_singleton.mp hsign)
    · exact .inl (Nat.isDigit_of_mem_toDigits (by decide) (by decide) hdigit)

theorem toList_toString_ne_nil (port : Int) : (toString port).toList ≠ [] := by
  cases port with
  | ofNat n =>
    change n.repr.toList ≠ []
    rw [Nat.toList_repr]
    exact Nat.toDigits_ne_nil
  | negSucc n =>
    change ("-" ++ (n + 1).repr).toList ≠ []
    rw [String.toList_append]
    exact List.cons_ne_nil _ _

/-- The digits of the port, if there is one. -/
def portDigits (url : SentUrl) : List Char :=
  match url.port with
  | none => []
  | some port => (toString port).toList

theorem forall_mem_portDigits (url : SentUrl) : ∀ c ∈ url.portDigits, IsPortChar c := by
  unfold portDigits
  cases url.port with
  | none => exact List.forall_mem_nil _
  | some port => exact fun c hc ↦ isPortChar_of_mem_toString hc

theorem marked_port (url : SentUrl) :
    marked ':' (url.port.map fun port ↦ (toString port).toList) = portPart url.portDigits := by
  unfold portDigits
  cases url.port with
  | none => rfl
  | some port => exact (if_neg (toList_toString_ne_nil port)).symm

/-- The user in front of the host. -/
def userPart (url : SentUrl) : List Char := if url.userInfo = [] then [] else url.userInfo ++ ['@']

/-- The host as it stands in the authority. -/
def hostText (host : List Char) : List Char := if ':' ∈ host then '[' :: (host ++ [']']) else host

/-- The authority that is sent has the user information, the host and the port, each with its
delimiter. -/
theorem authority_eq_append (url : SentUrl) :
    url.authority = url.userPart ++ (hostText url.host ++ portPart url.portDigits) := by
  rw [SentUrl.authority, marked_port, List.append_assoc]
  rfl

theorem isUserPart_userPart (url : SentUrl) : IsUserPart url.userPart := by
  unfold userPart
  split
  · exact .inl rfl
  · exact .inr ⟨_, rfl⟩

theorem forall_mem_hostText {P : Char → Prop} {host : List Char} (hopen : P '[') (hclose : P ']')
    (hhost : ∀ c ∈ host, P c) : ∀ c ∈ hostText host, P c := by
  unfold hostText
  split
  · exact List.forall_mem_cons.mpr
      ⟨hopen, List.forall_mem_append.mpr ⟨hhost, List.forall_mem_singleton.mpr hclose⟩⟩
  · exact hhost

theorem forall_mem_portPart {P : Char → Prop} {digits : List Char} (hcolon : P ':')
    (hdigits : ∀ c ∈ digits, P c) : ∀ c ∈ portPart digits, P c := by
  unfold portPart
  split
  · exact List.forall_mem_nil _
  · exact List.forall_mem_cons.mpr ⟨hcolon, hdigits⟩

/-- What holds of the delimiters, and of all characters of the parts, holds of those of the
authority. -/
theorem forall_mem_authority {P : Char → Prop} (hat : P '@') (hopen : P '[') (hclose : P ']')
    (hcolon : P ':') (huser : ∀ c ∈ sent.userInfo, P c) (hhost : ∀ c ∈ sent.host, P c)
    (hport : ∀ c, IsPortChar c → P c) : ∀ c ∈ sent.authority, P c := by
  have huserPart : ∀ c ∈ sent.userPart, P c := by
    unfold userPart
    split
    · exact List.forall_mem_nil _
    · exact List.forall_mem_append.mpr ⟨huser, List.forall_mem_singleton.mpr hat⟩
  have hdigits : ∀ c ∈ sent.portDigits, P c :=
    fun c hc ↦ hport c (sent.forall_mem_portDigits c hc)
  rw [authority_eq_append]
  exact List.forall_mem_append.mpr ⟨huserPart, List.forall_mem_append.mpr
    ⟨forall_mem_hostText hopen hclose hhost, forall_mem_portPart hcolon hdigits⟩⟩

/-- No plain character of a host ends an authority. -/
theorem endsAuthority_of_isHostChar (c : Char) (h : isHostChar c = true) :
    endsAuthority c = false :=
  forall_ascii (fun c ↦ isHostChar c = true → endsAuthority c = false) (by decide)
    (toNat_lt_of_isHostChar c h) h

theorem endsAuthority_of_isUserInfoChar (c : Char) (h : isUserInfoChar c = true) :
    endsAuthority c = false :=
  forall_ascii (fun c ↦ isUserInfoChar c = true → endsAuthority c = false) (by decide)
    (toNat_lt_of_isUserInfoChar c h) h

theorem endsAuthority_of_isPortChar (c : Char) (h : IsPortChar c) : endsAuthority c = false := by
  rcases h with hdigit | rfl
  · unfold endsAuthority
    rw [Bool.or_eq_false_iff, Bool.or_eq_false_iff, beq_eq_false_iff_ne, beq_eq_false_iff_ne,
      beq_eq_false_iff_ne]
    refine ⟨⟨?_, ?_⟩, ?_⟩ <;> (rintro rfl; exact absurd hdigit (by decide))
  · rfl

theorem toNat_lt_of_isPortChar (c : Char) (h : IsPortChar c) : c.toNat < 0x80 := by
  rcases h with hdigit | rfl
  · exact toNat_lt_of_isDigit hdigit
  · decide

theorem afterLast_subset (c : Char) (chars : List Char) : afterLast c chars ⊆ chars := by
  intro d hd
  exact List.mem_reverse.mp (List.takeWhile_subset _ (List.mem_reverse.mp hd))

theorem host_subset_of_splitAuthority (authority : List Char) :
    (splitAuthority authority).2.1 ⊆ afterLast '@' authority := by
  unfold splitAuthority
  simp only
  split
  · exact List.take_subset _ _
  · exact List.takeWhile_subset _

/-! ### URLs that are sent as they are written -/

namespace AsWritten

variable {url : String}

theorem isAbsolute (h : AsWritten url sent) : sent.isAbsolute = true := by
  have horigin := h.checkOrigin_eq
  unfold checkOrigin at horigin
  split at horigin
  · next habsolute => exact habsolute
  · cases horigin

theorem host_ne_nil (h : AsWritten url sent) : sent.host ≠ [] := by
  have habsolute := h.isAbsolute
  rw [SentUrl.isAbsolute, Bool.and_eq_true, bne_iff_ne, bne_iff_ne] at habsolute
  exact habsolute.2

theorem parse?_eq (h : AsWritten url sent) : parse? url.toList = some sent := by
  have haddress := h.address_eq
  unfold Request.address at haddress
  split at haddress
  · cases haddress
  · next hparse =>
    split at haddress
    · obtain rfl := Except.ok.inj haddress
      exact hparse
    · cases haddress

/-- A host that can be sent is ASCII. -/
theorem isAscii_host (h : AsWritten url sent) : Host.isAscii sent.host = true := by
  have hhost := h.checkHost_eq
  rw [Request.checkHost, h.isAbsolute, Bool.not_true, if_neg Bool.false_ne_true] at hhost
  by_cases hascii : Host.isAscii sent.host = true
  · exact hascii
  · rw [if_pos (by rw [Bool.not_eq_true] at hascii; rw [hascii]; rfl)] at hhost
    cases hhost

/-- The authority of a URL that is sent as it is written is ASCII. -/
theorem isAscii_authority (h : AsWritten url sent) (hfrom : sent.IsFrom scheme authority tail) :
    Host.isAscii sent.authority = true := by
  obtain ⟨userInfo, huserInfo⟩ := hfrom.userInfo_eq
  refine Host.isAscii_iff.mpr (forall_mem_authority (by decide) (by decide) (by decide) (by decide)
    ?_ (Host.isAscii_iff.mp h.isAscii_host) toNat_lt_of_isPortChar)
  rw [huserInfo]
  exact Host.isAscii_iff.mp (isAscii_escape toNat_lt_of_isUserInfoChar userInfo)

/-- Up to the case of the scheme, the text in which the URL is written is the one that is sent. -/
theorem append_eq (h : AsWritten url sent) (hwritten : Written url.toList scheme authority tail)
    (hfrom : sent.IsFrom scheme authority tail) :
    authority ++ tail = sent.authority ++ sent.resource := by
  have hsent : lowerScheme sent.text = String.ofList (lower (lower scheme) ++
      ':' :: '/' :: '/' :: (sent.authority ++ sent.resource)) := by
    rw [text_of_isAbsolute h.isAbsolute, hfrom.scheme_eq,
      lowerScheme_ofList hwritten.isScheme.lower]
  have hurl : lowerScheme url =
      String.ofList (lower scheme ++ ':' :: '/' :: '/' :: (authority ++ tail)) := by
    rw [← lowerScheme_ofList hwritten.isScheme, ← hwritten.text_eq, String.ofList_toList]
  have hchars := h.lowerScheme_eq
  rw [hsent, hurl, String.ofList_inj, hwritten.isScheme.lower_lower] at hchars
  have hrest := List.append_cancel_left hchars
  simp only [List.cons.injEq, true_and] at hrest
  exact hrest.symm

/-- Nothing in the host of a URL that is sent as it is written ends the authority. -/
theorem inside_host (h : AsWritten url sent) (hwritten : Written url.toList scheme authority tail)
    (hfrom : sent.IsFrom scheme authority tail) (hascii : Host.isAscii authority = true) :
    ∀ c ∈ sent.host, endsAuthority c = false := by
  have hsubset : (splitAuthority authority).2.1 ⊆ authority := fun c hc ↦
    afterLast_subset _ _ (host_subset_of_splitAuthority authority hc)
  have hhostAscii : Host.isAscii (splitAuthority authority).2.1 = true :=
    Host.isAscii_iff.mpr fun c hc ↦ Host.isAscii_iff.mp hascii c (hsubset hc)
  intro c hc
  rcases sentHost?_cases hhostAscii hfrom.host_eq h.host_ne_nil with
    ⟨-, hsame⟩ | ⟨-, hbracketed⟩ | hescaped
  · rw [hsame] at hc
    exact hwritten.inside c (hsubset hc)
  · refine hwritten.inside c (hsubset ?_)
    rw [hbracketed]
    exact List.mem_cons_of_mem _ (List.mem_append_left _ hc)
  · rw [hescaped] at hc
    exact forall_mem_escape endsAuthority_of_isHostChar (by decide) (by decide) _ c hc

/-- A URL that is sent as it is written has the authority that is sent. -/
theorem authority_eq (h : AsWritten url sent) (hwritten : Written url.toList scheme authority tail)
    (hfrom : sent.IsFrom scheme authority tail) : authority = sent.authority := by
  have hsame := h.append_eq hwritten hfrom
  have hascii : Host.isAscii (authority ++ tail) = true := by
    rw [hsame, Host.isAscii_append]
    exact ⟨h.isAscii_authority hfrom, hfrom.isAscii_resource⟩
  have hhost := h.inside_host hwritten hfrom (Host.isAscii_append.mp hascii).1
  have huser : ∀ c ∈ sent.userInfo, endsAuthority c = false := by
    obtain ⟨userInfo, huserInfo⟩ := hfrom.userInfo_eq
    rw [huserInfo]
    exact forall_mem_escape endsAuthority_of_isUserInfoChar (by decide) (by decide) userInfo
  have hinside : ∀ c ∈ sent.authority, endsAuthority c = false :=
    forall_mem_authority (by decide) (by decide) (by decide) (by decide) huser hhost
      endsAuthority_of_isPortChar
  calc authority
      = (authority ++ tail).takeWhile (fun c ↦ !endsAuthority c) :=
        (takeWhile_append_tail hwritten.inside hwritten.isTail).symm
    _ = (sent.authority ++ sent.resource).takeWhile (fun c ↦ !endsAuthority c) := by rw [hsame]
    _ = sent.authority := takeWhile_append_tail hinside (hfrom.isTail_resource hwritten.isTail)

end AsWritten

end SentUrl

end MeshAttest
