import MeshAttest.Proofs.Text.Characters
import MeshAttest.Url.Basic

/-!
# Hosts in lower case

`Url.lowerHost` is what is read as the host from a host as it is written. An IPv6 address stays one
in lower case (`Url.isIpv6_lowerHost`): each of its parts is taken for the same part as before. It
has a colon, and begins with a colon or a hexadecimal digit, so that it is no address of any other
kind. An address of a future version stays one as well (`Url.isFutureAddress_lowerHost`).
-/

set_option autoImplicit false

namespace MeshAttest.Url

open Text

/-! ### Single characters -/

theorem toLower_eq_iff {d : Char} (h : ∀ n < 0x80, (Char.ofNat n).toLower = d ↔ Char.ofNat n = d)
    (c : Char) : c.toLower = d ↔ c = d :=
  forall_toLower (fun c lowered ↦ lowered = d ↔ c = d) (fun _ ↦ Iff.rfl) h c

theorem isSome_hexValue?_toLower (c : Char) :
    (Bytes.hexValue? c.toLower).isSome = (Bytes.hexValue? c).isSome :=
  forall_toLower (fun c d ↦ (Bytes.hexValue? d).isSome = (Bytes.hexValue? c).isSome)
    (fun _ ↦ rfl) (by decide) c

theorem toLower_of_isDigit (c : Char) (h : c.isDigit = true) : c.toLower = c :=
  forall_toLower (fun c d ↦ c.isDigit = true → d = c) (fun _ _ ↦ rfl) (by decide) c h

/-! ### Addresses -/

/-- A text with its ASCII letters in lower case. -/
def lower (chars : List Char) : List Char := chars.map Char.toLower

theorem lower_eq_nil_iff {chars : List Char} : lower chars = [] ↔ chars = [] := List.map_eq_nil_iff

theorem isHextet_lower (chars : List Char) : isHextet (lower chars) = isHextet chars := by
  have hdigits : (fun c ↦ (Bytes.hexValue? c).isSome) ∘ Char.toLower =
      fun c ↦ (Bytes.hexValue? c).isSome := funext isSome_hexValue?_toLower
  rw [isHextet, isHextet, lower, List.length_map, List.all_map, hdigits]

theorem besideGap_map_lower (outermost : Option (List Char)) (parts : List (List Char)) :
    besideGap (outermost.map lower) (parts.map lower) =
      (besideGap outermost parts).map (List.map lower) := by
  have houtermost : outermost.map lower = some [] ↔ outermost = some [] := by
    cases outermost with
    | none => exact Iff.rfl
    | some part => rw [Option.map_some, Option.some.injEq, Option.some.injEq, lower_eq_nil_iff]
  unfold besideGap
  rw [List.length_map]
  simp only [houtermost]
  split
  · split <;> rfl
  · rfl

/-- Case makes no difference to the groups of an address. -/
theorem isIpv6Parts_map_lower (parts : List (List Char)) :
    isIpv6Parts (parts.map lower) = isIpv6Parts parts := by
  have hinner : (parts.map lower).dropLast.drop 1 = (parts.dropLast.drop 1).map lower := by
    rw [List.map_drop, List.map_dropLast]
  -- The gap of an address is an empty group, and no other group gets empty in lower case.
  have hempty : (· == []) ∘ lower = (· == ([] : List Char)) := by
    funext part
    rw [Function.comp_apply, Bool.eq_iff_iff, beq_iff_eq, beq_iff_eq, lower_eq_nil_iff]
  have hne :
      (fun part : List Char ↦ decide (part ≠ [])) ∘ lower = fun part ↦ decide (part ≠ []) := by
    funext part
    rw [Function.comp_apply, Bool.eq_iff_iff, decide_eq_true_eq, decide_eq_true_eq, ne_eq, ne_eq,
      lower_eq_nil_iff]
  have hindex : ((parts.dropLast.drop 1).map lower).idxOf? [] =
      (parts.dropLast.drop 1).idxOf? [] := by
    change ((parts.dropLast.drop 1).map lower).findIdx? (· == []) = _
    rw [List.findIdx?_map, hempty]
    rfl
  have hhextets : isHextet ∘ lower = isHextet := funext isHextet_lower
  unfold isIpv6Parts
  simp only [hinner, hindex]
  cases (parts.dropLast.drop 1).idxOf? [] with
  | none => simp only [List.length_map, List.all_map, hhextets]
  | some index =>
    simp only [← List.map_take, ← List.map_drop, List.head?_map, List.getLast?_map,
      besideGap_map_lower]
    cases besideGap (parts.take (index + 1)).head? (parts.take (index + 1)) with
    | none => rfl
    | some high =>
      cases besideGap (parts.drop (index + 2)).getLast? (parts.drop (index + 2)) with
      | none => rfl
      | some low =>
        simp only [Option.map_some, List.all_map, List.length_map, hhextets, hne]

theorem isDigit_of_isDecimalOctet {chars : List Char} (h : isDecimalOctet chars = true) :
    ∀ c ∈ chars, c.isDigit = true := by
  simp only [isDecimalOctet, Bool.and_eq_true] at h
  exact List.all_eq_true.mp h.1.1.1.1

/-- An IPv4 address has digits and points only. -/
theorem eq_or_isDigit_of_isIpv4 {chars : List Char} (h : isIpv4 chars = true) {c : Char}
    (hc : c ∈ chars) : c = '.' ∨ c.isDigit = true := by
  simp only [isIpv4, Bool.and_eq_true] at h
  rcases mem_or_mem_pieces (c := '.') hc with hpoint | ⟨piece, hpiece, hmem⟩
  · exact .inl hpoint
  · exact .inr (isDigit_of_isDecimalOctet (List.all_eq_true.mp h.2 piece hpiece) c hmem)

/-- An IPv4 address is in lower case. -/
theorem lower_of_isIpv4 {chars : List Char} (h : isIpv4 chars = true) : lower chars = chars := by
  have hsame : ∀ c ∈ chars, c.toLower = id c := by
    intro c hc
    rcases eq_or_isDigit_of_isIpv4 h hc with rfl | hdigit
    · rfl
    · exact toLower_of_isDigit c hdigit
  rw [lower, List.map_congr_left hsame, List.map_id]

theorem pieces_colon_lower (chars : List Char) :
    pieces ':' (lower chars) = (pieces ':' chars).map lower :=
  pieces_map fun d _ ↦ toLower_eq_iff (by decide) d

theorem point_mem_lower_iff {chars : List Char} : '.' ∈ lower chars ↔ '.' ∈ chars := by
  have hpoint : ∀ c : Char, c.toLower = '.' ↔ c = '.' := toLower_eq_iff (by decide)
  simp only [lower, List.mem_map, hpoint, exists_eq_right]

/-- An address falls into the same groups in lower case. -/
theorem ipv6Parts?_lower {chars : List Char} {parts : List (List Char)}
    (h : ipv6Parts? chars = some parts) : ipv6Parts? (lower chars) = some (parts.map lower) := by
  unfold ipv6Parts? at h ⊢
  simp only [pieces_colon_lower, List.length_map, List.getLast?_map] at h ⊢
  split at h
  · cases h
  · next hlength =>
    rw [if_neg hlength]
    cases hlast : (pieces ':' chars).getLast? with
    | none =>
      rw [hlast] at h
      cases h
    | some final =>
      simp only [hlast, Option.map_some, point_mem_lower_iff] at h ⊢
      split at h
      · next hpoint =>
        split at h
        · next hipv4 =>
          obtain rfl := Option.some.inj h
          rw [if_pos hpoint, lower_of_isIpv4 hipv4, if_pos hipv4, List.map_append,
            List.map_dropLast]
          rfl
        · cases h
      · next hpoint =>
        obtain rfl := Option.some.inj h
        rw [if_neg hpoint]

/-! ### Hosts -/

/-- A host in lower case, but for the zone that it may have. -/
def lowerHost (host : List Char) : List Char :=
  Text.lowercase (host.takeWhile (· ≠ '%')) ++ host.dropWhile (· ≠ '%')

/-- A host in ASCII is put in lower case up to its zone. -/
theorem lowerHost_of_isAscii {host : List Char} (h : Host.isAscii host = true) :
    lowerHost host = lower (host.takeWhile (· ≠ '%')) ++ host.dropWhile (· ≠ '%') := by
  have hname : Host.isAscii (host.takeWhile (· ≠ '%')) = true := by
    rw [Host.isAscii_iff] at h ⊢
    exact fun c hc ↦ h c (List.takeWhile_subset _ hc)
  rw [lowerHost, lowercase_of_isAscii hname]
  rfl

/-- What holds of the characters of a host, and still holds in lower case, holds of those of the
host in lower case. -/
theorem forall_mem_lowerHost {P : Char → Prop} {host : List Char} (hP : ∀ c, P c → P c.toLower)
    (hascii : Host.isAscii host = true) (h : ∀ c ∈ host, P c) : ∀ c ∈ lowerHost host, P c := by
  rw [lowerHost_of_isAscii hascii, List.forall_mem_append]
  constructor
  · exact List.forall_mem_map.mpr fun c hc ↦ hP c (h c (List.takeWhile_subset _ hc))
  · exact fun c hc ↦ h c (List.dropWhile_subset _ hc)

theorem isAscii_lowerHost {host : List Char} (h : Host.isAscii host = true) :
    Host.isAscii (lowerHost host) = true :=
  Host.isAscii_iff.mpr
    (forall_mem_lowerHost (fun _ hc ↦ toNat_toLower_lt hc) h (Host.isAscii_iff.mp h))

theorem percent_not_mem_lower_takeWhile (host : List Char) :
    '%' ∉ lower (host.takeWhile (· ≠ '%')) := by
  intro hmem
  obtain ⟨c, hc, hsame⟩ := List.mem_map.mp hmem
  obtain rfl := (toLower_eq_iff (by decide) c).mp hsame
  exact not_mem_takeWhile_ne '%' host hc

/-- The zone of a host stays what it is. -/
theorem cutFirst_lowerHost {host : List Char} (h : Host.isAscii host = true) :
    cutFirst '%' (lowerHost host) = (lower (cutFirst '%' host).1, (cutFirst '%' host).2) := by
  obtain ⟨htake, hdrop⟩ := takeWhile_ne_append (percent_not_mem_lower_takeWhile host)
    (head?_dropWhile_ne '%' host)
  rw [lowerHost_of_isAscii h, cutFirst, htake, hdrop]
  rfl

theorem percent_mem_lowerHost_iff {host : List Char} (h : Host.isAscii host = true) :
    '%' ∈ lowerHost host ↔ '%' ∈ host := by
  have hname := not_mem_takeWhile_ne '%' host
  have hhost : '%' ∈ host.takeWhile (· ≠ '%') ++ host.dropWhile (· ≠ '%') ↔
      '%' ∈ host.dropWhile (· ≠ '%') := List.mem_append.trans (or_iff_right hname)
  rw [List.takeWhile_append_dropWhile] at hhost
  rw [lowerHost_of_isAscii h, List.mem_append, or_iff_right (percent_not_mem_lower_takeWhile host),
    hhost]

/-- An address stays one in lower case. -/
theorem isIpv6_lowerHost {host : List Char} (hascii : Host.isAscii host = true)
    (h : isIpv6 host = true) : isIpv6 (lowerHost host) = true := by
  unfold isIpv6 at h ⊢
  rw [cutFirst_lowerHost hascii]
  simp only [percent_mem_lowerHost_iff hascii]
  cases hparts : ipv6Parts? (cutFirst '%' host).1 with
  | none => simp [hparts] at h
  | some parts =>
    simp only [hparts] at h
    simp only [ipv6Parts?_lower hparts, List.length_map, isIpv6Parts_map_lower]
    exact h

/-- There is a version and something behind it. -/
theorem isFutureAddress_iff {chars : List Char} :
    isFutureAddress chars = true ↔ ∃ version c rest, chars = 'v' :: (version ++ '.' :: c :: rest) ∧
      version ≠ [] ∧ ∀ d ∈ version, (Bytes.hexValue? d).isSome = true := by
  constructor
  · intro h
    unfold isFutureAddress at h
    split at h
    · next behind =>
      simp only [Bool.and_eq_true, bne_iff_ne] at h
      obtain ⟨hne, h⟩ := h
      split at h
      · next c rest hdrop =>
        refine ⟨_, c, rest, ?_, hne, List.all_eq_true.mp List.all_takeWhile⟩
        rw [← hdrop, List.takeWhile_append_dropWhile]
      · cases h
    · cases h
  · rintro ⟨version, c, rest, rfl, hne, hhex⟩
    have hpoint : (Bytes.hexValue? '.').isSome = false := rfl
    simp only [isFutureAddress, takeWhile_append_cons hhex hpoint,
      dropWhile_append_cons hhex hpoint, bne_iff_ne.mpr hne, Bool.and_self]

/-- In front of the zone, a host can be put in lower case part by part. -/
theorem lowerHost_append {front back : List Char} (hascii : Host.isAscii (front ++ back) = true)
    (hfront : '%' ∉ front) : lowerHost (front ++ back) = lower front ++ lowerHost back := by
  have hall := decide_ne_of_not_mem hfront
  rw [lowerHost_of_isAscii hascii, lowerHost_of_isAscii (Host.isAscii_append.mp hascii).2,
    List.takeWhile_append_of_pos hall, List.dropWhile_append_of_pos hall, lower, List.map_append,
    List.append_assoc]
  rfl

theorem lowerHost_eq_nil_iff {host : List Char} (h : Host.isAscii host = true) :
    lowerHost host = [] ↔ host = [] := by
  rw [lowerHost_of_isAscii h, List.append_eq_nil_iff, lower_eq_nil_iff, ← List.append_eq_nil_iff,
    List.takeWhile_append_dropWhile]

theorem lowerHost_lowerHost {host : List Char} (h : Host.isAscii host = true) :
    lowerHost (lowerHost host) = lowerHost host := by
  have hname : Host.isAscii (host.takeWhile (· ≠ '%')) = true :=
    Host.isAscii_iff.mpr fun c hc ↦ Host.isAscii_iff.mp h c (List.takeWhile_subset _ hc)
  obtain ⟨htake, hdrop⟩ := takeWhile_ne_append (percent_not_mem_lower_takeWhile host)
    (head?_dropWhile_ne '%' host)
  rw [lowerHost_of_isAscii (isAscii_lowerHost h), lowerHost_of_isAscii h, htake, hdrop, lower,
    lower, map_toLower_map_toLower hname]

/-- No character comes into a host by lower case, unless it is the lower case of another one. -/
theorem not_mem_lowerHost {d : Char} {host : List Char}
    (hd : ∀ n < 0x80, Char.ofNat n ≠ d → (Char.ofNat n).toLower ≠ d)
    (h : Host.isAscii host = true) (habsent : d ∉ host) : d ∉ lowerHost host := by
  have hne : ∀ c ∈ lowerHost host, c ≠ d :=
    forall_mem_lowerHost (forall_toLower (fun c lowered ↦ c ≠ d → lowered ≠ d) (fun _ ↦ id) hd) h
      fun c hc ↦ ne_of_mem_of_not_mem hc habsent
  exact fun hmem ↦ hne d hmem rfl

/-- An address of a future version stays one in lower case. -/
theorem isFutureAddress_lowerHost {host : List Char} (hascii : Host.isAscii host = true)
    (h : isFutureAddress host = true) : isFutureAddress (lowerHost host) = true := by
  obtain ⟨version, c, rest, rfl, hne, hhex⟩ := isFutureAddress_iff.mp h
  have hsplit : 'v' :: (version ++ '.' :: c :: rest) = ('v' :: version ++ ['.']) ++ c :: rest := by
    simp
  have hpercent : '%' ∉ 'v' :: version ++ ['.'] := by
    have hversion : '%' ∉ version := fun hmem ↦ absurd (hhex '%' hmem) (by decide)
    simpa using hversion
  rw [hsplit] at hascii ⊢
  rw [lowerHost_append hascii hpercent]
  obtain ⟨d, more, hbehind⟩ : ∃ d more, lowerHost (c :: rest) = d :: more := by
    refine List.exists_cons_of_ne_nil fun hnil ↦ ?_
    exact List.cons_ne_nil _ _ ((lowerHost_eq_nil_iff (Host.isAscii_append.mp hascii).2).mp hnil)
  refine isFutureAddress_iff.mpr ⟨lower version, d, more, ?_, ?_, ?_⟩
  · simp [hbehind, lower]
  · rwa [Ne, lower_eq_nil_iff]
  · refine List.forall_mem_map.mpr fun e he ↦ ?_
    rw [isSome_hexValue?_toLower]
    exact hhex e he

theorem exists_ipv6Parts_of_isIpv6 {host : List Char} (h : isIpv6 host = true) :
    ∃ parts, ipv6Parts? (cutFirst '%' host).1 = some parts ∧ isIpv6Parts parts = true := by
  unfold isIpv6 at h
  cases hparts : ipv6Parts? (cutFirst '%' host).1 with
  | none => simp [hparts] at h
  | some parts =>
    simp only [hparts, Bool.and_eq_true] at h
    exact ⟨parts, rfl, h.2.2⟩

theorem colon_mem_of_ipv6Parts {chars : List Char} {parts : List (List Char)}
    (h : ipv6Parts? chars = some parts) : ':' ∈ chars := by
  by_cases hcolon : ':' ∈ chars
  · exact hcolon
  · rw [ipv6Parts?, pieces_of_not_mem hcolon] at h
    cases h

/-- An IPv6 address has a colon. -/
theorem colon_mem_of_isIpv6 {host : List Char} (h : isIpv6 host = true) : ':' ∈ host := by
  obtain ⟨parts, hparts, -⟩ := exists_ipv6Parts_of_isIpv6 h
  exact List.takeWhile_subset _ (colon_mem_of_ipv6Parts hparts)

/-- No address is of both kinds. -/
theorem not_isIpv4_of_isIpv6 {host : List Char} (h : isIpv6 host = true) :
    isIpv4 host = false := by
  rw [Bool.eq_false_iff]
  intro hipv4
  rcases eq_or_isDigit_of_isIpv4 hipv4 (colon_mem_of_isIpv6 h) with hpoint | hdigit
  · exact absurd hpoint (by decide)
  · exact absurd hdigit (by decide)

/-- The part in front of the first colon is not affected by an IPv4 address at the end. -/
theorem head?_of_ipv6Parts {chars : List Char} {parts : List (List Char)}
    (h : ipv6Parts? chars = some parts) : parts.head? = (pieces ':' chars).head? := by
  unfold ipv6Parts? at h
  simp only at h
  split at h
  · cases h
  · next hlength =>
    have hhead : (pieces ':' chars).dropLast.head? = (pieces ':' chars).head? := by
      rcases hpieces : pieces ':' chars with _ | ⟨first, _ | ⟨second, rest⟩⟩
      · rfl
      · rw [hpieces] at hlength
        exact absurd (show 1 < 3 by decide) hlength
      · rfl
    split at h
    · split at h
      · split at h
        · obtain rfl := Option.some.inj h
          rw [List.head?_append, hhead]
          cases hpieces : pieces ':' chars with
          | nil => exact absurd hpieces (pieces_ne_nil _ _)
          | cons first rest => rfl
        · cases h
      · obtain rfl := Option.some.inj h
        rfl
    · cases h

theorem head?_isHextet_of_isIpv6Parts {first : List Char} {rest : List (List Char)}
    (h : isIpv6Parts (first :: rest) = true) : first = [] ∨ isHextet first = true := by
  unfold isIpv6Parts at h
  simp only at h
  split at h
  · rw [Bool.and_eq_true] at h
    exact .inr (List.all_eq_true.mp h.2 first List.mem_cons_self)
  · next index hindex =>
    by_cases hfirst : first = []
    · exact .inl hfirst
    · right
      have hhigh : besideGap ((first :: rest).take (index + 1)).head?
          ((first :: rest).take (index + 1)) = some ((first :: rest).take (index + 1)) := by
        refine if_neg fun hsame ↦ hfirst (Option.some.inj hsame)
      rw [hhigh] at h
      split at h
      · next high low hsome hlow =>
        obtain rfl := Option.some.inj hsome
        simp only [Bool.and_eq_true] at h
        exact List.all_eq_true.mp h.1.2 first List.mem_cons_self
      · cases h

/-- An IPv6 address begins with a colon or a digit. -/
theorem head?_of_isIpv6 {first : Char} {rest : List Char}
    (h : isIpv6 (first :: rest) = true) :
    first = ':' ∨ (Bytes.hexValue? first).isSome = true := by
  obtain ⟨parts, hparts, hvalid⟩ := exists_ipv6Parts_of_isIpv6 h
  by_cases hcolon : first = ':'
  · exact .inl hcolon
  · right
    have hpercent : first ≠ '%' := by
      rintro rfl
      have hmem := colon_mem_of_ipv6Parts hparts
      cases hmem
    have haddress : (cutFirst '%' (first :: rest)).1 = first :: (cutFirst '%' rest).1 := by
      rw [cutFirst_cons_of_ne hpercent]
    rw [haddress] at hparts
    obtain ⟨piece, others, -, hpieces⟩ :=
      exists_pieces_cons_of_ne hcolon (cutFirst '%' rest).1
    have hhead := head?_of_ipv6Parts hparts
    rw [hpieces, List.head?_cons] at hhead
    cases parts with
    | nil => cases hhead
    | cons part more =>
      obtain rfl := Option.some.inj hhead
      rcases head?_isHextet_of_isIpv6Parts hvalid with hnil | hhextet
      · cases hnil
      · simp only [isHextet, Bool.and_eq_true] at hhextet
        exact List.all_eq_true.mp hhextet.2 first List.mem_cons_self

end MeshAttest.Url
