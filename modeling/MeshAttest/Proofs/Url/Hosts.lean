import MeshAttest.Proofs.Url.Written

/-!
# Hosts and ports that are sent as they are written

A host that is sent as it is written is in lower case and needs no escapes, or it is an IPv6 address
in brackets. Both readers of URLs find such a host in an authority, and the port behind it: a plain
host by `Url.splitAuthority_plain` and `Url.hostAndRest_plain`, one in brackets by
`Url.splitAuthority_bracketed` and `Url.hostAndRest_bracketed`.
-/

set_option autoImplicit false

namespace MeshAttest

open Text

/-! ### Escapes -/

namespace Url

variable {isPlain : Char → Bool} {chars : List Char}

/-- An escaped text has plain characters, percent signs and hexadecimal digits only. -/
theorem forall_mem_escape {P : Char → Prop} (hplain : ∀ c, isPlain c = true → P c)
    (hpercent : P '%') (hdigit : ∀ n < 16, P (Bytes.hexDigit n).toUpper) (chars : List Char) :
    ∀ c ∈ escape isPlain chars, P c := by
  intro c hc
  obtain ⟨d, -, hmem⟩ := List.mem_flatMap.mp hc
  split at hmem
  · next hd =>
    obtain rfl := List.mem_singleton.mp hmem
    exact hplain c hd
  · obtain ⟨octet, -, hoctet⟩ := List.mem_flatMap.mp hmem
    have hlt := octet.toNat_lt
    have hchars : escapeOctet octet = ['%', (Bytes.hexDigit (octet.toNat / 16)).toUpper,
      (Bytes.hexDigit (octet.toNat % 16)).toUpper] := rfl
    rw [hchars, List.mem_cons, List.mem_cons, List.mem_singleton] at hoctet
    rcases hoctet with rfl | rfl | rfl
    · exact hpercent
    · exact hdigit _ (by omega)
    · exact hdigit _ (by omega)

theorem length_escape_char (isPlain : Char → Bool) (c : Char) :
    1 ≤ (if isPlain c then [c] else (String.utf8EncodeChar c).flatMap escapeOctet).length ∧
      (isPlain c = false →
        1 < (if isPlain c then [c] else (String.utf8EncodeChar c).flatMap escapeOctet).length) := by
  split
  · next hplain =>
    rw [hplain]
    exact ⟨Nat.le_refl 1, fun h ↦ absurd h (by decide)⟩
  · have hlong : 1 < ((String.utf8EncodeChar c).flatMap escapeOctet).length := by
      cases hoctets : String.utf8EncodeChar c with
      | nil =>
        have hlength := String.length_utf8EncodeChar c
        rw [hoctets] at hlength
        exact absurd hlength (Nat.ne_of_lt c.utf8Size_pos)
      | cons octet rest =>
        rw [List.flatMap_cons, List.length_append]
        exact Nat.lt_of_lt_of_le (show 1 < 3 by decide) (Nat.le_add_right 3 _)
    exact ⟨Nat.le_of_lt hlong, fun _ ↦ hlong⟩

/-- A text does not get shorter by escapes. -/
theorem length_le_length_escape (isPlain : Char → Bool) (chars : List Char) :
    chars.length ≤ (escape isPlain chars).length := by
  induction chars with
  | nil => exact Nat.le_refl 0
  | cons c rest ih =>
    have hc := (length_escape_char isPlain c).1
    rw [escape, List.flatMap_cons, List.length_append, List.length_cons]
    rw [escape] at ih
    omega

/-- Escapes make a text longer, so that a text is left as it is only if all of it is plain. -/
theorem forall_isPlain_of_length_escape (h : (escape isPlain chars).length = chars.length) :
    ∀ c ∈ chars, isPlain c = true := by
  induction chars with
  | nil => exact List.forall_mem_nil _
  | cons c rest ih =>
    have hlength := length_escape_char isPlain c
    have hrest := length_le_length_escape isPlain rest
    rw [escape] at hrest
    rw [escape, List.flatMap_cons, List.length_append, List.length_cons] at h
    refine List.forall_mem_cons.mpr ⟨?_, ih ?_⟩
    · by_cases hplain : isPlain c = true
      · exact hplain
      · have := hlength.2 (Bool.not_eq_true _ ▸ hplain)
        omega
    · rw [escape]
      have := hlength.1
      omega

/-- A text of plain characters has no escapes. -/
theorem escape_of_forall_isPlain (h : ∀ c ∈ chars, isPlain c = true) :
    escape isPlain chars = chars := by
  induction chars with
  | nil => rfl
  | cons c rest ih =>
    obtain ⟨hc, hrest⟩ := List.forall_mem_cons.mp h
    have hescape := ih hrest
    rw [escape] at hescape ⊢
    rw [List.flatMap_cons, if_pos hc, hescape, List.singleton_append]

/-! ### Ports -/

/-- The text of a port, behind its colon. -/
def portPart (digits : List Char) : List Char := if digits = [] then [] else ':' :: digits

/-- What the text of an integer consists of. -/
def IsPortChar (c : Char) : Prop := c.isDigit = true ∨ c = '-'

theorem not_isPortChar {c : Char} (h : ¬ (c.isDigit = true ∨ c = '-')) {digits : List Char}
    (hdigits : ∀ c ∈ digits, IsPortChar c) : c ∉ digits :=
  fun hmem ↦ h (hdigits c hmem)

theorem not_mem_portPart {c : Char} {digits : List Char} (hcolon : c ≠ ':') (h : c ∉ digits) :
    c ∉ portPart digits := by
  unfold portPart
  split
  · exact List.not_mem_nil
  · rw [List.mem_cons, not_or]
    exact ⟨hcolon, h⟩

/-- The digits of a port are what is behind its colon. -/
theorem cutFirst_portPart (digits : List Char) : (cutFirst ':' (portPart digits)).2 = digits := by
  unfold portPart
  split
  · next h => exact h.symm
  · exact congrArg Prod.snd (cutFirst_append List.not_mem_nil digits)

theorem portPart_cases (digits : List Char) :
    portPart digits = [] ∨ (portPart digits).head? = some ':' := by
  unfold portPart
  split
  · exact .inl rfl
  · exact .inr rfl

/-- A host without a colon ends where the port starts. -/
theorem takeWhile_append_portPart {host : List Char} (hhost : ':' ∉ host) (digits : List Char) :
    (host ++ portPart digits).takeWhile (· ≠ ':') = host :=
  (takeWhile_ne_append hhost (portPart_cases digits)).1

theorem dropWhile_append_portPart {host : List Char} (hhost : ':' ∉ host) (digits : List Char) :
    (host ++ portPart digits).dropWhile (· ≠ ':') = portPart digits :=
  (takeWhile_ne_append hhost (portPart_cases digits)).2

/-- The text of a port that is behind a host, with its colon or without. -/
theorem drop_portPart (digits : List Char) :
    (if (portPart digits).head? = some ':' then (portPart digits).drop 1 else portPart digits) =
      digits := by
  unfold portPart
  by_cases h : digits = []
  · rw [if_pos h, if_neg (by decide), h]
  · rw [if_neg h]
    exact if_pos rfl

/-! ### Authorities -/

/-- The text is that of a user in front of a host, or nothing. -/
def IsUserPart (before : List Char) : Prop := before = [] ∨ ∃ user, before = user ++ ['@']

/-- The user information ends at the last at sign. -/
theorem afterLast_append_place {before place : List Char} (hbefore : IsUserPart before)
    (hplace : '@' ∉ place) : afterLast '@' (before ++ place) = place := by
  rcases hbefore with rfl | ⟨user, rfl⟩
  · exact afterLast_of_not_mem hplace
  · rw [List.append_assoc, List.singleton_append]
    exact afterLast_append hplace user

variable {before host digits : List Char}

theorem not_mem_append_portPart {c : Char} {place : List Char} (hplace : c ∉ place)
    (hcolon : c ≠ ':') (hport : ¬ (c.isDigit = true ∨ c = '-'))
    (hdigits : ∀ c ∈ digits, IsPortChar c) : c ∉ place ++ portPart digits := by
  rw [List.mem_append, not_or]
  exact ⟨hplace, not_mem_portPart hcolon (not_isPortChar hport hdigits)⟩

theorem not_mem_of_forall_isHostChar {c : Char} (h : isHostChar c = false)
    (hhost : ∀ c ∈ host, isHostChar c = true) : c ∉ host := by
  intro hmem
  rw [hhost c hmem] at h
  cases h

/-- The place is a plain host and what is behind it. -/
theorem not_mem_place {c : Char} (hc : isHostChar c = false) (hcolon : c ≠ ':')
    (hport : ¬ (c.isDigit = true ∨ c = '-')) (hhost : ∀ c ∈ host, isHostChar c = true)
    (hdigits : ∀ c ∈ digits, IsPortChar c) : c ∉ host ++ portPart digits :=
  not_mem_append_portPart (not_mem_of_forall_isHostChar hc hhost) hcolon hport hdigits

/-- The library takes a host of plain characters and the port behind it from an authority. -/
theorem splitAuthority_plain (hbefore : IsUserPart before) (hne : host ≠ [])
    (hhost : ∀ c ∈ host, isHostChar c = true) (hdigits : ∀ c ∈ digits, IsPortChar c) :
    (SentUrl.splitAuthority (before ++ (host ++ portPart digits))).2 = (host, digits) := by
  have hat : '@' ∉ host ++ portPart digits :=
    not_mem_place rfl (by decide) (by decide) hhost hdigits
  have hcolon : ':' ∉ host := not_mem_of_forall_isHostChar rfl hhost
  have hhead : (host ++ portPart digits).head? ≠ some '[' := by
    intro hsome
    cases host with
    | nil => exact hne rfl
    | cons first rest =>
      obtain rfl := Option.some.inj hsome
      exact not_mem_of_forall_isHostChar rfl hhost List.mem_cons_self
  unfold SentUrl.splitAuthority
  simp only [afterLast_append_place hbefore hat, hhead, false_and, if_false,
    takeWhile_append_portPart hcolon, dropWhile_append_portPart hcolon, drop_portPart]

/-- The reader of standard URLs finds the same host and the same port in an authority. -/
theorem hostAndRest_plain (hbefore : IsUserPart before) (hhost : ∀ c ∈ host, isHostChar c = true)
    (hdigits : ∀ c ∈ digits, IsPortChar c) :
    hostAndRest (before ++ (host ++ portPart digits)) = (host, portPart digits) := by
  have hat : '@' ∉ host ++ portPart digits :=
    not_mem_place rfl (by decide) (by decide) hhost hdigits
  have hbracket : '[' ∉ host ++ portPart digits :=
    not_mem_place rfl (by decide) (by decide) hhost hdigits
  have hcolon : ':' ∉ host := not_mem_of_forall_isHostChar rfl hhost
  unfold hostAndRest
  simp only [afterLast_append_place hbefore hat, hbracket, if_false,
    takeWhile_append_portPart hcolon, dropWhile_append_portPart hcolon]

theorem at_not_mem_bracketed (hat : '@' ∉ host) (hdigits : ∀ c ∈ digits, IsPortChar c) :
    '@' ∉ '[' :: (host ++ ']' :: portPart digits) := by
  rw [List.mem_cons, List.mem_append, List.mem_cons, not_or, not_or, not_or]
  exact ⟨by decide, hat, by decide,
    not_mem_portPart (by decide) (not_isPortChar (by decide) hdigits)⟩

/-- The host goes up to the last bracket. -/
theorem splitAuthority_bracketed (hbefore : IsUserPart before) (hat : '@' ∉ host)
    (hdigits : ∀ c ∈ digits, IsPortChar c) :
    (SentUrl.splitAuthority (before ++ '[' :: (host ++ ']' :: portPart digits))).2 =
      ('[' :: (host ++ [']']), digits) := by
  have hbehind : ']' ∉ portPart digits :=
    not_mem_portPart (by decide) (not_isPortChar (by decide) hdigits)
  have hafter : afterLast ']' ('[' :: (host ++ ']' :: portPart digits)) = portPart digits :=
    afterLast_append hbehind ('[' :: host)
  have hsplit : '[' :: (host ++ ']' :: portPart digits) =
      ('[' :: (host ++ [']'])) ++ portPart digits := by
    simp
  have hmem : ']' ∈ '[' :: (host ++ ']' :: portPart digits) := by
    simp
  have htake : ('[' :: (host ++ ']' :: portPart digits)).take
      (('[' :: (host ++ ']' :: portPart digits)).length - (portPart digits).length) =
        '[' :: (host ++ [']']) := by
    rw [hsplit, List.length_append, Nat.add_sub_cancel, List.take_left]
  unfold SentUrl.splitAuthority
  simp only [afterLast_append_place hbefore (at_not_mem_bracketed hat hdigits), List.head?_cons,
    hmem, and_self, if_true, hafter, htake, drop_portPart]

/-- The host goes up to the first bracket. -/
theorem hostAndRest_bracketed (hbefore : IsUserPart before) (hat : '@' ∉ host)
    (hdigits : ∀ c ∈ digits, IsPortChar c) :
    hostAndRest (before ++ '[' :: (host ++ ']' :: portPart digits)) =
      cutFirst ']' (host ++ ']' :: portPart digits) := by
  have hinner : (cutFirst '[' ('[' :: (host ++ ']' :: portPart digits))).2 =
      host ++ ']' :: portPart digits :=
    congrArg Prod.snd (cutFirst_append List.not_mem_nil _)
  unfold hostAndRest
  simp only [afterLast_append_place hbefore (at_not_mem_bracketed hat hdigits),
    List.mem_cons_self, if_true, hinner]

end Url

/-! ### Hosts that are sent -/

namespace SentUrl

open Url

variable {host sent : List Char}

theorem isNumeric_cons {c : Char} (hc : c.isDigit = false) (host : List Char) :
    isNumeric (c :: host) = false := by
  have hruns : pieces '.' ((c :: host).map fun c ↦ if c.isDigit then c else '.') =
      [] :: pieces '.' (host.map fun c ↦ if c.isDigit then c else '.') := by
    rw [List.map_cons, hc, if_neg Bool.false_ne_true, pieces_cons_self]
  unfold isNumeric
  simp only [hruns, List.all_cons, ne_eq, not_true_eq_false, decide_false, Bool.false_and,
    Bool.and_false]

/-- An IPv6 address is sent without its brackets. -/
theorem sentHost?_bracketed (h : isIpv6 host = true) :
    sentHost? ('[' :: (host ++ [']'])) = some host := by
  have hlast : ('[' :: (host ++ [']'])).getLast? = some ']' := by
    rw [← List.cons_append, List.getLast?_concat]
  unfold sentHost?
  rw [if_neg (List.cons_ne_nil _ _), isNumeric_cons rfl, if_neg Bool.false_ne_true,
    if_pos ⟨rfl, hlast⟩, List.drop_one, List.tail_cons, List.dropLast_concat, if_pos h]

/-- What is sent for a host in ASCII: an IPv4 address as it is, an IPv6 address without its
brackets, and the escaped name otherwise. -/
theorem sentHost?_cases (hascii : Host.isAscii host = true) (h : sentHost? host = some sent)
    (hne : sent ≠ []) :
    (isIpv4 host = true ∧ sent = host) ∨
      (isIpv6 sent = true ∧ host = '[' :: (sent ++ [']'])) ∨
      sent = escape isHostChar (lower host) := by
  unfold sentHost? at h
  split at h
  · cases h
    exact absurd rfl hne
  · split at h
    · split at h
      · next hipv4 =>
        obtain rfl := Option.some.inj h
        exact .inl ⟨hipv4, rfl⟩
      · cases h
    · split at h
      · next hbrackets =>
        simp only at h
        split at h
        · next hipv6 =>
          obtain rfl := Option.some.inj h
          refine .inr (.inl ⟨hipv6, ?_⟩)
          obtain ⟨inside, rfl⟩ := List.getLast?_eq_some_iff.mp hbrackets.2
          cases inside with
          | nil => exact absurd hbrackets.1 (by decide)
          | cons first rest =>
            obtain rfl := Option.some.inj hbrackets.1
            simp
        · cases h
      · exact .inr (.inr (Option.some.inj h).symm)

end SentUrl

end MeshAttest
