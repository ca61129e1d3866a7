import MeshAttest.Proofs.Url.Address
import MeshAttest.Proofs.Url.AsWritten

/-!
# URLs with a scheme and an authority

`Url.Written` takes the text of a URL apart at the scheme and the authority, where both readers of
URLs do so too. What they make of the text is a matter of these parts: `Url.parse_of_written` says
it of the reader that only takes URLs apart, and `SentUrl.parse?_of_written` of the one that puts
them in the form in which they are sent.
-/

set_option autoImplicit false

namespace MeshAttest

open Text

namespace Url

variable {text scheme authority tail rest : List Char}

/-! ### Schemes -/

/-- The text is a scheme: a letter, with scheme characters behind it. -/
structure IsScheme (scheme : List Char) : Prop where
  head : ∃ first more, scheme = first :: more ∧ first.isAlpha = true
  all : ∀ c ∈ scheme, isSchemeChar c = true

theorem IsScheme.ne_nil (h : IsScheme scheme) : scheme ≠ [] := by
  obtain ⟨first, more, rfl, -⟩ := h.head
  exact List.cons_ne_nil _ _

theorem IsScheme.lower (h : IsScheme scheme) : IsScheme (lower scheme) := by
  obtain ⟨first, more, rfl, hfirst⟩ := h.head
  refine ⟨⟨first.toLower, Url.lower more, rfl, ?_⟩, ?_⟩
  · rw [← hfirst]
    exact forall_toLower (fun c d ↦ d.isAlpha = c.isAlpha) (fun _ ↦ rfl) (by decide) first
  · refine List.forall_mem_map.mpr fun c hc ↦ ?_
    rw [← h.all c hc]
    exact forall_toLower (fun c d ↦ isSchemeChar d = isSchemeChar c) (fun _ ↦ rfl) (by decide) c

theorem toNat_lt_of_isAlpha {c : Char} (h : c.isAlpha = true) : c.toNat < 0x80 := by
  rcases Bool.or_eq_true_iff.mp h with hupper | hlower
  · have hle : c.toNat ≤ 90 := (of_decide_eq_true hupper).2
    omega
  · have hle : c.toNat ≤ 122 := of_decide_eq_true (Bool.and_eq_true_iff.mp hlower).2
    omega

theorem toNat_lt_of_isDigit {c : Char} (h : c.isDigit = true) : c.toNat < 0x80 := by
  have hle : c.toNat ≤ 57 := (Char.isDigit_iff_toNat.mp h).2
  omega

theorem toNat_lt_of_isSchemeChar {c : Char} (h : isSchemeChar c = true) : c.toNat < 0x80 := by
  simp only [isSchemeChar, Bool.or_eq_true, beq_iff_eq] at h
  rcases h with (((halpha | hdigit) | rfl) | rfl) | rfl
  · exact toNat_lt_of_isAlpha halpha
  · exact toNat_lt_of_isDigit hdigit
  · decide
  · decide
  · decide

theorem IsScheme.lower_lower (h : IsScheme scheme) :
    Url.lower (Url.lower scheme) = Url.lower scheme :=
  map_toLower_map_toLower
    (Host.isAscii_iff.mpr fun c hc ↦ toNat_lt_of_isSchemeChar (h.all c hc))

/-- A scheme is read up to its colon, and put in lower case. -/
theorem takeScheme_append (h : IsScheme scheme) (rest : List Char) :
    takeScheme (scheme ++ ':' :: rest) = (lower scheme, rest) := by
  unfold takeScheme
  rw [takeWhile_append_cons h.all rfl, dropWhile_append_cons h.all rfl]
  obtain ⟨first, more, rfl, hfirst⟩ := h.head
  exact if_pos hfirst

/-- What is taken for a scheme is one. -/
theorem isScheme_of_takeWhile {first : Char} {more : List Char}
    (htake : text.takeWhile isSchemeChar = first :: more)
    (hdrop : text.dropWhile isSchemeChar = ':' :: rest) (hfirst : first.isAlpha = true) :
    IsScheme (first :: more) ∧ text = first :: more ++ ':' :: rest := by
  rw [← htake, ← hdrop, List.takeWhile_append_dropWhile]
  exact ⟨⟨⟨first, more, htake, hfirst⟩, List.all_eq_true.mp List.all_takeWhile⟩, rfl⟩

/-- What is taken for the scheme is in lower case. -/
theorem takeScheme_cases (text : List Char) :
    takeScheme text = ([], text) ∨ ∃ scheme rest, IsScheme scheme ∧
      text = scheme ++ ':' :: rest ∧ takeScheme text = (lower scheme, rest) := by
  unfold takeScheme
  simp only
  split
  · next first more behind htake hdrop =>
    split
    · next hfirst =>
      obtain ⟨hscheme, htext⟩ := isScheme_of_takeWhile htake hdrop hfirst
      exact .inr ⟨first :: more, behind, hscheme, htext, by rw [htake]; rfl⟩
    · exact .inl rfl
  · exact .inl rfl

theorem takeScheme_snd_subset (text : List Char) : (takeScheme text).2 ⊆ text := by
  rcases takeScheme_cases text with hnone | ⟨scheme, rest, -, htext, hsome⟩
  · rw [hnone]
    exact List.Subset.refl _
  · rw [hsome, htext]
    exact fun c hc ↦ List.mem_append_right _ (List.mem_cons_of_mem _ hc)

/-! ### Authorities -/

/-- The text cannot continue an authority. -/
def IsTail (tail : List Char) : Prop := ∀ c, tail.head? = some c → endsAuthority c = true

theorem isTail_nil : IsTail [] := by
  intro c hc
  cases hc

theorem isTail_cons {c : Char} (h : endsAuthority c = true) (rest : List Char) :
    IsTail (c :: rest) := by
  intro d hd
  obtain rfl := Option.some.inj hd
  exact h

/-- An authority ends where something is that can end it. -/
theorem takeWhile_append_tail (hauthority : ∀ c ∈ authority, endsAuthority c = false)
    (htail : IsTail tail) :
    (authority ++ tail).takeWhile (fun c ↦ !endsAuthority c) = authority := by
  have hall : ∀ c ∈ authority, (!endsAuthority c) = true := by
    intro c hc
    rw [hauthority c hc]
    rfl
  cases tail with
  | nil =>
    rw [List.takeWhile_append_of_pos hall]
    exact List.append_nil _
  | cons c rest =>
    refine takeWhile_append_cons hall ?_
    rw [htail c rfl]
    rfl

theorem dropWhile_append_tail (hauthority : ∀ c ∈ authority, endsAuthority c = false)
    (htail : IsTail tail) :
    (authority ++ tail).dropWhile (fun c ↦ !endsAuthority c) = tail := by
  have hsplit := List.takeWhile_append_dropWhile (p := fun c ↦ !endsAuthority c)
    (l := authority ++ tail)
  rw [takeWhile_append_tail hauthority htail] at hsplit
  exact List.append_cancel_left hsplit

theorem of_mem_takeAuthority (text : List Char) {c : Char} (h : c ∈ (takeAuthority text).1) :
    c ∈ text ∧ endsAuthority c = false := by
  unfold takeAuthority at h
  split at h
  · have hinside := List.all_eq_true.mp List.all_takeWhile c h
    rw [Bool.not_eq_true'] at hinside
    exact ⟨List.mem_cons_of_mem _ (List.mem_cons_of_mem _ (List.takeWhile_subset _ h)), hinside⟩
  · cases h

/-- The text consists of a scheme, an authority, and what follows the authority. -/
structure Written (text scheme authority tail : List Char) : Prop where
  text_eq : text = scheme ++ ':' :: '/' :: '/' :: (authority ++ tail)
  isScheme : IsScheme scheme
  inside : ∀ c ∈ authority, endsAuthority c = false
  isTail : IsTail tail

/-- The scheme of a written text is read from it. -/
theorem Written.takeScheme_eq (h : Written text scheme authority tail) :
    takeScheme text = (lower scheme, '/' :: '/' :: (authority ++ tail)) := by
  rw [h.text_eq, takeScheme_append h.isScheme]

/-- The authority of a written text is read from what is behind the scheme. -/
theorem Written.takeAuthority_eq (h : Written text scheme authority tail) :
    takeAuthority ('/' :: '/' :: (authority ++ tail)) = (authority, tail) := by
  rw [takeAuthority, takeWhile_append_tail h.inside h.isTail,
    dropWhile_append_tail h.inside h.isTail]

/-! ### Taking URLs apart -/

theorem lt_toNat_of_isSchemeChar {c : Char} (h : isSchemeChar c = true) : 0x20 < c.toNat :=
  forall_ascii (fun c ↦ isSchemeChar c = true → 0x20 < c.toNat) (by decide)
    (toNat_lt_of_isSchemeChar h) h

/-- The character is one of the blanks that are left out of a URL, wherever they stand. -/
def IsLeftOut (c : Char) : Prop := c = '\t' ∨ c = '\n' ∨ c = '\r'

instance (c : Char) : Decidable (IsLeftOut c) :=
  inferInstanceAs (Decidable (c = '\t' ∨ c = '\n' ∨ c = '\r'))

theorem decide_not_isLeftOut {c : Char} :
    decide (c ≠ '\t' ∧ c ≠ '\n' ∧ c ≠ '\r') = true ↔ ¬ IsLeftOut c := by
  rw [decide_eq_true_eq, IsLeftOut, not_or, not_or]

theorem of_mem_clean {c : Char} (h : c ∈ clean text) : c ∈ text ∧ ¬ IsLeftOut c := by
  obtain ⟨hmem, hkept⟩ := List.mem_filter.mp h
  exact ⟨List.dropWhile_subset _ hmem, decide_not_isLeftOut.mp hkept⟩

/-- A text without control characters has nothing to be left out. -/
theorem not_isLeftOut_of_isControl {c : Char} (h : SentUrl.isControl c = false) :
    ¬ IsLeftOut c := by
  rintro (rfl | rfl | rfl)
  · cases h
  · cases h
  · cases h

/-- A text with nothing to be left out stays what it is. -/
theorem Written.clean_eq (h : Written text scheme authority tail)
    (hkept : ∀ c ∈ text, ¬ IsLeftOut c) : clean text = text := by
  have hdrop : text.dropWhile (fun c ↦ c.toNat ≤ 0x20) = text := by
    obtain ⟨first, more, rfl, -⟩ := h.isScheme.head
    have hfirst := lt_toNat_of_isSchemeChar (h.isScheme.all first List.mem_cons_self)
    rw [h.text_eq, List.cons_append, List.dropWhile_cons_of_neg]
    simpa using hfirst
  rw [clean, hdrop, List.filter_eq_self]
  exact fun c hc ↦ decide_not_isLeftOut.mpr (hkept c hc)

/-- A written text is taken apart into its parts, if its authority passes the checks. -/
theorem parse_of_not_isLeftOut (h : Written text scheme authority tail)
    (hkept : ∀ c ∈ text, ¬ IsLeftOut c) :
    parse text = (do
      checkBrackets authority
      checkNormalization authority
      let (rest, fragment) := cutFirst '#' tail
      let (path, query) := cutFirst '?' rest
      return ⟨lower scheme, authority, path, query, fragment⟩) := by
  rw [parse, h.clean_eq hkept, h.takeScheme_eq]
  simp only [h.takeAuthority_eq]

/-- A written text without control characters is taken apart into its parts, if its authority passes
the checks. -/
theorem parse_of_written (h : Written text scheme authority tail)
    (hcontrol : text.any SentUrl.isControl = false) :
    parse text = (do
      checkBrackets authority
      checkNormalization authority
      let (rest, fragment) := cutFirst '#' tail
      let (path, query) := cutFirst '?' rest
      return ⟨lower scheme, authority, path, query, fragment⟩) :=
  parse_of_not_isLeftOut h fun c hc ↦
    not_isLeftOut_of_isControl (Bool.not_eq_true _ ▸ List.any_eq_false.mp hcontrol c hc)

/-- Only the scheme is put in lower case. -/
theorem lowerScheme_ofList (h : IsScheme scheme) (rest : List Char) :
    lowerScheme (String.ofList (scheme ++ ':' :: rest)) =
      String.ofList (lower scheme ++ ':' :: rest) := by
  rw [lowerScheme, String.toList_ofList, takeScheme_append h]
  exact if_neg h.lower.ne_nil

end Url

/-! ### Taking URLs apart for sending -/

namespace SentUrl

open Url

variable {text scheme authority tail rest : List Char}

theorem cutScheme_append (h : IsScheme scheme) (rest : List Char) :
    cutScheme (scheme ++ ':' :: rest) = (scheme, rest) := by
  unfold cutScheme
  rw [takeWhile_append_cons h.all rfl, dropWhile_append_cons h.all rfl]
  obtain ⟨first, more, rfl, hfirst⟩ := h.head
  exact if_pos hfirst

/-- The scheme that the library cuts off is one, and it is in front of a colon. -/
theorem isScheme_of_cutScheme (h : cutScheme text = (scheme, rest)) (hne : scheme ≠ []) :
    IsScheme scheme ∧ text = scheme ++ ':' :: rest := by
  unfold cutScheme at h
  split at h
  · obtain ⟨rfl, -⟩ := Prod.mk.inj h
    exact absurd rfl hne
  · next first more behind htake hdrop =>
    split at h
    · next hfirst =>
      obtain ⟨rfl, rfl⟩ := Prod.mk.inj h
      exact isScheme_of_takeWhile htake hdrop hfirst
    · obtain ⟨rfl, -⟩ := Prod.mk.inj h
      exact absurd rfl hne
  · obtain ⟨rfl, -⟩ := Prod.mk.inj h
    exact absurd rfl hne

/-- A text with a scheme and an authority for the library is written from them. -/
theorem written_of_takeAuthority (hscheme : cutScheme text = (scheme, rest))
    (hschemeNe : scheme ≠ []) (hauthority : takeAuthority rest = (authority, tail))
    (hauthorityNe : authority ≠ []) : Written text scheme authority tail := by
  obtain ⟨hisScheme, htext⟩ := isScheme_of_cutScheme hscheme hschemeNe
  unfold takeAuthority at hauthority
  split at hauthority
  · next behind =>
    obtain ⟨rfl, rfl⟩ := Prod.mk.inj hauthority
    refine ⟨?_, hisScheme, ?_, ?_⟩
    · rw [htext, List.takeWhile_append_dropWhile]
    · exact fun c hc ↦ (of_mem_takeAuthority ('/' :: '/' :: behind) hc).2
    · intro c hc
      have houtside := List.head?_dropWhile_not (fun c ↦ !endsAuthority c) behind
      rw [hc] at houtside
      simpa using houtside
  · obtain ⟨rfl, -⟩ := Prod.mk.inj hauthority
    exact absurd rfl hauthorityNe

/-- The library takes a written text apart into its parts, and may refuse its host or its port. -/
theorem parse?_of_written (h : Written text scheme authority tail)
    (hcontrol : text.any isControl = false) (hsize : text.length ≤ maximumSize) :
    parse? text = (do
      let path := tail.takeWhile fun c ↦ c != '?' && c != '#'
      let (query, rest) := cutMarked '?' (· == '#') (tail.drop path.length)
      let (fragment, _) := cutMarked '#' (fun _ ↦ false) rest
      let (userInfo, host, port) := splitAuthority authority
      let host ← sentHost? host
      let port ← sentPort? scheme port
      return {
        scheme := lower scheme
        userInfo := escape isUserInfoChar userInfo
        host
        port
        path := escape isPathChar (resolveSteps path)
        query := query.map (escape isQueryChar)
        fragment := fragment.map (escape isFragmentChar) }) := by
  have hadmitted : ¬ (maximumSize < text.length ∨ text.any isControl = true) := by
    rw [hcontrol, not_or]
    exact ⟨Nat.not_lt.mpr hsize, Bool.false_ne_true⟩
  have hne := h.isScheme.ne_nil
  rw [parse?, if_neg hadmitted, h.text_eq, cutScheme_append h.isScheme]
  simp only [h.takeAuthority_eq, hne, false_and, if_false]
  rfl

end SentUrl

end MeshAttest
