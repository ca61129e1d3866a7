import MeshAttest.Host.Name
import MeshAttest.Text.Lowercase
import MeshAttest.Text.Split

/-!
# ASCII characters and split texts

What holds of each of the 128 ASCII characters holds of every character of an ASCII text
(`Text.forall_ascii`), in which lower case is a matter of single characters
(`Text.lowercase_of_isAscii`). As `Char.toLower` leaves all other characters alone, what it does to
a character is known as well from the 128 cases (`Text.forall_toLower`). The other lemmas say where
texts are split: at the last occurrence of a character, and at every one.
-/

set_option autoImplicit false

namespace MeshAttest

/-! ### ASCII -/

namespace Text

/-- What holds of the first 128 characters holds of any character in ASCII. -/
theorem forall_ascii (P : Char → Prop) [DecidablePred P] (h : ∀ n < 0x80, P (Char.ofNat n))
    {c : Char} (hc : c.toNat < 0x80) : P c := by
  have hof := h c.toNat hc
  rwa [Char.ofNat_toNat] at hof

end Text

theorem Host.isAscii_iff {chars : List Char} :
    isAscii chars = true ↔ ∀ c ∈ chars, c.toNat < 0x80 := by
  simp only [isAscii, List.all_eq_true, decide_eq_true_eq]

theorem Host.isAscii_append {chars others : List Char} :
    isAscii (chars ++ others) = true ↔ isAscii chars = true ∧ isAscii others = true := by
  rw [isAscii, List.all_append, Bool.and_eq_true, isAscii, isAscii]

namespace Text

theorem toNat_toLower_lt {c : Char} (h : c.toNat < 0x80) : c.toLower.toNat < 0x80 :=
  forall_ascii (fun c ↦ c.toLower.toNat < 0x80) (by decide) h

theorem toLower_toLower {c : Char} (h : c.toNat < 0x80) : c.toLower.toLower = c.toLower :=
  forall_ascii (fun c ↦ c.toLower.toLower = c.toLower) (by decide) h

/-- Only characters in ASCII change their case here. -/
theorem toLower_of_le {c : Char} (h : 0x80 ≤ c.toNat) : c.toLower = c := by
  unfold Char.toLower
  refine dif_neg fun hupper ↦ ?_
  have hle : c.toNat ≤ 90 := hupper.2
  omega

/-- What relates a character to itself, and those in ASCII to their lower case, relates any
character to its lower case. -/
theorem forall_toLower (P : Char → Char → Prop) [∀ c d, Decidable (P c d)] (hself : ∀ c, P c c)
    (h : ∀ n < 0x80, P (Char.ofNat n) (Char.ofNat n).toLower) (c : Char) : P c c.toLower := by
  by_cases hc : c.toNat < 0x80
  · exact forall_ascii (fun c ↦ P c c.toLower) h hc
  · rw [toLower_of_le (Nat.le_of_not_lt hc)]
    exact hself c

theorem map_toLower_map_toLower {chars : List Char} (h : Host.isAscii chars = true) :
    (chars.map Char.toLower).map Char.toLower = chars.map Char.toLower := by
  rw [List.map_map]
  exact List.map_congr_left fun c hc ↦ toLower_toLower (Host.isAscii_iff.mp h c hc)

theorem lowercaseAfter_of_isAscii {chars : List Char} (h : Host.isAscii chars = true)
    (before : List Char) : lowercaseAfter before chars = chars.map Char.toLower := by
  induction chars generalizing before with
  | nil => rfl
  | cons c rest ih =>
    obtain ⟨hc, hrest⟩ := List.forall_mem_cons.mp (Host.isAscii_iff.mp h)
    have hdotted : c ≠ 'İ' := by
      rintro rfl
      exact absurd hc (by decide)
    have hsigma : c ≠ 'Σ' := by
      rintro rfl
      exact absurd hc (by decide)
    rw [lowercaseAfter, if_neg hdotted, if_neg hsigma, lowerChar, if_pos hc,
      ih (Host.isAscii_iff.mpr hrest)]
    rfl

/-- In ASCII a text is put in lower case character by character. -/
theorem lowercase_of_isAscii {chars : List Char} (h : Host.isAscii chars = true) :
    lowercase chars = chars.map Char.toLower :=
  lowercaseAfter_of_isAscii h []

/-! ### Splitting -/

theorem takeWhile_append_cons {p : Char → Bool} {before after : List Char} {c : Char}
    (hbefore : ∀ d ∈ before, p d = true) (hc : p c = false) :
    (before ++ c :: after).takeWhile p = before := by
  rw [List.takeWhile_append_of_pos hbefore, List.takeWhile_cons_of_neg (by rw [hc]; decide),
    List.append_nil]

theorem dropWhile_append_cons {p : Char → Bool} {before after : List Char} {c : Char}
    (hbefore : ∀ d ∈ before, p d = true) (hc : p c = false) :
    (before ++ c :: after).dropWhile p = c :: after := by
  rw [List.dropWhile_append_of_pos hbefore, List.dropWhile_cons_of_neg (by rw [hc]; decide)]

theorem decide_ne_of_not_mem {c : Char} {chars : List Char} (habsent : c ∉ chars) :
    ∀ d ∈ chars, decide (d ≠ c) = true := by
  intro d hd
  rw [decide_eq_true_eq]
  rintro rfl
  exact habsent hd

theorem not_mem_takeWhile_ne (c : Char) (chars : List Char) : c ∉ chars.takeWhile (· ≠ c) := by
  intro hmem
  have hne := List.all_eq_true.mp List.all_takeWhile c hmem
  rw [decide_eq_true_eq] at hne
  exact hne rfl

/-- The part of a text in front of a character, and the part that begins with it. -/
theorem takeWhile_ne_append {c : Char} {front back : List Char} (hfront : c ∉ front)
    (hback : back = [] ∨ back.head? = some c) :
    (front ++ back).takeWhile (· ≠ c) = front ∧ (front ++ back).dropWhile (· ≠ c) = back := by
  have hall := decide_ne_of_not_mem hfront
  rcases hback with rfl | hhead
  · rw [List.takeWhile_append_of_pos hall, List.dropWhile_append_of_pos hall, List.takeWhile_nil,
      List.append_nil]
    exact ⟨rfl, rfl⟩
  · obtain ⟨rest, rfl⟩ := List.head?_eq_some_iff.mp hhead
    exact ⟨takeWhile_append_cons hall (by simp), dropWhile_append_cons hall (by simp)⟩

/-- What is left of a text from a character on starts with this character, if there is anything. -/
theorem head?_dropWhile_ne (c : Char) (chars : List Char) :
    chars.dropWhile (· ≠ c) = [] ∨ (chars.dropWhile (· ≠ c)).head? = some c := by
  cases hback : chars.dropWhile (· ≠ c) with
  | nil => exact .inl rfl
  | cons first rest =>
    have hfirst := List.head?_dropWhile_not (· ≠ c) chars
    rw [hback] at hfirst
    right
    simpa using hfirst

theorem afterLast_of_not_mem {c : Char} {chars : List Char} (habsent : c ∉ chars) :
    afterLast c chars = chars := by
  have hall := decide_ne_of_not_mem fun hmem ↦ habsent (List.mem_reverse.mp hmem)
  have htake : (chars.reverse ++ []).takeWhile (· ≠ c) = chars.reverse ++ [].takeWhile (· ≠ c) :=
    List.takeWhile_append_of_pos hall
  rw [List.append_nil, List.takeWhile_nil, List.append_nil] at htake
  rw [afterLast, htake, List.reverse_reverse]

/-- What stands behind a character and does not have it stands behind its last occurrence. -/
theorem afterLast_append {c : Char} {after : List Char} (habsent : c ∉ after)
    (before : List Char) : afterLast c (before ++ c :: after) = after := by
  have hall := decide_ne_of_not_mem fun hmem ↦ habsent (List.mem_reverse.mp hmem)
  rw [afterLast, List.reverse_append, List.reverse_cons, List.append_assoc, List.singleton_append,
    takeWhile_append_cons hall (by simp), List.reverse_reverse]

theorem not_mem_afterLast (c : Char) (chars : List Char) : c ∉ afterLast c chars :=
  fun hmem ↦ not_mem_takeWhile_ne c chars.reverse (List.mem_reverse.mp hmem)

/-! ### Pieces -/

theorem pieces_ne_nil (c : Char) (chars : List Char) : pieces c chars ≠ [] := by
  cases chars with
  | nil => exact List.cons_ne_nil _ _
  | cons first rest =>
    unfold pieces
    split
    · exact List.cons_ne_nil _ _
    · split
      · exact List.cons_ne_nil _ _
      · exact List.cons_ne_nil _ _

theorem pieces_cons_self (c : Char) (rest : List Char) :
    pieces c (c :: rest) = [] :: pieces c rest :=
  if_pos rfl

/-- A character at the start that is no separator belongs to the first piece. -/
theorem exists_pieces_cons_of_ne {c first : Char} (h : first ≠ c) (rest : List Char) :
    ∃ piece others, pieces c rest = piece :: others ∧
      pieces c (first :: rest) = (first :: piece) :: others := by
  rw [pieces, if_neg h]
  cases hrest : pieces c rest with
  | nil => exact absurd hrest (pieces_ne_nil c rest)
  | cons piece others => exact ⟨piece, others, rfl, rfl⟩

/-- The induction is on the text, as for all facts about pieces. -/
theorem pieces_of_not_mem {c : Char} {chars : List Char} (h : c ∉ chars) :
    pieces c chars = [chars] := by
  induction chars with
  | nil => rfl
  | cons first rest ih =>
    rw [List.mem_cons, not_or] at h
    obtain ⟨piece, others, hrest, hpieces⟩ := exists_pieces_cons_of_ne (Ne.symm h.1) rest
    rw [ih h.2] at hrest
    obtain ⟨rfl, rfl⟩ := List.cons.inj hrest
    exact hpieces

/-- A text without the character is put in front of the first piece. -/
theorem exists_pieces_append {c : Char} {front : List Char} (h : c ∉ front) (rest : List Char) :
    ∃ piece others, pieces c rest = piece :: others ∧
      pieces c (front ++ rest) = (front ++ piece) :: others := by
  induction front with
  | nil =>
    obtain ⟨piece, others, hrest⟩ := List.exists_cons_of_ne_nil (pieces_ne_nil c rest)
    exact ⟨piece, others, hrest, hrest⟩
  | cons first front ih =>
    rw [List.mem_cons, not_or] at h
    obtain ⟨piece, others, hrest, hfront⟩ := ih h.2
    obtain ⟨next, more, hnext, hpieces⟩ := exists_pieces_cons_of_ne (Ne.symm h.1) (front ++ rest)
    obtain ⟨rfl, rfl⟩ := List.cons.inj (hfront.symm.trans hnext)
    exact ⟨piece, others, hrest, hpieces⟩

/-- A text without the separator is a piece if the separator follows it. -/
theorem pieces_append_cons {c : Char} {front : List Char} (h : c ∉ front) (rest : List Char) :
    pieces c (front ++ c :: rest) = front :: pieces c rest := by
  obtain ⟨piece, others, hrest, hpieces⟩ := exists_pieces_append h (c :: rest)
  obtain ⟨rfl, rfl⟩ := List.cons.inj (hrest.symm.trans (pieces_cons_self c rest))
  rw [hpieces, List.append_nil]

/-- Every character is a separator or in a piece. -/
theorem mem_or_mem_pieces {c d : Char} {chars : List Char} (h : d ∈ chars) :
    d = c ∨ ∃ piece ∈ pieces c chars, d ∈ piece := by
  induction chars with
  | nil => cases h
  | cons first rest ih =>
    by_cases hfirst : first = c
    · subst hfirst
      rw [pieces_cons_self]
      rcases List.mem_cons.mp h with rfl | hrest
      · exact .inl rfl
      · rcases ih hrest with hself | ⟨piece, hpiece, hmem⟩
        · exact .inl hself
        · exact .inr ⟨piece, List.mem_cons_of_mem _ hpiece, hmem⟩
    · obtain ⟨piece, others, hrest, hpieces⟩ := exists_pieces_cons_of_ne hfirst rest
      rw [hpieces]
      rcases List.mem_cons.mp h with rfl | hmem
      · exact .inr ⟨_, List.mem_cons_self, List.mem_cons_self⟩
      · rcases ih hmem with hself | ⟨other, hother, hmem⟩
        · exact .inl hself
        · rw [hrest] at hother
          rcases List.mem_cons.mp hother with rfl | hother
          · exact .inr ⟨_, List.mem_cons_self, List.mem_cons_of_mem _ hmem⟩
          · exact .inr ⟨other, List.mem_cons_of_mem _ hother, hmem⟩

/-- Pieces can be changed character by character if no separator comes or goes by the change. -/
theorem pieces_map {c : Char} {f : Char → Char} {chars : List Char}
    (h : ∀ d ∈ chars, f d = c ↔ d = c) :
    pieces c (chars.map f) = (pieces c chars).map (List.map f) := by
  induction chars with
  | nil => rfl
  | cons first rest ih =>
    obtain ⟨hfirst, hrest⟩ := List.forall_mem_cons.mp h
    rw [List.map_cons, pieces, pieces, ih hrest]
    by_cases heq : first = c
    · rw [if_pos heq, if_pos (hfirst.mpr heq)]
      rfl
    · rw [if_neg heq, if_neg fun hsame ↦ heq (hfirst.mp hsame)]
      cases pieces c rest with
      | nil => rfl
      | cons piece others => rfl

end Text

end MeshAttest
