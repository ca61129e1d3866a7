import MeshAttest.Pdi
import MeshAttest.Proofs.Octets
import MeshAttest.Proofs.Text.Characters
import Mathlib.Data.List.Basic

/-!
# The text of a collection of PDIs

Messages show a collection of PDIs as hexadecimal texts, in order and separated by commas. It does
not matter whether the PDIs are put in order or their texts (`Pdi.format_eq_of_texts`). As the order
is fixed, a rearrangement of a collection has the same text. No other collection has it, for the
text can be cut up again at the commas (`Pdi.pieces_listed`). The one exception are PDIs without
octets: a text would not tell one of them from none.

The members of a set are in order anyway, and so the text of a set is its own
(`PdiSet.format_eq_format_iff`).
-/

set_option autoImplicit false

namespace MeshAttest

/-! ### The order of hexadecimal texts -/

namespace Bytes

/-- Digits are in the order of the numbers that they stand for. The letters come behind the decimal
digits in the alphabet, too. -/
theorem hexDigit_lt_hexDigit_iff {m n : Nat} (hm : m < 16) (hn : n < 16) :
    hexDigit m < hexDigit n ↔ m < n := by
  have hdigits : ∀ i < 16, ∀ j < 16, hexDigit i < hexDigit j ↔ i < j := by decide
  exact hdigits m hm n hn

theorem hexDigit_eq_hexDigit_iff {m n : Nat} (hm : m < 16) (hn : n < 16) :
    hexDigit m = hexDigit n ↔ m = n := by
  constructor
  · intro h
    have hvalue := congrArg hexValue? h
    rwa [hexValue?_hexDigit hm, hexValue?_hexDigit hn, Option.some.injEq] at hvalue
  · exact congrArg hexDigit

/-- The induction is on both byte strings. Of the two digits of an octet the higher one comes first,
so that they are in the order of the octets. -/
theorem hexChars_lt_hexChars_iff {bytes others : Bytes} :
    hexChars bytes < hexChars others ↔ bytes < others := by
  induction bytes generalizing others with
  | nil => cases others <;> simp [hexChars]
  | cons octet rest ih =>
    cases others with
    | nil => simp [hexChars]
    | cons other more =>
      have hlow : octet.toNat % 16 < 16 := Nat.mod_lt _ (by decide)
      have hotherLow : other.toNat % 16 < 16 := Nat.mod_lt _ (by decide)
      rw [hexChars_cons, hexChars_cons, List.cons_lt_cons_iff, List.cons_lt_cons_iff,
        List.cons_lt_cons_iff, ih, hexDigit_lt_hexDigit_iff (octet_div_lt _) (octet_div_lt _),
        hexDigit_eq_hexDigit_iff (octet_div_lt _) (octet_div_lt _),
        hexDigit_lt_hexDigit_iff hlow hotherLow, hexDigit_eq_hexDigit_iff hlow hotherLow,
        UInt8.lt_iff_toNat_lt, ← UInt8.toNat_inj]
      by_cases hrest : rest < more
      · simp only [hrest, and_true]
        omega
      · simp only [hrest, and_false, or_false]
        omega

/-- Hexadecimal texts are in the order of the octets. -/
theorem hex_lt_hex_iff {bytes others : Bytes} : bytes.hex < others.hex ↔ bytes < others := by
  change bytes.hex.toList < others.hex.toList ↔ _
  rw [hex, hex, String.toList_ofList, String.toList_ofList, hexChars_lt_hexChars_iff]

theorem hex_le_hex_iff {bytes others : Bytes} : bytes.hex ≤ others.hex ↔ bytes ≤ others :=
  not_congr hex_lt_hex_iff

/-- Different octets have different texts. -/
theorem hexChars_injective : Function.Injective hexChars := by
  intro bytes others h
  have hread := congrArg ofHexChars? h
  rwa [ofHexChars?_hexChars, ofHexChars?_hexChars, Option.some.injEq] at hread

theorem not_mem_hexChars {c : Char} (h : ¬ IsLowerHexDigit c) (bytes : Bytes) :
    c ∉ hexChars bytes :=
  fun hmem ↦ h (isLowerHexDigit_of_mem_hexChars hmem)

end Bytes

namespace Pdi

variable {pdis others : List Pdi}

/-! ### The order of a collection -/

/-- The PDIs of a collection in increasing order. -/
def ordered (pdis : List Pdi) : List Pdi := pdis.mergeSort fun p q ↦ decide (p ≤ q)

theorem ordered_perm (pdis : List Pdi) : (ordered pdis).Perm pdis := List.mergeSort_perm _ _

theorem pairwise_ordered (pdis : List Pdi) : (ordered pdis).Pairwise (· ≤ ·) := by
  have htrans : ∀ p q r : Pdi, decide (p ≤ q) = true → decide (q ≤ r) = true →
      decide (p ≤ r) = true := fun p q r hpq hqr ↦
    decide_eq_true (List.le_trans (of_decide_eq_true hpq) (of_decide_eq_true hqr))
  have htotal : ∀ p q : Pdi, (decide (p ≤ q) || decide (q ≤ p)) = true := by
    intro p q
    simpa using List.le_total p q
  exact (List.pairwise_mergeSort htrans htotal pdis).imp of_decide_eq_true

/-- Two lists have the same order exactly if they are rearrangements of each other. -/
theorem ordered_eq_ordered_iff : ordered pdis = ordered others ↔ pdis.Perm others := by
  constructor
  · intro h
    exact (ordered_perm pdis).symm.trans (h ▸ ordered_perm others)
  · intro h
    refine List.Perm.eq_of_pairwise (fun p q _ _ hpq hqp ↦ List.le_antisymm hpq hqp)
      (pairwise_ordered pdis) (pairwise_ordered others) ?_
    exact (ordered_perm pdis).trans (h.trans (ordered_perm others).symm)

/-- The texts of PDIs in order are the texts in order. -/
theorem map_hex_ordered (pdis : List Pdi) :
    (ordered pdis).map Bytes.hex = (pdis.map Bytes.hex).mergeSort fun s t ↦ decide (s ≤ t) :=
  List.map_mergeSort fun _ _ _ _ ↦ decide_eq_decide.mpr Bytes.hex_le_hex_iff.symm

/-! ### The text of a collection -/

/-- The text has the hexadecimal texts of the PDIs in the order of the PDIs. Whether these or the
texts are put in order makes no difference. -/
theorem format_eq (pdis : List Pdi) :
    format pdis = "\x7b" ++ ", ".intercalate ((ordered pdis).map Bytes.hex) ++ "\x7d" := rfl

/-- The text shows the PDIs of a list in byte-wise increasing order. -/
def IsWrittenAs (pdis : List Pdi) (text : String) : Prop :=
  ∃ increasing : List Pdi, increasing.Perm pdis ∧ increasing.Pairwise (· ≤ ·) ∧
    text = "\x7b" ++ ", ".intercalate (increasing.map Bytes.hex) ++ "\x7d"

/-- The text of a list shows its PDIs in increasing order. -/
theorem isWrittenAs_format (pdis : List Pdi) : IsWrittenAs pdis (format pdis) :=
  ⟨ordered pdis, ordered_perm pdis, pairwise_ordered pdis, rfl⟩

/-- It does not matter whether PDIs are put in order or their texts. -/
theorem format_eq_of_texts (pdis : List Pdi) :
    format pdis = "\x7b" ++
      ", ".intercalate ((pdis.map Bytes.hex).mergeSort fun s t ↦ decide (s ≤ t)) ++ "\x7d" := by
  rw [format_eq, map_hex_ordered]

/-- The texts of PDIs as they stand between the braces. -/
def listed (pdis : List Pdi) : List Char := [',', ' '].intercalate (pdis.map Bytes.hexChars)

theorem toList_format (pdis : List Pdi) :
    (format pdis).toList = '{' :: (listed (ordered pdis) ++ ['}']) := by
  have htexts : ((ordered pdis).map Bytes.hex).map String.toList =
      (ordered pdis).map Bytes.hexChars := by
    rw [List.map_map]
    exact List.map_congr_left fun p _ ↦ String.toList_ofList
  rw [format_eq, String.toList_append, String.toList_append, String.toList_intercalate, htexts]
  rfl

/-- Two texts are equal exactly if they have the same characters between the braces. -/
theorem format_eq_format_iff_listed :
    format pdis = format others ↔ listed (ordered pdis) = listed (ordered others) := by
  rw [← String.toList_inj, toList_format, toList_format, List.cons_inj_right,
    List.append_cancel_right_eq]

theorem listed_cons_cons (p q : Pdi) (rest : List Pdi) :
    listed (p :: q :: rest) = Bytes.hexChars p ++ (',' :: ' ' :: listed (q :: rest)) := by
  simp [listed, List.intercalate_cons_cons]

/-- The induction is on the PDIs behind the first one. Commas stand between the texts and nowhere
else. -/
theorem pieces_listed (p : Pdi) (rest : List Pdi) :
    Text.pieces ',' (listed (p :: rest)) =
      Bytes.hexChars p :: rest.map fun q ↦ ' ' :: Bytes.hexChars q := by
  have hcomma : ∀ p : Pdi, ',' ∉ Bytes.hexChars p :=
    Bytes.not_mem_hexChars (by unfold Bytes.IsLowerHexDigit; decide)
  induction rest generalizing p with
  | nil =>
    have hlisted : listed [p] = Bytes.hexChars p := by simp [listed]
    rw [hlisted, Text.pieces_of_not_mem (hcomma p), List.map_nil]
  | cons q rest ih =>
    have hblank : ' ' ≠ ',' := by decide
    obtain ⟨piece, others, hrest, hpieces⟩ :=
      Text.exists_pieces_cons_of_ne hblank (listed (q :: rest))
    obtain ⟨rfl, rfl⟩ := List.cons.inj (hrest.symm.trans (ih q))
    rw [listed_cons_cons, Text.pieces_append_cons (hcomma p), hpieces, List.map_cons]

/-- Between the braces there are digits, commas and blanks only. -/
theorem not_mem_listed {c : Char} (hdigit : ¬ Bytes.IsLowerHexDigit c) (hcomma : c ≠ ',')
    (hblank : c ≠ ' ') (pdis : List Pdi) : c ∉ listed pdis := by
  cases pdis with
  | nil => exact List.not_mem_nil
  | cons p rest =>
    intro hmem
    rcases Text.mem_or_mem_pieces hmem with hself | ⟨piece, hpiece, hc⟩
    · exact hcomma hself
    · rw [pieces_listed, List.mem_cons, List.mem_map] at hpiece
      rcases hpiece with rfl | ⟨q, -, rfl⟩
      · exact Bytes.not_mem_hexChars hdigit p hc
      · rcases List.mem_cons.mp hc with hself | hq
        · exact hblank hself
        · exact Bytes.not_mem_hexChars hdigit q hq

theorem listed_eq_nil_iff (h : [] ∉ pdis) : listed pdis = [] ↔ pdis = [] := by
  constructor
  · intro hlisted
    cases pdis with
    | nil => rfl
    | cons p rest =>
      have hpieces := pieces_listed p rest
      rw [hlisted] at hpieces
      obtain ⟨hp, -⟩ := List.cons.inj hpieces
      have hempty : p = [] := Bytes.hexChars_injective hp.symm
      exact absurd List.mem_cons_self (hempty ▸ h)
  · rintro rfl
    rfl

/-- What stands between the braces determines the PDIs and their order, if none of them is empty. -/
theorem listed_inj (h : [] ∉ pdis) (hothers : [] ∉ others) (hsame : listed pdis = listed others) :
    pdis = others := by
  cases pdis with
  | nil => exact ((listed_eq_nil_iff hothers).mp hsame.symm).symm
  | cons p rest =>
    cases others with
    | nil => exact (listed_eq_nil_iff h).mp hsame
    | cons q more =>
      have hpieces := pieces_listed p rest
      rw [hsame, pieces_listed, List.cons.injEq] at hpieces
      have hmarked : Function.Injective fun p : Pdi ↦ ' ' :: Bytes.hexChars p :=
        fun _ _ hsame ↦ Bytes.hexChars_injective (List.cons.inj hsame).2
      rw [Bytes.hexChars_injective hpieces.1, hmarked.list_map hpieces.2]

/-- Texts of collections are the same exactly if the collections are rearrangements of each
other. -/
theorem format_eq_format_iff (h : [] ∉ pdis) (hothers : [] ∉ others) :
    format pdis = format others ↔ pdis.Perm others := by
  rw [format_eq_format_iff_listed, ← ordered_eq_ordered_iff]
  constructor
  · refine listed_inj ?_ ?_
    · exact mt (ordered_perm pdis).mem_iff.mp h
    · exact mt (ordered_perm others).mem_iff.mp hothers
  · exact congrArg listed

/-- All of the PDIs have the size of those in reports. -/
def AllSized (pdis : List Pdi) : Prop := ∀ p ∈ pdis, p.length = size

theorem AllSized.nil_not_mem (h : AllSized pdis) : [] ∉ pdis := by
  intro hmem
  exact absurd (h [] hmem) (by decide)

end Pdi

/-! ### The text of a set -/

namespace PdiSet

variable {set other : PdiSet}

/-- The list of a set is in order already. -/
theorem ordered_toList (set : PdiSet) : Pdi.ordered set.toList = set.toList :=
  List.mergeSort_of_pairwise (set.increasing.imp fun hlt ↦ decide_eq_true (List.le_of_lt hlt))

theorem toList_format (set : PdiSet) :
    set.format.toList = '{' :: (Pdi.listed set.toList ++ ['}']) := by
  rw [format, Pdi.toList_format, ordered_toList]

/-- Sets are equal if their lists are rearrangements of each other. -/
theorem perm_toList_iff : set.toList.Perm other.toList ↔ set = other := by
  constructor
  · intro h
    exact ext fun p ↦ h.mem_iff
  · rintro rfl
    exact List.Perm.refl _

/-- Sets of PDIs of the right size have the same text exactly if they are equal. -/
theorem format_eq_format_iff (h : Pdi.AllSized set.toList) (hother : Pdi.AllSized other.toList) :
    set.format = other.format ↔ set = other := by
  rw [format, format, Pdi.format_eq_format_iff h.nil_not_mem hother.nil_not_mem, perm_toList_iff]

/-- What stands between the braces is enough to tell sets of PDIs of the right size apart. -/
theorem listed_toList_inj (h : Pdi.AllSized set.toList) (hother : Pdi.AllSized other.toList)
    (hsame : Pdi.listed set.toList = Pdi.listed other.toList) : set = other := by
  rw [← perm_toList_iff, Pdi.listed_inj h.nil_not_mem hother.nil_not_mem hsame]

end PdiSet

end MeshAttest
