import MeshAttest.Base64
import Mathlib.Tactic.IntervalCases

/-!
# Octets written as text

Octets are submitted as text, nonces in hexadecimal and evidence in base64. Both forms can be read
back: `Bytes.ofHex?_hex` and `Base64.decode_encode`. The reader of base64 is the strict one, which
refuses whatever is not in whole groups. It takes the text character by character and turns it into
sextets, so the proof goes through the sextets of octets (`Base64.sextets`): they are what is read
from the text, and what the octets are put together from. The segments of tokens are read through
sextets as well, so that any octets can be written as a segment (`Base64.decodeSegment?_segment`).
-/

set_option autoImplicit false

namespace MeshAttest

/-! ### Hexadecimal text -/

namespace Bytes

/-- The character is a hexadecimal digit, and in lower case. -/
def IsLowerHexDigit (c : Char) : Prop := ('0' ≤ c ∧ c ≤ '9') ∨ ('a' ≤ c ∧ c ≤ 'f')

theorem isLowerHexDigit_hexDigit {n : Nat} (h : n < 16) : IsLowerHexDigit (hexDigit n) := by
  unfold IsLowerHexDigit
  interval_cases n <;> decide

theorem hexValue?_hexDigit {n : Nat} (h : n < 16) : hexValue? (hexDigit n) = some n := by
  interval_cases n <;> rfl

theorem hexChars_cons (octet : UInt8) (rest : Bytes) :
    hexChars (octet :: rest) =
      hexDigit (octet.toNat / 16) :: hexDigit (octet.toNat % 16) :: hexChars rest := rfl

theorem octet_div_lt (octet : UInt8) : octet.toNat / 16 < 16 := by
  have hlt := octet.toNat_lt
  omega

theorem ofHexChars?_hexChars (bytes : Bytes) : ofHexChars? (hexChars bytes) = some bytes := by
  induction bytes with
  | nil => rfl
  | cons octet rest ih =>
    have hlow : octet.toNat % 16 < 16 := Nat.mod_lt _ (by decide)
    have hjoined : 16 * (octet.toNat / 16) + octet.toNat % 16 = octet.toNat := Nat.div_add_mod _ _
    rw [hexChars_cons, ofHexChars?, hexValue?_hexDigit (octet_div_lt octet),
      hexValue?_hexDigit hlow, ih]
    change some (UInt8.ofNat (16 * (octet.toNat / 16) + octet.toNat % 16) :: rest) = _
    rw [hjoined, UInt8.ofNat_toNat]

/-- Octets can be read back from their hexadecimal text. -/
theorem ofHex?_hex (bytes : Bytes) : ofHex? bytes.hex = some bytes := by
  rw [ofHex?, hex, String.toList_ofList, ofHexChars?_hexChars]

/-- Two digits are written for each octet. -/
theorem length_hexChars (bytes : Bytes) : (hexChars bytes).length = 2 * bytes.length := by
  induction bytes with
  | nil => rfl
  | cons octet rest ih =>
    rw [hexChars_cons, List.length_cons, List.length_cons, List.length_cons, ih]
    omega

/-- A hexadecimal text has digits in lower case and nothing else in it. -/
theorem isLowerHexDigit_of_mem_hexChars {bytes : Bytes} {c : Char} (h : c ∈ hexChars bytes) :
    IsLowerHexDigit c := by
  obtain ⟨octet, -, hc⟩ := List.mem_flatMap.mp h
  rw [List.mem_cons, List.mem_singleton] at hc
  rcases hc with rfl | rfl
  · exact isLowerHexDigit_hexDigit (octet_div_lt octet)
  · exact isLowerHexDigit_hexDigit (Nat.mod_lt _ (by decide))

end Bytes

/-! ### Base64 text -/

namespace Base64

/-- The sextets of octets. Bits are filled up with zeros in the last one. -/
def sextets : Bytes → List Nat
  | a :: b :: c :: rest =>
    a.toNat / 4 :: (a.toNat % 4 * 16 + b.toNat / 16) :: (b.toNat % 16 * 4 + c.toNat / 64)
      :: c.toNat % 64 :: sextets rest
  | [a, b] => [a.toNat / 4, a.toNat % 4 * 16 + b.toNat / 16, b.toNat % 16 * 4]
  | [a] => [a.toNat / 4, a.toNat % 4 * 16]
  | [] => []

/-- A character of the alphabet is read back as the sextet for which it was written. -/
theorem sextet?_character {n : Nat} (h : n < 64) :
    Alphabet.standard.sextet? (character n) = some n := by
  interval_cases n <;> rfl

theorem character_ne_padding {n : Nat} (h : n < 64) : character n ≠ '=' := by
  interval_cases n <;> decide

theorem toNat_character_lt {n : Nat} (h : n < 64) : (character n).toNat < 0x80 := by
  interval_cases n <;> decide

/-- The strict reader takes a character of the alphabet as one more sextet, and padding in front of
it does not count any longer. -/
theorem sextetsFrom_character {n : Nat} (h : n < 64) (done : List Nat) (count pads : Nat)
    (rest : List Char) :
    sextetsFrom done count pads false (character n :: rest) =
      sextetsFrom (n :: done) (count + 1) 0 false rest := by
  rw [sextetsFrom, sextet?_character h]
  · rfl
  · intro hpadding
    exact absurd hpadding (character_ne_padding h)

/-- The induction is on the octets, three at a time. Their four characters take the reader from one
whole group to the next; padding, if there is any, ends the last one. -/
theorem sextetsFrom_encodeChars (octets : Bytes) (done : List Nat) (count : Nat)
    (hcount : count % 4 = 0) :
    sextetsFrom done count 0 false (encodeChars octets) = .ok (done.reverse ++ sextets octets) := by
  induction octets using encodeChars.induct generalizing done count with
  | case1 a b c rest ih =>
    have ha := a.toNat_lt
    have hb := b.toNat_lt
    have hc := c.toNat_lt
    rw [encodeChars, sextets, sextetsFrom_character (by omega), sextetsFrom_character (by omega),
      sextetsFrom_character (by omega), sextetsFrom_character (by omega), ih _ _ (by omega)]
    simp
  | case2 a b =>
    have ha := a.toNat_lt
    have hb := b.toNat_lt
    rw [encodeChars, sextets, sextetsFrom_character (by omega), sextetsFrom_character (by omega),
      sextetsFrom_character (by omega), sextetsFrom, if_neg (by omega), if_neg (by omega)]
    simp
  | case3 a =>
    have ha := a.toNat_lt
    rw [encodeChars, sextets, sextetsFrom_character (by omega), sextetsFrom_character (by omega),
      sextetsFrom, if_neg (by omega), if_pos (by omega), sextetsFrom, if_neg (by omega),
      if_neg (by omega)]
    simp
  | case4 =>
    rw [encodeChars, sextets, sextetsFrom, if_pos hcount, List.append_nil]

/-- Octets can be put together again from their sextets, those of an incomplete group at the end
included. -/
theorem toOctets_sextets (octets : Bytes) : toOctets (sextets octets) = octets := by
  -- A group has three octets. The last one may have two or one, with bits to spare.
  induction octets using sextets.induct with
  | case1 a b c rest ih =>
    have ha : a.toNat / 4 * 4 + (a.toNat % 4 * 16 + b.toNat / 16) / 16 = a.toNat := by
      have := b.toNat_lt
      omega
    have hb : (a.toNat % 4 * 16 + b.toNat / 16) % 16 * 16
        + (b.toNat % 16 * 4 + c.toNat / 64) / 4 = b.toNat := by
      have := b.toNat_lt
      have := c.toNat_lt
      omega
    have hc : (b.toNat % 16 * 4 + c.toNat / 64) % 4 * 64 + c.toNat % 64 = c.toNat := by
      have := c.toNat_lt
      omega
    rw [sextets, toOctets, ha, hb, hc, ih, UInt8.ofNat_toNat, UInt8.ofNat_toNat, UInt8.ofNat_toNat]
  | case2 a b =>
    have ha : a.toNat / 4 * 4 + (a.toNat % 4 * 16 + b.toNat / 16) / 16 = a.toNat := by
      have := b.toNat_lt
      omega
    have hb : (a.toNat % 4 * 16 + b.toNat / 16) % 16 * 16 + b.toNat % 16 * 4 / 4 = b.toNat := by
      have := b.toNat_lt
      omega
    rw [sextets, toOctets, ha, hb, UInt8.ofNat_toNat, UInt8.ofNat_toNat]
  | case3 a =>
    have ha : a.toNat / 4 * 4 + a.toNat % 4 * 16 / 16 = a.toNat := by
      omega
    rw [sextets, toOctets, ha, UInt8.ofNat_toNat]
  | case4 => rfl

/-- Text in base64 is ASCII. -/
theorem toNat_lt_of_mem_encodeChars {octets : Bytes} {c : Char} (h : c ∈ encodeChars octets) :
    c.toNat < 0x80 := by
  induction octets using encodeChars.induct with
  | case1 x y z rest ih =>
    have hx := x.toNat_lt
    have hy := y.toNat_lt
    have hz := z.toNat_lt
    simp only [encodeChars, List.mem_cons] at h
    rcases h with rfl | rfl | rfl | rfl | h
    · exact toNat_character_lt (by omega)
    · exact toNat_character_lt (by omega)
    · exact toNat_character_lt (by omega)
    · exact toNat_character_lt (by omega)
    · exact ih h
  | case2 x y =>
    have hx := x.toNat_lt
    have hy := y.toNat_lt
    simp only [encodeChars, List.mem_cons, List.not_mem_nil, or_false] at h
    rcases h with rfl | rfl | rfl | rfl
    · exact toNat_character_lt (by omega)
    · exact toNat_character_lt (by omega)
    · exact toNat_character_lt (by omega)
    · decide
  | case3 x =>
    have hx := x.toNat_lt
    simp only [encodeChars, List.mem_cons, List.not_mem_nil, or_false] at h
    rcases h with rfl | rfl | rfl | rfl
    · exact toNat_character_lt (by omega)
    · exact toNat_character_lt (by omega)
    · decide
    · decide
  | case4 => cases h

/-- Text in base64 does not start with padding, for which the strict reader would refuse it. -/
theorem head?_encodeChars_ne_padding (octets : Bytes) : (encodeChars octets).head? ≠ some '=' := by
  intro h
  cases octets with
  | nil => cases h
  | cons a rest =>
    have ha := a.toNat_lt
    have hhead : (encodeChars (a :: rest)).head? = some (character (a.toNat / 4)) := by
      rcases rest with _ | ⟨b, _ | ⟨c, rest⟩⟩ <;> rfl
    rw [hhead, Option.some.injEq] at h
    exact character_ne_padding (by omega) h

/-- What is written in base64 is read back, padding and all. -/
theorem decode_encode (octets : Bytes) : decode (encode octets) = .ok octets := by
  have hascii : (encodeChars octets).any (0x80 ≤ ·.toNat) = false := by
    rw [List.any_eq_false]
    intro c hc
    have := toNat_lt_of_mem_encodeChars hc
    simpa using this
  rw [decode, encode, String.toList_ofList, hascii, if_neg Bool.false_ne_true,
    if_neg (head?_encodeChars_ne_padding octets), sextetsFrom_encodeChars octets [] 0 rfl,
    List.reverse_nil, List.nil_append]
  exact congrArg Except.ok (toOctets_sextets octets)

/-! ### Segments -/

/-- The character of a value of the URL-safe alphabet. -/
def segmentCharacter (sextet : Nat) : Char :=
  if sextet < 62 then character sextet
  else if sextet = 62 then '-'
  else '_'

/-- The segment of octets, without padding. -/
def segment (octets : Bytes) : List Char := (sextets octets).map segmentCharacter

theorem sextet?_segmentCharacter {n : Nat} (h : n < 64) :
    Alphabet.urlSafe.sextet? (segmentCharacter n) = some n := by
  interval_cases n <;> rfl

theorem segmentCharacter_ne {n : Nat} (h : n < 64) :
    segmentCharacter n ≠ '=' ∧ segmentCharacter n ≠ '.' := by
  interval_cases n <;> decide

theorem lt_of_mem_sextets {octets : Bytes} {n : Nat} (h : n ∈ sextets octets) : n < 64 := by
  induction octets using sextets.induct with
  | case1 a b c rest ih =>
    have ha := a.toNat_lt
    have hb := b.toNat_lt
    have hc := c.toNat_lt
    simp only [sextets, List.mem_cons] at h
    rcases h with rfl | rfl | rfl | rfl | h
    · omega
    · omega
    · omega
    · omega
    · exact ih h
  | case2 a b =>
    have ha := a.toNat_lt
    have hb := b.toNat_lt
    simp only [sextets, List.mem_cons, List.not_mem_nil, or_false] at h
    omega
  | case3 a =>
    have ha := a.toNat_lt
    simp only [sextets, List.mem_cons, List.not_mem_nil, or_false] at h
    omega
  | case4 => cases h

/-- The bits to spare in the last sextet of octets are zero. -/
theorem isCanonical_sextets (octets : Bytes) : isCanonical (sextets octets) = true := by
  induction octets using sextets.induct with
  | case1 a b c rest ih =>
    rw [sextets, isCanonical]
    exact ih
  | case2 a b =>
    rw [sextets, isCanonical, beq_iff_eq]
    omega
  | case3 a =>
    rw [sextets, isCanonical, beq_iff_eq]
    omega
  | case4 => rfl

/-- A segment is read back sextet by sextet, behind those that have been read. -/
theorem segmentSextets?_map {values : List Nat} (h : ∀ n ∈ values, n < 64) (done : List Nat) :
    segmentSextets? done (values.map segmentCharacter) = some (done.reverse ++ values) := by
  induction values generalizing done with
  | nil => rw [List.map_nil, segmentSextets?, List.append_nil]
  | cons first rest ih =>
    obtain ⟨hfirst, hrest⟩ := List.forall_mem_cons.mp h
    rw [List.map_cons, segmentSextets?, sextet?_segmentCharacter hfirst]
    change segmentSextets? (first :: done) _ = _
    rw [ih hrest, List.reverse_cons, List.append_assoc, List.singleton_append]

/-- A segment has no padding, and no dot that could be taken for its end. -/
theorem not_mem_segment (octets : Bytes) : '=' ∉ segment octets ∧ '.' ∉ segment octets := by
  have hne : ∀ c ∈ segment octets, c ≠ '=' ∧ c ≠ '.' := by
    intro c hc
    obtain ⟨n, hn, rfl⟩ := List.mem_map.mp hc
    exact segmentCharacter_ne (lt_of_mem_sextets hn)
  exact ⟨fun hmem ↦ (hne _ hmem).1 rfl, fun hmem ↦ (hne _ hmem).2 rfl⟩

theorem stripPadding?_of_not_mem {chars : List Char} (h : '=' ∉ chars) :
    stripPadding? chars = some chars := by
  unfold stripPadding?
  split
  · next rest hreverse =>
    exact absurd (List.mem_reverse.mp (hreverse ▸ List.mem_cons_self)) h
  · next rest _ hreverse =>
    exact absurd (List.mem_reverse.mp (hreverse ▸ List.mem_cons_self)) h
  · rfl

/-- What is written as a segment is read back. -/
theorem decodeSegment?_segment (octets : Bytes) :
    decodeSegment? (segment octets) = some octets := by
  rw [decodeSegment?, stripPadding?_of_not_mem (not_mem_segment octets).1, segment]
  simp only [Option.bind_eq_bind, Option.bind_some,
    segmentSextets?_map fun n hn ↦ lt_of_mem_sextets hn, List.reverse_nil, List.nil_append]
  rw [if_pos (isCanonical_sextets octets), toOctets_sextets]

end Base64

end MeshAttest
