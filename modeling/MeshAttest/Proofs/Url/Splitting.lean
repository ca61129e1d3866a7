import MeshAttest.Proofs.Url.Origin

/-!
# Texts that can be taken apart as URLs

Whether a text can be taken apart is decided by its authority alone (`Url.Splits`). Any text can be
that has no brackets there and no character that looks like a delimiter. Brackets may only be around
the host, and only if it is an address that needs them, with nothing or a port behind; but a closing
bracket may be missing there if there is one in the user information.
-/

set_option autoImplicit false

namespace MeshAttest

open Outcome Text

namespace Url

variable {text authority info host behind : List Char}

/-! ### Hosts -/

theorem head?_of_isFutureAddress (h : isFutureAddress host = true) : host.head? = some 'v' := by
  unfold isFutureAddress at h
  split at h
  · rfl
  · cases h

/-- Between brackets there has to be an address, of version six or of a future version. -/
theorem checkHost_eq_ok_iff :
    checkHost host = .ok () ↔ isFutureAddress host = true ∨ isIpv6 host = true := by
  constructor
  · intro h
    unfold checkHost at h
    split at h
    · split at h
      · next hfuture => exact .inl hfuture
      · cases h
    · split at h
      · cases h
      · split at h
        · next hipv6 => exact .inr hipv6
        · cases h
  · rintro (hfuture | hipv6)
    · rw [checkHost, if_pos (head?_of_isFutureAddress hfuture), if_pos hfuture]
    · exact checkHost_of_isIpv6 hipv6

/-! ### Brackets -/

/-- Nothing is behind a host, or a colon is. -/
def StartsPort (behind : List Char) : Prop := behind = [] ∨ behind.head? = some ':'

/-- The host and what is behind it, where no user information is left. -/
inductive Stands (host behind : List Char) : List Char → Prop
  | closed (h : ']' ∉ host) : Stands host behind ('[' :: (host ++ ']' :: behind))
  | unclosed (h : ']' ∉ host) (hbehind : behind = []) : Stands host behind ('[' :: host)
  | bare (h : ':' ∉ host) (hbehind : StartsPort behind) (hopen : '[' ∉ host ++ behind) :
    Stands host behind (host ++ behind)

/-- The brackets of an authority are in pairs and around an address. -/
def BracketsFit (authority : List Char) : Prop :=
  ('[' ∉ authority ∧ ']' ∉ authority) ∨
  '[' ∈ authority ∧ ']' ∈ authority ∧ ∃ host behind, Stands host behind (afterLast '@' authority) ∧
    StartsPort behind ∧ (isFutureAddress host = true ∨ isIpv6 host = true)

theorem startsPort_iff : StartsPort behind ↔ ¬ (behind ≠ [] ∧ behind.head? ≠ some ':') := by
  rw [StartsPort, not_and_or, not_not, not_not]

theorem startsPort_dropWhile (chars : List Char) : StartsPort (chars.dropWhile (· ≠ ':')) :=
  head?_dropWhile_ne ':' chars

theorem cutFirst_cons_self (c : Char) (rest : List Char) : cutFirst c (c :: rest) = ([], rest) :=
  cutFirst_append List.not_mem_nil rest

/-- The two readings of an authority without its user information are the same. -/
theorem stands_iff :
    Stands host behind (afterLast '@' authority) ↔
      ¬ ('[' ∈ afterLast '@' authority ∧ (afterLast '@' authority).head? ≠ some '[') ∧
        hostAndRest authority = (host, behind) := by
  unfold hostAndRest
  generalize afterLast '@' authority = info
  constructor
  · rintro (hclose | ⟨hclose, rfl⟩ | ⟨hcolon, hbehind, hopen⟩)
    · refine ⟨fun hbad ↦ hbad.2 rfl, ?_⟩
      simp only [List.mem_cons_self, if_true, cutFirst_cons_self, cutFirst_append hclose]
    · refine ⟨fun hbad ↦ hbad.2 rfl, ?_⟩
      simp only [List.mem_cons_self, if_true, cutFirst_cons_self, cutFirst_of_not_mem hclose]
    · refine ⟨fun hbad ↦ hopen hbad.1, ?_⟩
      obtain ⟨htake, hdrop⟩ := takeWhile_ne_append hcolon hbehind
      simp only [hopen, if_false, htake, hdrop]
  · rintro ⟨hfirst, hparts⟩
    by_cases hopen : '[' ∈ info
    · have hhead : info.head? = some '[' := by
        by_contra hne
        exact hfirst ⟨hopen, hne⟩
      obtain ⟨inner, rfl⟩ := List.head?_eq_some_iff.mp hhead
      simp only [hopen, if_true, cutFirst_cons_self] at hparts
      by_cases hclose : ']' ∈ inner
      · obtain ⟨before, after, rfl, habsent⟩ := List.eq_append_cons_of_mem hclose
        rw [cutFirst_append habsent] at hparts
        obtain ⟨rfl, rfl⟩ := Prod.mk.inj hparts
        exact .closed habsent
      · rw [cutFirst_of_not_mem hclose] at hparts
        obtain ⟨rfl, rfl⟩ := Prod.mk.inj hparts
        exact .unclosed hclose rfl
    · -- The host ends at the first colon, and both parts together are the whole.
      simp only [hopen, if_false] at hparts
      obtain ⟨rfl, rfl⟩ := Prod.mk.inj hparts
      have hwhole : info.takeWhile (· ≠ ':') ++ info.dropWhile (· ≠ ':') = info :=
        List.takeWhile_append_dropWhile
      have hbare : Stands _ _ (info.takeWhile (· ≠ ':') ++ info.dropWhile (· ≠ ':')) :=
        .bare (not_mem_takeWhile_ne ':' info) (startsPort_dropWhile info) (by rwa [hwhole])
      rwa [hwhole] at hbare

/-- Brackets of one kind only are refused. -/
theorem checkBrackets_of_unpaired (h : ('[' ∈ authority) ≠ (']' ∈ authority)) :
    checkBrackets authority = .error .brackets := by
  rw [checkBrackets, if_pos h]

/-- The brackets pass exactly if they fit. -/
theorem checkBrackets_eq_ok_iff : checkBrackets authority = .ok () ↔ BracketsFit authority := by
  unfold BracketsFit
  by_cases hopen : '[' ∈ authority
  · by_cases hclose : ']' ∈ authority
    · rw [checkBrackets_of_mem hopen hclose]
      simp only [hopen, hclose, not_true_eq_false, and_self, false_or, true_and, stands_iff,
        startsPort_iff, ← checkHost_eq_ok_iff]
      constructor
      · intro h
        split at h
        · cases h
        · next hfirst =>
          split at h
          · cases h
          · next hbehind => exact ⟨_, _, ⟨hfirst, rfl⟩, hbehind, h⟩
      · rintro ⟨host, behind, ⟨hfirst, hparts⟩, hbehind, hhost⟩
        rw [if_neg hfirst, hparts, if_neg hbehind, hhost]
    · rw [checkBrackets_of_unpaired (by simp [hopen, hclose])]
      simp [hopen, hclose]
  · by_cases hclose : ']' ∈ authority
    · rw [checkBrackets_of_unpaired (by simp [hopen, hclose])]
      simp [hopen, hclose]
    · simp [checkBrackets_of_not_mem hopen hclose, hopen, hclose]

/-! ### Whole texts -/

/-- An authority passes exactly if no character in it looks like a delimiter. -/
theorem checkNormalization_eq_ok_iff :
    checkNormalization authority = .ok () ↔ ∀ c ∈ authority, c.toNat ∉ delimiterLookalikes := by
  unfold checkNormalization
  split
  · next hany =>
    obtain ⟨c, hc, hlookalike⟩ := List.any_eq_true.mp hany
    simp only [reduceCtorEq, false_iff, not_forall, not_not]
    exact ⟨c, hc, List.contains_iff_mem.mp hlookalike⟩
  · next hnone =>
    simp only [true_iff]
    intro c hc hlookalike
    exact hnone (List.any_eq_true.mpr ⟨c, hc, List.contains_iff_mem.mpr hlookalike⟩)

/-- The authority of a text, or nothing if there is none. -/
def authorityOf (text : List Char) : List Char := (takeAuthority (takeScheme (clean text)).2).1

/-- The text can be taken apart. -/
structure Splits (text : List Char) : Prop where
  brackets : BracketsFit (authorityOf text)
  plain : ∀ c ∈ authorityOf text, c.toNat ∉ delimiterLookalikes

/-- Nothing but the two checks of the authority can go wrong when a text is taken apart. -/
theorem exists_parse_eq (text : List Char) :
    ∃ parsed, parse text = (do
      checkBrackets (authorityOf text)
      checkNormalization (authorityOf text)
      return parsed) :=
  ⟨_, rfl⟩

/-- A text can be taken apart exactly if its authority passes both checks. -/
theorem splits_iff : Splits text ↔ ∃ parsed, parse text = .ok parsed := by
  obtain ⟨parsed, hparsed⟩ := exists_parse_eq text
  simp only [hparsed, bind_eq_ok_iff, pure_eq_ok_iff]
  constructor
  · intro h
    exact ⟨parsed, (), checkBrackets_eq_ok_iff.mpr h.brackets, (),
      checkNormalization_eq_ok_iff.mpr h.plain, rfl⟩
  · rintro ⟨_, _, hbrackets, _, hplain, -⟩
    exact ⟨checkBrackets_eq_ok_iff.mp hbrackets, checkNormalization_eq_ok_iff.mp hplain⟩

instance (text : List Char) : Decidable (Splits text) :=
  match h : parse text with
  | .ok parsed => isTrue (splits_iff.mpr ⟨parsed, h⟩)
  | .error _ => isFalse fun hsplits ↦ by
    obtain ⟨parsed, hparsed⟩ := splits_iff.mp hsplits
    cases h.symm.trans hparsed

end Url

end MeshAttest
