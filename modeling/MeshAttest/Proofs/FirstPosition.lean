import Mathlib.Data.Nat.Find

/-!
# First positions

Reports of a mesh, and fields of a report, are gone through in order, and what is found is what
stands at the first position that has anything of the kind (`IsFirst`). There is at most one such
position, and there is one as soon as there is any position at all (`exists_isFirst`). A run that
has come to a position without having found anything goes on from there (`FirstFrom`).
-/

set_option autoImplicit false

namespace MeshAttest

variable {ε : Type} {faultAt : Nat → ε → Prop} {start j k : Nat} {fault other : ε}

/-- What is at the position, a fault for instance, is there, and no position before it has any. -/
def IsFirst (faultAt : Nat → ε → Prop) (k : Nat) (fault : ε) : Prop :=
  faultAt k fault ∧ ∀ j < k, ∀ other, ¬ faultAt j other

/-- If anything is to be found at all, there is a first position where it is. -/
theorem exists_isFirst (h : faultAt k fault) : ∃ j first, IsFirst faultAt j first := by
  classical
  have hsome : ∃ j first, faultAt j first := ⟨k, fault, h⟩
  obtain ⟨first, hfirst⟩ := Nat.find_spec hsome
  refine ⟨Nat.find hsome, first, hfirst, fun j hj other hother ↦ ?_⟩
  exact Nat.find_min hsome hj ⟨other, hother⟩

theorem IsFirst.le (h : IsFirst faultAt k fault) (hother : faultAt j other) : k ≤ j :=
  Nat.le_of_not_lt fun hlt ↦ h.2 j hlt other hother

/-- There is one first position at most. -/
theorem IsFirst.unique (h : IsFirst faultAt k fault) (hother : IsFirst faultAt j other) : k = j :=
  Nat.le_antisymm (h.le hother.1) (hother.le h.1)

/-- Which position comes first depends on what is found up to there, and on nothing behind it. -/
theorem isFirst_congr {others : Nat → ε → Prop}
    (h : ∀ j ≤ k, ∀ other, others j other ↔ faultAt j other) :
    IsFirst others k fault ↔ IsFirst faultAt k fault := by
  refine and_congr (h k (Nat.le_refl k) fault) (forall₂_congr fun j hj ↦ ?_)
  exact forall_congr' fun other ↦ not_congr (h j (Nat.le_of_lt hj) other)

/-- It is enough to know that no position before is a first one. -/
theorem isFirst_iff :
    IsFirst faultAt k fault ↔ faultAt k fault ∧ ∀ j < k, ∀ other, ¬ IsFirst faultAt j other := by
  constructor
  · intro h
    exact ⟨h.1, fun j hj other hother ↦ h.2 j hj other hother.1⟩
  · rintro ⟨hfault, hnone⟩
    refine ⟨hfault, fun j hj other hother ↦ ?_⟩
    obtain ⟨i, first, hfirst⟩ := exists_isFirst hother
    exact hnone i (Nat.lt_of_le_of_lt (hfirst.le hother) hj) first hfirst

/-- The fault is that of the first position from a start on that has any. -/
def FirstFrom (faultAt : Nat → ε → Prop) (start : Nat) (fault : ε) : Prop :=
  ∃ k, start ≤ k ∧ faultAt k fault ∧ ∀ j, start ≤ j → j < k → ∀ other, ¬ faultAt j other

/-- What is found first from the start on is what is found first at all. -/
theorem firstFrom_zero_iff : FirstFrom faultAt 0 fault ↔ ∃ k, IsFirst faultAt k fault := by
  simp only [FirstFrom, IsFirst, Nat.zero_le, true_and, forall_const]

/-- What is found first from a position on is found there, or, if nothing is, from the next position
on. -/
theorem firstFrom_iff :
    FirstFrom faultAt start fault ↔
      faultAt start fault ∨ (∀ other, ¬ faultAt start other) ∧
        FirstFrom faultAt (start + 1) fault := by
  constructor
  · rintro ⟨k, hstart, hfault, hnone⟩
    rcases Nat.eq_or_lt_of_le hstart with rfl | hlt
    · exact .inl hfault
    · exact .inr ⟨hnone start (Nat.le_refl start) hlt, k, hlt, hfault,
        fun j hj ↦ hnone j (Nat.le_of_succ_le hj)⟩
  · rintro (hfault | ⟨hnone, k, hstart, hfault, hlater⟩)
    · exact ⟨start, Nat.le_refl start, hfault, fun j hj hlt ↦ absurd hlt (Nat.not_lt.mpr hj)⟩
    · refine ⟨k, Nat.le_of_succ_le hstart, hfault, fun j hj hlt ↦ ?_⟩
      rcases Nat.eq_or_lt_of_le hj with rfl | hbehind
      · exact hnone
      · exact hlater j hbehind hlt

end MeshAttest
