import MeshAttest.Bytes

/-!
# Platform data identifiers

A PDI names one physical GPU or switch. Reports carry PDIs of eight octets; the all-zero one marks
a disabled or unpopulated link and names no device.

`PdiSet` is the finite set of PDIs, kept as the strictly increasing list of its members, so that two
sets with the same members are equal (`PdiSet.ext`) and the members come in byte-wise order.
`Pdi.format` is the text of a collection of PDIs in messages.
-/

set_option autoImplicit false

namespace MeshAttest

/-- A platform data identifier, as the octets that stand in a report. -/
abbrev Pdi := Bytes

namespace Pdi

/-- The number of octets of a PDI in a report. -/
def size : Nat := 8

/-- The all-zero PDI marks a disabled or unpopulated link. -/
def disabled : Pdi := List.replicate size 0

/-- The consecutive PDIs of a list of PDIs; an incomplete one at the end is left out. -/
def pieces : Bytes → List Pdi
  | a :: b :: c :: d :: e :: f :: g :: h :: rest => [a, b, c, d, e, f, g, h] :: pieces rest
  | _ => []

/-- The text of a collection of PDIs: their hexadecimal forms in increasing order, repetitions
kept, separated by commas in braces. -/
def format (pdis : List Pdi) : String :=
  let ordered := pdis.mergeSort fun p q ↦ decide (p ≤ q)
  "\x7b" ++ ", ".intercalate (ordered.map Bytes.hex) ++ "\x7d"

/-- Puts a PDI at its place in a strictly increasing list, unless it is there already. -/
def insertIncreasing (p : Pdi) : List Pdi → List Pdi
  | [] => [p]
  | q :: rest =>
    if p < q then p :: q :: rest
    else if p = q then q :: rest
    else q :: insertIncreasing p rest

theorem mem_insertIncreasing {p q : Pdi} {pdis : List Pdi} :
    q ∈ insertIncreasing p pdis ↔ q = p ∨ q ∈ pdis := by
  induction pdis with
  | nil => simp [insertIncreasing]
  | cons r rest ih =>
    unfold insertIncreasing
    split
    · simp
    · split
      · next same => simp [same]
      · simp [ih, or_left_comm]

theorem pairwise_insertIncreasing {p : Pdi} {pdis : List Pdi}
    (increasing : pdis.Pairwise (· < ·)) : (insertIncreasing p pdis).Pairwise (· < ·) := by
  induction pdis with
  | nil => simp [insertIncreasing]
  | cons q rest ih =>
    rw [List.pairwise_cons] at increasing
    unfold insertIncreasing
    split
    · next before =>
      refine List.pairwise_cons.2 ⟨fun r present ↦ ?_, List.pairwise_cons.2 increasing⟩
      rcases List.mem_cons.1 present with rfl | later
      · exact before
      · exact List.lt_trans before (increasing.1 r later)
    · split
      · exact List.pairwise_cons.2 increasing
      · next notBefore different =>
        refine List.pairwise_cons.2 ⟨fun r present ↦ ?_, ih increasing.2⟩
        rcases mem_insertIncreasing.1 present with rfl | later
        · apply Decidable.byContradiction
          intro notAfter
          exact different (List.le_antisymm notAfter notBefore)
        · exact increasing.1 r later

end Pdi

/-- A finite set of PDIs, as the strictly increasing list of its members. -/
structure PdiSet where
  /-- The members, each once, in byte-wise increasing order. -/
  toList : List Pdi
  increasing : toList.Pairwise (· < ·)
deriving DecidableEq

namespace PdiSet

instance : Membership Pdi PdiSet := ⟨fun pdis p ↦ p ∈ pdis.toList⟩

instance (p : Pdi) (pdis : PdiSet) : Decidable (p ∈ pdis) :=
  inferInstanceAs (Decidable (p ∈ pdis.toList))

theorem mem_toList {p : Pdi} {pdis : PdiSet} : p ∈ pdis.toList ↔ p ∈ pdis := Iff.rfl

/-- The set with no member. -/
def empty : PdiSet := ⟨[], List.Pairwise.nil⟩

/-- The set with one more member. -/
def insert (p : Pdi) (pdis : PdiSet) : PdiSet :=
  ⟨Pdi.insertIncreasing p pdis.toList, Pdi.pairwise_insertIncreasing pdis.increasing⟩

/-- The set of the PDIs in a list. -/
def ofList (pdis : List Pdi) : PdiSet := pdis.foldr insert empty

/-- The set without one PDI. -/
def erase (pdis : PdiSet) (p : Pdi) : PdiSet :=
  ⟨pdis.toList.filter (· ≠ p), pdis.increasing.filter _⟩

/-- The number of members. -/
def size (pdis : PdiSet) : Nat := pdis.toList.length

/-- The text of a set of PDIs. -/
def format (pdis : PdiSet) : String := Pdi.format pdis.toList

@[simp] theorem not_mem_empty (p : Pdi) : ¬ p ∈ empty := List.not_mem_nil

@[simp] theorem mem_insert {p q : Pdi} {pdis : PdiSet} : q ∈ insert p pdis ↔ q = p ∨ q ∈ pdis :=
  Pdi.mem_insertIncreasing

@[simp] theorem mem_ofList {p : Pdi} {pdis : List Pdi} : p ∈ ofList pdis ↔ p ∈ pdis := by
  induction pdis with
  | nil => simp [ofList]
  | cons q rest ih =>
    rw [ofList, List.foldr_cons, mem_insert, List.mem_cons, ← ih]
    rfl

@[simp] theorem mem_erase {p q : Pdi} {pdis : PdiSet} : q ∈ pdis.erase p ↔ q ∈ pdis ∧ q ≠ p := by
  change q ∈ pdis.toList.filter (· ≠ p) ↔ _
  simp [mem_toList]

/-- Strictly increasing lists with the same members are equal. -/
theorem eq_of_mem_iff {xs ys : List Pdi} (hx : xs.Pairwise (· < ·)) (hy : ys.Pairwise (· < ·))
    (same : ∀ p, p ∈ xs ↔ p ∈ ys) : xs = ys := by
  induction xs generalizing ys with
  | nil => exact (List.eq_nil_iff_forall_not_mem.2 fun p h ↦ List.not_mem_nil ((same p).2 h)).symm
  | cons x xs ih =>
    cases ys with
    | nil => exact absurd ((same x).1 List.mem_cons_self) List.not_mem_nil
    | cons y ys =>
      rw [List.pairwise_cons] at hx hy
      have heads : x = y := by
        rcases List.mem_cons.1 ((same x).1 List.mem_cons_self) with eq | inTail
        · exact eq
        · rcases List.mem_cons.1 ((same y).2 List.mem_cons_self) with eq | inTail'
          · exact eq.symm
          · exact absurd (List.lt_trans (hx.1 y inTail') (hy.1 x inTail)) (List.lt_irrefl x)
      subst heads
      refine congrArg (x :: ·) (ih hx.2 hy.2 fun p ↦ ⟨fun h ↦ ?_, fun h ↦ ?_⟩)
      · rcases List.mem_cons.1 ((same p).1 (List.mem_cons_of_mem x h)) with rfl | inTail
        · exact absurd (hx.1 p h) (List.lt_irrefl p)
        · exact inTail
      · rcases List.mem_cons.1 ((same p).2 (List.mem_cons_of_mem x h)) with rfl | inTail
        · exact absurd (hy.1 p h) (List.lt_irrefl p)
        · exact inTail

/-- Sets with the same members are equal. -/
theorem ext {xs ys : PdiSet} (same : ∀ p, p ∈ xs ↔ p ∈ ys) : xs = ys := by
  cases xs
  cases ys
  congr
  exact eq_of_mem_iff (by assumption) (by assumption) same

end PdiSet

end MeshAttest
