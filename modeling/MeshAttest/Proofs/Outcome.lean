import MeshAttest.Failure
import Mathlib.Data.List.Basic
import Mathlib.Data.List.Forall2
import Mathlib.Tactic.Common

/-!
# Outcomes of steps that may fail

A chain of steps gives a value exactly when each step gives one, and it fails with the fault of the
first step that does. The lemmas here read this off the outcome of a chain, from its end to its
start.
-/

set_option autoImplicit false

namespace MeshAttest.Outcome

variable {ε ε' α β : Type}

theorem pure_eq_ok_iff {a b : α} : (pure a : Except ε α) = .ok b ↔ a = b := by
  constructor
  · exact fun h ↦ Except.ok.inj h
  · rintro rfl
    rfl

theorem ok_bind (a : α) (next : α → Except ε β) : (Except.ok a >>= next) = next a := rfl

theorem error_bind (fault : ε) (next : α → Except ε β) :
    (Except.error fault >>= next) = .error fault := rfl

theorem bind_eq_ok_iff {step : Except ε α} {next : α → Except ε β} {b : β} :
    (step >>= next) = .ok b ↔ ∃ a, step = .ok a ∧ next a = .ok b := by
  cases step with
  | error fault =>
    constructor
    · intro h
      cases h
    · rintro ⟨a, h, -⟩
      cases h
  | ok a =>
    constructor
    · exact fun h ↦ ⟨a, rfl, h⟩
    · rintro ⟨_, h, hnext⟩
      cases h
      exact hnext

/-- The fault of a chain is that of its first step, or, if there is none, that of its second. -/
theorem bind_eq_error_iff {step : Except ε α} {next : α → Except ε β} {fault : ε} :
    (step >>= next) = .error fault ↔
      step = .error fault ∨ ∃ a, step = .ok a ∧ next a = .error fault := by
  cases step with
  | error other => simp [error_bind]
  | ok a => simp [ok_bind]

theorem mapError_eq_ok_iff {f : ε → ε'} {step : Except ε α} {a : α} :
    step.mapError f = .ok a ↔ step = .ok a := by
  cases step with
  | error fault => simp [Except.mapError]
  | ok b => simp [Except.mapError]

/-- A translated fault is the translation of one that has occurred. -/
theorem mapError_eq_error_iff {f : ε → ε'} {step : Except ε α} {fault : ε'} :
    step.mapError f = .error fault ↔ ∃ other, step = .error other ∧ f other = fault := by
  cases step with
  | error other => simp [Except.mapError]
  | ok a => simp [Except.mapError]

/-! ### Steps over a list -/

variable {read : α → Except ε β}

/-- All items can be read exactly if the first one can, and then the others. -/
theorem map_eq_map_ok_cons_iff {first : α} {rest : List α} {P : List β → Prop} :
    (∃ values, (first :: rest).map read = values.map .ok ∧ P values) ↔
      ∃ value, read first = .ok value ∧
        ∃ others : List β, rest.map read = others.map .ok ∧ P (value :: others) := by
  constructor
  · rintro ⟨values, hread, hvalues⟩
    cases values with
    | nil => cases hread
    | cons value others =>
      rw [List.map_cons, List.map_cons, List.cons.injEq] at hread
      exact ⟨value, hread.1, others, hread.2, hvalues⟩
  · rintro ⟨value, hfirst, others, hrest, hvalues⟩
    exact ⟨value :: others, by rw [List.map_cons, List.map_cons, hfirst, hrest], hvalues⟩

/-- Reading items in order succeeds exactly if each of them is read as the value at its position. -/
theorem mapM_eq_ok_iff {items : List α} {values : List β} :
    items.mapM read = .ok values ↔
      List.Forall₂ (fun item value ↦ read item = .ok value) items values := by
  induction items generalizing values with
  | nil =>
    rw [List.mapM_nil, pure_eq_ok_iff, List.forall₂_nil_left_iff, eq_comm]
  | cons first rest ih =>
    rw [List.mapM_cons, List.forall₂_cons_left_iff, bind_eq_ok_iff]
    simp only [bind_eq_ok_iff, pure_eq_ok_iff, ih, exists_and_left]
    simp only [eq_comm]

/-- The steps that come after one that fails are not made. -/
theorem mapM_eq_error_iff {items : List α} {fault : ε} :
    items.mapM read = .error fault ↔ ∃ before item later, items = before ++ item :: later ∧
      (∀ other ∈ before, ∃ value, read other = .ok value) ∧ read item = .error fault := by
  constructor
  · intro h
    induction items with
    | nil => cases h
    | cons first rest ih =>
      rw [List.mapM_cons, bind_eq_error_iff] at h
      rcases h with hfirst | ⟨value, hfirst, h⟩
      · exact ⟨[], first, rest, rfl, List.forall_mem_nil _, hfirst⟩
      · rcases bind_eq_error_iff.mp h with hrest | ⟨others, -, hpure⟩
        · obtain ⟨before, item, later, rfl, hbefore, hitem⟩ := ih hrest
          exact ⟨first :: before, item, later, rfl,
            List.forall_mem_cons.mpr ⟨⟨value, hfirst⟩, hbefore⟩, hitem⟩
        · cases hpure
  · rintro ⟨before, item, later, rfl, hbefore, hitem⟩
    induction before with
    | nil =>
      rw [List.nil_append, List.mapM_cons, hitem]
      rfl
    | cons first rest ih =>
      obtain ⟨⟨value, hfirst⟩, hrest⟩ := List.forall_mem_cons.mp hbefore
      rw [List.cons_append, List.mapM_cons, hfirst, ok_bind, ih hrest]
      rfl

/-- A fault in reading items in order is the fault of one of them. -/
theorem exists_of_mapM_eq_error {items : List α} {fault : ε}
    (h : items.mapM read = .error fault) : ∃ item ∈ items, read item = .error fault := by
  obtain ⟨before, item, later, rfl, -, hitem⟩ := mapM_eq_error_iff.mp h
  exact ⟨item, List.mem_append_right before List.mem_cons_self, hitem⟩

/-- If a step gives a value for every item, the values come as a list. -/
theorem exists_map_eq_map_ok {items : List α} (h : ∀ item ∈ items, ∃ value, read item = .ok value) :
    ∃ values : List β, items.map read = values.map .ok := by
  induction items with
  | nil => exact ⟨[], rfl⟩
  | cons first rest ih =>
    obtain ⟨hfirst, hrest⟩ := List.forall_mem_cons.mp h
    obtain ⟨value, hvalue⟩ := hfirst
    obtain ⟨others, hothers⟩ := ih hrest
    exact ⟨value :: others, by rw [List.map_cons, List.map_cons, hvalue, hothers]⟩

theorem exists_of_map_eq {items : List α} {values : List β}
    (h : items.map read = values.map .ok) {item : α} (hitem : item ∈ items) :
    ∃ value, read item = .ok value := by
  have hread : read item ∈ values.map Except.ok := h ▸ List.mem_map_of_mem hitem
  obtain ⟨value, -, hok⟩ := List.mem_map.mp hread
  exact ⟨value, hok.symm⟩

theorem mem_iff_of_map_eq {items : List α} {values : List β}
    (h : items.map read = values.map .ok) {value : β} :
    value ∈ values ↔ ∃ item ∈ items, read item = .ok value := by
  rw [← List.mem_map (f := read), h, List.mem_map]
  simp only [Except.ok.injEq, exists_eq_right]

/-- The value at a position is what the item at this position is read as. -/
theorem getElem?_eq_some_iff_of_map_eq {items : List α} {values : List β}
    (h : items.map read = values.map .ok) {i : Nat} {value : β} :
    values[i]? = some value ↔ ∃ item, items[i]? = some item ∧ read item = .ok value := by
  have hread : (items.map read)[i]? = some (.ok value) ↔ values[i]? = some value := by
    rw [h, List.getElem?_map, Option.map_eq_some_iff]
    simp only [Except.ok.injEq, exists_eq_right]
  rw [← hread, List.getElem?_map, Option.map_eq_some_iff]

end MeshAttest.Outcome
