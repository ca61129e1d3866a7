/-!
# Splitting lists of characters

A text is split at the first or the last occurrence of a character (`cutFirst`, `afterLast`), or at
every one (`pieces`).
-/

set_option autoImplicit false

namespace MeshAttest.Text

/-- What stands before the first occurrence of a character, and what follows it. Without an
occurrence everything stands before it. -/
def cutFirst (c : Char) (chars : List Char) : List Char × List Char :=
  (chars.takeWhile (· ≠ c), (chars.dropWhile (· ≠ c)).drop 1)

/-- What follows the last occurrence of a character, or everything if there is none. -/
def afterLast (c : Char) (chars : List Char) : List Char :=
  (chars.reverse.takeWhile (· ≠ c)).reverse

/-- The pieces between the occurrences of a character; there is always one piece at least. -/
def pieces (c : Char) : List Char → List (List Char)
  | [] => [[]]
  | first :: rest =>
    if first = c then [] :: pieces c rest
    else match pieces c rest with
      | [] => [[first]]
      | piece :: others => (first :: piece) :: others

theorem cutFirst_cons_of_ne {c d : Char} (different : d ≠ c) (chars : List Char) :
    cutFirst c (d :: chars) = (d :: (cutFirst c chars).1, (cutFirst c chars).2) := by
  simp [cutFirst, different]

theorem cutFirst_of_not_mem {c : Char} {chars : List Char} (absent : c ∉ chars) :
    cutFirst c chars = (chars, []) := by
  induction chars with
  | nil => rfl
  | cons d rest ih =>
    rw [List.mem_cons, not_or] at absent
    rw [cutFirst_cons_of_ne (Ne.symm absent.1), ih absent.2]

theorem cutFirst_append {c : Char} {before : List Char} (absent : c ∉ before)
    (after : List Char) : cutFirst c (before ++ c :: after) = (before, after) := by
  induction before with
  | nil => simp [cutFirst]
  | cons d rest ih =>
    rw [List.mem_cons, not_or] at absent
    rw [List.cons_append, cutFirst_cons_of_ne (Ne.symm absent.1), ih absent.2]

end MeshAttest.Text
