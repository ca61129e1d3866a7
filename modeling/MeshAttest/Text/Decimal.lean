import MeshAttest.Text.CharRange

/-!
# Decimal digits and integers in text

`integer?` reads an integer from a text: decimal digits of any script, with single underscores
allowed between two digits, after an optional sign, and with blanks around. An integer of more than
4300 digits is refused.
-/

set_option autoImplicit false

namespace MeshAttest.Text

/-- The digit zero of every script that has decimal digits; the other nine follow it. -/
def zeroDigits : List Nat :=
  [0x30, 0x660, 0x6f0, 0x7c0, 0x966, 0x9e6, 0xa66, 0xae6, 0xb66, 0xbe6, 0xc66, 0xce6, 0xd66,
   0xde6, 0xe50, 0xed0, 0xf20, 0x1040, 0x1090, 0x17e0, 0x1810, 0x1946, 0x19d0, 0x1a80, 0x1a90,
   0x1b50, 0x1bb0, 0x1c40, 0x1c50, 0xa620, 0xa8d0, 0xa900, 0xa9d0, 0xa9f0, 0xaa50, 0xabf0,
   0xff10, 0x104a0, 0x10d30, 0x11066, 0x110f0, 0x11136, 0x111d0, 0x112f0, 0x11450, 0x114d0,
   0x11650, 0x116c0, 0x11730, 0x118e0, 0x11950, 0x11c50, 0x11d50, 0x11da0, 0x16a60, 0x16ac0,
   0x16b50, 0x1d7ce, 0x1d7d8, 0x1d7e2, 0x1d7ec, 0x1d7f6, 0x1e140, 0x1e2f0, 0x1e950, 0x1fbf0]

/-- The value of a decimal digit of any script. -/
def digitValue? (c : Char) : Option Nat :=
  (zeroDigits.find? fun first ↦ first ≤ c.toNat && c.toNat < first + 10).map (c.toNat - ·)

/-- The white space of Unicode. -/
def blankRanges : List (Nat × Nat) :=
  [(0x9, 0xd), (0x20, 0x20), (0x85, 0x85), (0xa0, 0xa0), (0x1680, 0x1680), (0x2000, 0x200a),
   (0x2028, 0x2029), (0x202f, 0x202f), (0x205f, 0x205f), (0x3000, 0x3000)]

/-- Whether a character is a blank. -/
def isBlank (c : Char) : Bool := inRanges blankRanges c

/-- The most digits that an integer may have. -/
def maximumDigits : Nat := 4300

/-- The message about an integer that has too many digits. -/
def tooManyDigits (digits : Nat) : String :=
  s!"Exceeds the limit ({maximumDigits} digits) for integer string conversion: "
    ++ s!"value has {digits} digits; use sys.set_int_max_str_digits() to increase the limit"

/-- The digit values of a run of digits, with single underscores between digits left out. -/
def digitRun? : List Char → Option (List Nat)
  | [] => none
  | [c] => (digitValue? c).map ([·])
  | c :: '_' :: rest => do return (← digitValue? c) :: (← digitRun? rest)
  | c :: rest => do return (← digitValue? c) :: (← digitRun? rest)

/-- The number that digit values write in base ten. -/
def ofDigits (digits : List Nat) : Nat := digits.foldl (fun n digit ↦ 10 * n + digit) 0

/-- The integer that a text writes. -/
def integer? (chars : List Char) : Option Int :=
  let trimmed := (((chars.dropWhile isBlank).reverse).dropWhile isBlank).reverse
  let (negative, unsigned) := match trimmed with
    | '-' :: rest => (true, rest)
    | '+' :: rest => (false, rest)
    | rest => (false, rest)
  match digitRun? unsigned with
  | none => none
  | some digits =>
    if maximumDigits < digits.length then none
    else some (if negative then -(ofDigits digits : Int) else ofDigits digits)

end MeshAttest.Text
