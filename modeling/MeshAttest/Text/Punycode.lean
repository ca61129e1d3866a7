import MeshAttest.Text.Split

/-!
# Punycode

Punycode writes code points in ASCII. The code points that are ASCII come first. The others are
inserted from the lowest to the highest one, each by the number of steps that it takes from the last
insertion, where a step goes to the next place and from the last place to the first one under the
next code point. The numbers are written in base 36, the least digit first, and end where a digit is
below its threshold; the thresholds follow the size of the numbers so far.
-/

set_option autoImplicit false

namespace MeshAttest.Text.Punycode

/-- The least code point that is written by insertion. -/
def firstCode : Nat := 0x80

/-- The bias of the first number. -/
def initialBias : Nat := 72

/-- The character of a digit. -/
def digitChar (digit : Nat) : Char :=
  if digit < 26 then Char.ofNat (0x61 + digit) else Char.ofNat (0x16 + digit)

/-- The value of a digit, in either case. -/
def digitValue? (c : Char) : Option Nat :=
  if 'a' ≤ c ∧ c ≤ 'z' then some (c.toNat - 0x61)
  else if 'A' ≤ c ∧ c ≤ 'Z' then some (c.toNat - 0x41)
  else if '0' ≤ c ∧ c ≤ '9' then some (c.toNat - 0x16)
  else none

/-- The threshold of the digit at a position. -/
def threshold (bias position : Nat) : Nat := max 1 (min 26 (36 * (position + 1) - bias))

theorem one_le_threshold (bias position : Nat) : 1 ≤ threshold bias position :=
  Nat.le_max_left _ _

/-- Scales a number down, and counts by how much. -/
def scaleDown (bias number : Nat) : Nat :=
  if 455 < number then scaleDown (bias + 36) (number / 35)
  else bias + 36 * number / (number + 38)
termination_by number
decreasing_by exact Nat.div_lt_self (by omega) (by decide)

/-- The bias after a number, with the count of code points that are there then. -/
def nextBias (isFirst : Bool) (number count : Nat) : Nat :=
  let scaled := if isFirst then number / 700 else number / 2
  scaleDown 0 (scaled + scaled / count)

/-- The digits of a number from a position on. -/
def digitsFrom (bias position number : Nat) : List Char :=
  if number < threshold bias position then [digitChar number]
  else
    let least := threshold bias position
    digitChar (least + (number - least) % (36 - least))
      :: digitsFrom bias (position + 1) ((number - least) / (36 - least))
termination_by number
decreasing_by
  have := one_le_threshold bias position
  exact Nat.lt_of_le_of_lt (Nat.div_le_self _ _) (by omega)

/-- What has been written: the digits, and the number of steps since the last insertion. -/
structure Writer where
  digits : List Char
  steps : Nat
  bias : Nat
  /-- The number of code points that are there. -/
  count : Nat
  isFirst : Bool

namespace Writer

/-- Passes a code point of the text while another one is inserted. Lower ones are there already. -/
def pass (inserted : Nat) (writer : Writer) (code : Nat) : Writer :=
  if code < inserted then { writer with steps := writer.steps + 1 }
  else if code = inserted then
    { digits := writer.digits ++ digitsFrom writer.bias 0 writer.steps
      steps := 0
      bias := nextBias writer.isFirst writer.steps (writer.count + 1)
      count := writer.count + 1
      isFirst := false }
  else writer

/-- Inserts code points in rising order, the first of which is not below a least one. -/
def insertAll (text : List Nat) (least : Nat) (writer : Writer) : List Nat → Writer
  | [] => writer
  | code :: rest =>
    let steps := writer.steps + (code - least) * (writer.count + 1)
    let passed := text.foldl (pass code) { writer with steps }
    insertAll text (code + 1) { passed with steps := passed.steps + 1 } rest

end Writer

/-- Writes code points. -/
def encode (text : List Nat) : List Char :=
  let basic := text.filter (· < firstCode)
  let inserted := ((text.filter (firstCode ≤ ·)).mergeSort).eraseDups
  let empty : Writer := ⟨[], 0, initialBias, basic.length, true⟩
  basic.map Char.ofNat ++ (if basic = [] then [] else ['-'])
    ++ (empty.insertAll text firstCode inserted).digits

/-- Reads a number from a position on, to which the digits before it have added up. -/
def readNumber (bias position weight number : Nat) : List Char → Option (Nat × List Char)
  | [] => none
  | c :: rest =>
    match digitValue? c with
    | none => none
    | some digit =>
      let next := number + digit * weight
      let least := threshold bias position
      if digit < least then some (next, rest)
      else readNumber bias (position + 1) (weight * (36 - least)) next rest

theorem length_readNumber_lt {bias position weight number value : Nat} {text rest : List Char}
    (read : readNumber bias position weight number text = some (value, rest)) :
    rest.length < text.length := by
  induction text generalizing position weight number with
  | nil => simp [readNumber] at read
  | cons c tail ih =>
    rw [readNumber] at read
    split at read
    · simp at read
    · simp only at read
      split at read
      · simp only [Option.some.injEq, Prod.mk.injEq] at read
        simp [read.2]
      · have := ih read
        rw [List.length_cons]
        omega

/-- Reads insertions into a text, from a code point and a place on. -/
def insertFrom (isFirst : Bool) (bias code place : Nat) (text : List Nat) (digits : List Char) :
    Option (List Nat) :=
  if digits = [] then some text
  else match read : readNumber bias 0 1 0 digits with
    | none => none
    | some (steps, rest) =>
      have := length_readNumber_lt read
      let count := text.length + 1
      let next := code + (place + steps) / count
      let position := (place + steps) % count
      if 0x10ffff < next then none
      else insertFrom false (nextBias isFirst steps count) next (position + 1)
        (text.insertIdx position next) rest
termination_by digits.length

/-- Reads code points. The last hyphen is behind those that are ASCII. -/
def decode? (text : List Char) : Option (List Nat) :=
  let digits := afterLast '-' text
  let basic := text.take (text.length - digits.length - 1)
  insertFrom true initialBias firstCode 0 (basic.map Char.toNat) digits

end MeshAttest.Text.Punycode
