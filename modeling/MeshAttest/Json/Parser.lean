import MeshAttest.Bytes
import MeshAttest.Json.Fault
import MeshAttest.Json.Numeral
import MeshAttest.Text.Encoding

/-!
# Reading JSON texts

`Json.parse` reads a text that holds one JSON value, with blanks around it. The numbers `NaN`,
`Infinity` and `-Infinity` are admitted, and of two entries of an object with one key the later one
counts. What is read are code points, since the encodings of text, like the escapes in a string, can
spell half of a surrogate pair.

A reader returns what is left of the text. The types say that this is shorter than what the reader
got, so that every reader ends; and where a reader halts, the rest of the text tells the place.
-/

set_option autoImplicit false

namespace MeshAttest.Json

/-- Why a reader halts. The place of a flaw is given by the text that is left there. -/
inductive Halt where
  | flaw (flaw : Flaw) (rest : List CodePoint)
  | integerTooLong (digits : Nat)

/-- What a reader makes of a text: a value, and fewer than `bound` points that are left. -/
abbrev Reading (α : Type) (bound : Nat) :=
  Except Halt { outcome : α × List CodePoint // outcome.2.length < bound }

/-- Space, tab, line feed and carriage return may stand between the parts of a text. -/
def isBlank : CodePoint → Bool
  | .char c => c == ' ' || c == '\t' || c == '\n' || c == '\r'
  | .half _ => false

/-- What follows the blanks in front of a text. -/
def skipBlanks (points : List CodePoint) : List CodePoint := points.dropWhile isBlank

theorem length_skipBlanks_le (points : List CodePoint) :
    (skipBlanks points).length ≤ points.length :=
  (List.dropWhile_suffix _).length_le

/-- The UTF-16 unit of four hexadecimal digits, behind which the text may not end. -/
def scanUnit? : List CodePoint → Option (Nat × List CodePoint)
  | .char a :: .char b :: .char c :: .char d :: e :: rest => do
    let a ← Bytes.hexValue? a
    let b ← Bytes.hexValue? b
    let c ← Bytes.hexValue? c
    let d ← Bytes.hexValue? d
    return (((a * 16 + b) * 16 + c) * 16 + d, e :: rest)
  | _ => none

theorem length_scanUnit?_lt {points rest : List CodePoint} {unit : Nat}
    (found : scanUnit? points = some (unit, rest)) : rest.length < points.length := by
  unfold scanUnit? at found
  split at found
  · simp only [Option.bind_eq_bind, Option.bind_eq_some_iff, Option.pure_def, Option.some.injEq,
      Prod.mk.injEq] at found
    obtain ⟨-, -, -, -, -, -, -, -, -, rfl⟩ := found
    simp only [List.length_cons]
    omega
  · simp at found

/-- The point of a high surrogate and of the low surrogate that is escaped behind it. -/
def scanPair? (high : Nat) : List CodePoint → Option (CodePoint × List CodePoint)
  | .char '\\' :: .char 'u' :: rest =>
    if 0xd800 ≤ high ∧ high ≤ 0xdbff then
      match scanUnit? rest with
      | some (low, rest) =>
        if 0xdc00 ≤ low ∧ low ≤ 0xdfff then
          some (.ofNat (0x10000 + (high - 0xd800) * 0x400 + (low - 0xdc00)), rest)
        else none
      | none => none
    else none
  | _ => none

theorem length_scanPair?_lt {high : Nat} {points rest : List CodePoint} {point : CodePoint}
    (found : scanPair? high points = some (point, rest)) : rest.length < points.length := by
  unfold scanPair? at found
  split at found
  · split at found
    · split at found
      · next unit =>
        have := length_scanUnit?_lt unit
        split at found
        · simp only [Option.some.injEq, Prod.mk.injEq] at found
          rw [← found.2]
          simp only [List.length_cons]
          omega
        · simp at found
      · simp at found
    · simp at found
  · simp at found

/-- The character of an escape by a single character. -/
def escaped? : Char → Option Char
  | '"' => some '"'
  | '\\' => some '\\'
  | '/' => some '/'
  | 'b' => some '\x08'
  | 'f' => some '\x0c'
  | 'n' => some '\n'
  | 'r' => some '\r'
  | 't' => some '\t'
  | _ => none

/-- What stands next in a string, and what follows it. -/
inductive StringPart where
  | point (point : CodePoint) (rest : List CodePoint)
  | closing (rest : List CodePoint)
  /-- Something that a string may not have, with the text that is left there. -/
  | flaw (flaw : Flaw) (rest : List CodePoint)

/-- The part that an escape is. The text from the backslash on is given, and what follows the
backslash. -/
def scanEscape (points : List CodePoint) : List CodePoint → Option StringPart
  | [] => none
  | .char 'u' :: rest =>
    match scanUnit? rest with
    | none => some (.flaw .unicodeEscape (.char 'u' :: rest))
    | some (unit, after) =>
      match scanPair? unit after with
      | some (point, final) => some (.point point final)
      | none => some (.point (.ofNat unit) after)
  | .char e :: rest =>
    match escaped? e with
    | none => some (.flaw .unknownEscape points)
    | some c => some (.point (.char c) rest)
  | .half _ :: _ => some (.flaw .unknownEscape points)

/-- The next part of a string, unless the text ends before the string. -/
def scanPart : List CodePoint → Option StringPart
  | [] => none
  | .char '"' :: rest => some (.closing rest)
  | .char '\\' :: rest => scanEscape (.char '\\' :: rest) rest
  | point :: rest =>
    some (if point.toNat < 0x20 then .flaw .controlCharacter (point :: rest)
      else .point point rest)

theorem length_scanEscape_lt {points rest after : List CodePoint} {point : CodePoint}
    (found : scanEscape points rest = some (.point point after)) : after.length < rest.length := by
  unfold scanEscape at found
  split at found
  · simp at found
  · next unitText =>
    split at found
    · simp at found
    · next unit =>
      have := length_scanUnit?_lt unit
      split at found
      · next pair =>
        have := length_scanPair?_lt pair
        simp only [Option.some.injEq, StringPart.point.injEq] at found
        rw [← found.2]
        simp only [List.length_cons]
        omega
      · simp only [Option.some.injEq, StringPart.point.injEq] at found
        rw [← found.2]
        simp only [List.length_cons]
        omega
  · split at found
    · simp at found
    · simp only [Option.some.injEq, StringPart.point.injEq] at found
      simp [← found.2]
  · simp at found

theorem length_scanPart_point_lt {points after : List CodePoint} {point : CodePoint}
    (found : scanPart points = some (.point point after)) : after.length < points.length := by
  unfold scanPart at found
  split at found
  · simp at found
  · simp at found
  · have := length_scanEscape_lt found
    simp only [List.length_cons]
    omega
  · split at found
    · simp at found
    · simp only [Option.some.injEq, StringPart.point.injEq] at found
      simp [← found.2]

theorem length_scanPart_closing_lt {points after : List CodePoint}
    (found : scanPart points = some (.closing after)) : after.length < points.length := by
  unfold scanPart at found
  split at found
  · simp at found
  · simp only [Option.some.injEq, StringPart.closing.injEq] at found
    simp [← found]
  · unfold scanEscape at found
    split at found
    · simp at found
    · split at found
      · simp at found
      · split at found <;> simp at found
    · split at found <;> simp at found
    · simp at found
  · split at found <;> simp at found

/-- Reads a string up to its closing quote. The text at its opening quote is given, and what has
been read of the string, last point first. -/
def readString (bound : Nat) (opening done points : List CodePoint)
    (within : points.length < bound) : Reading RawText bound :=
  match part : scanPart points with
  | none => .error (.flaw .unterminatedString opening)
  | some (.flaw what rest) => .error (.flaw what rest)
  | some (.closing rest) =>
    .ok ⟨(.ofPoints done.reverse, rest),
      Nat.lt_trans (length_scanPart_closing_lt part) within⟩
  | some (.point point rest) =>
    have shorter := length_scanPart_point_lt part
    readString bound opening (point :: done) rest (Nat.lt_trans shorter within)
termination_by points.length

/-- The characters in front of a text that can stand in a numeral. -/
def numeralChars : List CodePoint → List Char
  | .char c :: rest =>
    if c.isDigit ∨ c ∈ ['-', '+', '.', 'e', 'E'] then c :: numeralChars rest else []
  | _ => []

theorem length_numeralChars_le (points : List CodePoint) :
    (numeralChars points).length ≤ points.length := by
  fun_induction numeralChars points with
  | case1 c rest _ ih => simpa using ih
  | case2 c rest _ => simp
  | case3 points _ => simp

/-- Reads a number. -/
def readNumber (points : List CodePoint) : Reading Json points.length :=
  match found : Numeral.scan? (numeralChars points) with
  | none => .error (.flaw .noValue points)
  | some (numeral, chars) =>
    let rest := points.drop ((numeralChars points).length - chars.length)
    have shorter : rest.length < points.length := by
      have := Numeral.length_scan?_lt found
      have := length_numeralChars_le points
      simp only [rest, List.length_drop]
      omega
    if numeral.isInteger then
      if Text.maximumDigits < numeral.whole.length then
        .error (.integerTooLong numeral.whole.length)
      else .ok ⟨(.integer numeral.toInt, rest), shorter⟩
    else .ok ⟨(.float numeral.toBinary64, rest), shorter⟩

/-- Reads a literal word, or else a number. -/
def readScalar (points : List CodePoint) : Reading Json points.length :=
  match points with
  | .char 'n' :: .char 'u' :: .char 'l' :: .char 'l' :: rest =>
    .ok ⟨(.null, rest), by simp; omega⟩
  | .char 't' :: .char 'r' :: .char 'u' :: .char 'e' :: rest =>
    .ok ⟨(.bool true, rest), by simp; omega⟩
  | .char 'f' :: .char 'a' :: .char 'l' :: .char 's' :: .char 'e' :: rest =>
    .ok ⟨(.bool false, rest), by simp; omega⟩
  | .char 'N' :: .char 'a' :: .char 'N' :: rest => .ok ⟨(.float .nan, rest), by simp; omega⟩
  | .char 'I' :: .char 'n' :: .char 'f' :: .char 'i' :: .char 'n' :: .char 'i' :: .char 't' ::
      .char 'y' :: rest =>
    .ok ⟨(.float (.infinite false), rest), by simp; omega⟩
  | .char '-' :: .char 'I' :: .char 'n' :: .char 'f' :: .char 'i' :: .char 'n' :: .char 'i' ::
      .char 't' :: .char 'y' :: rest =>
    .ok ⟨(.float (.infinite true), rest), by simp; omega⟩
  | points => readNumber points

/-- What follows a character, if that is what comes after the blanks in front of a text. -/
def skipPast? (c : Char) (points : List CodePoint) : Option (List CodePoint) :=
  match skipBlanks points with
  | first :: rest => if first = .char c then some rest else none
  | [] => none

theorem length_skipPast?_lt {c : Char} {points rest : List CodePoint}
    (found : skipPast? c points = some rest) : rest.length < points.length := by
  have bound := length_skipBlanks_le points
  unfold skipPast? at found
  split at found
  · next skipped =>
    rw [skipped, List.length_cons] at bound
    split at found
    · rw [← Option.some.inj found]
      omega
    · simp at found
  · simp at found

/-- Reads the colon between a key and its value, with the blanks around it. -/
def readColon (bound : Nat) (points : List CodePoint) (within : points.length < bound) :
    Reading Unit bound :=
  match colon : skipPast? ':' points with
  | none => .error (.flaw .noColon (skipBlanks points))
  | some rest =>
    have shorter := length_skipPast?_lt colon
    .ok ⟨((), skipBlanks rest),
      Nat.lt_of_le_of_lt (length_skipBlanks_le rest) (Nat.lt_trans shorter within)⟩

mutual

/-- Reads a value, which starts at once. -/
def readValue (points : List CodePoint) : Reading Json points.length :=
  match points with
  | .char '"' :: rest => do
    let ⟨(text, rest), shorter⟩ ←
      readString (rest.length + 1) (.char '"' :: rest) [] rest (Nat.lt_succ_self _)
    return ⟨(.ofRawText text, rest), shorter⟩
  | .char '[' :: rest =>
    match ending : skipPast? ']' rest with
    | some after => .ok ⟨(.array [], after), Nat.lt_succ_of_lt (length_skipPast?_lt ending)⟩
    | none =>
      have := length_skipBlanks_le rest
      readItems (rest.length + 1) [] (skipBlanks rest) (Nat.lt_succ_of_le this)
  | .char '{' :: rest =>
    match ending : skipPast? '}' rest with
    | some after => .ok ⟨(.object [], after), Nat.lt_succ_of_lt (length_skipPast?_lt ending)⟩
    | none =>
      have := length_skipBlanks_le rest
      readEntries (rest.length + 1) [] (skipBlanks rest) (Nat.lt_succ_of_le this)
  | points => readScalar points
termination_by 2 * points.length

/-- Reads the items of an array up to its end. Those that have been read are given, last first. -/
def readItems (bound : Nat) (done : List Json) (points : List CodePoint)
    (within : points.length < bound) : Reading Json bound :=
  match readValue points with
  | .error halt => .error halt
  | .ok ⟨(item, rest), shorter⟩ =>
    match ending : skipPast? ']' rest with
    | some after =>
      have := length_skipPast?_lt ending
      .ok ⟨(.array (item :: done).reverse, after), by simp only at *; omega⟩
    | none =>
      match comma : skipPast? ',' rest with
      | none => .error (.flaw .noComma (skipBlanks rest))
      | some after =>
        have := length_skipPast?_lt comma
        have := length_skipBlanks_le after
        have : (skipBlanks after).length < points.length := by simp only at *; omega
        readItems bound (item :: done) (skipBlanks after) (Nat.lt_trans this within)
termination_by 2 * points.length + 1

/-- Reads the entries of an object up to its end. Those that have been read are given. -/
def readEntries (bound : Nat) (done : List (String × Json)) (points : List CodePoint)
    (within : points.length < bound) : Reading Json bound :=
  match opening : skipPast? '"' points with
  | none => .error (.flaw .noPropertyName points)
  | some tail =>
    have := length_skipPast?_lt opening
    match readString (tail.length + 1) (.char '"' :: tail) [] tail (Nat.lt_succ_self _) with
    | .error halt => .error halt
    | .ok ⟨(key, rest), shorter⟩ =>
      match readColon _ rest shorter with
      | .error halt => .error halt
      | .ok ⟨((), rest), shorter⟩ =>
        match readValue rest with
        | .error halt => .error halt
        | .ok ⟨(value, rest), shorter⟩ =>
          match ending : skipPast? '}' rest with
          | some after =>
            have := length_skipPast?_lt ending
            .ok ⟨(.object (put key.shown value done), after), by simp only at *; omega⟩
          | none =>
            match comma : skipPast? ',' rest with
            | none => .error (.flaw .noComma (skipBlanks rest))
            | some after =>
              have := length_skipPast?_lt comma
              have := length_skipBlanks_le after
              have : (skipBlanks after).length < points.length := by simp only at *; omega
              readEntries bound (put key.shown value done) (skipBlanks after)
                (Nat.lt_trans this within)
termination_by 2 * points.length + 1
decreasing_by all_goals simp only at *; omega

end

/-- Reads the one value of a whole text. -/
def readText (points : List CodePoint) : Except Halt Json := do
  let ⟨(value, rest), _⟩ ← readValue (skipBlanks points)
  match skipBlanks rest with
  | [] => return value
  | rest => .error (.flaw .extraData rest)

/-- Reads a text that has not been encoded, in which a byte order mark is out of place. -/
def readDocument (points : List CodePoint) : Except Halt Json :=
  match points with
  | .char '\ufeff' :: _ => .error (.flaw .byteOrderMark points)
  | _ => readText points

/-- The fault of a text at which a reader halts. -/
def Halt.fault (points : List CodePoint) : Halt → JsonFault
  | .flaw what rest =>
    .malformed what
      (.behind ((points.take (points.length - rest.length)).map CodePoint.character))
  | .integerTooLong digits => .integerTooLong digits

/-- Reads the JSON text of points. -/
def parsePoints (points : List CodePoint) : Except JsonFault Json :=
  (readDocument points).mapError (Halt.fault points)

/-- Reads a JSON text. -/
def parse (text : String) : Except JsonFault Json := parsePoints (text.toList.map .char)

/-- Why octets cannot be read as JSON. -/
inductive OctetsFault where
  | encoding (fault : Text.EncodingFault)
  | json (fault : JsonFault)
deriving DecidableEq, Repr

/-- The message of a fault. -/
def OctetsFault.message : OctetsFault → String
  | .encoding fault => fault.message
  | .json fault => fault.message

/-- Reads an encoded JSON text. A byte order mark in front is no part of the text, and a second one
is no value. -/
def parseOctets (octets : Bytes) : Except OctetsFault Json := do
  let points ← (Text.decode octets).mapError .encoding
  (readText points).mapError fun halt ↦ .json (halt.fault points)

end MeshAttest.Json
