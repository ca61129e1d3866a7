import MeshAttest.Text.Decimal
import MeshAttest.Text.Split

/-!
# Words of a command line

What each word of a command line is, before the words are read together (`Word.ofTexts`). There are
two long options, for help and for the architecture. They may be abbreviated as long as one of them
only is meant, and their value may follow an equals sign. Help has a short form too. Words behind a
separator of two dashes are no options, and neither are negative numbers and words with a blank in
them, unless an option begins them.
-/

set_option autoImplicit false

namespace MeshAttest

/-- What a word of the command line is. -/
inductive Word where
  | plain (text : String)
  /-- The separator behind which there are no options. -/
  | separator
  | help
  /-- The architecture, with the value that stands in the same word, if there is one. -/
  | architecture (value : Option String)
  /-- An option that there is not. -/
  | unknown
  /-- An option with a value that it does not take. -/
  | misused
  /-- A word that may mean two options. -/
  | ambiguous
deriving DecidableEq, Repr

namespace Word

/-- Whether a text is a negative number, with decimal digits of any script. A line feed may end it.
-/
def isNegativeNumber (chars : List Char) : Bool :=
  let isDigit := fun c ↦ (Text.digitValue? c).isSome
  let body := chars.drop 1
  let body := if body.getLast? = some '\n' then body.dropLast else body
  let whole := body.takeWhile isDigit
  match body.dropWhile isDigit with
  | [] => whole != []
  | '.' :: fraction => fraction != [] && fraction.all isDigit
  | _ => false

/-- The long options that a text begins. -/
def longOptions (chars : List Char) : List String :=
  ["--help", "--arch"].filter fun option ↦ chars.isPrefixOf option.toList

/-- The word of a text that starts with two dashes and has more, if it is an option. -/
def ofLong? (chars : List Char) : Option Word :=
  let (name, value) := Text.cutFirst '=' chars
  let value := if '=' ∈ chars then some (String.ofList value) else none
  match longOptions name with
  | [] => none
  | ["--arch"] => some (.architecture value)
  | ["--help"] => some (if value.isNone then .help else .misused)
  | _ => some .ambiguous

/-- The word of a text that starts with one dash, if it is an option. Behind the short form of help
the same word may have short options again, of which there is just the one; an equals sign may
stand in front of them. -/
def ofShort? (chars : List Char) : Option Word :=
  let repeated := fun more : List Char ↦ if more.all (· = 'h') then Word.help else .misused
  match chars.drop 1 with
  | ['h', '='] => some .misused
  | 'h' :: '=' :: more => some (repeated more)
  | 'h' :: more => some (repeated more)
  | _ => none

/-- The word of a text that stands in front of any separator. -/
def ofText (text : String) : Word :=
  match text.toList with
  | ['-', '-'] => .separator
  | '-' :: second :: rest =>
    let chars := '-' :: second :: rest
    match if second = '-' then ofLong? chars else ofShort? chars with
    | some word => word
    | none => if isNegativeNumber chars ∨ ' ' ∈ chars then .plain text else .unknown
  | _ => .plain text

/-- The words of a command line. -/
def ofTexts : List String → List Word
  | [] => []
  | text :: rest =>
    if ofText text = .separator then .separator :: rest.map .plain
    else ofText text :: ofTexts rest

end Word

end MeshAttest
