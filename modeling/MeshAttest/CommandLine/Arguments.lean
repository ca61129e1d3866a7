import MeshAttest.CommandLine.Word
import MeshAttest.Verifier.Options

/-!
# Arguments of a command line

`Arguments.parse` reads what a command line asks for: the name of a file, a nonce, and the
architecture, if it is given. A separator that stands where one of the three has its text leaves it
without one, which is not yet a mistake here. The words are read from left to right, so that of two
mistakes the first one counts, and help is given unless something was wrong before it. Two kinds of
mistakes are out of this order: a word that may mean two options is found before anything is read,
and words too many and options that there are not are found at the end.
-/

set_option autoImplicit false

namespace MeshAttest

/-- What a command line asks for. -/
structure Arguments where
  /-- The name of the file, which may lack its text. -/
  file : Option String
  /-- The nonce, which may lack its text. -/
  nonce : Option String
  /-- The architecture, which may lack its name. -/
  architecture : Option Architecture
deriving DecidableEq, Repr

/-- Why a command line asks for no work. -/
inductive Usage where
  | help
  | wrong
deriving DecidableEq, Repr

/-- The exit status of a command line that asks for no work. -/
def Usage.exitStatus : Usage → Nat
  | .help => 0
  | .wrong => 2

/-- The words read so far. -/
structure ArgumentReader where
  /-- The values in order. There is none for a second separator that stands alone. -/
  values : List (Option String) := []
  architecture : Option Architecture := some .hopper
  /-- Whether there has been a word too many. -/
  excess : Bool := false
deriving DecidableEq, Repr

namespace ArgumentReader

/-- The number of values that a command line has. -/
def valueCount : Nat := 2

/-- Takes note of a value, or of a word too many if there are all values already. -/
def addValue (reader : ArgumentReader) (value : Option String) : ArgumentReader :=
  if reader.values.length < valueCount then { reader with values := reader.values ++ [value] }
  else { reader with excess := true }

/-- Takes note of the architecture. The last one counts. -/
def setArchitecture (reader : ArgumentReader) (name : String) : Except Usage ArgumentReader :=
  if name = "--" then .ok { reader with architecture := none }
  else match Architecture.ofName name with
    | .ok architecture => .ok { reader with architecture := some architecture }
    | .error _ => .error .wrong

/-- What has been asked for in the end. -/
def finish (reader : ArgumentReader) : Except Usage Arguments :=
  match reader.values, reader.excess with
  | [file, nonce], false => .ok ⟨file, nonce, reader.architecture⟩
  | _, _ => .error .wrong

/-- Reads words. The separator belongs to the value next to it: to the one in front, or else to the
one behind it, which may then look like a separator itself. -/
def read (reader : ArgumentReader) : List Word → Except Usage Arguments
  | [] => reader.finish
  | .help :: _ => .error .help
  | .misused :: _ | .ambiguous :: _ => .error .wrong
  | .unknown :: rest => { reader with excess := true }.read rest
  | .architecture (some name) :: rest => do (← reader.setArchitecture name).read rest
  | .architecture none :: .plain name :: rest => do (← reader.setArchitecture name).read rest
  | .architecture none :: _ => .error .wrong
  | .separator :: .plain text :: rest => (reader.addValue (some text)).read rest
  | .separator :: rest => { reader with excess := true }.read rest
  | .plain text :: .separator :: rest => (reader.addValue (some text)).read rest
  | .plain text :: rest => (reader.addValue (if text = "--" then none else some text)).read rest

end ArgumentReader

/-- Reads a command line. -/
def Arguments.parse (texts : List String) : Except Usage Arguments :=
  let words := Word.ofTexts texts
  if .ambiguous ∈ words then .error .wrong else ({} : ArgumentReader).read words

end MeshAttest
