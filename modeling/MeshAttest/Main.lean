import MeshAttest.CommandLine.Basic
import MeshAttest.CommandLine.Transcript
import Std.Time.DateTime.Timestamp

/-!
# The program

The outer layer of the command line: it reads the file, the replies, the variables and the clock,
and writes the requests.
-/

set_option autoImplicit false

open MeshAttest

/-- The lines of a stream up to its end. -/
partial def readLines (stream : IO.FS.Stream) (done : Array String) : IO (Array String) := do
  let line ← stream.getLine
  if line.isEmpty then return done
  else readLines stream (done.push (line.dropEndWhile (· == '\n')).toString)

/-- Opens the file that a command line names. -/
def readNamed (texts : List String) : IO (Except FileFault String) := do
  match Arguments.parse texts with
  | .ok { file := some name, .. } =>
    if '\x00' ∈ name.toList then return .error .nullInName
    try
      return .ok (← IO.FS.readFile name)
    catch
      | .inappropriateType .. => return .error .isDirectory
      | _ => return .error .notFound
  | _ => return .error .notFound

/-- The variables that have a value. -/
def readVariables (names : List String) : IO (List (String × String)) := do
  let values ← names.mapM fun name ↦ do return (name, ← IO.getEnv name)
  return values.filterMap fun (name, value) ↦ value.map (name, ·)

/-- Runs the program. -/
def main (texts : List String) : IO UInt32 := do
  let content ← readNamed texts
  let environment ← readVariables [Options.holdVariable, Options.serviceKeyVariable]
  let clock ← Std.Time.Timestamp.now
  let surroundings : Surroundings :=
    { now := clock.toSecondsSinceUnixEpoch.toInt, environment, fileText := fun _ ↦ content }
  let lines ← readLines (← IO.getStdin) #[]
  let (outcome, wire) := CommandLine.run surroundings texts (lines.toList.map Reply.ofLine)
  for line in wire.requestLines do
    IO.println line
  match outcome with
  | .ok status => return UInt32.ofNat status
  | .error fault =>
    IO.eprintln fault.message
    return 1
