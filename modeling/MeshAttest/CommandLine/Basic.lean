import MeshAttest.CommandLine.Arguments
import MeshAttest.CommandLine.SavedFile
import MeshAttest.Text.LineEnd
import MeshAttest.Verifier.Client

/-!
# The command line

The program submits saved evidence: a file has the entries, and the nonce that the evidence was
collected with is given beside it. `CommandLine.run` does the work and tells the exit status, which
is 0 for a positive verdict, 2 for a negative one, and 1 if the attestation fails. What else goes
wrong ends the program without a status of its own, among it everything that is wrong with the
file.
-/

set_option autoImplicit false

namespace MeshAttest

/-- Why the program ends without an exit status of its own. -/
inductive CommandFault where
  /-- No name of a file has been given. -/
  | fileUnnamed
  | file (fault : FileFault)
  /-- The text of the file is no JSON text. -/
  | content (fault : JsonFault)
  /-- The option for the architecture has no name. -/
  | architectureUnnamed
  /-- A failure that is not one of the attestation. -/
  | failure (failure : Failure)
deriving DecidableEq

/-- The message of a fault. -/
def CommandFault.message : CommandFault → String
  | .fileUnnamed => "No file is named"
  | .file fault => fault.message
  | .content fault => fault.message
  | .architectureUnnamed => "[] is not a valid Arch"
  | .failure cause => cause.message

/-- What surrounds the program: the clock, the variables, and what opening a file by its name
yields. -/
structure Surroundings where
  now : Int
  environment : List (String × String)
  fileText : String → Except FileFault String

namespace CommandLine

/-- The saved entries of a file. -/
def savedEntries (surroundings : Surroundings) (name : String) :
    Except CommandFault (List Entry) := do
  let text ← (surroundings.fileText name).mapError .file
  let saved ← (Json.parse (String.ofList (Text.unifyLineEnds text.toList))).mapError .content
  (Entry.listOfJson saved).mapError fun fault ↦ .failure (.entry fault)

/-- Submits entries with the settings of the environment and verifies the result. -/
def submit (surroundings : Surroundings) (architecture : Architecture) (nonce : Option String)
    (entries : List Entry) : Attempt (Bool × Json) :=
  let client := Client.create architecture (.ofEnvironment surroundings.environment)
  let nonce := match nonce with
    | some text => .text text
    | none => .absent
  client.submit surroundings.now (entries.map .device) nonce none

/-- The exit status of a submission. -/
def exitStatus : Except Failure (Bool × Json) → Except CommandFault Nat
  | .ok (verdict, _) => .ok (if verdict then 0 else 2)
  | .error failure => if failure.isOfAttestation then .ok 1 else .error (.failure failure)

/-- Runs the program with the words of a command line, over a wire that has the given replies. -/
def run (surroundings : Surroundings) (texts : List String) (replies : List Reply) :
    Except CommandFault Nat × Wire :=
  let idle := Wire.ofReplies replies
  match Arguments.parse texts with
  | .error usage => (.ok usage.exitStatus, idle)
  | .ok arguments =>
    match arguments.file with
    | none => (.error .fileUnnamed, idle)
    | some name =>
      match savedEntries surroundings name with
      | .error fault => (.error fault, idle)
      | .ok entries =>
        match arguments.architecture with
        | none => (.error .architectureUnnamed, idle)
        | some architecture =>
          let (outcome, wire) :=
            (submit surroundings architecture arguments.nonce entries).runWith replies
          (exitStatus outcome, wire)

end CommandLine

end MeshAttest
