import MeshAttest.Json.Printer
import MeshAttest.Text.Split
import MeshAttest.Wire

/-!
# Requests and replies as lines

The program does not open connections itself. It writes each request on a line, as a JSON object,
for a transport outside of it to send, and reads each reply from a line. A reply is a status with
the body behind a blank; a line without a status says why no answer has come.
-/

set_option autoImplicit false

namespace MeshAttest

namespace Request

/-- A time limit in milliseconds. -/
def timeoutToJson : Option Int → Json
  | some limit => .integer limit
  | none => .null

/-- The headers of a request. -/
def headersToJson : Option (List (String × String)) → Json
  | some headers => .object (headers.map fun (name, value) ↦ (name, .string value))
  | none => .null

/-- A request as a JSON object. -/
def toJson : Request → Json
  | .get url timeout => .object [
      ("method", .string Method.get.name),
      ("url", .string url),
      ("timeout_ms", timeoutToJson timeout)]
  | .post url body headers timeout => .object [
      ("method", .string Method.post.name),
      ("url", .string url),
      ("json", body),
      ("headers", headersToJson headers),
      ("timeout_ms", timeoutToJson timeout)]

end Request

/-- The lines of the requests among events. -/
def Wire.requestLines (wire : Wire) : List String :=
  wire.events.filterMap fun
    | .request request => some request.toJson.render
    | .source _ _ => none

/-- The reply of a line. -/
def Reply.ofLine (line : String) : Reply :=
  let (status, body) := Text.cutFirst ' ' line.toList
  match (String.ofList status).toNat? with
  | some code => .answer code (String.ofList body)
  | none => .failure line

end MeshAttest
