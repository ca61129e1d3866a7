import MeshAttest.Host.Label
import MeshAttest.Json.Fault
import MeshAttest.Url.Basic

/-!
# Faults around the remote verifier

What can go wrong with an exchange with the verifier (`TransportFault`), with a request before it is
sent (`SendFault`), with the shape of the answer (`ResponseFault`), and with the evidence that is to
be submitted (`EntryFault`).
-/

set_option autoImplicit false

namespace MeshAttest

/-- The two kinds of requests. -/
inductive Method where
  | get
  | post
deriving DecidableEq, Repr

/-- The name of a method. -/
def Method.name : Method → String
  | .get => "GET"
  | .post => "POST"

/-- Why an exchange with the verifier fails. -/
inductive TransportFault where
  /-- The request cannot be sent, or no answer comes. -/
  | request (method : Method) (url : String) (cause : String)
  /-- The answer has a status that does not mean success. -/
  | status (code : Int) (text : String)
  /-- The body of the answer is no JSON text. -/
  | body (fault : JsonFault)
deriving DecidableEq, Repr

/-- The message of a fault. -/
def TransportFault.message : TransportFault → String
  | .request method url cause => s!"{method.name} {url} failed: {cause}"
  | .status code text => s!"Verifier returned HTTP {code}: {text}"
  | .body fault => s!"Response is not valid JSON: {fault.message}"

/-- Why a request is not sent, or its answer is not taken. -/
inductive SendFault where
  /-- The URL has no form in which it could be sent. -/
  | url
  /-- A header is not ASCII, or a string in the body is no text: either cannot be encoded. -/
  | header
  /-- The body has a number that is not finite. -/
  | body
  /-- The host is written like the ASCII form of a name, and is not one. -/
  | host (fault : Host.LabelFault)
  /-- There is no scheme and host in the URL. -/
  | urlType (sent : String)
  /-- The URL that has been sent cannot be taken apart. -/
  | urlParts (fault : Url.Fault)
deriving DecidableEq, Repr

/-- The message of a fault. -/
def SendFault.message : SendFault → String
  | .url => "The URL cannot be sent"
  | .header => "A header or the body cannot be encoded"
  | .body => "Out of range float values are not JSON compliant"
  | .host _ => "The host is not encoded"
  | .urlType sent => s!"unknown url type: {Text.quoted sent}"
  | .urlParts fault => fault.message

/-- Why an answer of the verifier has no token. -/
inductive ResponseFault where
  | notArray
  | notPair
  | notText
deriving DecidableEq, Repr

/-- The message of a fault. -/
def ResponseFault.message : ResponseFault → String
  | .notArray => "Token structure invalid: response is not a non-empty array"
  | .notPair => "Token structure invalid: first element is not a [header, token] array"
  | .notText => "Token structure invalid: second element is not a string"

/-- Why evidence cannot be taken from saved values. -/
inductive EntryFault where
  /-- An entry lacks a key. -/
  | missing (key : String)
  /-- An entry has no keys at all, or there are no entries to go through. -/
  | notEntries
deriving DecidableEq, Repr

/-- The message of a fault. -/
def EntryFault.message : EntryFault → String
  | .missing key => Text.quoted key
  | .notEntries => "evidence entries expected"

end MeshAttest
