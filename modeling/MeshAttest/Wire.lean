import MeshAttest.Bytes
import MeshAttest.Failure
import MeshAttest.Json.Value

/-!
# Attempts and the wire

An attempt to do something reads evidence sources and exchanges requests for replies. It either
gives a value or fails, and in both cases it leaves a `Wire`: the replies that have not been used
yet, and all that has happened, in order. Each request takes one reply; there is no other way to
get one.

What a request is depends on who sends it. One of `Client` is a call of its HTTP library, requests:
the URL, the headers and the body stand in it as they are handed over, and where the library does
not send what it is given, that is a reply which fails, like any other failure of the library. One
of `AsyncClient` is what its library, httpx, hands to the transport, with the URL and the headers
that are sent. What the library refuses to send never gets there, and is no request
(`Request.outgoing`).
-/

set_option autoImplicit false

namespace MeshAttest

/-- A request. Times are in milliseconds; without a timeout there is no limit. -/
inductive Request where
  | get (url : String) (timeout : Option Int)
  | post (url : String) (body : Json) (headers : Option (List (String × String)))
    (timeout : Option Int)

/-- What comes back for a request. -/
inductive Reply where
  | answer (status : Int) (body : String)
  /-- No answer comes, for the cause given. -/
  | failure (cause : String)
deriving DecidableEq, Repr

/-- What is done with a source of evidence. -/
inductive SourceCall where
  | openSource
  | list
  | fetch (device : String) (nonce : Bytes)
  | chain (device : String)
  | close
deriving DecidableEq, Repr

/-- Something that happens. -/
inductive Event where
  | source (name : String) (call : SourceCall)
  | request (request : Request)

/-- The replies to come, and what has happened. -/
structure Wire where
  replies : List Reply
  events : List Event

namespace Wire

/-- A wire on which nothing has happened yet. -/
def ofReplies (replies : List Reply) : Wire := ⟨replies, []⟩

/-- Notes what happens. -/
def record (event : Event) (wire : Wire) : Wire := { wire with events := wire.events ++ [event] }

/-- The reply when no other is left. -/
def silence : Reply := .failure "no scripted reply"

/-- Sends a request. -/
def exchange (request : Request) (wire : Wire) : Reply × Wire :=
  let sent := wire.record (.request request)
  match sent.replies with
  | [] => (silence, sent)
  | reply :: rest => (reply, { sent with replies := rest })

end Wire

/-- Something that is done over a wire and may fail. -/
abbrev Attempt (α : Type) := ExceptT Failure (StateM Wire) α

namespace Attempt

/-- Notes what happens. -/
def record (event : Event) : Attempt Unit := modify (Wire.record event)

/-- Sends a request. -/
def exchange (request : Request) : Attempt Reply := modifyGet (Wire.exchange request)

/-- Does something over a wire that has the given replies. -/
def runWith {α : Type} (attempt : Attempt α) (replies : List Reply) : Except Failure α × Wire :=
  Id.run ((ExceptT.run attempt).run (Wire.ofReplies replies))

end Attempt

end MeshAttest
