import MeshAttest.Verifier.Sending

/-!
# URLs that can be sent

Most URLs are sent with changes, and some are not sent at all (`SentUrl.Reaches`).
`SentUrl.AsWritten` says of a URL that it can be sent, that an answer from it is taken, and that
nothing of it is changed but the case of its scheme.
-/

set_option autoImplicit false

namespace MeshAttest

/-- The text of a URL with its scheme, if it has one, in lower case. -/
def Url.lowerScheme (text : String) : String :=
  let (scheme, rest) := Url.takeScheme text.toList
  if scheme = [] then text else String.ofList (scheme ++ ':' :: rest)

/-- The URL can be sent, in the form given. -/
structure SentUrl.Reaches (url : String) (sent : SentUrl) : Prop where
  address_eq : Request.address url = .ok sent
  checkHost_eq : Request.checkHost sent = .ok ()

/-- What is sent for the URL is the URL itself, up to the case of its scheme. -/
structure SentUrl.AsWritten (url : String) (sent : SentUrl) : Prop where
  address_eq : Request.address url = .ok sent
  checkHost_eq : Request.checkHost sent = .ok ()
  checkOrigin_eq : sent.checkOrigin = .ok ()
  lowerScheme_eq : Url.lowerScheme sent.text = Url.lowerScheme url

/-- A URL that is sent as it is written can be sent. -/
theorem SentUrl.AsWritten.reaches {url : String} {sent : SentUrl} (h : AsWritten url sent) :
    Reaches url sent :=
  ⟨h.address_eq, h.checkHost_eq⟩

/-- The port is the usual one of the scheme. -/
def SentUrl.HasUsualPort (sent : SentUrl) : Prop :=
  ∃ port, sent.port = some port ∧ usualPorts.lookup (String.ofList sent.scheme) = some port

end MeshAttest
