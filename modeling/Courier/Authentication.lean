/-
Authentications: a scheme and the document that goes with it.

The document is free JSON.  A channel passes it on as it is; `password?` reads it for those who check
passwords.
-/
import Courier.Envelope.Basic
import Courier.Text.Base64

namespace Courier

/-- How an endpoint shows who it is, and the document that shows it. -/
structure Authentication where
  scheme : Scheme
  document : Json
  deriving DecidableEq, Inhabited

namespace Authentication

/-- Anyone. -/
def guest : Authentication :=
  ⟨.guest, .object []⟩

/-- Whoever the transport says. -/
def transport : Authentication :=
  ⟨.transport, .object []⟩

/-- A password. -/
def plain (password : String) : Authentication :=
  ⟨.plain, .object [("password", .string (Base64.ofText password))]⟩

/-- A shared key. -/
def key (key : String) : Authentication :=
  ⟨.key, .object [("key", .string (Base64.ofText key))]⟩

/-- A token of an issuer that both ends trust. -/
def external (token issuer : String) : Authentication :=
  ⟨.external, .object [("issuer", .string issuer), ("token", .string token)]⟩

/-- The password that a plain authentication shows, if its document has one. -/
def password? (authentication : Authentication) : Option String :=
  if authentication.scheme = .plain then do
    Base64.text? (← (← authentication.document.get? "password").text?)
  else none

end Authentication

namespace Session

/-- Makes a session carry an authentication. -/
def withAuthentication (session : Session) (authentication : Authentication) : Session :=
  { session with
    scheme := some authentication.scheme
    authentication := some authentication.document }

/-- The authentication that a session carries; without a document, the document is null. -/
def authentication? (session : Session) : Option Authentication :=
  session.scheme.map fun scheme => ⟨scheme, session.authentication.getD .null⟩

end Session
end Courier
