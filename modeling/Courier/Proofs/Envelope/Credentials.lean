/-
Credentials survive the wire.

A session that carries an authentication is written with the scheme and the document as two fields
of its own.  Whoever reads one of its texts has the same authentication
(`authentication_round_trip`): a null document is not told from an absent one, but an absent one is
what a null is restored from.  A password goes through one more layer, the digits of its UTF-8
bytes, and comes out as it went in.
-/
import Courier.Authentication
import Courier.Proofs.Envelope.RoundTrip
import Courier.Proofs.Text.Base64

namespace Courier

namespace Authentication

theorem password?_plain (password : String) : (plain password).password? = some password := by
  have hscheme : (plain password).scheme = .plain := rfl
  have hdigits : (plain password).document.get? "password" =
      some (.string (Base64.ofText password)) := rfl
  unfold password?
  rw [if_pos hscheme, hdigits]
  exact Base64.text?_ofText password

/-- The document of a password is one flat object. -/
theorem document_plain (password : String) :
    (plain password).document.Exact ∧ (plain password).document.toTree.nesting = 1 :=
  ⟨⟨List.pairwise_singleton _ _, trivial, trivial⟩, rfl⟩

end Authentication

namespace Session

/-- Reading the authentication does not tell a null document from an absent one. -/
theorem authentication?_withoutNull (session : Session) :
    session.withoutNull.authentication? = session.authentication? := by
  have hdocument : (session.authentication.filter (· ≠ .null)).getD .null =
      session.authentication.getD .null := by
    by_cases hnull : session.authentication = some .null
    · rw [hnull]
      rfl
    · rw [Json.filter_ne_null hnull]
  unfold authentication? withoutNull
  rw [hdocument]

theorem authentication?_withAuthentication (session : Session) (authentication : Authentication) :
    (session.withAuthentication authentication).authentication? = some authentication := rfl

end Session

namespace Envelope

/-- A text of a session is read as that session, less a null document. -/
theorem ofText_text_session (session : Session) (listing : session.header.metadata.Listing)
    (hnodes : ∀ node ∈ session.header.nodes, Node.parse node.text = .ok node)
    (hexact : ∀ j, session.authentication = some j → j.Exact)
    (hnesting : ∀ j, session.authentication = some j → j.toTree.nesting < maxNesting) :
    ofText ((Envelope.session session).text listing) = .ok (.session session.withoutNull) := by
  have hread : ofMembers? ((Envelope.session session).members listing) =
      some (.session session.withoutNull) := by
    have hsession := Session.ofMembers?_withoutNull listing hnodes hexact
    simp [ofMembers?, members, hsession]
  refine ofText_text_of_members ?_ ?_ hread
  · exact fun j hj => hexact j (by simpa [documents] using hj)
  · refine nesting_le_of_documents (n := maxNesting - 1) (by decide) fun j hj => ?_
    exact Nat.le_pred_of_lt (hnesting j (by simpa [documents] using hj))

theorem ofText_text_withAuthentication {session : Session} {authentication : Authentication}
    (listing : session.header.metadata.Listing)
    (hnodes : ∀ node ∈ session.header.nodes, Node.parse node.text = .ok node)
    (hexact : authentication.document.Exact)
    (hnesting : authentication.document.toTree.nesting ≤ 126) :
    ofText ((Envelope.session (session.withAuthentication authentication)).text listing) =
      .ok (.session (session.withAuthentication authentication).withoutNull) := by
  refine ofText_text_session (session.withAuthentication authentication) listing hnodes ?_ ?_
  · rintro j ⟨⟩
    exact hexact
  · rintro j ⟨⟩
    exact Nat.lt_succ_of_le hnesting

/-- Whoever reads a session that was given an authentication has that authentication, and all else
of the session as it was, in whatever order the metadata was listed.  The addresses of the session
must be what their texts stand for; its other fields may hold anything, and so may the document, as
far as it holds no binary64 number and nests no deeper than an envelope leaves room for.  A password
is any text. -/
theorem authentication_round_trip (session : Session) (listing : session.header.metadata.Listing)
    (hnodes : ∀ node ∈ session.header.nodes, Node.parse node.text = .ok node) :
    (∀ authentication : Authentication, authentication.document.Exact →
      authentication.document.toTree.nesting ≤ 126 →
      ∃ received : Session,
        ofText ((Envelope.session (session.withAuthentication authentication)).text listing) =
          .ok (.session received) ∧
        received.authentication? = some authentication ∧
        received = { session.withAuthentication authentication with
          authentication := received.authentication }) ∧
    ∀ password : String, ∃ received : Session,
      ofText ((Envelope.session (session.withAuthentication (.plain password))).text listing) =
        .ok (.session received) ∧
      received.authentication?.bind Authentication.password? = some password := by
  refine ⟨fun authentication hexact hnesting => ?_, fun password => ?_⟩
  -- A null document has been lost on the way; its absence is read as the same.
  · refine ⟨_, ofText_text_withAuthentication listing hnodes hexact hnesting, ?_, rfl⟩
    rw [Session.authentication?_withoutNull, Session.authentication?_withAuthentication]
  · obtain ⟨hexact, hnesting⟩ := Authentication.document_plain password
    refine ⟨_, ofText_text_withAuthentication listing hnodes hexact (by omega), ?_⟩
    rw [Session.authentication?_withoutNull, Session.authentication?_withAuthentication,
      Option.bind_some, Authentication.password?_plain]

/-- A session with an address, metadata, both lists of options and a reason. -/
def offeringSession : Session where
  header := {
    id := some ""
    sender := some ⟨⟨some "älice", some "example.org"⟩, some "a/b"⟩
    metadata := .ofList [("a", ""), ("b", "\n"), ("c", "1")] }
  state := .authenticating
  encryptionOptions := some [.tls, .off]
  compressionOptions := some []
  reason := some { code := -1, description := some "\u0000" }

/-- Its metadata, in an order that is not that of the keys. -/
def offeringSession.shuffled : offeringSession.header.metadata.Listing where
  entries := [("b", "\n"), ("c", "1"), ("a", "")]
  perm := by decide

theorem offeringSession_round_trip :
    (∀ node ∈ offeringSession.header.nodes, Node.parse node.text = .ok node) ∧
    (∃ received : Session,
      ofText ((Envelope.session (offeringSession.withAuthentication ⟨.external, .null⟩)).text
        offeringSession.shuffled) = .ok (.session received) ∧
      received.authentication? = some ⟨.external, .null⟩) ∧
    (∃ received : Session,
      ofText ((Envelope.session (offeringSession.withAuthentication
        ⟨.key, .object [("", .array [.null, .number (.whole (-1))])]⟩)).text
        offeringSession.shuffled) = .ok (.session received) ∧
      received.authentication? = some ⟨.key, .object [("", .array [.null, .number (.whole (-1))])]⟩) ∧
    ∃ received : Session,
      ofText ((Envelope.session (offeringSession.withAuthentication (.plain "пароль \u0000🔑"))).text
        offeringSession.shuffled) = .ok (.session received) ∧
      received.authentication?.bind Authentication.password? = some "пароль \u0000🔑" := by
  have hnodes : ∀ node ∈ offeringSession.header.nodes, Node.parse node.text = .ok node := by
    intro node hnode
    simp only [offeringSession, Header.nodes, Option.toList_some, Option.toList_none,
      List.append_nil, List.mem_singleton] at hnode
    subst hnode
    rfl
  obtain ⟨hdocument, hpassword⟩ :=
    authentication_round_trip offeringSession offeringSession.shuffled hnodes
  refine ⟨hnodes, ?_, ?_, hpassword _⟩
  · obtain ⟨received, htext, hread, -⟩ := hdocument ⟨.external, .null⟩ trivial (by decide)
    exact ⟨received, htext, hread⟩
  · obtain ⟨received, htext, hread, -⟩ :=
      hdocument ⟨.key, .object [("", .array [.null, .number (.whole (-1))])]⟩
        ⟨by decide, ⟨trivial, ⟨by decide, by decide⟩, trivial⟩, trivial⟩ (by decide)
    exact ⟨received, htext, hread⟩

end Envelope
end Courier
