/-
Which documents show a password.

A password is read from the one text that it would be sent as, and from nothing else
(`password?_exact`).  So no two texts show the same password, and a text that is no canonical writing
of UTF-8 shows none.
-/
import Courier.Authentication
import Courier.Proofs.Text.Base64

namespace Courier

theorem Json.get?_eq_some_iff {document value : Json} {key : String} :
    document.get? key = some value ↔
      ∃ members, document = .object members ∧ Members.get? key members = some value := by
  cases document with
  | object members => simp [Json.get?]
  | _ => simp [Json.get?]

namespace Authentication

variable {document : Json}

theorem password?_of_ne_plain {scheme : Scheme} (hscheme : scheme ≠ .plain) :
    (⟨scheme, document⟩ : Authentication).password? = none :=
  if_neg hscheme

theorem password?_of_text {text : String} (htext : document.get? "password" = some (.string text)) :
    (⟨.plain, document⟩ : Authentication).password? = Base64.text? text := by
  unfold password?
  rw [if_pos rfl, htext]
  rfl

theorem password?_eq_some_iff {password : String} :
    (⟨.plain, document⟩ : Authentication).password? = some password ↔
      document.get? "password" = some (.string (Base64.ofText password)) := by
  constructor
  · intro hread
    unfold password? at hread
    rw [if_pos rfl] at hread
    obtain ⟨value, hvalue, hread⟩ := Option.bind_eq_some_iff.mp hread
    obtain ⟨text, htext, hread⟩ := Option.bind_eq_some_iff.mp hread
    cases value with
    | string _ =>
      cases htext
      rw [hvalue, Base64.text?_eq_some_iff.mp hread]
    | _ => cases htext
  · intro hwritten
    rw [password?_of_text hwritten]
    exact Base64.text?_ofText password

/-- A document shows a password under the plain scheme if and only if it is an object whose member for
it is what the password would be sent as.  Any other text of that member shows none: because it does
not consist of canonical digits, or because these stand for no UTF-8.  A password is shown by no two
texts, and under no other scheme. -/
theorem password?_exact (document : Json) :
    (∀ password, (⟨.plain, document⟩ : Authentication).password? = some password ↔
      ∃ members, document = .object members ∧
        Members.get? "password" members = (plain password).document.get? "password") ∧
    (∀ text, document.get? "password" = some (.string text) →
      ((⟨.plain, document⟩ : Authentication).password? = none ↔
        ¬Base64.Canonical text.toList ∨
          ∃ bytes, text.toList = Base64.encode bytes ∧
            ¬(⟨bytes.toArray⟩ : ByteArray).IsValidUTF8)) ∧
    (∀ other password, (⟨.plain, document⟩ : Authentication).password? = some password →
      (⟨.plain, other⟩ : Authentication).password? = some password →
      document.get? "password" = other.get? "password") ∧
    ∀ scheme, scheme ≠ .plain → (⟨scheme, document⟩ : Authentication).password? = none := by
  refine ⟨fun password => ?_, fun text htext => ?_, fun other password hread hother => ?_,
    fun scheme => password?_of_ne_plain⟩
  · have hsent : (plain password).document.get? "password" =
        some (.string (Base64.ofText password)) := rfl
    rw [password?_eq_some_iff, Json.get?_eq_some_iff, hsent]
  · rw [password?_of_text htext]
    exact Base64.text?_eq_none_iff
  · rw [password?_eq_some_iff.mp hread, password?_eq_some_iff.mp hother]

/-- A document with a text for a password, after another member. -/
def credential (text : String) : Json :=
  .object [("account", .null), ("password", .string text)]

theorem password?_exact_credential :
    (⟨.plain, credential "w6Q="⟩ : Authentication).password? = some "ä" ∧
      (∀ text ∈ ["w6R=", "w6Q", "w6Q==", "w6-=", "/w=="],
        (⟨.plain, credential text⟩ : Authentication).password? = none) ∧
      (⟨.key, credential "w6Q="⟩ : Authentication).password? = none := by
  obtain ⟨hread, -, -, hscheme⟩ := password?_exact (credential "w6Q=")
  refine ⟨(hread "ä").mpr ⟨_, rfl, rfl⟩, ?_, hscheme .key (by decide)⟩
  intro text htext
  obtain ⟨-, hrefused, -, -⟩ := password?_exact (credential text)
  refine (hrefused text rfl).mpr ?_
  simp only [List.mem_cons, List.not_mem_nil, or_false] at htext
  obtain rfl | rfl | rfl | rfl | rfl := htext
  · exact .inl (by decide)
  · exact .inl (by decide)
  · exact .inl (by decide)
  · exact .inl (by decide)
  · exact .inr ⟨[0xFF], rfl, by decide⟩

end Authentication
end Courier
