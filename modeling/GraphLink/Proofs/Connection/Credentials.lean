import GraphLink.Proofs.Connection.Canonical
import GraphLink.Proofs.Connection.Masking
import GraphLink.Proofs.Uri.Place

/-! # Credentials in a URI

    A URI is no place for credentials.  In front of an `@`, behind one of our schemes and two
    literal slashes, they are refused before anything else is looked at, and the refusal is the
    same for all of them: the reader of URIs gets past them in the same way
    (`Uri.parse_of_userinfo`), and the mask covers them (`exists_shown_of_isCredentials`).

    So what a caller is told, what is called and what is logged depend on the scheme as it was
    spelled and on the text behind the `@`, never on the credentials
    (`credentials_refused_alike`). -/

namespace GraphLink

open GraphLink.Uri (unbroken)

/-- A text that is read as credentials in front of an `@`: it has no character that ends the place
    for them, and without tabs and line breaks it is neither empty nor only a colon. -/
structure IsCredentials (text : String) : Prop where
  inside : ∀ c ∈ text.toList, c ∉ ['/', '?', '#']
  ne_nil : unbroken text.toList ≠ []
  ne_colon : unbroken text.toList ≠ [':']

/-- Credentials hold nothing that ends the masked part of a text. -/
theorem IsCredentials.endsMask_of_mem {text : String} (h : IsCredentials text) :
    ∀ c ∈ text.toList, ConnectionUri.endsMask c = false := by
  intro c hc
  simpa [ConnectionUri.endsMask, and_assoc] using h.inside c hc

/-- Credentials are user information to the reader, which drops tabs and line breaks first. -/
theorem IsCredentials.isUserinfo {text : String} (h : IsCredentials text) :
    Uri.IsUserinfo (unbroken text.toList) := by
  refine ⟨?_, h.ne_nil, h.ne_colon⟩
  intro c hc
  have hmem : c ∈ text.toList := (List.mem_filter.mp hc).1
  simpa [Uri.endsAuthority, Uri.SchemeKind.isSpecial, and_assoc] using h.inside c hmem

namespace ConnectionUri

open GraphLink.Text

/-- There is no slash in a scheme, so the mark behind it is the first one. -/
theorem masksBehind_of_spells {s : Scheme} {spelled : String}
    (h : spelled.toList.map Char.toLower = s.name.toList) :
    masksBehind (spelled ++ "://").toList = true := by
  have hslash : '/' ∉ spelled.toList := by
    intro hmem
    exact absurd ((Scheme.spells h).isSchemeChar_of_mem '/' hmem) (by decide)
  have hcut : cutAuthorityMark (spelled.toList ++ "://".toList) = some (spelled.toList ++ [], []) :=
    cutAuthorityMark_append_of_none (cutAuthorityMark_of_not_mem hslash) (by decide)
  rw [masksBehind, String.toList_append, hcut]
  rfl

/-- **CREDENTIALS ARE NOT SHOWN**: with all of them, a URI is shown as one and the same text. -/
theorem exists_shown_of_isCredentials {s : Scheme} {spelled : String}
    (h : spelled.toList.map Char.toLower = s.name.toList) (after : String) :
    ∃ hidden, ∀ text, IsCredentials text →
      shown (spelled ++ "://" ++ text ++ "@" ++ after) = hidden := by
  obtain ⟨hidden, hhidden⟩ :=
    exists_maskUserinfo_eq_of_masksBehind (masksBehind_of_spells h) after.toList
  refine ⟨String.ofList hidden, ?_⟩
  intro text htext
  have hlist : (spelled ++ "://" ++ text ++ "@" ++ after).toList
      = (spelled ++ "://").toList ++ (text.toList ++ '@' :: after.toList) := by
    simp
  rw [shown, hlist, hhidden text.toList htext.endsMask_of_mem]

/-- A URI that cannot be read, but has a scheme, is refused as such. -/
theorem classify_of_unreadable {uri : String} {fault : Uri.Fault}
    (hparse : Uri.parse uri = .error fault) (hne : fault ≠ .noScheme) :
    classify uri = .error (.unreadable fault (shown uri)) := by
  rw [classify, hparse]
  cases fault <;> first | rfl | exact absurd rfl hne

/-- **ONE REFUSAL**: behind one of our schemes in any letter case, a URI is not classified with
    credentials in it, and the message is the same for all of them. -/
theorem exists_classify_of_isCredentials {s : Scheme} {spelled : String}
    (h : spelled.toList.map Char.toLower = s.name.toList) (after : String) :
    ∃ fault : Fault, fault.toError = .malformedAddress fault.message ∧ ∀ text, IsCredentials text →
      classify (spelled ++ "://" ++ text ++ "@" ++ after) = .error fault := by
  have hname : Scheme.ofName? s.name = some s := Scheme.ofName?_name s
  have htext (text : String) : spelled ++ "://" ++ text ++ "@" ++ after = String.ofList
      (spelled.toList ++ ':' :: '/' :: '/' :: (text.toList ++ '@' :: after.toList)) := by
    rw [← String.toList_inj, String.toList_ofList]
    simp
  obtain ⟨hidden, hshown⟩ := exists_shown_of_isCredentials h after
  obtain ⟨fault, hne, hfails⟩ | hreads :=
    Uri.parse_of_userinfo (Scheme.spells h) (ofScheme_of_ofName? hname) after.toList
  · refine ⟨.unreadable fault hidden, rfl, ?_⟩
    intro text hcredentials
    have hparse := hfails text.toList hcredentials.isUserinfo
    rw [← htext] at hparse
    rw [classify_of_unreadable hparse hne, hshown text hcredentials]
  · refine ⟨.credentials hidden, rfl, ?_⟩
    intro text hcredentials
    obtain ⟨u, hparse, hscheme, huser⟩ := hreads text.toList hcredentials.isUserinfo
    rw [← htext] at hparse
    rw [classify_of_userinfo hparse huser, hshown text hcredentials, hscheme, userinfoFault, hname]

end ConnectionUri

namespace Opening

/-- A URI that is not classified ends a request for a driver, with nothing called or logged. -/
theorem uri_of_classify_eq_error {text : String} {fault : ConnectionUri.Fault}
    (h : ConnectionUri.classify text = .error fault) (b : Backend) (pool : Nat) (auth : AuthToken)
    (o : Options) : Opening.uri b pool text auth o = .fail fault.toError := by
  rw [Opening.uri, classify, h]
  rfl

/-- **NOTHING DEPENDS ON CREDENTIALS**: behind one of our schemes in any letter case, and whatever
    follows the `@`, a URI with credentials opens no driver.  One message answers for all of them,
    under every backend, token and bag of options; nothing is called, and nothing is logged. -/
theorem credentials_refused_alike {s : Scheme} {spelled : String}
    (h : spelled.toList.map Char.toLower = s.name.toList) (after : String) :
    ∃ message, ∀ text, IsCredentials text → ∀ b pool auth o,
      Opening.uri b pool (spelled ++ "://" ++ text ++ "@" ++ after) auth o
        = { answer := .error (.malformedAddress message), calls := [], log := [] } := by
  obtain ⟨fault, herror, hclassify⟩ := ConnectionUri.exists_classify_of_isCredentials h after
  refine ⟨fault.message, ?_⟩
  intro text htext b pool auth o
  rw [uri_of_classify_eq_error (hclassify text htext), herror]
  rfl

/-- A password, or a backslash between tabs and another `@`: in front of an address that does not
    end, both are refused with one message. -/
theorem credentials_refused_alike_unterminated :
    "NeO4J+sSc".toList.map Char.toLower = Scheme.neo4jSelfSigned.name.toList
      ∧ IsCredentials "alice:secret" ∧ IsCredentials "\t\\@:[\n"
      ∧ ∃ message, ∀ text ∈ ["alice:secret", "\t\\@:[\n"], ∀ b pool auth o,
          Opening.uri b pool ("NeO4J+sSc" ++ "://" ++ text ++ "@" ++ "[::1") auth o
            = { answer := .error (.malformedAddress message), calls := [], log := [] } := by
  have hsecret : IsCredentials "alice:secret" := ⟨by simp, by decide, by decide⟩
  have hbroken : IsCredentials "\t\\@:[\n" := ⟨by simp, by decide, by decide⟩
  refine ⟨by decide, hsecret, hbroken, ?_⟩
  obtain ⟨message, hmessage⟩ :=
    @credentials_refused_alike .neo4jSelfSigned "NeO4J+sSc" (by decide) "[::1"
  refine ⟨message, ?_⟩
  intro text htext
  rcases List.mem_cons.mp htext with rfl | htext
  · exact hmessage _ hsecret
  · exact hmessage _ (List.mem_singleton.mp htext ▸ hbroken)

end Opening
end GraphLink
