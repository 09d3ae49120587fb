import GraphLink.Connection.Uri
import GraphLink.Proofs.Uri.Plain

/-! # A classified URI is in canonical form

    Many texts are read as one connection URI: the scheme in any case, tabs and spaces, an empty
    user information, a path that comes down to `/`, an IPv6 address in any of its forms.  What is
    read from them, written down again, is read as the same URI (`classify_render`), so writing
    picks one text out of each class.

    Two facts about single URIs carry this: which URIs are connection URIs (`classify_eq_ok`), and
    that these are all read under a plain scheme (`isPlain_of_classifies`). -/

namespace GraphLink.ConnectionUri

open GraphLink.Text

/-- Whether a URI says no more than a connection URI does, and has the scheme `s`. -/
structure Classifies (u : Uri) (s : Scheme) : Prop where
  scheme : Scheme.ofName? u.scheme = some s
  userinfo : u.userinfo.isEmpty = true
  place : isPlace u = true

/-- The connection URI of a URI with the scheme `s`. -/
def ofUri (u : Uri) (s : Scheme) : ConnectionUri :=
  ⟨s, String.ofList u.netloc, u.query.map String.ofList⟩

/-- **WHAT IS ACCEPTED**: the URIs that classify, each as its connection URI. -/
theorem classify_eq_ok {uri : String} {c : ConnectionUri} :
    classify uri = .ok c
      ↔ ∃ u s, Uri.parse uri = .ok u ∧ Classifies u s ∧ c = ofUri u s := by
  constructor
  · intro h
    rw [classify] at h
    split at h
    · exact nomatch h
    · exact nomatch h
    · rename_i u hparse
      split at h
      · exact nomatch h
      · rename_i s hscheme
        -- The checks that a text has to pass, in their order.
        by_cases huser : u.userinfo.isEmpty = true
        · by_cases hplace : isPlace u = true
          · rw [huser, hplace] at h
            cases h
            exact ⟨u, s, hparse, ⟨hscheme, huser, hplace⟩, rfl⟩
          · rw [huser, Bool.eq_false_iff.mpr hplace] at h
            exact nomatch h
        · rw [Bool.eq_false_iff.mpr huser] at h
          exact nomatch h
  · rintro ⟨u, s, hparse, ⟨hscheme, huser, hplace⟩, rfl⟩
    rw [classify]
    simp only [hparse, hscheme, huser, hplace]
    rfl

/-- None of our schemes is a web scheme. -/
theorem ofScheme_of_ofName? {name : String} {s : Scheme} (h : Scheme.ofName? name = some s) :
    Uri.SchemeKind.ofScheme name = .plain := by
  have hother : ∀ web ∈ ["file", "http", "https", "ws", "wss", "ftp"],
      Scheme.ofName? web = none := by
    decide
  have hne : name ∉ ["file", "http", "https", "ws", "wss", "ftp"] := by
    intro hmem
    rw [hother name hmem] at h
    exact nomatch h
  rw [List.mem_cons, not_or] at hne
  rw [Uri.SchemeKind.ofScheme, if_neg hne.1, if_neg hne.2]

/-- What is classified has been read into the plain form, since no supported scheme is a web
    scheme. -/
theorem isPlain_of_classifies {uri : String} {u : Uri} {s : Scheme}
    (hparse : Uri.parse uri = .ok u) (h : Classifies u s) : u.IsPlain :=
  Uri.isPlain_of_parse hparse (ofScheme_of_ofName? h.scheme)

/-- A supported scheme in front of a colon is cut off as it is. -/
theorem cutScheme_name (s : Scheme) (rest : List Char) :
    Uri.cutScheme (s.name.toList ++ ':' :: rest) = some (s.name, rest) := by
  cases s <;> rfl

/-- The names of the schemes have no spaces and no controls. -/
theorem visible_of_mem_name (s : Scheme) : ∀ c ∈ s.name.toList, 0x20 < c.toNat := by
  cases s <;> simp [Scheme.name]

/-- A connection URI in writing is the text of its parts. -/
theorem render_ofUri (u : Uri) (s : Scheme) :
    (ofUri u s).render
      = String.ofList (s.name.toList ++ ':' :: '/' :: '/' :: (u.netloc ++ u.queryText)) := by
  rw [← String.toList_inj, String.toList_ofList]
  rw [render, ofUri, Uri.queryText]
  cases u.query with
  | none => simp
  | some q => simp

/-- Writing keeps all of a plain URI but what a connection URI does not have. -/
theorem parse_render_ofUri {u : Uri} (h : u.IsPlain) (s : Scheme) :
    Uri.parse (ofUri u s).render = .ok { u.place with scheme := s.name } := by
  have hplain : Uri.IsPlain { u with scheme := s.name } := ⟨h.host, h.port, h.query⟩
  have hkind : Uri.SchemeKind.ofScheme s.name = .plain :=
    ofScheme_of_ofName? (Scheme.ofName?_name s)
  have hnetloc : Uri.netloc { u with scheme := s.name } = u.netloc := rfl
  have hquery : Uri.queryText { u with scheme := s.name } = u.queryText := rfl
  have hread := Uri.parse_place hplain hkind (visible_of_mem_name s) (cutScheme_name s)
  rw [hnetloc, hquery] at hread
  rw [render_ofUri]
  exact hread

/-- What has been read is read back from its writing under every scheme: none of ours makes a
    difference to how the rest is read. -/
theorem classify_render_under {uri : String} {c : ConnectionUri} (h : classify uri = .ok c)
    (s : Scheme) : classify { c with scheme := s }.render = .ok { c with scheme := s } := by
  obtain ⟨u, _, hparse, hclass, rfl⟩ := classify_eq_ok.mp h
  have hread := parse_render_ofUri (isPlain_of_classifies hparse hclass) s
  exact classify_eq_ok.mpr ⟨_, s, hread, ⟨Scheme.ofName?_name s, rfl, rfl⟩, rfl⟩

/-- **CANONICAL FORM**: what a text is read as is also what its own writing is read as, scheme,
    network location and query character by character, and with them kind and security. -/
theorem classify_render {uri : String} {c : ConnectionUri} (h : classify uri = .ok c) :
    classify c.render = .ok c :=
  classify_render_under h c.scheme

/-- The canonical form at a text that is far from it: capitals, a tab between the slashes, an empty
    user information, an address with a gap in the wrong place, zeros before the port, a dot
    segment, and a query with a space and a letter outside ASCII. -/
theorem classify_render_untidy :
    classify "NEO4J+S:/\t/@[0:0:1::A:0:0]:0080/.?a=é b"
        = .ok ⟨.neo4jSecure, "[::1:0:0:a:0:0]:80", some "a=%C3%A9%20b"⟩
      ∧ classify "neo4j+s://[::1:0:0:a:0:0]:80?a=%C3%A9%20b"
        = .ok ⟨.neo4jSecure, "[::1:0:0:a:0:0]:80", some "a=%C3%A9%20b"⟩ := by
  have h : classify "NEO4J+S:/\t/@[0:0:1::A:0:0]:0080/.?a=é b"
      = .ok ⟨.neo4jSecure, "[::1:0:0:a:0:0]:80", some "a=%C3%A9%20b"⟩ := rfl
  exact ⟨h, classify_render h⟩

end GraphLink.ConnectionUri
