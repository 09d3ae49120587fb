import GraphLink.Connection.Scheme
import GraphLink.Proofs.Uri.Userinfo

/-! # Places — plain hosts in URIs

    A host of letters, digits and `-._~` is written into a URI as it is, and none of its characters
    means anything to the reader (`isPlain_name`): it is not taken for a number, not put into lower
    case, not cut at a point.

    A plain network location is read back behind a scheme in any letter case, whatever stands
    behind it, as long as it ends there and nothing of the rest is dropped (`parse_spelled`). -/

namespace GraphLink.Uri

open GraphLink.Text

variable {c : Char} {host rest spelled : List Char} {u : Uri}

/-- The characters of a plain host: ASCII letters and digits, and `-`, `.`, `_` and `~`. -/
def isHostChar (c : Char) : Bool :=
  c.isAlphanum || c == '-' || c == '.' || c == '_' || c == '~'

/-- The characters of a plain host are visible ASCII characters. -/
theorem toNat_of_isHostChar (h : isHostChar c = true) : 0x2D ≤ c.toNat ∧ c.toNat ≤ 0x7E := by
  simp only [isHostChar, Bool.or_eq_true, beq_iff_eq] at h
  rcases h with (((halphanum | rfl) | rfl) | rfl) | rfl
  · obtain ⟨hlow, hhigh⟩ := toNat_of_isAlphanum halphanum
    exact ⟨Nat.le_trans (by decide) hlow, Nat.le_trans hhigh (by decide)⟩
  all_goals decide

/-- No character of a plain host is forbidden in a host. -/
theorem isForbidden_of_isHostChar (h : isHostChar c = true) : Host.isForbidden c = false := by
  have table : ['\x00', '\t', '\n', '\r', ' ', '#', '/', ':', '<', '>', '?', '@', '[', '\\', ']',
      '^', '|'].all (fun d => !isHostChar d) = true := by
    decide
  refine (Bool.not_eq_true _).mp (fun hforbidden => ?_)
  have hother := List.all_eq_true.mp table c (List.contains_iff_mem.mp hforbidden)
  rw [h] at hother
  cases hother

/-- Whatever is made of such characters is a name, also if it looks like an address. -/
theorem isPlain_name (hne : host ≠ []) (hhost : ∀ c ∈ host, isHostChar c = true) :
    (Host.name host).IsPlain := by
  refine ⟨hne, ?_⟩
  intro c hc
  obtain ⟨hlow, hhigh⟩ := toNat_of_isHostChar (hhost c hc)
  refine ⟨isForbidden_of_isHostChar (hhost c hc), ?_⟩
  simp only [Percent.controls, Bool.or_eq_false_iff, decide_eq_false_iff_not]
  omega

/-- A URI that is nothing but a host and perhaps a port. -/
def ofHost (scheme : String) (host : List Char) (port : Option UInt16) : Uri :=
  { scheme, userinfo := {}, host := some (.name host), port, path := [], query := none,
    fragment := none }

/-- A URI that is nothing but a plain host and perhaps a port is plain. -/
theorem isPlain_ofHost (scheme : String) (hne : host ≠ []) (hhost : ∀ c ∈ host, isHostChar c = true)
    (port : Option UInt16) : (ofHost scheme host port).IsPlain where
  host := by
    rintro h ⟨⟩
    exact isPlain_name hne hhost
  port := nofun
  query := nofun

/-- A plain network location behind its scheme has no spaces and no controls. -/
theorem visible_of_isPlain (h : u.IsPlain) (hscheme : Spells spelled u.scheme) :
    ∀ c ∈ spelled ++ ':' :: '/' :: '/' :: u.netloc, 0x20 < c.toNat := by
  intro c hc
  simp only [List.mem_append, List.mem_cons] at hc
  rcases hc with hc | rfl | rfl | rfl | hc
  · exact visible_of_isSchemeChar (hscheme.isSchemeChar_of_mem c hc)
  · decide
  · decide
  · decide
  · exact visible_of_isPlaceChar (isPlaceChar_of_mem_netloc h c hc)

/-- **A PLACE IS READ BACK**, however its scheme is spelled and whatever stands behind it. -/
theorem parse_spelled (h : u.IsPlain) (hkind : SchemeKind.ofScheme u.scheme = .plain)
    (hscheme : Spells spelled u.scheme)
    (hrest : ∀ c, rest.head? = some c → endsAuthority .plain c = true)
    (hkept : ∀ c ∈ rest, isIgnored c = false)
    (hlast : ∀ c, rest.getLast? = some c → isEdge c = false) :
    Uri.parse (String.ofList (spelled ++ ':' :: '/' :: '/' :: (u.netloc ++ rest)))
      = .ok (u.followedBy rest) := by
  have hvisible := visible_of_isPlain h hscheme
  have htext : spelled ++ ':' :: '/' :: '/' :: (u.netloc ++ rest)
      = (spelled ++ ':' :: '/' :: '/' :: u.netloc) ++ rest := by
    rw [List.append_assoc]
    rfl
  have hstrip : strip (spelled ++ ':' :: '/' :: '/' :: (u.netloc ++ rest))
      = spelled ++ ':' :: '/' :: '/' :: (u.netloc ++ rest) := by
    rw [htext]
    -- The front has no spaces and no controls, so only what follows it could be shortened.
    refine strip_of_ends ?_ ?_ ?_
    · intro c hc
      rw [List.head?_append] at hc
      rcases Option.or_eq_some_iff.mp hc with hfirst | ⟨hnone, -⟩
      · exact isEdge_of_visible (hvisible c (List.mem_of_head? hfirst))
      · simp at hnone
    · intro c hc
      rw [List.getLast?_append] at hc
      rcases Option.or_eq_some_iff.mp hc with hend | ⟨-, hend⟩
      · exact hlast c hend
      · exact isEdge_of_visible (hvisible c (List.mem_of_getLast? hend))
    · exact List.forall_mem_append.mpr ⟨fun c hc => isIgnored_of_visible (hvisible c hc), hkept⟩
  rw [Uri.parse, String.toList_ofList, hstrip, hscheme.cutScheme_eq]
  simp only [hkind]
  exact withAuthority_netloc h hkind hrest

end GraphLink.Uri

namespace GraphLink.Scheme

/-- The names of the supported schemes are made of characters of schemes. -/
theorem isSchemeChar_of_mem_name (s : Scheme) :
    ∀ c ∈ s.name.toList, Uri.isSchemeChar c = true := by
  intro c hc
  refine List.all_eq_true.mp ?_ c hc
  cases s <;> decide

/-- Our schemes are spelled like any other. -/
theorem spells {s : Scheme} {spelled : String}
    (h : spelled.toList.map Char.toLower = s.name.toList) : Uri.Spells spelled.toList s.name where
  lower := h
  first := by cases s <;> decide
  chars := s.isSchemeChar_of_mem_name

end GraphLink.Scheme
