import GraphLink.Proofs.Uri.Ipv6
import GraphLink.Uri.Basic

/-! # URIs under plain schemes — what reading guarantees, and what can be read again

    Under a scheme that is not a web scheme, reading puts a URI into a form (`IsPlain`): its host
    is an IPv6 address or a name of visible ASCII, there is a port only where there is a host, and
    the query is percent-encoded (`isPlain_of_parse`).

    A URI in that form can be written down again as a network location and a query, and reading
    the result gives all of it back (`parse_place`).  Both halves rest on one class of
    characters, those of network locations (`isPlaceChar`): none of them ends an authority, none
    is dropped and none is encoded. -/

namespace GraphLink.Uri

open GraphLink.Text

-- ── The form ───────────────────────────────────────────────────────

/-- A host under a scheme that is not a web scheme. -/
def Host.IsPlain : Host → Prop
  | .name chars =>
      chars ≠ [] ∧ ∀ c ∈ chars, Host.isForbidden c = false ∧ Percent.controls c = false
  | .ipv6 _ => True
  | .ipv4 _ => False

/-- The form into which reading puts a URI under a scheme that is not a web scheme. -/
structure IsPlain (u : Uri) : Prop where
  host : ∀ h, u.host = some h → h.IsPlain
  port : u.host = none → u.port = none
  query : ∀ q, u.query = some q → ∀ c ∈ q, Percent.query c = false

-- ── Reading gives it ───────────────────────────────────────────────

/-- In brackets, only an IPv6 address is read. -/
theorem Host.isPlain_of_parseBracketed {cs : List Char} {h : Host}
    (hparse : Host.parseBracketed cs = .ok h) : h.IsPlain := by
  rw [Host.parseBracketed] at hparse
  by_cases hlast : cs.getLast? = some ']'
  · rw [if_pos hlast] at hparse
    cases haddress : Ipv6.parse cs.dropLast with
    | none =>
        rw [haddress] at hparse
        exact nomatch hparse
    | some address =>
        rw [haddress] at hparse
        cases hparse
        exact trivial
  · rw [if_neg hlast] at hparse
    exact nomatch hparse

/-- A host under a scheme that is not a web scheme is read into the plain form. -/
theorem Host.isPlain_of_parseOpaque {cs : List Char} {h : Host}
    (hparse : Host.parseOpaque cs = .ok (some h)) : h.IsPlain := by
  rw [Host.parseOpaque.eq_def] at hparse
  split at hparse
  · exact nomatch hparse
  · rename_i rest
    cases hbracket : Host.parseBracketed rest with
    | error e =>
        rw [hbracket] at hparse
        exact nomatch hparse
    | ok h' =>
        rw [hbracket] at hparse
        cases hparse
        exact Host.isPlain_of_parseBracketed hbracket
  · rename_i hne _
    by_cases hany : cs.any Host.isForbidden = true
    · rw [if_pos hany] at hparse
      exact nomatch hparse
    · rw [if_neg hany] at hparse
      cases hparse
      have hkept : ∀ c ∈ cs, Host.isForbidden c = false := by
        simpa using hany
      refine ⟨Percent.encode_ne_nil _ (fun hnil => hne hnil), ?_⟩
      exact Percent.forall_mem_encode (by decide) (by decide)
        (fun c hc hset => ⟨hkept c hc, hset⟩)

/-- The host of an authority is what its host text is read as, and there is no port without one. -/
theorem Authority.host_of_parse {scheme : String} {k : SchemeKind} {cs : List Char}
    {followed : Bool} {a : Authority} (hparse : Authority.parse scheme k cs followed = .ok a) :
    (∃ text, Authority.parseHost k text = .ok a.host) ∧ (a.host = none → a.port = none) := by
  simp only [Authority.parse, bind, Except.bind] at hparse
  split at hparse
  · exact nomatch hparse
  · split at hparse
    · exact nomatch hparse
    · rename_i host hhost
      split at hparse
      · -- A colon follows the host text.
        cases host with
        | none => exact nomatch hparse
        | some h =>
            rw [if_neg (by simp)] at hparse
            split at hparse
            · exact nomatch hparse
            · rw [if_neg (by simp)] at hparse
              cases hparse
              exact ⟨⟨_, hhost⟩, fun hnone => nomatch hnone⟩
      · split at hparse
        · exact nomatch hparse
        · cases hparse
          exact ⟨⟨_, hhost⟩, fun _ => rfl⟩

/-- The query of what stands behind the path. -/
theorem readTail_fst (cs : List Char) :
    (readTail .plain cs).1
      = match cs with
        | '?' :: rest => some (Percent.encode Percent.query (rest.takeWhile (· != '#')))
        | _ => none := by
  have hset : (if SchemeKind.plain.isSpecial then Percent.specialQuery else Percent.query)
      = Percent.query := rfl
  rw [readTail.eq_def, hset]
  dsimp only
  split
  · split <;> rfl
  · rfl
  · rename_i hne _
    split
    · exact absurd rfl (hne _)
    · rfl

/-- A query that has been read has nothing left to encode. -/
theorem query_of_readTail {cs q : List Char} (h : (readTail .plain cs).1 = some q) :
    ∀ c ∈ q, Percent.query c = false := by
  rw [readTail_fst] at h
  split at h
  · cases h
    exact Percent.forall_mem_encode (by decide) (by decide) (fun _ _ hset => hset)
  · exact nomatch h

/-- A URI with an authority has the scheme that it was read under. -/
theorem withAuthority_scheme {scheme : String} {k : SchemeKind} {cs : List Char} {u : Uri}
    (h : withAuthority scheme k cs = .ok u) : u.scheme = scheme := by
  simp only [withAuthority, bind, Except.bind] at h
  split at h
  · exact nomatch h
  · cases h
    rfl

/-- Behind two slashes a URI is read into the plain form. -/
theorem isPlain_of_withAuthority {scheme : String} {cs : List Char} {u : Uri}
    (h : withAuthority scheme .plain cs = .ok u) : u.IsPlain := by
  simp only [withAuthority, bind, Except.bind] at h
  split at h
  · exact nomatch h
  · rename_i a hauthority
    obtain ⟨⟨text, htext⟩, hport⟩ := Authority.host_of_parse hauthority
    cases h
    refine ⟨?_, hport, fun q hq => query_of_readTail hq⟩
    intro host hhost
    have hhost' : a.host = some host := hhost
    rw [hhost'] at htext
    exact Host.isPlain_of_parseOpaque htext

/-- So it is without them: there is no host then, and no port. -/
theorem isPlain_withoutAuthority (scheme : String) (cs : List Char) :
    (withoutAuthority scheme .plain cs).IsPlain :=
  ⟨fun _ hnone => (nomatch hnone), fun _ => rfl, fun _ hq => query_of_readTail hq⟩

/-- A file URI has the scheme of files. -/
theorem ofFile_scheme {cs : List Char} {u : Uri} (h : ofFile cs = .ok u) : u.scheme = "file" := by
  simp only [ofFile, bind, Except.bind, pure, Except.pure] at h
  split at h
  · split at h
    · split at h
      · cases h
        rfl
      · split at h
        · exact nomatch h
        · cases h
          rfl
    · cases h
      rfl
  · cases h
    rfl

/-- **READING GIVES THE FORM**: a URI that is read under a plain scheme is plain. -/
theorem isPlain_of_parse {text : String} {u : Uri} (h : Uri.parse text = .ok u)
    (hscheme : SchemeKind.ofScheme u.scheme = .plain) : u.IsPlain := by
  rw [Uri.parse] at h
  split at h
  · exact nomatch h
  · rename_i scheme rest _
    split at h
    · rw [ofFile_scheme h] at hscheme
      exact nomatch hscheme
    · rename_i hkind
      rw [withAuthority_scheme h, hkind] at hscheme
      exact nomatch hscheme
    · split at h
      · exact isPlain_of_withAuthority h
      · cases h
        exact isPlain_withoutAuthority scheme rest

-- ── Network locations ──────────────────────────────────────────────

/-- Whether a character can stand in a network location: it is visible and within ASCII, and ends
    neither the authority nor user information. -/
def isPlaceChar (c : Char) : Bool :=
  0x20 < c.toNat && c.toNat < 0x7F && !(c == '/' || c == '?' || c == '#' || c == '@')

/-- The host in writing; nothing if there is none. -/
def hostText (u : Uri) : List Char :=
  (u.host.map Host.render).getD []

/-- The port in writing, behind a colon; nothing if there is none. -/
def portText (u : Uri) : List Char :=
  (u.port.map (fun p => ':' :: decimal p.toNat)).getD []

/-- A network location is the text of its host and that of its port. -/
theorem netloc_eq (u : Uri) : u.netloc = u.hostText ++ u.portText := by
  rw [netloc, hostText, portText]
  cases u.port with
  | none => exact (List.append_nil _).symm
  | some p => rfl

/-- Digits can stand in a network location. -/
theorem isPlaceChar_digitChar : ∀ d < 16, isPlaceChar d.digitChar = true := by
  decide

/-- A character of a plain name is one of network locations, and no colon or bracket. -/
theorem isPlaceChar_of_name {c : Char} (hforbidden : Host.isForbidden c = false)
    (hcontrol : Percent.controls c = false) :
    isPlaceChar c = true ∧ c ≠ ':' ∧ c ≠ '[' := by
  have hne : ∀ d : Char, Host.isForbidden d = true → c ≠ d := by
    intro d hd heq
    rw [heq, hd] at hforbidden
    exact nomatch hforbidden
  have hspace : c.toNat ≠ 0x20 := fun h => hne ' ' (by decide) (Char.toNat_inj.mp h)
  simp only [Percent.controls, Bool.or_eq_false_iff, decide_eq_false_iff_not] at hcontrol
  refine ⟨?_, hne ':' (by decide), hne '[' (by decide)⟩
  simp only [isPlaceChar, hne '/' (by decide), hne '?' (by decide), hne '#' (by decide),
    hne '@' (by decide), Bool.and_eq_true, decide_eq_true_eq, Bool.not_eq_true',
    Bool.or_eq_false_iff, beq_eq_false_iff_ne, ne_eq, not_false_eq_true, and_true]
  omega

/-- What a plain host is written with can stand in a network location. -/
theorem Host.isPlaceChar_of_mem_render {h : Host} (hplain : h.IsPlain) :
    ∀ c ∈ h.render, isPlaceChar c = true := by
  cases h with
  | name chars =>
      intro c hc
      obtain ⟨hforbidden, hcontrol⟩ := hplain.2 c hc
      exact (isPlaceChar_of_name hforbidden hcontrol).1
  | ipv6 address =>
      have haddress : ∀ c ∈ address.render, isPlaceChar c = true :=
        Ipv6.forall_mem_render (by decide) isPlaceChar_digitChar address
      intro c hc
      rcases List.mem_append.mp hc with hfront | hlast
      · rcases List.mem_cons.mp hfront with rfl | hmem
        · decide
        · exact haddress c hmem
      · rw [List.mem_singleton.mp hlast]
        decide
  | ipv4 address => exact hplain.elim

/-- So can what stands there for the host, if there is one. -/
theorem isPlaceChar_of_mem_hostText {u : Uri} (h : u.IsPlain) :
    ∀ c ∈ u.hostText, isPlaceChar c = true := by
  rw [hostText]
  cases hhost : u.host with
  | none => intro c hc; exact nomatch hc
  | some host => exact Host.isPlaceChar_of_mem_render (h.host host hhost)

/-- So can what stands there for the port, if there is one. -/
theorem isPlaceChar_of_mem_portText (u : Uri) : ∀ c ∈ u.portText, isPlaceChar c = true := by
  rw [portText]
  cases u.port with
  | none => intro c hc; exact nomatch hc
  | some p =>
      have hdigits : ∀ c ∈ decimal p.toNat, isPlaceChar c = true :=
        forall_mem_decimal (by decide) _
      intro c hc
      rcases List.mem_cons.mp hc with rfl | hmem
      · decide
      · exact hdigits c hmem

/-- **WHAT A NETWORK LOCATION HOLDS.** -/
theorem isPlaceChar_of_mem_netloc {u : Uri} (h : u.IsPlain) :
    ∀ c ∈ u.netloc, isPlaceChar c = true := by
  rw [netloc_eq]
  intro c hc
  rcases List.mem_append.mp hc with hhost | hport
  · exact isPlaceChar_of_mem_hostText h c hhost
  · exact isPlaceChar_of_mem_portText u c hport

-- ── Reading a network location ─────────────────────────────────────

/-- A plain host is read back. -/
theorem Host.parseOpaque_render {h : Host} (hplain : h.IsPlain) :
    Host.parseOpaque h.render = .ok (some h) := by
  cases h with
  | name chars =>
      obtain ⟨hne, hchars⟩ := hplain
      obtain ⟨c, rest, rfl⟩ := List.exists_cons_of_ne_nil hne
      obtain ⟨hforbidden, hcontrol⟩ := hchars c List.mem_cons_self
      have hbracket : c ≠ '[' := (isPlaceChar_of_name hforbidden hcontrol).2.2
      have hany : (c :: rest).any Host.isForbidden = false := by
        simpa using fun d hd => (hchars d hd).1
      show Host.parseOpaque (c :: rest) = _
      rw [Host.parseOpaque.eq_def]
      split
      · rename_i heq
        exact nomatch heq
      · rename_i heq
        exact absurd (List.cons.inj heq).1 hbracket
      · rw [hany, Percent.encode_of_forall (fun d hd => (hchars d hd).2)]
        rfl
  | ipv6 address =>
      show (Host.parseBracketed (address.render ++ [']'])).map some = _
      rw [Host.parseBracketed, if_pos (by simp), List.dropLast_concat, Ipv6.parse_render]
      rfl
  | ipv4 address => exact hplain.elim

/-- A plain host is read back, and no text as no host. -/
theorem parseOpaque_hostText {u : Uri} (h : u.IsPlain) :
    Host.parseOpaque u.hostText = .ok u.host := by
  rw [hostText]
  cases hhost : u.host with
  | none => rfl
  | some host => exact Host.parseOpaque_render (h.host host hhost)

/-- Outside brackets the host text goes on up to a colon. -/
theorem cutHost_outside {cs : List Char} (h : ∀ c ∈ cs, c ≠ ':' ∧ c ≠ '[') {after : List Char}
    (hafter : after = [] ∨ after.head? = some ':') :
    cutHost false (cs ++ after) = (cs, after) := by
  induction cs with
  | nil =>
      rcases hafter with rfl | hcolon
      · rfl
      · cases after with
        | nil => rfl
        | cons c rest =>
            have hc : c = ':' := Option.some.inj hcolon
            rw [List.nil_append, cutHost, if_pos ⟨hc, rfl⟩]
  | cons c cs ih =>
      obtain ⟨hcolon, hbracket⟩ := h c List.mem_cons_self
      have hrest := ih (fun d hd => h d (List.mem_cons_of_mem c hd))
      rw [List.cons_append, cutHost, if_neg (fun hc => hcolon hc.1), if_neg hbracket]
      simp only [ite_self, hrest]

/-- Inside brackets it goes on up to the closing one. -/
theorem cutHost_inside {cs : List Char} (h : ∀ c ∈ cs, c ≠ '[' ∧ c ≠ ']') (rest : List Char) :
    cutHost true (cs ++ rest) = (cs ++ (cutHost true rest).1, (cutHost true rest).2) := by
  induction cs with
  | nil => rfl
  | cons c cs ih =>
      obtain ⟨hopen, hclose⟩ := h c List.mem_cons_self
      have hrest := ih (fun d hd => h d (List.mem_cons_of_mem c hd))
      rw [List.cons_append, cutHost, if_neg (fun hc => nomatch hc.2), if_neg hopen, if_neg hclose]
      simp only [hrest, List.cons_append]

/-- A written host is cut off whole in front of a colon or the end. -/
theorem Host.cutHost_render {h : Host} (hplain : h.IsPlain) {after : List Char}
    (hafter : after = [] ∨ after.head? = some ':') :
    cutHost false (h.render ++ after) = (h.render, after) := by
  cases h with
  | name chars =>
      refine cutHost_outside ?_ hafter
      intro c hc
      obtain ⟨hforbidden, hcontrol⟩ := hplain.2 c hc
      exact (isPlaceChar_of_name hforbidden hcontrol).2
  | ipv6 address =>
      have hinside : ∀ c ∈ address.render, c ≠ '[' ∧ c ≠ ']' :=
        Ipv6.forall_mem_render (by decide) (by decide) address
      have houtside : cutHost false ([] ++ after) = ([], after) :=
        cutHost_outside (List.forall_mem_nil _) hafter
      rw [List.nil_append] at houtside
      have hclosed : cutHost true (']' :: after) = ([']'], after) := by
        rw [cutHost, if_neg (fun hc => nomatch hc.2)]
        simp [houtside]
      show cutHost false ('[' :: address.render ++ [']'] ++ after) = _
      rw [List.append_assoc, List.cons_append, cutHost, if_neg (fun hc => nomatch hc.1), if_pos rfl]
      simp only [cutHost_inside hinside, List.singleton_append, hclosed]
      rfl
  | ipv4 address => exact hplain.elim

/-- A port in writing begins with its colon. -/
theorem portText_head (u : Uri) : u.portText = [] ∨ u.portText.head? = some ':' := by
  rw [portText]
  cases u.port with
  | none => exact .inl rfl
  | some p => exact .inr rfl

/-- A network location is cut between its host and its port. -/
theorem cutHost_netloc {u : Uri} (h : u.IsPlain) :
    cutHost false u.netloc = (u.hostText, u.portText) := by
  rw [netloc_eq]
  rw [hostText]
  cases hhost : u.host with
  | none =>
      have hport : u.portText = [] := by
        rw [portText, h.port hhost]
        rfl
      rw [hport]
      rfl
  | some host => exact Host.cutHost_render (h.host host hhost) (portText_head u)

/-- A written port is read back, unless the scheme implies it. -/
theorem readPort_decimal {scheme : String} (hscheme : impliedPort scheme = none) (p : UInt16) :
    readPort scheme (decimal p.toNat) = .ok (some p, []) := by
  have hdigits : ∀ c ∈ decimal p.toNat, c.isDigit = true := forall_mem_decimal (by decide) _
  have htake : (decimal p.toNat ++ []).takeWhile Char.isDigit = decimal p.toNat ++ [] :=
    List.takeWhile_append_of_pos hdigits
  have hdrop : (decimal p.toNat ++ []).dropWhile Char.isDigit = [] :=
    List.dropWhile_append_of_pos hdigits
  rw [List.append_nil] at htake hdrop
  have hlt : p.toNat < 65536 := UInt16.toNat_lt p
  simp only [readPort, htake, hdrop, readNat_decimal, Option.getD_some, hscheme]
  rw [if_neg (by simp; omega), if_neg (by simp [decimal_ne_nil]), UInt16.ofNat_toNat]

/-- **A NETWORK LOCATION IS READ BACK** as an authority without user information. -/
theorem Authority.parse_netloc {scheme : String} (hscheme : impliedPort scheme = none) {u : Uri}
    (h : u.IsPlain) (followed : Bool) :
    Authority.parse scheme .plain u.netloc followed
      = .ok { userinfo := {}, host := u.host, port := u.port, rest := [] } := by
  have hcut : cutUserinfo u.netloc followed = .ok ({}, u.netloc) := by
    have hat : '@' ∉ u.netloc := by
      intro hmem
      exact absurd (isPlaceChar_of_mem_netloc h '@' hmem) (by decide)
    rw [cutUserinfo, cutLast_eq_none.mpr hat]
  have hhost : Authority.parseHost .plain u.hostText = .ok u.host := parseOpaque_hostText h
  simp only [Authority.parse, bind, Except.bind, hcut, cutHost_netloc h, hhost]
  cases hport : u.port with
  | none =>
      have htext : u.portText = [] := by
        rw [portText, hport]
        rfl
      rw [htext]
      cases u.host <;> rfl
  | some p =>
      have htext : u.portText = ':' :: decimal p.toNat := by
        rw [portText, hport]
        rfl
      rw [htext]
      cases hnone : u.host with
      | none => rw [h.port hnone] at hport; exact nomatch hport
      | some host => simp [readPort_decimal hscheme p]

-- ── Reading it back with its query ─────────────────────────────────

/-- The query in writing, behind a question mark; nothing if there is none. -/
def queryText (u : Uri) : List Char :=
  (u.query.map ('?' :: ·)).getD []

/-- What is left of a URI when it has no user information, no path and no fragment. -/
def place (u : Uri) : Uri :=
  { u with userinfo := {}, path := [], fragment := none }

/-- Without a number sign, all that stands behind the question mark is the query. -/
theorem readTail_of_query {cs : List Char} (h : '#' ∉ cs) :
    readTail .plain ('?' :: cs) = (some (Percent.encode Percent.query cs), none) := by
  have hmark : ∀ c ∈ cs, (c != '#') = true := by
    intro c hc
    rw [bne_iff_ne]
    rintro rfl
    exact h hc
  have htake : (cs ++ []).takeWhile (· != '#') = cs ++ [] := List.takeWhile_append_of_pos hmark
  have hdrop : (cs ++ []).dropWhile (· != '#') = [] := List.dropWhile_append_of_pos hmark
  rw [List.append_nil] at htake hdrop
  simp only [readTail, htake, hdrop]
  rfl

/-- A plain query is read back. -/
theorem readTail_queryText {u : Uri} (h : u.IsPlain) :
    readTail .plain u.queryText = (u.query, none) := by
  rw [queryText]
  cases hquery : u.query with
  | none => rfl
  | some q =>
      have hq := h.query q hquery
      have hmark : '#' ∉ q := by
        intro hmem
        exact absurd (hq '#' hmem) (by decide)
      show readTail .plain ('?' :: q) = _
      rw [readTail_of_query hmark, Percent.encode_of_forall hq]

/-- No run reaches into the query text that does not hold the question mark. -/
theorem takeWhile_queryText {p : Char → Bool} (h : p '?' = false) (u : Uri) :
    u.queryText.takeWhile p = [] := by
  rw [queryText]
  cases u.query with
  | none => rfl
  | some q => exact List.takeWhile_cons_of_neg (by simp [h])

/-- Nothing of such a run is dropped from the query text. -/
theorem dropWhile_queryText {p : Char → Bool} (h : p '?' = false) (u : Uri) :
    u.queryText.dropWhile p = u.queryText := by
  rw [queryText]
  cases u.query with
  | none => rfl
  | some q => exact List.dropWhile_cons_of_neg (by simp [h])

/-- A scheme that is not a web scheme implies no port. -/
theorem impliedPort_eq_none {scheme : String} (h : SchemeKind.ofScheme scheme = .plain) :
    impliedPort scheme = none := by
  have hweb : scheme ∉ ["http", "https", "ws", "wss", "ftp"] := by
    intro hmem
    rw [SchemeKind.ofScheme, if_pos hmem] at h
    split at h <;> exact nomatch h
  simp only [List.mem_cons, List.not_mem_nil, or_false, not_or] at hweb
  obtain ⟨hhttp, hhttps, hws, hwss, hftp⟩ := hweb
  simp [impliedPort, hhttp, hhttps, hws, hwss, hftp]

/-- What can stand in a network location does not end it. -/
theorem endsAuthority_of_isPlaceChar {c : Char} (h : isPlaceChar c = true) :
    endsAuthority .plain c = false := by
  simp only [isPlaceChar, Bool.and_eq_true, Bool.not_eq_true', Bool.or_eq_false_iff] at h
  obtain ⟨-, ⟨⟨hslash, hquestion⟩, hhash⟩, -⟩ := h
  simp [endsAuthority, hslash, hquestion, hhash, SchemeKind.isSpecial]

/-- What a network location is read as with `rest` behind it: its host and its port, and what the
    rest says about path, query and fragment. -/
def followedBy (u : Uri) (rest : List Char) : Uri :=
  { u with
    userinfo := {}
    path := pathBehindAuthority .plain (rest.takeWhile (fun c => !endsPath c))
    query := (readTail .plain (rest.dropWhile (fun c => !endsPath c))).1
    fragment := (readTail .plain (rest.dropWhile (fun c => !endsPath c))).2 }

/-- **A NETWORK LOCATION ENDS** where something begins that is no part of it. -/
theorem withAuthority_netloc {u : Uri} (h : u.IsPlain)
    (hkind : SchemeKind.ofScheme u.scheme = .plain) {rest : List Char}
    (hrest : ∀ c, rest.head? = some c → endsAuthority .plain c = true) :
    withAuthority u.scheme .plain (u.netloc ++ rest) = .ok (u.followedBy rest) := by
  have hinside : ∀ c ∈ u.netloc, (!endsAuthority .plain c) = true := by
    intro c hc
    rw [endsAuthority_of_isPlaceChar (isPlaceChar_of_mem_netloc h c hc)]
    rfl
  have hends : rest.takeWhile (fun c => !endsAuthority .plain c) = []
      ∧ rest.dropWhile (fun c => !endsAuthority .plain c) = rest := by
    cases rest with
    | nil => exact ⟨rfl, rfl⟩
    | cons c rest => simp [hrest c rfl]
  have htake : (u.netloc ++ rest).takeWhile (fun c => !endsAuthority .plain c) = u.netloc := by
    rw [List.takeWhile_append_of_pos hinside, hends.1, List.append_nil]
  have hdrop : (u.netloc ++ rest).dropWhile (fun c => !endsAuthority .plain c) = rest := by
    rw [List.dropWhile_append_of_pos hinside, hends.2]
  simp only [withAuthority, htake, hdrop, Authority.parse_netloc (impliedPort_eq_none hkind) h,
    bind, Except.bind, List.nil_append]
  rfl

/-- The query text ends an authority, if there is any. -/
theorem head?_queryText (u : Uri) :
    ∀ c, u.queryText.head? = some c → endsAuthority .plain c = true := by
  rw [queryText]
  cases u.query with
  | none => exact nofun
  | some q =>
      rintro c ⟨⟩
      rfl

/-- A network location with its query behind it is read back. -/
theorem withAuthority_place {u : Uri} (h : u.IsPlain)
    (hkind : SchemeKind.ofScheme u.scheme = .plain) :
    withAuthority u.scheme .plain (u.netloc ++ u.queryText) = .ok u.place := by
  rw [withAuthority_netloc h hkind u.head?_queryText, followedBy,
    takeWhile_queryText (by decide), dropWhile_queryText (by decide), readTail_queryText h]
  rfl

-- ── What is dropped ────────────────────────────────────────────────

/-- A text without the characters that are dropped wherever they stand. -/
def unbroken (cs : List Char) : List Char :=
  cs.filter (fun c => !isIgnored c)

/-- Only spaces and controls are dropped wherever they stand. -/
theorem isIgnored_of_visible {c : Char} (h : 0x20 < c.toNat) : isIgnored c = false := by
  have hne (d : Char) (hd : d.toNat ≤ 0x20) : c ≠ d := by
    rintro rfl
    omega
  simp [isIgnored, hne '\t' (by decide), hne '\n' (by decide), hne '\r' (by decide)]

/-- A text without spaces and controls is not changed by that. -/
theorem unbroken_of_forall {cs : List Char} (h : ∀ c ∈ cs, 0x20 < c.toNat) : unbroken cs = cs := by
  refine List.filter_eq_self.mpr ?_
  intro c hc
  rw [isIgnored_of_visible (h c hc)]
  rfl

/-- A text counts in full if nothing is dropped at its ends, nor in between. -/
theorem strip_of_ends {cs : List Char} (hfirst : ∀ c, cs.head? = some c → isEdge c = false)
    (hlast : ∀ c, cs.getLast? = some c → isEdge c = false)
    (hkept : ∀ c ∈ cs, isIgnored c = false) : strip cs = cs := by
  have hback : ∀ c, cs.reverse.head? = some c → isEdge c = false := by
    intro c hc
    rw [List.head?_reverse] at hc
    exact hlast c hc
  rw [strip, dropWhile_of_head? hfirst, dropWhile_of_head? hback, List.reverse_reverse]
  refine List.filter_eq_self.mpr ?_
  intro c hc
  rw [hkept c hc]
  rfl

/-- Only spaces and controls are dropped at the ends. -/
theorem isEdge_of_visible {c : Char} (h : 0x20 < c.toNat) : isEdge c = false := by
  simpa [isEdge] using h

/-- A text without spaces and controls counts in full. -/
theorem strip_of_forall {cs : List Char} (h : ∀ c ∈ cs, 0x20 < c.toNat) : strip cs = cs :=
  strip_of_ends (fun c hc => isEdge_of_visible (h c (List.mem_of_head? hc)))
    (fun c hc => isEdge_of_visible (h c (List.mem_of_getLast? hc)))
    (fun c hc => isIgnored_of_visible (h c hc))

/-- What is dropped behind a character that counts does not depend on what stands before it. -/
theorem exists_strip_append {c : Char} (h : 0x20 < c.toNat) (ys : List Char) :
    ∃ rest, ∀ xs, strip (xs ++ c :: ys) = unbroken (xs.dropWhile isEdge) ++ c :: rest := by
  let behind := (ys.reverse.dropWhile isEdge).reverse
  refine ⟨unbroken behind, ?_⟩
  intro xs
  have hedge : isEdge c = false := by simpa [isEdge] using h
  have hback : ((xs.dropWhile isEdge ++ c :: ys).reverse.dropWhile isEdge).reverse
      = xs.dropWhile isEdge ++ c :: behind := by
    rw [List.reverse_append, List.reverse_cons, List.append_assoc, List.singleton_append,
      dropWhile_append_cons hedge, List.reverse_append, List.reverse_cons,
      List.reverse_reverse, List.append_assoc, List.singleton_append]
  simp only [strip]
  rw [dropWhile_append_cons hedge, hback, List.filter_append,
    List.filter_cons_of_pos (by rw [isIgnored_of_visible h]; rfl)]
  rfl

-- ── A plain URI counts in full ─────────────────────────────────────

/-- No space and no control stands in a network location. -/
theorem visible_of_isPlaceChar {c : Char} (h : isPlaceChar c = true) : 0x20 < c.toNat := by
  simp only [isPlaceChar, Bool.and_eq_true, decide_eq_true_eq] at h
  exact h.1.1

/-- No space and no control stands in a plain query. -/
theorem visible_of_mem_queryText {u : Uri} (h : u.IsPlain) :
    ∀ c ∈ u.queryText, 0x20 < c.toNat := by
  rw [queryText]
  cases hquery : u.query with
  | none => intro c hc; exact nomatch hc
  | some q =>
      intro c hc
      rcases List.mem_cons.mp hc with rfl | hmem
      · decide
      · have hset := h.query q hquery c hmem
        have hspace : c.toNat ≠ 0x20 := by
          intro heq
          have hc' : c = ' ' := Char.toNat_inj.mp heq
          rw [hc'] at hset
          exact absurd hset (by decide)
        simp only [Percent.query, Percent.controls, Bool.or_eq_false_iff,
          decide_eq_false_iff_not] at hset
        omega

/-- **WRITE, THEN READ**: a plain URI comes back from its scheme, network location and query. -/
theorem parse_place {u : Uri} (h : u.IsPlain) (hkind : SchemeKind.ofScheme u.scheme = .plain)
    (hvisible : ∀ c ∈ u.scheme.toList, 0x20 < c.toNat)
    (hcut : ∀ rest, cutScheme (u.scheme.toList ++ ':' :: rest) = some (u.scheme, rest)) :
    Uri.parse (String.ofList (u.scheme.toList ++ ':' :: '/' :: '/' :: (u.netloc ++ u.queryText)))
      = .ok u.place := by
  have hall : ∀ c ∈ u.scheme.toList ++ ':' :: '/' :: '/' :: (u.netloc ++ u.queryText),
      0x20 < c.toNat := by
    intro c hc
    simp only [List.mem_append, List.mem_cons] at hc
    rcases hc with hscheme | rfl | rfl | rfl | hnetloc | hquery
    · exact hvisible c hscheme
    · decide
    · decide
    · decide
    · exact visible_of_isPlaceChar (isPlaceChar_of_mem_netloc h c hnetloc)
    · exact visible_of_mem_queryText h c hquery
  rw [Uri.parse, String.toList_ofList, strip_of_forall hall, hcut]
  simp only [hkind]
  exact withAuthority_place h hkind

end GraphLink.Uri
