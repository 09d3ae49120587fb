import GraphLink.Proofs.Uri.Plain

/-! # User information is read past

    Behind a scheme that is not a web scheme, what stands in front of an `@` says nothing about how
    the rest of a URI is read.  Host, port and path are cut out of what follows the last `@`, so
    they are in order, or not, whatever the user information is.

    The headline is `parse_of_userinfo`: for a scheme in any letter case and any text behind the
    `@`, either all URIs with user information in front of it are refused with one and the same
    fault, or all of them are read, each with user information that is not empty. -/

namespace GraphLink.Uri

open GraphLink.Text

-- ── Schemes in any letter case ─────────────────────────────────────

/-- A character that is no upper-case letter is its own lower case. -/
theorem toLower_of_not_isUpper {c : Char} (h : c.isUpper = false) : c.toLower = c :=
  dif_neg (of_decide_eq_false h)

/-- An upper-case letter is a letter. -/
theorem isAlpha_of_isUpper {c : Char} (h : c.isUpper = true) : c.isAlpha = true := by
  show (c.isUpper || c.isLower) = true
  rw [h]
  rfl

/-- What is a letter in lower case is one. -/
theorem isAlpha_of_toLower {c : Char} (h : c.toLower.isAlpha = true) : c.isAlpha = true := by
  cases hupper : c.isUpper with
  | true => exact isAlpha_of_isUpper hupper
  | false => rwa [toLower_of_not_isUpper hupper] at h

/-- Letters can stand in a scheme. -/
theorem isSchemeChar_of_isAlpha {c : Char} (h : c.isAlpha = true) : isSchemeChar c = true := by
  show (c.isAlpha || c.isDigit || c == '+' || c == '-' || c == '.') = true
  rw [h]
  rfl

/-- What can stand in a scheme in lower case can stand in it. -/
theorem isSchemeChar_of_toLower {c : Char} (h : isSchemeChar c.toLower = true) :
    isSchemeChar c = true := by
  cases hupper : c.isUpper with
  | true => exact isSchemeChar_of_isAlpha (isAlpha_of_isUpper hupper)
  | false => rwa [toLower_of_not_isUpper hupper] at h

/-- Letters and digits lie in three ranges. -/
theorem toNat_of_isAlphanum {c : Char} (h : c.isAlphanum = true) :
    0x30 ≤ c.toNat ∧ c.toNat ≤ 0x7A := by
  have hrange {a b : UInt32} (ha : 0x30 ≤ a.toNat) (hb : b.toNat ≤ 0x7A)
      (hlow : a ≤ c.val) (hhigh : c.val ≤ b) : 0x30 ≤ c.toNat ∧ c.toNat ≤ 0x7A :=
    ⟨Nat.le_trans ha (UInt32.le_iff_toNat_le.mp hlow),
      Nat.le_trans (UInt32.le_iff_toNat_le.mp hhigh) hb⟩
  have hcases : (c.isUpper || c.isLower || c.isDigit) = true := h
  rw [Bool.or_eq_true, Bool.or_eq_true] at hcases
  rcases hcases with (hupper | hlower) | hdigit
  · obtain ⟨hlow, hhigh⟩ := of_decide_eq_true hupper
    exact hrange (a := 'A'.val) (b := 'Z'.val) (by decide) (by decide) hlow hhigh
  · obtain ⟨hlow, hhigh⟩ := Bool.and_eq_true_iff.mp hlower
    exact hrange (a := 'a'.val) (b := 'z'.val) (by decide) (by decide) (of_decide_eq_true hlow)
      (of_decide_eq_true hhigh)
  · obtain ⟨hlow, hhigh⟩ := Bool.and_eq_true_iff.mp hdigit
    exact hrange (a := '0'.val) (b := '9'.val) (by decide) (by decide) (of_decide_eq_true hlow)
      (of_decide_eq_true hhigh)

/-- No space and no control stands in a scheme. -/
theorem visible_of_isSchemeChar {c : Char} (h : isSchemeChar c = true) : 0x20 < c.toNat := by
  simp only [isSchemeChar, Bool.or_eq_true, beq_iff_eq] at h
  rcases h with ((halphanum | rfl) | rfl) | rfl
  · exact Nat.lt_of_lt_of_le (by decide) (toNat_of_isAlphanum halphanum).1
  all_goals decide

/-- A text that is a scheme but for the case of its letters. -/
structure Spells (spelled : List Char) (scheme : String) : Prop where
  lower : spelled.map Char.toLower = scheme.toList
  first : scheme.toList.head?.map Char.isAlpha = some true
  chars : ∀ c ∈ scheme.toList, isSchemeChar c = true

namespace Spells

variable {spelled : List Char} {scheme : String}

/-- A scheme in any letter case is made of characters of schemes. -/
theorem isSchemeChar_of_mem (h : Spells spelled scheme) : ∀ c ∈ spelled, isSchemeChar c = true := by
  intro c hc
  refine isSchemeChar_of_toLower (h.chars c.toLower ?_)
  rw [← h.lower]
  exact List.mem_map_of_mem hc

/-- **A SCHEME IS READ IN LOWER CASE**, however it is spelled. -/
theorem cutScheme_eq (h : Spells spelled scheme) (rest : List Char) :
    cutScheme (spelled ++ ':' :: rest) = some (scheme, rest) := by
  have hcolon : isSchemeChar ':' = false := by decide
  have htake : (spelled ++ ':' :: rest).takeWhile isSchemeChar = spelled := by
    rw [List.takeWhile_append_of_pos h.isSchemeChar_of_mem, List.takeWhile_cons, hcolon]
    exact List.append_nil spelled
  have hdrop : (spelled ++ ':' :: rest).dropWhile isSchemeChar = ':' :: rest := by
    rw [List.dropWhile_append_of_pos h.isSchemeChar_of_mem, List.dropWhile_cons, hcolon]
    rfl
  have hlower := h.lower
  have hfirst := h.first
  rw [← hlower] at hfirst
  cases spelled with
  | nil => cases hfirst
  | cons c spelled =>
      have halpha : c.isAlpha = true := isAlpha_of_toLower (Option.some.inj hfirst)
      rw [List.cons_append] at htake hdrop ⊢
      simp only [cutScheme, halpha, hdrop, htake, hlower, String.ofList_toList, if_true]

end Spells

-- ── In front of an `@` ─────────────────────────────────────────────

/-- Between a scheme and an `@`, only the characters go that are dropped wherever they stand. -/
theorem exists_strip_of_spells {spelled : List Char} {scheme : String} (h : Spells spelled scheme)
    (after : List Char) :
    ∃ rest, ∀ text, strip (spelled ++ ':' :: '/' :: '/' :: (text ++ '@' :: after))
      = spelled ++ ':' :: '/' :: '/' :: (unbroken text ++ '@' :: rest) := by
  obtain ⟨rest, hrest⟩ := exists_strip_append (c := '@') (by decide) after
  refine ⟨rest, ?_⟩
  intro text
  have hvisible : ∀ c ∈ spelled, 0x20 < c.toNat :=
    fun c hc => visible_of_isSchemeChar (h.isSchemeChar_of_mem c hc)
  have hedge : ∀ c ∈ spelled, isEdge c = false := by
    intro c hc
    simpa [isEdge] using hvisible c hc
  -- A scheme begins with a letter, so no blank is dropped in front of it.
  have hfront : unbroken ((spelled ++ ':' :: '/' :: '/' :: text).dropWhile isEdge)
      = spelled ++ ':' :: '/' :: '/' :: unbroken text := by
    rw [dropWhile_append_cons (by decide), dropWhile_of_forall hedge, unbroken, List.filter_append]
    exact congrArg (· ++ ':' :: '/' :: '/' :: unbroken text) (unbroken_of_forall hvisible)
  have hassoc : spelled ++ ':' :: '/' :: '/' :: (text ++ '@' :: after)
      = (spelled ++ ':' :: '/' :: '/' :: text) ++ '@' :: after := by
    rw [List.append_assoc]
    rfl
  rw [hassoc, hrest, hfront, List.append_assoc]
  rfl

-- ── Authorities ────────────────────────────────────────────────────

/-- A text that is user information wherever it stands in front of an `@`: nothing in it ends the
    authority, and it is neither empty nor only a colon. -/
structure IsUserinfo (text : List Char) : Prop where
  inside : ∀ c ∈ text, endsAuthority .plain c = false
  ne_nil : text ≠ []
  ne_colon : text ≠ [':']

namespace IsUserinfo

variable {text : List Char}

/-- What has been read of it can be told from no user information at all. -/
theorem isEmpty_ofText (h : IsUserinfo text) : (Userinfo.ofText text).isEmpty = false := by
  rw [Userinfo.ofText]
  cases hcut : cutFirst ':' text with
  | none =>
      show (text.isEmpty && List.isEmpty []) = false
      rw [List.isEmpty_eq_false_iff.mpr h.ne_nil]
      rfl
  | some p =>
      obtain ⟨username, password⟩ := p
      obtain ⟨rfl, -⟩ := cutFirst_eq_some.mp hcut
      show (username.isEmpty && password.isEmpty) = false
      refine (Bool.not_eq_true _).mp (fun hempty => h.ne_colon ?_)
      obtain ⟨husername, hpassword⟩ := Bool.and_eq_true_iff.mp hempty
      rw [List.isEmpty_iff.mp husername, List.isEmpty_iff.mp hpassword]
      rfl

/-- More of it in front of another `@` is user information still. -/
theorem append_at (h : IsUserinfo text) {more : List Char}
    (hmore : ∀ c ∈ more, endsAuthority .plain c = false) : IsUserinfo (text ++ '@' :: more) := by
  have hlength : (text ++ '@' :: more).length ≠ [':'].length := by
    have hpos := List.length_pos_iff.mpr h.ne_nil
    simp only [List.length_append, List.length_cons, List.length_nil]
    omega
  refine ⟨?_, by simp, fun heq => hlength (congrArg List.length heq)⟩
  intro c hc
  rcases List.mem_append.mp hc with htext | hrest
  · exact h.inside c htext
  · rcases List.mem_cons.mp hrest with rfl | hin
    · rfl
    · exact hmore c hin

end IsUserinfo

/-- The text up to the last `@` is user information, and what follows that one does not depend on
    it. -/
theorem exists_cutUserinfo {behind : List Char}
    (hbehind : ∀ c ∈ behind, endsAuthority .plain c = false) (followed : Bool) :
    ∃ hostport, ∀ text, IsUserinfo text →
      ∃ userinfo, cutUserinfo (text ++ '@' :: behind) followed = .ok (userinfo, hostport)
        ∧ userinfo.isEmpty = false := by
  have hread {text : List Char} (htext : IsUserinfo text) {authority hostport : List Char}
      (hcut : cutLast '@' authority = some (text, hostport)) :
      ∃ userinfo, cutUserinfo authority followed = .ok (userinfo, hostport)
        ∧ userinfo.isEmpty = false := by
    refine ⟨Userinfo.ofText text, ?_, htext.isEmpty_ofText⟩
    obtain ⟨c, rest, rfl⟩ := List.exists_cons_of_ne_nil htext.ne_nil
    rw [cutUserinfo, hcut]
  cases hlast : cutLast '@' behind with
  | none =>
      refine ⟨behind, ?_⟩
      intro text htext
      refine hread htext ?_
      rw [cutLast_append_cons, hlast]
      rfl
  | some p =>
      -- A later `@` in the common part makes more of it user information.
      obtain ⟨more, hostport⟩ := p
      refine ⟨hostport, ?_⟩
      intro text htext
      obtain ⟨rfl, -⟩ := cutLast_eq_some.mp hlast
      refine hread (htext.append_at (fun c hc => hbehind c (List.mem_append_left _ hc))) ?_
      rw [cutLast_append_cons, hlast]
      rfl

-- ── Readings that come out alike ───────────────────────────────────

/-- Whether a reading of texts with user information in them comes out alike for all of them: it
    fails with one and the same fault, which is not a missing scheme, or it never fails and `p`
    holds of what is read. -/
def ReadAlike {α : Type} (read : List Char → Except Fault α) (p : α → Prop) : Prop :=
  (∃ fault, fault ≠ .noScheme ∧ ∀ text, IsUserinfo text → read text = .error fault)
    ∨ ∀ text, IsUserinfo text → ∃ a, read text = .ok a ∧ p a

/-- A fault of a host in brackets is not a missing scheme. -/
theorem ne_noScheme_of_parseBracketed {cs : List Char} {fault : Fault}
    (h : Host.parseBracketed cs = .error fault) : fault ≠ .noScheme := by
  rintro rfl
  rw [Host.parseBracketed] at h
  split at h
  · split at h <;> cases h
  · cases h

/-- A fault of a host is not a missing scheme. -/
theorem ne_noScheme_of_parseOpaque {cs : List Char} {fault : Fault}
    (h : Host.parseOpaque cs = .error fault) : fault ≠ .noScheme := by
  rw [Host.parseOpaque.eq_def] at h
  split at h
  · cases h
  · rename_i rest
    cases hbracket : Host.parseBracketed rest with
    | error e =>
        rw [hbracket] at h
        cases h
        exact ne_noScheme_of_parseBracketed hbracket
    | ok host =>
        rw [hbracket] at h
        cases h
  · rintro rfl
    split at h <;> cases h

/-- A fault of a port is not a missing scheme. -/
theorem ne_noScheme_of_readPort {scheme : String} {cs : List Char} {fault : Fault}
    (h : readPort scheme cs = .error fault) : fault ≠ .noScheme := by
  rintro rfl
  simp only [readPort] at h
  split at h
  · cases h
  · split at h <;> cases h

/-- A host text is followed by nothing, or by a colon. -/
theorem cutHost_snd (inside : Bool) (cs : List Char) :
    (cutHost inside cs).2 = [] ∨ ∃ digits, (cutHost inside cs).2 = ':' :: digits := by
  induction cs generalizing inside with
  | nil => exact .inl rfl
  | cons c rest ih =>
      rw [cutHost]
      split
      · rename_i hcolon
        exact .inr ⟨rest, by rw [hcolon.1]⟩
      · exact ih _

/-- What follows the user information is refused whatever that is, or it is read and the user
    information is put beside it. -/
theorem Authority.exists_parse_of_cutUserinfo (scheme : String) (hostport : List Char) :
    (∃ fault, fault ≠ .noScheme ∧ ∀ cs followed userinfo,
        cutUserinfo cs followed = .ok (userinfo, hostport) → userinfo.isEmpty = false →
          Authority.parse scheme .plain cs followed = .error fault)
      ∨ ∃ place : Userinfo → Authority, (∀ u, (place u).userinfo = u) ∧ ∀ cs followed userinfo,
          cutUserinfo cs followed = .ok (userinfo, hostport) →
            Authority.parse scheme .plain cs followed = .ok (place userinfo) := by
  cases hhost : parseHost .plain (cutHost false hostport).1 with
  | error fault =>
      refine .inl ⟨fault, ne_noScheme_of_parseOpaque hhost, ?_⟩
      intro cs followed userinfo huserinfo _
      simp only [Authority.parse, bind, Except.bind, huserinfo, hhost]
  | ok host =>
      cases host with
      | none =>
          -- The colon of a port or the user information asks for a host.
          refine .inl ⟨.emptyHost, Fault.noConfusion, ?_⟩
          intro cs followed userinfo huserinfo hsome
          simp only [Authority.parse, bind, Except.bind, huserinfo, hhost]
          rcases cutHost_snd false hostport with hafter | ⟨digits, hafter⟩
          · simp [hafter, hsome]
          · simp [hafter]
      | some host =>
          rcases cutHost_snd false hostport with hafter | ⟨digits, hafter⟩
          · refine .inr ⟨fun u => { userinfo := u, host := some host }, fun _ => rfl, ?_⟩
            intro cs followed userinfo huserinfo
            simp only [Authority.parse, bind, Except.bind, huserinfo, hhost, hafter]
            rfl
          · cases hport : readPort scheme digits with
            | error fault =>
                refine .inl ⟨fault, ne_noScheme_of_readPort hport, ?_⟩
                intro cs followed userinfo huserinfo _
                simp only [Authority.parse, bind, Except.bind, huserinfo, hhost, hafter]
                simp [hport]
            | ok portAndRest =>
                obtain ⟨port, rest⟩ := portAndRest
                refine .inr ⟨fun u => { userinfo := u, host := some host, port, rest },
                  fun _ => rfl, ?_⟩
                intro cs followed userinfo huserinfo
                simp only [Authority.parse, bind, Except.bind, huserinfo, hhost, hafter]
                simp [hport]

/-- **HOST AND PORT ARE READ ALIKE**, whatever user information stands in front of them. -/
theorem Authority.readAlike_parse (scheme : String) {behind : List Char}
    (hbehind : ∀ c ∈ behind, endsAuthority .plain c = false) (followed : Bool) :
    ReadAlike (fun text => Authority.parse scheme .plain (text ++ '@' :: behind) followed)
      (fun a => a.userinfo.isEmpty = false) := by
  obtain ⟨hostport, hcut⟩ := exists_cutUserinfo hbehind followed
  obtain ⟨fault, hne, hfails⟩ | ⟨place, hplace, hreads⟩ :=
    Authority.exists_parse_of_cutUserinfo scheme hostport
  · refine .inl ⟨fault, hne, ?_⟩
    intro text htext
    obtain ⟨userinfo, huserinfo, hsome⟩ := hcut text htext
    exact hfails _ _ _ huserinfo hsome
  · refine .inr ?_
    intro text htext
    obtain ⟨userinfo, huserinfo, hsome⟩ := hcut text htext
    refine ⟨place userinfo, hreads _ _ _ huserinfo, ?_⟩
    show (place userinfo).userinfo.isEmpty = false
    rw [hplace]
    exact hsome

/-- **WHAT FOLLOWS TWO SLASHES IS READ ALIKE**, whatever user information it begins with. -/
theorem readAlike_withAuthority (scheme : String) (behind : List Char) :
    ReadAlike (fun text => withAuthority scheme .plain (text ++ '@' :: behind))
      (fun u => u.scheme = scheme ∧ u.userinfo.isEmpty = false) := by
  let inside := behind.takeWhile (fun c => !endsAuthority .plain c)
  let outside := behind.dropWhile (fun c => !endsAuthority .plain c)
  have hinside : ∀ c ∈ inside, endsAuthority .plain c = false := by
    intro c hc
    have hall : inside.all (fun c => !endsAuthority .plain c) = true := List.all_takeWhile
    simpa using List.all_eq_true.mp hall c hc
  -- User information and the `@` behind it do not end the authority, so it ends in the common
  -- part.
  have hfront {text : List Char} (htext : IsUserinfo text) :
      ∀ c ∈ text ++ ['@'], (!endsAuthority .plain c) = true := by
    intro c hc
    rcases List.mem_append.mp hc with hmem | hat
    · rw [htext.inside c hmem]
      rfl
    · rw [List.mem_singleton.mp hat]
      rfl
  have hassoc (text rest : List Char) : text ++ '@' :: rest = text ++ ['@'] ++ rest := by
    rw [List.append_assoc]
    rfl
  have htake {text : List Char} (htext : IsUserinfo text) :
      (text ++ '@' :: behind).takeWhile (fun c => !endsAuthority .plain c)
        = text ++ '@' :: inside := by
    rw [hassoc text behind, List.takeWhile_append_of_pos (hfront htext)]
    exact (hassoc text inside).symm
  have hdrop {text : List Char} (htext : IsUserinfo text) :
      (text ++ '@' :: behind).dropWhile (fun c => !endsAuthority .plain c) = outside := by
    rw [hassoc text behind, List.dropWhile_append_of_pos (hfront htext)]
  obtain ⟨fault, hne, hfails⟩ | hreads :=
    Authority.readAlike_parse scheme hinside (!outside.isEmpty)
  · refine .inl ⟨fault, hne, ?_⟩
    intro text htext
    simp only [withAuthority, htake htext, hdrop htext, hfails text htext, bind, Except.bind]
  · refine .inr ?_
    intro text htext
    obtain ⟨authority, hauthority, hsome⟩ := hreads text htext
    simp only [withAuthority, htake htext, hdrop htext, hauthority, bind, Except.bind]
    exact ⟨_, rfl, rfl, hsome⟩

/-- **USER INFORMATION IS READ PAST**: behind a scheme in any letter case, all URIs with user
    information in front of the same text are refused with one fault, or all of them are read. -/
theorem parse_of_userinfo {spelled : List Char} {scheme : String} (h : Spells spelled scheme)
    (hkind : SchemeKind.ofScheme scheme = .plain) (after : List Char) :
    (∃ fault, fault ≠ .noScheme ∧ ∀ text, IsUserinfo (unbroken text) →
        Uri.parse (String.ofList (spelled ++ ':' :: '/' :: '/' :: (text ++ '@' :: after)))
          = .error fault)
      ∨ ∀ text, IsUserinfo (unbroken text) →
          ∃ u, Uri.parse (String.ofList (spelled ++ ':' :: '/' :: '/' :: (text ++ '@' :: after)))
              = .ok u
            ∧ u.scheme = scheme ∧ u.userinfo.isEmpty = false := by
  obtain ⟨rest, hstrip⟩ := exists_strip_of_spells h after
  have hparse (text : List Char) :
      Uri.parse (String.ofList (spelled ++ ':' :: '/' :: '/' :: (text ++ '@' :: after)))
        = withAuthority scheme .plain (unbroken text ++ '@' :: rest) := by
    rw [Uri.parse, String.toList_ofList, hstrip, h.cutScheme_eq]
    simp only [hkind]
  simp only [hparse]
  obtain ⟨fault, hne, hfails⟩ | hreads := readAlike_withAuthority scheme rest
  · exact .inl ⟨fault, hne, fun text htext => hfails (unbroken text) htext⟩
  · exact .inr (fun text htext => hreads (unbroken text) htext)

end GraphLink.Uri
