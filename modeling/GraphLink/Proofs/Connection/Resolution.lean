import GraphLink.Proofs.Address.Grammar
import GraphLink.Proofs.Client.Failure
import GraphLink.Proofs.Connection.Canonical

/-! # Network locations resolve

    The network location of a classified URI is written by one reader and read by another, which
    splits at brackets, colons and blanks on its own.  The two agree (`resolves_of_classify`): no
    host that a URI can have holds a character that the second reader splits or trims on, so the
    address it finds is the host and the port of the URI, with the defaults for what is missing. -/

namespace GraphLink.Uri

open GraphLink.Text

-- ── The address of a URI ───────────────────────────────────────────

/-- The host as addresses have it: without brackets. -/
def bareHost (u : Uri) : List Char :=
  match u.host with
  | some (.ipv6 address) => address.render
  | some host => host.render
  | none => []

/-- The host, and the port that is given and not zero, or else the default port. -/
def address (u : Uri) : Address where
  host := String.ofList u.bareHost
  port :=
    match u.port with
    | some port => if port = 0 then Address.defaultPort else port
    | none => Address.defaultPort

-- ── Splitting a network location ───────────────────────────────────

/-- What can stand in a network location is not blank. -/
theorem isBlank_of_isPlaceChar {c : Char} (h : isPlaceChar c = true) : isBlank c = false := by
  simp only [isPlaceChar, Bool.and_eq_true, decide_eq_true_eq] at h
  obtain ⟨⟨hlow, hhigh⟩, -⟩ := h
  simp only [isBlank, Bool.or_eq_false_iff, Bool.and_eq_false_iff, decide_eq_false_iff_not,
    beq_eq_false_iff_ne, ne_eq]
  omega

/-- So a plain network location has no blanks, at its ends or elsewhere. -/
theorem isBlank_of_mem_netloc {u : Uri} (h : u.IsPlain) : ∀ c ∈ u.netloc, isBlank c = false :=
  fun c hc => isBlank_of_isPlaceChar (isPlaceChar_of_mem_netloc h c hc)

/-- The digits of the port; nothing if there is none. -/
def portDigits (u : Uri) : List Char :=
  (u.port.map (fun p => decimal p.toNat)).getD []

/-- No closing bracket stands behind the one that closes the host. -/
theorem bracket_not_mem_portText (u : Uri) : ']' ∉ u.portText := by
  rw [portText]
  cases u.port with
  | none => exact List.not_mem_nil
  | some p => exact Address.notMem_colon_portText (by decide) (by decide) p

/-- The written port denotes the port; where there is none, port zero is denoted. -/
theorem denotesPort_portDigits (u : Uri) :
    Address.DenotesPort u.portDigits (u.port.getD 0).toNat := by
  rw [portDigits]
  cases u.port with
  | none => exact .empty
  | some p => exact Address.denotesPort_portText p

/-- **THE SECOND READER SPLITS WHERE THE FIRST ONE WROTE THE COLON.** -/
theorem parts_netloc {u : Uri} (h : u.IsPlain) {host : Host} (hhost : u.host = some host) :
    Address.Parts u.netloc u.bareHost u.portDigits := by
  have hnetloc : u.netloc = host.render ++ u.portText := by
    rw [netloc_eq, hostText, hhost]
    rfl
  rw [hnetloc, bareHost, hhost]
  cases host with
  | name chars =>
      obtain ⟨hne, hchars⟩ := h.host _ hhost
      have hname := fun c hc => isPlaceChar_of_name (hchars c hc).1 (hchars c hc).2
      -- A name goes up to the only colon, and does not pass for an address in brackets.
      have hcolon : ':' ∉ chars := fun hmem => (hname ':' hmem).2.1 rfl
      have hbracket : chars.head? ≠ some '[' :=
        fun hfirst => (hname '[' (List.mem_of_head? hfirst)).2.2 rfl
      show Address.Parts (chars ++ u.portText) chars u.portDigits
      rw [portText, portDigits]
      cases u.port with
      | none =>
          show Address.Parts (chars ++ []) chars []
          rw [List.append_nil]
          exact .bare hbracket hcolon
      | some p => exact .withPort hbracket hcolon
  | ipv6 address =>
      -- The brackets are not part of the host; what follows the closing one is a port or nothing.
      have hport : u.portText = ':' :: u.portDigits
          ∨ u.portText = u.portDigits ∧ u.portDigits.head? ≠ some ':' := by
        rw [portText, portDigits]
        cases u.port with
        | none => exact .inr ⟨rfl, fun h => by cases h⟩
        | some p => exact .inl rfl
      show Address.Parts ('[' :: (address.render ++ [']'] ++ u.portText)) address.render
        u.portDigits
      rw [List.append_assoc]
      exact .bracketed (bracket_not_mem_portText u) hport
  | ipv4 address => exact (h.host _ hhost).elim

/-- A plain host is not empty, with or without its brackets. -/
theorem bareHost_ne_nil {u : Uri} (h : u.IsPlain) (hhost : u.host ≠ none) : u.bareHost ≠ [] := by
  rw [bareHost]
  cases hsome : u.host with
  | none => exact absurd hsome hhost
  | some host =>
      cases host with
      | name chars => exact (h.host _ hsome).1
      | ipv6 address => exact Ipv6.render_ne_nil address
      | ipv4 address => exact (h.host _ hsome).elim

/-- The host and the port name the address of the URI; a port that is not given counts as zero. -/
theorem named_bareHost {u : Uri} (h : u.IsPlain) (hhost : u.host ≠ none) :
    Address.named {} u.bareHost (u.port.getD 0).toNat = u.address := by
  rw [Address.named_toNat, if_neg (bareHost_ne_nil h hhost), address]
  cases u.port <;> rfl

-- ── Resolving a network location ───────────────────────────────────

/-- **THE ADDRESS IN A NETWORK LOCATION**: it is read as the address of the URI. -/
theorem parse_netloc {u : Uri} (h : u.IsPlain) (hhost : u.host ≠ none) :
    Address.parse (String.ofList u.netloc) = .ok u.address := by
  obtain ⟨host, hsome⟩ := Option.ne_none_iff_exists'.mp hhost
  have htrims : Trims (String.ofList u.netloc).toList u.netloc := by
    rw [String.toList_ofList]
    exact trim_eq_iff.mp (trim_of_forall (isBlank_of_mem_netloc h))
  rw [Address.parse_eq_ok_iff]
  exact ⟨u.netloc, u.bareHost, u.portDigits, (u.port.getD 0).toNat, htrims, parts_netloc h hsome,
    denotesPort_portDigits u, .inl (bareHost_ne_nil h hhost), (named_bareHost h hhost).symm⟩

/-- With a host, a network location is not empty. -/
theorem netloc_ne_nil {u : Uri} (h : u.IsPlain) (hhost : u.host ≠ none) : u.netloc ≠ [] := by
  obtain ⟨host, hsome⟩ := Option.ne_none_iff_exists'.mp hhost
  rw [netloc_eq, hostText, hsome]
  intro hnil
  obtain ⟨hrender, -⟩ := List.append_eq_nil_iff.mp hnil
  cases host with
  | name chars => exact (h.host _ hsome).1 hrender
  | ipv6 address => cases hrender
  | ipv4 address => exact h.host _ hsome

/-- Without a host it is, as there is no port either. -/
theorem netloc_eq_nil {u : Uri} (h : u.IsPlain) (hhost : u.host = none) : u.netloc = [] := by
  rw [netloc_eq, hostText, portText, hhost, h.port hhost]
  rfl

/-- As a target, a network location with a host is the address of the URI. -/
theorem parseTarget_netloc {u : Uri} (h : u.IsPlain) (hhost : u.host ≠ none) :
    Address.parseTarget (String.ofList u.netloc) = .ok u.address := by
  have hblank : (trim u.netloc).isEmpty = false := by
    rw [trim_of_forall (isBlank_of_mem_netloc h)]
    exact List.isEmpty_eq_false_iff.mpr (netloc_ne_nil h hhost)
  rw [Address.parseTarget, String.toList_ofList, hblank, if_neg Bool.false_ne_true]
  exact parse_netloc h hhost

/-- As a list of targets, it is that one address, as no blank splits it. -/
theorem parseTargets_netloc {u : Uri} (h : u.IsPlain) (hhost : u.host ≠ none) :
    Address.parseTargets [String.ofList u.netloc] = .ok [u.address] := by
  have hwords : Address.targetWords [String.ofList u.netloc] = [u.netloc] := by
    rw [Address.targetWords, List.map_cons, List.map_nil, List.intercalate_singleton,
      String.toList_ofList]
    exact words_of_forall (netloc_ne_nil h hhost) (isBlank_of_mem_netloc h)
  have hlist : Address.parseList [String.ofList u.netloc] = .ok [u.address] := by
    rw [Address.parseList, hwords, List.mapM_cons, parse_netloc h hhost]
    rfl
  rw [Address.parseTargets, hlist]
  rfl

end GraphLink.Uri

namespace GraphLink.ConnectionUri

/-- **THE TWO READERS AGREE**: the network location of a classified URI names the address of the
    URI, alone and as a list of targets; the empty one names the standard addresses.  So no error
    about an address comes out of opening a driver for a URI that has been classified. -/
theorem resolves_of_classify {uri : String} {c : ConnectionUri} (h : classify uri = .ok c) :
    ∃ u, Uri.parse uri = .ok u
      ∧ (c.netloc ≠ "" →
          Address.parseTarget c.netloc = .ok u.address
            ∧ Address.parseTargets [c.netloc] = .ok [u.address])
      ∧ (c.netloc = "" →
          Address.parseTarget c.netloc = .ok ⟨"localhost", 7687⟩
            ∧ Address.parseTargets [c.netloc]
              = .ok [⟨"localhost", 7687⟩, ⟨"localhost", 17601⟩, ⟨"localhost", 17687⟩])
      ∧ ∀ b pool auth o detail,
          (Opening.uri b pool uri auth o).answer ≠ .error (.malformedAddress detail) := by
  obtain ⟨u, s, hparse, hclass, hc⟩ := classify_eq_ok.mp h
  have hplain := isPlain_of_classifies hparse hclass
  have hnetloc : c.netloc = String.ofList u.netloc := by
    rw [hc]
    rfl
  -- Opening fails for an address only where one of the two readers fails for it.
  have hopens : ∀ {address : Address} {addresses : List Address},
      Address.parseTarget c.netloc = .ok address →
      Address.parseTargets [c.netloc] = .ok addresses →
      ∀ b pool auth o detail,
        (Opening.uri b pool uri auth o).answer ≠ .error (.malformedAddress detail) := by
    intro _ _ htarget htargets b pool auth o detail herror
    exact Opening.uri_failsOnly h htarget htargets b pool auth o _ herror ⟨detail, rfl⟩
  by_cases hhost : u.host = none
  · have hempty : c.netloc = "" := by
      rw [hnetloc, Uri.netloc_eq_nil hplain hhost]
    have htarget : Address.parseTarget c.netloc = .ok ⟨"localhost", 7687⟩ := by
      rw [hempty]
      rfl
    have htargets : Address.parseTargets [c.netloc]
        = .ok [⟨"localhost", 7687⟩, ⟨"localhost", 17601⟩, ⟨"localhost", 17687⟩] := by
      rw [hempty]
      rfl
    exact ⟨u, hparse, fun hne => absurd hempty hne, fun _ => ⟨htarget, htargets⟩,
      hopens htarget htargets⟩
  · have hne : c.netloc ≠ "" := by
      rw [hnetloc]
      intro hempty
      exact Uri.netloc_ne_nil hplain hhost (String.ofList_inj.mp hempty)
    have htarget : Address.parseTarget c.netloc = .ok u.address := by
      rw [hnetloc]
      exact Uri.parseTarget_netloc hplain hhost
    have htargets : Address.parseTargets [c.netloc] = .ok [u.address] := by
      rw [hnetloc]
      exact Uri.parseTargets_netloc hplain hhost
    exact ⟨u, hparse, fun _ => ⟨htarget, htargets⟩, fun hempty => absurd hempty hne,
      hopens htarget htargets⟩

/-- The agreement at a host in brackets with port zero. -/
theorem resolves_of_classify_zero_port :
    classify "neo4j://[0:0::1]:0?a=b" = .ok ⟨.neo4j, "[::1]:0", some "a=b"⟩
      ∧ Address.parseTarget "[::1]:0" = .ok ⟨"::1", 7687⟩
      ∧ Address.parseTargets ["[::1]:0"] = .ok [⟨"::1", 7687⟩]
      ∧ ∀ b pool auth o detail,
          (Opening.uri b pool "neo4j://[0:0::1]:0?a=b" auth o).answer
            ≠ .error (.malformedAddress detail) := by
  have h : classify "neo4j://[0:0::1]:0?a=b" = .ok ⟨.neo4j, "[::1]:0", some "a=b"⟩ := rfl
  have haddress : (Uri.parse "neo4j://[0:0::1]:0?a=b").map Uri.address = .ok ⟨"::1", 7687⟩ := rfl
  obtain ⟨u, hparse, hplace, -, hopens⟩ := resolves_of_classify h
  obtain ⟨htarget, htargets⟩ := hplace (by decide)
  rw [hparse] at haddress
  have hu : u.address = ⟨"::1", 7687⟩ := Except.ok.inj haddress
  rw [hu] at htarget htargets
  exact ⟨h, htarget, htargets, hopens⟩

end GraphLink.ConnectionUri
