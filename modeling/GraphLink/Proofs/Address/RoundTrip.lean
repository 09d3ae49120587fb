import GraphLink.Proofs.Address.Grammar
import Mathlib.Data.List.Basic

/-! # Addresses in writing, read back

    An address is written with its host in brackets if there is a colon in the host, and a target is
    read as one in brackets if it starts with a bracket.  The two agree on hosts that can be told
    from what is written around them, with brackets or without: such a host `ReadsBack`.

    `parse_text` says what an address with such a host is read back as, and
    `readsBack_of_parse_text` that no other address comes back.  Together they tell which addresses
    survive (`parse_text_eq_ok_iff`), and which of those that a target can name
    (`parse_text_of_parse`): only behind an opening bracket can a host start with what is not plain.
    -/

namespace GraphLink.Address

open GraphLink.Text

variable {whole t host port : List Char} {d : Defaults} {a : Address} {target : String}

-- ── Hosts in writing ───────────────────────────────────────────────

/-- A text whose start is neither dropped as a blank nor taken for an opening bracket. -/
def StartsPlain (cs : List Char) : Prop :=
  ∃ c, cs.head? = some c ∧ c ≠ '[' ∧ isBlank c = false

/-- A host that is found again where it is written: in brackets, or at the start of the text. -/
def ReadsBack (host : List Char) : Prop :=
  ':' ∈ host ∨ StartsPlain host

theorem StartsPlain.ne_nil (h : StartsPlain host) : host ≠ [] := by
  obtain ⟨c, hc, -⟩ := h
  rintro rfl
  cases hc

/-- A host that is read back is not empty. -/
theorem ReadsBack.ne_nil (h : ReadsBack host) : host ≠ [] := by
  rcases h with hcolon | hplain
  · exact List.ne_nil_of_mem hcolon
  · exact hplain.ne_nil

/-- The default host is read back. -/
theorem readsBack_defaultHost : ReadsBack defaultHost.toList :=
  .inr ⟨'l', rfl, by decide, by decide⟩

/-- A host with a colon is written in brackets. -/
theorem render_of_mem (h : ':' ∈ a.host.toList) :
    a.render = '[' :: (a.host.toList ++ ']' :: ':' :: portText a.port) := by
  rw [render, isIPv6, if_pos (List.contains_iff_mem.mpr h)]
  rfl

/-- A host without a colon is written as it is. -/
theorem render_of_notMem (h : ':' ∉ a.host.toList) :
    a.render = a.host.toList ++ ':' :: portText a.port := by
  rw [render, isIPv6, if_neg (fun hcolon => h (List.contains_iff_mem.mp hcolon))]

/-- The host in writing: in brackets if there is a colon in it. -/
def hostText (a : Address) : List Char :=
  if ':' ∈ a.host.toList then '[' :: (a.host.toList ++ [']']) else a.host.toList

/-- With brackets or without, a colon stands behind the host, and then the port. -/
theorem render_eq (a : Address) : a.render = a.hostText ++ ':' :: portText a.port := by
  by_cases hcolon : ':' ∈ a.host.toList
  · rw [render_of_mem hcolon, hostText, if_pos hcolon, List.cons_append, List.append_assoc]
    rfl
  · rw [render_of_notMem hcolon, hostText, if_neg hcolon]

-- ── From addresses to addresses ────────────────────────────────────

/-- The port stands at the end. -/
theorem exists_render_eq_append (a : Address) :
    ∃ before, a.render = before ++ portText a.port := by
  refine ⟨a.hostText ++ [':'], ?_⟩
  rw [render_eq, List.append_assoc]
  rfl

/-- The two forms of an address in writing are the two forms of a target with a port. -/
theorem parts_render (h : ReadsBack a.host.toList) :
    Parts a.render a.host.toList (portText a.port) := by
  by_cases hcolon : ':' ∈ a.host.toList
  · rw [render_of_mem hcolon]
    exact .bracketed (notMem_colon_portText (by decide) (by decide) a.port) (.inl rfl)
  · obtain ⟨c, hc, hbracket, -⟩ := h.resolve_left hcolon
    rw [render_of_notMem hcolon]
    refine .withPort ?_ hcolon
    rw [hc]
    exact fun heq => hbracket (Option.some.inj heq)

/-- Nothing of an address in writing is dropped as a blank. -/
theorem trims_render (h : ReadsBack a.host.toList) : Trims a.render a.render where
  around := ⟨[], [], (List.append_nil _).symm, List.forall_mem_nil _, List.forall_mem_nil _⟩
  head := by
    intro c hc
    by_cases hcolon : ':' ∈ a.host.toList
    · rw [render_of_mem hcolon] at hc
      cases hc
      decide
    · obtain ⟨first, hfirst, -, hblank⟩ := h.resolve_left hcolon
      rw [render_of_notMem hcolon, List.head?_append, hfirst] at hc
      cases hc
      exact hblank
  last := by
    intro c hc
    obtain ⟨before, hrender⟩ := exists_render_eq_append a
    rw [hrender, List.getLast?_append_of_ne_nil _ (portText_ne_nil a.port)] at hc
    exact forall_mem_portText (p := (isBlank · = false)) (by decide) a.port c
      (List.mem_of_getLast? hc)

/-- **AN ADDRESS IN WRITING IS READ BACK**, with the default for port zero. -/
theorem parse_text (h : ReadsBack a.host.toList) :
    parse a.text d = .ok ⟨a.host, if a.port = 0 then d.port else a.port⟩ := by
  rw [parse_eq_ok_iff]
  refine ⟨a.render, a.host.toList, portText a.port, a.port.toNat, ?_, parts_render h,
    denotesPort_portText a.port, .inl h.ne_nil, ?_⟩
  · rw [text, String.toList_ofList]
    exact trims_render h
  · rw [named_toNat, if_neg h.ne_nil, String.ofList_toList]

-- ── From targets to addresses ──────────────────────────────────────

/-- The first character decides whether a start is plain. -/
theorem startsPlain_cons {c : Char} {cs : List Char} :
    StartsPlain (c :: cs) ↔ c ≠ '[' ∧ isBlank c = false := by
  constructor
  · rintro ⟨_, ⟨⟩, h⟩
    exact h
  · intro h
    exact ⟨c, rfl, h⟩

/-- A host text stands between brackets, or else at the start of what has no blank there. -/
theorem Parts.host_cases (htrims : Trims whole t) (h : Parts t host port) :
    (∃ behind, t = '[' :: (host ++ ']' :: behind))
      ∨ t.head? ≠ some '[' ∧ (host = [] ∨ StartsPlain host) := by
  have hplain : ∀ behind, t = host ++ behind → host.head? ≠ some '[' →
      host = [] ∨ StartsPlain host := by
    rintro behind rfl hfirst
    cases host with
    | nil => exact .inl rfl
    | cons c cs =>
        refine .inr (startsPlain_cons.mpr ⟨?_, htrims.head c rfl⟩)
        rintro rfl
        exact hfirst rfl
  cases h with
  | bracketed => exact .inl ⟨_, rfl⟩
  | bare hfirst _ => exact .inr ⟨hfirst, hplain [] (List.append_nil _).symm hfirst⟩
  | withPort hfirst _ => exact .inr ⟨head?_append_ne hfirst, hplain _ rfl hfirst⟩

/-- The standard host reads back, and so it takes only a host text to tell. -/
theorem readsBack_named_iff {n : Nat} : ReadsBack (named {} host n).host.toList
    ↔ ':' ∈ (named {} host n).host.toList ∨ host = [] ∨ StartsPlain host := by
  by_cases hne : host = []
  · rw [named, if_pos hne]
    exact iff_of_true readsBack_defaultHost (.inr (.inl hne))
  · rw [ReadsBack, host_named_of_ne_nil hne, or_iff_right hne]

/-- No other address is read back. -/
theorem readsBack_of_parse_text (h : parse a.text = .ok a) : ReadsBack a.host.toList := by
  by_cases hcolon : ':' ∈ a.host.toList
  · exact .inl hcolon
  obtain ⟨t, host, port, n, htrims, hparts, -, -, ha⟩ := parse_eq_ok_iff.mp h
  rw [text, String.toList_ofList, render_of_notMem hcolon] at htrims
  suffices hhost : host = [] ∨ StartsPlain host by
    rw [ha]
    exact readsBack_named_iff.mpr (.inr hhost)
  by_cases hne : host = []
  · exact .inl hne
  rcases hparts.host_cases htrims with ⟨behind, ht⟩ | ⟨-, hhost⟩
  · -- The bracket in front of the host is one more than the text has.
    have hhost : a.host.toList = host := by
      rw [ha, host_named_of_ne_nil hne]
    have hport : (':' :: portText a.port).count '[' = 0 :=
      List.count_eq_zero.mpr (notMem_colon_portText (by decide) (by decide) a.port)
    obtain ⟨before, after, heq, -, -⟩ := htrims.around
    have hcount := congrArg (List.count '[') heq
    rw [hhost, ht] at hcount
    simp only [List.count_append, List.count_cons_self, hport] at hcount
    omega
  · exact hhost

-- ── Round trips ────────────────────────────────────────────────────

/-- **WHICH ADDRESSES COME BACK.**  With the standard defaults, the text of an address is read as
    the same address exactly if its port is not zero and its host has a colon or starts with a
    character that is neither an opening bracket nor blank. -/
theorem parse_text_eq_ok_iff (a : Address) :
    parse a.text ⟨"localhost", 7687⟩ = .ok a ↔ a.port ≠ 0 ∧ (':' ∈ a.host.toList
      ∨ ∃ c, a.host.toList.head? = some c ∧ c ≠ '[' ∧ isBlank c = false) := by
  constructor
  · intro h
    exact ⟨port_ne_zero_of_parse (by decide) h, readsBack_of_parse_text h⟩
  · rintro ⟨hport, hhost⟩
    rw [parse_text hhost, if_neg hport]

/-- The start of a host behind a bracket is as plain as the host. -/
theorem readsBack_iff_of_parse (h : parse target = .ok a) : ReadsBack a.host.toList
    ↔ ':' ∈ a.host.toList ∨ ∀ c rest, Trims target.toList ('[' :: c :: rest) →
      c ≠ '[' ∧ isBlank c = false := by
  obtain ⟨t, host, port, n, htrims, hparts, -, -, rfl⟩ := parse_eq_ok_iff.mp h
  rw [readsBack_named_iff]
  refine or_congr_right ?_
  rcases hparts.host_cases htrims with ⟨behind, rfl⟩ | ⟨hfirst, hhost⟩
  · cases host with
    | nil =>
        refine iff_of_true (.inl rfl) ?_
        intro c rest htarget
        cases htrims.unique htarget
        exact ⟨by decide, by decide⟩
    | cons first host =>
        rw [or_iff_right (List.cons_ne_nil first host), startsPlain_cons]
        constructor
        · intro hplain c rest htarget
          cases htrims.unique htarget
          exact hplain
        · intro hplain
          exact hplain first _ htrims
  · refine iff_of_true hhost ?_
    intro c rest htarget
    rw [htrims.unique htarget] at hfirst
    exact absurd rfl hfirst

/-- **AN ADDRESS THAT A TARGET NAMED COMES BACK**, unless the target has a bracket or a blank behind
    its opening bracket and no colon in its host. -/
theorem parse_text_of_parse (h : parse target ⟨"localhost", 7687⟩ = .ok a) :
    parse a.text ⟨"localhost", 7687⟩ = .ok a
      ↔ ':' ∈ a.host.toList ∨ ∀ c rest, Trims target.toList ('[' :: c :: rest) →
          c ≠ '[' ∧ isBlank c = false := by
  rw [← readsBack_iff_of_parse h]
  constructor
  · exact readsBack_of_parse_text
  · intro hhost
    rw [parse_text hhost, if_neg (port_ne_zero_of_parse (by decide) h)]

/-- A blank in the middle of a host does no harm, as long as the host starts with none. -/
theorem parse_text_of_parse_blank :
    parse " [a b]:0 " ⟨"localhost", 7687⟩ = .ok ⟨"a b", 7687⟩
      ∧ parse (text ⟨"a b", 7687⟩) ⟨"localhost", 7687⟩ = .ok ⟨"a b", 7687⟩ := by
  have hnamed : parse " [a b]:0 " ⟨"localhost", 7687⟩ = .ok ⟨"a b", 7687⟩ := by
    rfl
  refine ⟨hnamed, (parse_text_of_parse hnamed).mpr (.inr ?_)⟩
  intro c rest htarget
  cases trim_of_trims htarget
  exact ⟨by decide, by decide⟩

/-- A bracket behind the opening one is taken for it when the address is read back. -/
theorem not_forall_parse_text : ¬ ∀ target a, parse target ⟨"localhost", 7687⟩ = .ok a →
    parse a.text ⟨"localhost", 7687⟩ = .ok a := by
  intro h
  have hnamed : parse "[[x]]" ⟨"localhost", 7687⟩ = .ok ⟨"[x]", 7687⟩ := by
    rfl
  have hread : parse (text ⟨"[x]", 7687⟩) ⟨"localhost", 7687⟩ = .ok ⟨"x", 7687⟩ := by
    rfl
  have heq : Address.mk "x" 7687 = ⟨"[x]", 7687⟩ :=
    Except.ok.inj (hread.symm.trans (h "[[x]]" ⟨"[x]", 7687⟩ hnamed))
  exact absurd (congrArg Address.host heq) (by decide)

end GraphLink.Address
