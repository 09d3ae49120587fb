import GraphLink.Proofs.Address.RoundTrip
import GraphLink.Proofs.Address.Targets

/-! # A text is the text of one address

    Not every address is read back from its text, but every text belongs to one address only
    (`text_inj`).  The last colon of an address in writing is the one in front of the port, so the
    text falls into the host in writing and the port; and brackets are written around a host exactly
    if there is a colon in it, so that they can be told from brackets of its own.

    Addresses one after the other are told apart as long as no host has a blank in it
    (`listText_inj`).  The addresses that a list of targets names are of this kind, since no word
    reaches across a blank (`isUnspaced_of_parseTargets`). -/

namespace GraphLink.Address

open GraphLink.Text

variable {a b : Address} {as bs : List Address} {c : Char} {t host port : List Char}
  {d : Defaults} {target : String} {targets : List String}

/-- A host in writing has the characters of the host, and brackets if there is a colon in it. -/
theorem mem_hostText_iff : c ∈ a.hostText
    ↔ c ∈ a.host.toList ∨ ':' ∈ a.host.toList ∧ (c = '[' ∨ c = ']') := by
  rw [hostText]
  by_cases hcolon : ':' ∈ a.host.toList
  · rw [if_pos hcolon, List.mem_cons, List.mem_append, List.mem_singleton, and_iff_right hcolon]
    exact or_left_comm
  · rw [if_neg hcolon]
    exact (or_iff_left (fun h => hcolon h.1)).symm

/-- Writing a host adds no colon to it. -/
theorem colon_mem_hostText_iff : ':' ∈ a.hostText ↔ ':' ∈ a.host.toList := by
  rw [mem_hostText_iff]
  exact or_iff_left_of_imp And.left

/-- A host can be told from its text, brackets of its own included. -/
theorem host_eq_of_hostText_eq (h : a.hostText = b.hostText) : a.host = b.host := by
  have hcolons : ':' ∈ a.host.toList ↔ ':' ∈ b.host.toList := by
    rw [← colon_mem_hostText_iff, h, colon_mem_hostText_iff]
  rw [← String.toList_inj]
  rw [hostText, hostText] at h
  by_cases hcolon : ':' ∈ a.host.toList
  · rw [if_pos hcolon, if_pos (hcolons.mp hcolon)] at h
    exact List.append_cancel_right (List.cons.inj h).2
  · rw [if_neg hcolon, if_neg (fun hb => hcolon (hcolons.mpr hb))] at h
    exact h

/-- Ports are told apart by their digits. -/
theorem portText_inj {m n : UInt16} : portText m = portText n ↔ m = n := by
  constructor
  · intro h
    have hread : readNat 10 (portText m) = some m.toNat := readNat_decimal m.toNat
    rw [h, portText, readNat_decimal] at hread
    exact (UInt16.toNat_inj.mp (Option.some.inj hread)).symm
  · rintro rfl
    rfl

/-- The last colon of an address in writing is the one in front of the port. -/
theorem cutLast_render (a : Address) :
    cutLast ':' a.render = some (a.hostText, portText a.port) :=
  cutLast_eq_some.mpr
    ⟨render_eq a, colon_notMem_of_denotesPort (denotesPort_portText a.port)⟩

/-- Addresses are told apart by their writing. -/
theorem render_injective : Function.Injective render := by
  intro a b h
  have hcut : some (a.hostText, portText a.port) = some (b.hostText, portText b.port) := by
    rw [← cutLast_render, h, cutLast_render]
  obtain ⟨hhost, hport⟩ := Prod.mk.inj (Option.some.inj hcut)
  exact congrArg₂ mk (host_eq_of_hostText_eq hhost) (portText_inj.mp hport)

/-- **ONE TEXT, ONE ADDRESS.** -/
theorem text_inj : a.text = b.text ↔ a = b :=
  String.ofList_inj.trans render_injective.eq_iff

/-- An address whose host has no blank in it. -/
def IsUnspaced (a : Address) : Prop :=
  ∀ c ∈ a.host.toList, isBlank c = false

theorem listText_singleton (a : Address) : listText [a] = a.text := by
  rw [listText, List.map_singleton, String.intercalate_singleton]

/-- Without a blank in the host the whole text is one word. -/
theorem IsUnspaced.isWord_render (h : a.IsUnspaced) : IsWord a.render where
  ne_nil := by
    rw [render_eq]
    exact List.append_ne_nil_of_right_ne_nil _ (List.cons_ne_nil _ _)
  isBlank := by
    intro c hc
    rw [render_eq] at hc
    rcases List.mem_append.mp hc with hhost | hport
    · rcases mem_hostText_iff.mp hhost with hhost | ⟨-, rfl | rfl⟩
      · exact h c hhost
      · decide
      · decide
    · rcases List.mem_cons.mp hport with rfl | hport
      · decide
      · exact forall_mem_portText (p := (isBlank · = false)) (by decide) a.port c hport

/-- **THE WORDS OF A LIST IN WRITING** are its addresses. -/
theorem words_listText (h : ∀ a ∈ as, a.IsUnspaced) :
    words (listText as).toList = as.map render := by
  have hjoin : (listText as).toList = [' '].intercalate ((as.map text).map String.toList) :=
    String.toList_intercalate
  have hwords : words (listText as).toList = targetWords (as.map text) := by
    rw [hjoin, targetWords]
  rw [hwords, targetWords_eq, List.flatMap_map, List.map_eq_flatMap]
  refine List.flatMap_congr (fun a ha => ?_)
  have hword := (h a ha).isWord_render
  rw [text, String.toList_ofList, words_of_forall hword.ne_nil hword.isBlank]

/-- **ONE TEXT, ONE LIST**, where no host has a blank in it. -/
theorem listText_inj (has : ∀ a ∈ as, a.IsUnspaced) (hbs : ∀ b ∈ bs, b.IsUnspaced) :
    listText as = listText bs ↔ as = bs := by
  constructor
  · intro h
    have hwords : as.map render = bs.map render := by
      rw [← words_listText has, h, words_listText hbs]
    exact List.map_injective_iff.mpr render_injective hwords
  · rintro rfl
    rfl

/-- Blanks in a host can make one address look like two. -/
example : listText [⟨"::1]:1 [::2", 2⟩] = listText [⟨"::1", 1⟩, ⟨"::2", 2⟩] := by
  rfl

/-- The host is a part of the target. -/
theorem Parts.mem_of_mem_host (h : Parts t host port) (hc : c ∈ host) : c ∈ t := by
  cases h with
  | bracketed => exact List.mem_cons_of_mem _ (List.mem_append_left _ hc)
  | bare => exact hc
  | withPort => exact List.mem_append_left _ hc

/-- A target without blanks names an address without blanks, as the default host is one. -/
theorem isUnspaced_of_parse (hdefault : ∀ c ∈ d.host.toList, isBlank c = false)
    (htarget : ∀ c ∈ target.toList, isBlank c = false) (h : parse target d = .ok a) :
    a.IsUnspaced := by
  obtain ⟨t, host, port, n, htrims, hparts, -, -, rfl⟩ := parse_eq_ok_iff.mp h
  intro c hc
  by_cases hne : host = []
  · rw [named, if_pos hne] at hc
    exact hdefault c hc
  · rw [host_named_of_ne_nil hne] at hc
    obtain ⟨before, after, htext, -, -⟩ := htrims.around
    refine htarget c ?_
    rw [htext]
    exact List.mem_append_left _ (List.mem_append_right _ (hparts.mem_of_mem_host hc))

theorem isBlank_of_mem_defaultHost : ∀ c ∈ defaultHost.toList, isBlank c = false := by
  have hplain : ∀ c ∈ defaultHost.toList, (!isBlank c) = true := List.all_eq_true.mp (by decide)
  intro c hc
  exact Bool.not_eq_true' _ ▸ hplain c hc

/-- The standard targets stand in for a list without words. -/
theorem parseTargets_of_parseList (h : parseList targets = .ok as) :
    parseTargets targets = if as.isEmpty then parseList [standardTargets] else .ok as := by
  rw [parseTargets, h]
  rfl

/-- What is read is a list of targets in any case, if only the standard one. -/
theorem exists_parseList_of_parseTargets (h : parseTargets targets = .ok as) :
    ∃ read, parseList read = .ok as := by
  cases hlist : parseList targets with
  | error fault =>
      rw [parseTargets, hlist] at h
      cases h
  | ok named =>
      rw [parseTargets_of_parseList hlist] at h
      split at h
      · exact ⟨[standardTargets], h⟩
      · exact ⟨targets, hlist.trans h⟩

/-- **NO BLANK IN WHAT A LIST OF TARGETS NAMES.** -/
theorem isUnspaced_of_parseTargets (h : parseTargets targets = .ok as) :
    ∀ a ∈ as, a.IsUnspaced := by
  obtain ⟨read, hread⟩ := exists_parseList_of_parseTargets h
  intro a ha
  obtain ⟨w, hw, hparse⟩ := exists_word_of_parseList hread a ha
  refine isUnspaced_of_parse isBlank_of_mem_defaultHost ?_ hparse
  rw [String.toList_ofList]
  exact hw.isBlank

end GraphLink.Address
