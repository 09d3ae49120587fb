import GraphLink.Text.Blank

/-! # Words and the blanks around them

    A text spaces out words if it consists of them, in their order, and of blanks: any number in
    front, any number behind, and one at least between two.  `Spaced` says so without cutting
    anything up, and the words of a text are the only ones that it spaces out (`words_eq_iff`). -/

namespace GraphLink.Text

variable {cs : List Char} {ws : List (List Char)}

/-- A text of one character or more, none of them blank. -/
structure IsWord (cs : List Char) : Prop where
  ne_nil : cs ≠ []
  isBlank : ∀ c ∈ cs, isBlank c = false

/-- The texts that space out words. -/
inductive Spaced : List Char → List (List Char) → Prop where
  | none : Spaced [] []
  | blank {b : Char} {cs : List Char} {ws : List (List Char)} (hb : isBlank b = true)
      (h : Spaced cs ws) : Spaced (b :: cs) ws
  | last {w : List Char} (hw : IsWord w) : Spaced w [w]
  | next {w cs : List Char} {b : Char} {ws : List (List Char)} (hw : IsWord w)
      (hb : isBlank b = true) (h : Spaced cs ws) : Spaced (w ++ b :: cs) (w :: ws)

/-- The words of a text are those that it spaces out. -/
theorem words_of_spaced (h : Spaced cs ws) : words cs = ws := by
  induction h with
  | none => rfl
  | blank hb _ ih => exact (words_append [] _ hb).trans ih
  | last hw => exact words_of_forall hw.ne_nil hw.isBlank
  | next hw hb _ ih =>
      rw [words_append _ _ hb, words_of_forall hw.ne_nil hw.isBlank, ih]
      rfl

/-- Only words are spaced out. -/
theorem Spaced.isWord (h : Spaced cs ws) : ∀ w ∈ ws, IsWord w := by
  induction h with
  | none => exact List.forall_mem_nil _
  | blank _ _ ih => exact ih
  | last hw => exact List.forall_mem_singleton.mpr hw
  | next hw _ _ ih => exact List.forall_mem_cons.mpr ⟨hw, ih⟩

/-- A word is a first character and others, none of them blank. -/
theorem isWord_cons {c : Char} (hc : isBlank c = false) (h : ∀ d ∈ cs, isBlank d = false) :
    IsWord (c :: cs) :=
  ⟨List.cons_ne_nil c cs, List.forall_mem_cons.mpr ⟨hc, h⟩⟩

/-- A character in front that is not blank begins a word, or becomes the start of the first one. -/
theorem Spaced.exists_cons {c : Char} (hc : isBlank c = false) (h : Spaced cs ws) :
    ∃ ws', Spaced (c :: cs) ws' := by
  have halone : IsWord [c] := isWord_cons hc (List.forall_mem_nil _)
  cases h with
  | none => exact ⟨_, .last halone⟩
  | blank hb h => exact ⟨_, .next halone hb h⟩
  | last hw => exact ⟨_, .last (isWord_cons hc hw.isBlank)⟩
  | next hw hb h => exact ⟨_, .next (isWord_cons hc hw.isBlank) hb h⟩

/-- Every text spaces out some words. -/
theorem exists_spaced (cs : List Char) : ∃ ws, Spaced cs ws := by
  induction cs with
  | nil => exact ⟨[], .none⟩
  | cons c cs ih =>
      obtain ⟨ws, h⟩ := ih
      by_cases hc : isBlank c = true
      · exact ⟨ws, .blank hc h⟩
      · exact h.exists_cons (Bool.not_eq_true _ ▸ hc)

/-- **THE WORDS OF A TEXT** are the words that it spaces out. -/
theorem words_eq_iff : words cs = ws ↔ Spaced cs ws := by
  constructor
  · rintro rfl
    obtain ⟨ws, hspaced⟩ := exists_spaced cs
    rwa [words_of_spaced hspaced]
  · exact words_of_spaced

end GraphLink.Text
