import GraphLink.Proofs.Config.Driver
import GraphLink.Proofs.Config.Workspace
import Mathlib.Data.List.Forall2

/-! # Rules for values

    A setting is a key and a rule for the values it may have.  The rules are stated here on their
    own (`Rule.Admits`), apart from the readers that convert values, and a layer follows a list of
    settings if its fields have their keys, expect what they expect, and admit what they admit
    (`Layer.Follows`).

    A layer that follows settings finds the first of them that a bag does not meet, and names it
    (`Layer.fault?_of_firstUnmet`, `Layer.fault?_of_met`). -/

namespace GraphLink

/-- What a setting asks of its value. -/
inductive Rule where
  | seconds
  | flag
  | size
  | text
  | texts
  | number
  | integer
  | textOrNull
  /-- The name of an access mode. -/
  | mode
  deriving DecidableEq, Repr

namespace Rule

variable {α : Type}

/-- The values that a rule admits. -/
inductive Admits : Rule → Value → Prop where
  | wholeSeconds {i : Int64} (h : 0 ≤ i.toInt) : Admits .seconds (.int i)
  | seconds {x : Binary64} (h : (Duration.ofSeconds x).isSome = true) : Admits .seconds (.float x)
  | flag {b : Bool} : Admits .flag (.bool b)
  | size {i : Int64} (h : 0 ≤ i.toInt) : Admits .size (.int i)
  | text {s : String} : Admits .text (.string s)
  | oneText {s : String} : Admits .texts (.string s)
  | texts {items : List Value} (h : ∀ item ∈ items, ∃ s, item = .string s) :
      Admits .texts (.list items)
  | wholeNumber {i : Int64} : Admits .number (.int i)
  | number {x : Binary64} : Admits .number (.float x)
  | integer {i : Int64} : Admits .integer (.int i)
  | someText {s : String} : Admits .textOrNull (.string s)
  | noText : Admits .textOrNull .null
  | mode {s : String} {m : AccessMode} (h : AccessMode.ofName? s = some m) :
      Admits .mode (.string s)

/-- What a rule asks for, in words. -/
def expected : Rule → Value → String
  | .seconds, _ => "a non-negative number of seconds"
  | .flag, _ => "a boolean"
  | .size, _ => "a non-negative integer"
  | .text, _ => "a string"
  | .texts, _ => "a list of strings"
  | .number, _ => "a number"
  | .integer, _ => "an integer"
  | .textOrNull, _ => "a string or null"
  | .mode, .string _ => "READ or WRITE"
  | .mode, _ => "a string"

-- ── Rules and readers ──────────────────────────────────────────────

/-- Whether a reader converts the values that a rule admits, and no others. -/
def IsReadBy (r : Rule) (convert : Value → Option α) : Prop :=
  ∀ v, r.Admits v ↔ (convert v).isSome = true

/-- Seconds are read where they make a duration. -/
theorem seconds_isReadBy : seconds.IsReadBy Value.asDuration := by
  intro v
  constructor
  · intro h
    cases h with
    | wholeSeconds hi => exact Value.isSome_asDuration_int hi
    | seconds hx => exact hx
  · intro h
    cases v with
    | int i =>
        by_cases hi : 0 ≤ i.toInt
        · exact .wholeSeconds hi
        · rw [Value.asDuration, if_neg hi] at h
          cases h
    | float x => exact .seconds h
    | _ => cases h

/-- A flag is read from a boolean. -/
theorem flag_isReadBy : flag.IsReadBy Value.asBool := by
  intro v
  constructor
  · rintro ⟨⟩
    rfl
  · intro h
    cases v with
    | bool b => exact .flag
    | _ => cases h

/-- A size is read from an integer that is not negative. -/
theorem size_isReadBy : size.IsReadBy Value.asSize := by
  intro v
  constructor
  · rintro ⟨⟩
    rename_i i hi
    simp [Value.asSize, Value.asInt, hi]
  · intro h
    cases v with
    | int i => exact .size (by simpa [Value.asSize, Value.asInt] using h)
    | _ => cases h

/-- A text is read from a string. -/
theorem text_isReadBy : text.IsReadBy Value.asString := by
  intro v
  constructor
  · rintro ⟨⟩
    rfl
  · intro h
    cases v with
    | string s => exact .text
    | _ => cases h

/-- A list of texts can be read item by item, and no other list can. -/
theorem isSome_mapM_asString {items : List Value} :
    (items.mapM Value.asString).isSome = true ↔ ∀ item ∈ items, ∃ s, item = .string s := by
  induction items with
  | nil => exact iff_of_true rfl (List.forall_mem_nil _)
  | cons item rest ih =>
      rw [List.mapM_cons, List.forall_mem_cons, ← ih]
      cases item with
      | string s =>
          rw [and_iff_right ⟨s, rfl⟩]
          cases rest.mapM Value.asString <;> exact Iff.rfl
      | _ =>
          refine iff_of_false Bool.false_ne_true ?_
          rintro ⟨⟨s, hs⟩, -⟩
          cases hs

/-- Texts are read from a string or a list of strings. -/
theorem texts_isReadBy : texts.IsReadBy Field.readStrings := by
  intro v
  constructor
  · rintro ⟨⟩
    · rfl
    · rename_i items hitems
      exact isSome_mapM_asString.mpr hitems
  · intro h
    cases v with
    | string s => exact .oneText
    | list items => exact .texts (isSome_mapM_asString.mp h)
    | _ => cases h

/-- A number is read from an integer or a floating-point number. -/
theorem number_isReadBy : number.IsReadBy Value.asFloat := by
  intro v
  constructor
  · rintro ⟨⟩ <;> rfl
  · intro h
    cases v with
    | int i => exact .wholeNumber
    | float x => exact .number
    | _ => cases h

/-- An integer is read from an integer. -/
theorem integer_isReadBy : integer.IsReadBy Value.asInt := by
  intro v
  constructor
  · rintro ⟨⟩
    rfl
  · intro h
    cases v with
    | int i => exact .integer
    | _ => cases h

/-- A text that may be missing is read from a string or null. -/
theorem textOrNull_isReadBy : textOrNull.IsReadBy Value.asOptionalString := by
  intro v
  constructor
  · rintro ⟨⟩ <;> rfl
  · intro h
    cases v with
    | null => exact .noText
    | string s => exact .someText
    | _ => cases h

end Rule

-- ── Settings ───────────────────────────────────────────────────────

/-- A key and a rule for its values. -/
structure Setting where
  key : String
  rule : Rule
  deriving DecidableEq, Repr

/-- Whether a bag has an admissible value for a setting, or none. -/
def Setting.IsMetBy (s : Setting) (o : Options) : Prop :=
  ∀ v, o.get? s.key = some v → s.rule.Admits v

/-- The first of several settings that a bag does not meet, and the value that it has for it. -/
inductive FirstUnmet (o : Options) : List Setting → Setting → Value → Prop where
  | here {s : Setting} {rest : List Setting} {v : Value} (hvalue : o.get? s.key = some v)
      (hrule : ¬ s.rule.Admits v) : FirstUnmet o (s :: rest) s v
  | later {s t : Setting} {rest : List Setting} {v : Value} (hmet : s.IsMetBy o)
      (h : FirstUnmet o rest t v) : FirstUnmet o (s :: rest) t v

/-- A bag meets all settings, or there is a first that it does not meet. -/
theorem exists_firstUnmet_or_met (o : Options) (settings : List Setting) :
    (∃ s v, FirstUnmet o settings s v) ∨ ∀ s ∈ settings, s.IsMetBy o := by
  induction settings with
  | nil => exact .inr (List.forall_mem_nil _)
  | cons t rest ih =>
      by_cases ht : t.IsMetBy o
      · rcases ih with ⟨s, v, hrest⟩ | hrest
        · exact .inl ⟨s, v, .later ht hrest⟩
        · exact .inr (List.forall_mem_cons.mpr ⟨ht, hrest⟩)
      · obtain ⟨v, hv⟩ := not_forall.mp ht
        obtain ⟨hvalue, hrule⟩ := Classical.not_imp.mp hv
        exact .inl ⟨t, v, .here hvalue hrule⟩

/-- Of two lists of settings, the second one counts if the first is met. -/
theorem FirstUnmet.of_append {o : Options} {xs ys : List Setting} {s : Setting} {v : Value}
    (h : FirstUnmet o (xs ++ ys) s v) :
    FirstUnmet o xs s v ∨ (∀ t ∈ xs, t.IsMetBy o) ∧ FirstUnmet o ys s v := by
  induction xs with
  | nil => exact .inr ⟨List.forall_mem_nil _, h⟩
  | cons t rest ih =>
      cases h with
      | here hvalue hrule => exact .inl (.here hvalue hrule)
      | later ht hrest =>
          rcases ih hrest with hfirst | ⟨hmet, hsecond⟩
          · exact .inl (.later ht hfirst)
          · exact .inr ⟨List.forall_mem_cons.mpr ⟨ht, hmet⟩, hsecond⟩

-- ── Fields and layers that follow settings ─────────────────────────

namespace Field

variable {σ α : Type} {f : Field σ} {s : Setting} {o : Options} {v : Value}

/-- Whether a field is the field of a setting. -/
structure Follows (f : Field σ) (s : Setting) : Prop where
  key : f.key = s.key
  expected : f.expected = s.rule.expected
  admits : ∀ v, f.admits v = true ↔ s.rule.Admits v

/-- A field follows a setting if its reader reads what the rule admits. -/
theorem follows_of {rule : Rule} {key expected : String} {convert : Value → Option α}
    {set : α → σ → σ} (hread : rule.IsReadBy convert)
    (hexpected : rule.expected = fun _ => expected) :
    (of key expected convert set).Follows ⟨key, rule⟩ where
  key := rfl
  expected := hexpected.symm
  admits := by
    intro v
    rw [admits, of, Option.isSome_map]
    exact (hread v).symm

/-- A field follows a setting wherever it stands. -/
theorem Follows.within {τ : Type} (h : f.Follows s) (modify : (σ → σ) → τ → τ) :
    (f.within modify).Follows s where
  key := h.key
  expected := h.expected
  admits := by
    intro v
    show ((f.read v).map modify).isSome = true ↔ s.rule.Admits v
    rw [Option.isSome_map]
    exact h.admits v

/-- A setting that is met is no fault of its field. -/
theorem fault?_of_met (h : f.Follows s) (hmet : s.IsMetBy o) : f.fault? o = none := by
  cases hvalue : o.get? f.key with
  | none => exact fault?_of_absent hvalue
  | some v =>
      have hadmits : f.admits v = true := by
        rw [h.key] at hvalue
        exact (h.admits v).mpr (hmet v hvalue)
      rw [fault?, hvalue, Option.bind_some, if_pos hadmits]

/-- A setting that is not met is the fault of its field, with the value that was found. -/
theorem fault?_of_unmet (h : f.Follows s) (hvalue : o.get? s.key = some v)
    (hrule : ¬ s.rule.Admits v) :
    f.fault? o = some (.inadmissible s.key (s.rule.expected v) v) := by
  have hadmits : ¬ f.admits v = true := fun htrue => hrule ((h.admits v).mp htrue)
  rw [fault?, h.key, hvalue, Option.bind_some, if_neg hadmits, h.expected]

end Field

namespace Layer

variable {σ : Type} {l : Layer σ} {settings : List Setting} {o : Options} {s : Setting} {v : Value}

/-- Whether the fields of a layer are the fields of some settings, in the same order. -/
def Follows (l : Layer σ) (settings : List Setting) : Prop :=
  List.Forall₂ Field.Follows l.fields settings

/-- A layer has the keys of the settings that it follows. -/
theorem keys_of_follows (h : l.Follows settings) : l.keys = settings.map Setting.key := by
  rw [Follows] at h
  rw [keys]
  generalize l.fields = fields at h
  induction h with
  | nil => rfl
  | cons hf _ ih => rw [List.map_cons, List.map_cons, hf.key, ih]

/-- **WHAT IS MET IS NO FAULT.** -/
theorem fault?_of_met (h : l.Follows settings) (hmet : ∀ s ∈ settings, s.IsMetBy o) :
    l.fault? o = none := by
  rw [Follows] at h
  rw [fault?]
  generalize l.fields = fields at h
  induction h with
  | nil => rfl
  | cons hf _ ih =>
      obtain ⟨hfirst, hrest⟩ := List.forall_mem_cons.mp hmet
      rw [List.findSome?_cons, Field.fault?_of_met hf hfirst]
      exact ih hrest

/-- **THE FIRST SETTING THAT IS NOT MET IS NAMED**, with what it expects and what it was given. -/
theorem fault?_of_firstUnmet (h : l.Follows settings) (hfirst : FirstUnmet o settings s v) :
    l.fault? o = some (.inadmissible s.key (s.rule.expected v) v) := by
  rw [Follows] at h
  rw [fault?]
  generalize l.fields = fields at h
  -- Fields and settings are gone through side by side, as far as the settings are met.
  induction hfirst generalizing fields with
  | here hvalue hrule =>
      cases h with
      | cons hf _ => rw [List.findSome?_cons, Field.fault?_of_unmet hf hvalue hrule]
  | later hmet _ ih =>
      cases h with
      | cons hf hrest =>
          rw [List.findSome?_cons, Field.fault?_of_met hf hmet]
          exact ih _ hrest

end Layer
end GraphLink
