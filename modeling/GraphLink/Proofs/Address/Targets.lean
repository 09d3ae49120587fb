import GraphLink.Address.Target
import GraphLink.Proofs.Text.Words
import Mathlib.Data.List.Forall2

/-! # Lists of targets are lists of words

    The targets of a list are joined with blanks and cut into words again, so what becomes of them
    depends on their words alone (`targetWords_eq`).  Where one target ends and the next begins
    makes no difference, nor does which blanks there are, nor how many.

    The words are read one by one, and the first fault ends the reading (`mapM_eq_ok_iff`,
    `mapM_eq_error_iff`).  So a list that is put together of two is read as the two are, one after
    the other. -/

namespace GraphLink.Address

variable {α β ε : Type} {f : α → Except ε β} {x : α} {xs : List α} {y : β} {ys : List β} {e : ε}
  {targets : List String} {ws : List (List Char)} {d : Defaults}

/-- Joining the targets and cutting them again finds the words of each. -/
theorem targetWords_eq (targets : List String) :
    targetWords targets = targets.flatMap (fun t => Text.words t.toList) := by
  rw [targetWords]
  induction targets with
  | nil => rfl
  | cons t rest ih =>
      cases rest with
      | nil =>
          rw [List.map_cons, List.map_nil, List.intercalate_singleton, List.flatMap_cons,
            List.flatMap_nil, List.append_nil]
      | cons u rest =>
          have hjoin : [' '].intercalate ((t :: u :: rest).map String.toList)
              = t.toList ++ ' ' :: [' '].intercalate ((u :: rest).map String.toList) := by
            rw [List.map_cons, List.map_cons, List.intercalate_cons_cons, List.append_assoc]
            rfl
          rw [hjoin, Text.words_append _ _ (by decide), ih]
          rfl

/-- The words of two lists are those of the first and then those of the second. -/
theorem targetWords_append (xs ys : List String) :
    targetWords (xs ++ ys) = targetWords xs ++ targetWords ys := by
  rw [targetWords_eq, targetWords_eq, targetWords_eq, List.flatMap_append]

/-- The words of targets, in their order: each target spaces out its own. -/
inductive WordsOf : List String → List (List Char) → Prop where
  | nil : WordsOf [] []
  | cons {t : String} {targets : List String} {ws vs : List (List Char)}
      (ht : Text.Spaced t.toList ws) (h : WordsOf targets vs) : WordsOf (t :: targets) (ws ++ vs)

/-- Whatever is described as the words of targets is what is read. -/
theorem targetWords_of_wordsOf (h : WordsOf targets ws) : targetWords targets = ws := by
  rw [targetWords_eq]
  induction h with
  | nil => rfl
  | cons ht _ ih => rw [List.flatMap_cons, ih, Text.words_of_spaced ht]

/-- All targets have words, if only none. -/
theorem exists_wordsOf (targets : List String) : ∃ ws, WordsOf targets ws := by
  induction targets with
  | nil => exact ⟨[], .nil⟩
  | cons t targets ih =>
      obtain ⟨vs, hvs⟩ := ih
      obtain ⟨ws, hws⟩ := Text.exists_spaced t.toList
      exact ⟨ws ++ vs, .cons hws hvs⟩

/-- A fault ends the reading. -/
theorem mapM_cons_of_error (h : f x = .error e) (xs : List α) : (x :: xs).mapM f = .error e := by
  rw [List.mapM_cons, h]
  rfl

/-- Without a fault the reading goes on, and the result comes in front. -/
theorem mapM_cons_of_ok (h : f x = .ok y) (xs : List α) :
    (x :: xs).mapM f = (xs.mapM f).map (y :: ·) := by
  rw [List.mapM_cons, h]
  cases xs.mapM f <;> rfl

/-- All is read if each is, and then the results are in the order of what was read. -/
theorem mapM_eq_ok_iff : xs.mapM f = .ok ys ↔ List.Forall₂ (fun x y => f x = .ok y) xs ys := by
  induction xs generalizing ys with
  | nil =>
      rw [List.forall₂_nil_left_iff]
      exact ⟨fun h => (Except.ok.inj h).symm, fun h => h ▸ rfl⟩
  | cons x xs ih =>
      rw [List.forall₂_cons_left_iff]
      cases hx : f x with
      | error e =>
          rw [mapM_cons_of_error hx]
          refine iff_of_false (fun h => ?_) ?_
          · cases h
          · rintro ⟨y, ys, hy, -⟩
            cases hy
      | ok y =>
          rw [mapM_cons_of_ok hx]
          constructor
          · intro h
            cases hxs : xs.mapM f with
            | error e =>
                rw [hxs] at h
                cases h
            | ok ys =>
                rw [hxs] at h
                exact ⟨y, ys, rfl, ih.mp hxs, (Except.ok.inj h).symm⟩
          · rintro ⟨y, ys, hy, hys, rfl⟩
            cases hy
            rw [ih.mpr hys]
            rfl

/-- What is on the right of a pairing has something on the left. -/
theorem exists_of_forall₂ {r : α → β → Prop} (h : List.Forall₂ r xs ys) :
    ∀ y ∈ ys, ∃ x ∈ xs, r x y := by
  induction h with
  | nil => exact List.forall_mem_nil _
  | cons hxy _ ih =>
      refine List.forall_mem_cons.mpr ⟨⟨_, List.mem_cons_self, hxy⟩, ?_⟩
      intro y hy
      obtain ⟨x, hmem, hxy⟩ := ih y hy
      exact ⟨x, List.mem_cons_of_mem _ hmem, hxy⟩

/-- The first fault is the fault of all. -/
theorem mapM_eq_error_iff : xs.mapM f = .error e ↔ ∃ before x after,
    xs = before ++ x :: after ∧ (∀ b ∈ before, ∃ y, f b = .ok y) ∧ f x = .error e := by
  constructor
  · intro h
    induction xs with
    | nil => cases h
    | cons x xs ih =>
        cases hx : f x with
        | error e' =>
            rw [mapM_cons_of_error hx] at h
            cases h
            exact ⟨[], x, xs, rfl, List.forall_mem_nil _, hx⟩
        | ok y =>
            rw [mapM_cons_of_ok hx] at h
            -- What has been read does not hide a fault behind it.
            have hxs : xs.mapM f = .error e := by
              cases hrest : xs.mapM f with
              | error e' =>
                  rw [hrest] at h
                  exact h
              | ok ys =>
                  rw [hrest] at h
                  cases h
            obtain ⟨before, z, after, rfl, hbefore, hz⟩ := ih hxs
            exact ⟨x :: before, z, after, rfl, List.forall_mem_cons.mpr ⟨⟨y, hx⟩, hbefore⟩, hz⟩
  · rintro ⟨before, x, after, rfl, hbefore, hx⟩
    induction before with
    | nil => exact mapM_cons_of_error hx after
    | cons b before ih =>
        obtain ⟨⟨y, hb⟩, hbefore⟩ := List.forall_mem_cons.mp hbefore
        rw [List.cons_append, mapM_cons_of_ok hb, ih hbefore]
        rfl

/-- Every address of a list is named by a word. -/
theorem exists_word_of_parseList {addresses : List Address}
    (h : parseList targets d = .ok addresses) :
    ∀ a ∈ addresses, ∃ w, Text.IsWord w ∧ parse (String.ofList w) d = .ok a := by
  intro a ha
  obtain ⟨w, hw, hparse⟩ := exists_of_forall₂ (mapM_eq_ok_iff.mp h) a ha
  have hspaced := Text.words_eq_iff.mp (rfl : _ = targetWords targets)
  exact ⟨w, hspaced.isWord w hw, hparse⟩

/-- Only the words of the targets matter. -/
theorem parseList_of_wordsOf (h : WordsOf targets ws) (d : Defaults) :
    parseList targets d = ws.mapM (fun w => parse (String.ofList w) d) := by
  rw [parseList, targetWords_of_wordsOf h]

/-- Two lists are read one after the other, and the first fault of both is reported. -/
theorem parseList_append (xs ys : List String) (d : Defaults) :
    parseList (xs ++ ys) d = match parseList xs d, parseList ys d with
      | .ok as, .ok bs => .ok (as ++ bs)
      | .error fault, _ => .error fault
      | .ok _, .error fault => .error fault := by
  rw [parseList, targetWords_append, List.mapM_append]
  show (parseList xs d).bind (fun as => (parseList ys d).bind (fun bs => .ok (as ++ bs))) = _
  cases parseList xs d with
  | error fault => rfl
  | ok as => cases parseList ys d <;> rfl

/-- **A LIST OF TARGETS IS READ WORD BY WORD.**  Every list of targets has words, those that its
    targets space out, and nothing else counts: it is read as its words are, one by one and in their
    order.  If each names an address, these are the addresses; otherwise the first that does not is
    at fault.  So two lists, one behind the other, are read one after the other, and lists that
    space out the same words are read alike, whatever blanks there are and however the words are
    grouped. -/
theorem parseList_by_words (d : Defaults) :
    (∀ targets, ∃ ws, WordsOf targets ws)
      ∧ (∀ targets ws, WordsOf targets ws →
          (∀ addresses, parseList targets d = .ok addresses
              ↔ List.Forall₂ (fun w a => parse (String.ofList w) d = .ok a) ws addresses)
            ∧ ∀ fault, parseList targets d = .error fault
              ↔ ∃ before w after, ws = before ++ w :: after
                ∧ (∀ v ∈ before, ∃ a, parse (String.ofList v) d = .ok a)
                ∧ parse (String.ofList w) d = .error fault)
      ∧ (∀ xs ys, parseList (xs ++ ys) d = match parseList xs d, parseList ys d with
          | .ok as, .ok bs => .ok (as ++ bs)
          | .error fault, _ => .error fault
          | .ok _, .error fault => .error fault)
      ∧ ∀ xs ys ws, WordsOf xs ws → WordsOf ys ws → parseList xs d = parseList ys d := by
  refine ⟨exists_wordsOf, ?_, fun xs ys => parseList_append xs ys d, ?_⟩
  · intro targets ws h
    rw [parseList_of_wordsOf h]
    exact ⟨fun addresses => mapM_eq_ok_iff, fun fault => mapM_eq_error_iff⟩
  · intro xs ys ws hxs hys
    rw [parseList_of_wordsOf hxs, parseList_of_wordsOf hys]

/-- A wide blank separates too, a blank target adds nothing, and targets do not run together. -/
example : parseList ["b:1\u3000a", " \t", ":2"]
    = .ok [⟨"b", 1⟩, ⟨"a", 7687⟩, ⟨"localhost", 2⟩] := by
  rfl

end GraphLink.Address
