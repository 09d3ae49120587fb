import GraphLink.Text.Cut

/-! # Blank characters — trimming and words

    A character is blank when it has the Unicode property White_Space: twenty-five code points in
    ten ranges.  Two things are done with them: a text is trimmed at both ends (`trim`), and a
    text is cut into its words (`words`).

    `words` is "split at every blank, keep what is not empty", so it sees only the sequence of
    non-blank runs: joining two texts with a blank between them joins their words
    (`words_append`). -/

namespace GraphLink.Text

/-- The characters with the property White_Space. -/
def isBlank (c : Char) : Bool :=
  let n := c.toNat
  (0x9 ≤ n && n ≤ 0xD) || n == 0x20 || n == 0x85 || n == 0xA0 || n == 0x1680
    || (0x2000 ≤ n && n ≤ 0x200A) || n == 0x2028 || n == 0x2029 || n == 0x202F
    || n == 0x205F || n == 0x3000

/-- Drops the blanks at the front. -/
def trimStart (cs : List Char) : List Char :=
  cs.dropWhile isBlank

/-- Drops the blanks at the end. -/
def trimEnd (cs : List Char) : List Char :=
  (cs.reverse.dropWhile isBlank).reverse

/-- Drops the blanks at both ends. -/
def trim (cs : List Char) : List Char :=
  trimEnd (trimStart cs)

@[simp] theorem trim_nil : trim [] = [] := rfl

/-- A text without a blank has nothing to trim. -/
theorem trim_of_forall {cs : List Char} (h : ∀ c ∈ cs, isBlank c = false) : trim cs = cs := by
  have hreverse : ∀ c ∈ cs.reverse, isBlank c = false := fun c hc => h c (List.mem_reverse.mp hc)
  rw [trim, trimStart, dropWhile_of_forall h, trimEnd, dropWhile_of_forall hreverse,
    List.reverse_reverse]

/-- The maximal runs of characters that are not blank, in order. -/
def words (cs : List Char) : List (List Char) :=
  (cs.splitOnP isBlank).filter (fun w => !w.isEmpty)

@[simp] theorem words_nil : words [] = [] := rfl

/-- A text without a blank is one word. -/
theorem words_of_forall {cs : List Char} (hne : cs ≠ []) (h : ∀ c ∈ cs, isBlank c = false) :
    words cs = [cs] := by
  rw [words, List.splitOnP_eq_singleton h]
  simpa using hne

/-- **A BLANK SEPARATES**: words never join across a blank. -/
theorem words_append (xs ys : List Char) {b : Char} (hb : isBlank b = true) :
    words (xs ++ b :: ys) = words xs ++ words ys := by
  have split : (xs ++ b :: ys).splitOnP isBlank = xs.splitOnP isBlank ++ ys.splitOnP isBlank := by
    induction xs with
    | nil => simp [List.splitOnP_cons_eq_if_modifyHead, hb]
    | cons x xs ih =>
        rw [List.cons_append, List.splitOnP_cons_eq_if_modifyHead, ih,
          List.splitOnP_cons_eq_if_modifyHead]
        by_cases hx : isBlank x = true
        · simp [hx]
        · simp only [hx, if_false, Bool.false_eq_true]
          cases h : xs.splitOnP isBlank with
          | nil => exact absurd h (List.splitOnP_ne_nil isBlank xs)
          | cons w ws => simp
  simp [words, split]

end GraphLink.Text
