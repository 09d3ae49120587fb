/-! # Cutting a text at a character

    `cutFirst` cuts at the first occurrence of a character and `cutLast` at the last one; both
    drop the character itself and both answer `none` when it does not occur.  Each is pinned down
    by the two facts that matter to a reader: what a cut puts back together, and where it falls. -/

namespace GraphLink.Text

/-- The parts before and after the first `c`. -/
def cutFirst (c : Char) : List Char → Option (List Char × List Char)
  | [] => none
  | d :: rest =>
      if d = c then some ([], rest)
      else (cutFirst c rest).map (fun p => (d :: p.1, p.2))

/-- The parts before and after the last `c`. -/
def cutLast (c : Char) : List Char → Option (List Char × List Char)
  | [] => none
  | d :: rest =>
      match cutLast c rest with
      | some (before, after) => some (d :: before, after)
      | none => if d = c then some ([], rest) else none

/-- There is no first cut exactly where the character does not occur. -/
theorem cutFirst_eq_none {c : Char} : ∀ {cs : List Char}, cutFirst c cs = none ↔ c ∉ cs
  | [] => by simp [cutFirst]
  | d :: rest => by
      by_cases h : d = c
      · simp [cutFirst, h]
      · simp [cutFirst, h, @cutFirst_eq_none c rest, Ne.symm h]

/-- **WHERE THE FIRST CUT FALLS**: behind a part that does not hold the character. -/
theorem cutFirst_eq_some {c : Char} :
    ∀ {cs before after : List Char},
      cutFirst c cs = some (before, after) ↔ cs = before ++ c :: after ∧ c ∉ before
  | [], before, after => by simp [cutFirst]
  | d :: rest, before, after => by
      by_cases h : d = c
      · subst h
        cases before with
        | nil => simp [cutFirst]
        | cons e before => simp [cutFirst]; intro he; simp [he]
      · cases before with
        | nil => simp [cutFirst, h]
        | cons e before =>
            simp only [cutFirst, h, if_false, Option.map_eq_some_iff, Prod.exists]
            constructor
            · rintro ⟨x, y, hxy, heq⟩
              cases heq
              obtain ⟨rfl, hx⟩ := cutFirst_eq_some.mp hxy
              simp [Ne.symm h, hx]
            · rintro ⟨heq, hmem⟩
              simp only [List.cons_append, List.cons.injEq] at heq
              simp only [List.mem_cons, not_or] at hmem
              exact ⟨before, after, cutFirst_eq_some.mpr ⟨heq.2, hmem.2⟩, by simp [heq.1]⟩

/-- There is no last cut exactly where the character does not occur. -/
theorem cutLast_eq_none {c : Char} : ∀ {cs : List Char}, cutLast c cs = none ↔ c ∉ cs
  | [] => by simp [cutLast]
  | d :: rest => by
      have ih := @cutLast_eq_none c rest
      cases h : cutLast c rest with
      | some p => simp [cutLast, h] at ih ⊢; simp [ih]
      | none =>
          by_cases hd : d = c
          · simp [cutLast, h, hd]
          · simp [cutLast, h, hd, ih.mp h, Ne.symm hd]

/-- **WHERE THE LAST CUT FALLS**: in front of a part that does not hold the character. -/
theorem cutLast_eq_some {c : Char} :
    ∀ {cs before after : List Char},
      cutLast c cs = some (before, after) ↔ cs = before ++ c :: after ∧ c ∉ after
  | [], before, after => by simp [cutLast]
  | d :: rest, before, after => by
      have ih := fun b a => @cutLast_eq_some c rest b a
      cases h : cutLast c rest with
      | some p =>
          obtain ⟨b, a⟩ := p
          obtain ⟨rfl, ha⟩ := (ih b a).mp h
          simp only [cutLast, h, Option.some.injEq, Prod.mk.injEq]
          constructor
          · rintro ⟨rfl, rfl⟩; exact ⟨rfl, ha⟩
          · rintro ⟨heq, hafter⟩
            -- Were nothing in front, the character would be behind the cut.
            cases before with
            | nil =>
                simp only [List.nil_append, List.cons.injEq] at heq
                exact absurd (heq.2 ▸ by simp) hafter
            | cons e before =>
                simp only [List.cons_append, List.cons.injEq] at heq
                have := (ih before after).mpr ⟨heq.2, hafter⟩
                rw [h] at this
                simp only [Option.some.injEq, Prod.mk.injEq] at this
                exact ⟨by rw [heq.1, this.1], this.2⟩
      | none =>
          -- The character is not in the rest, so a cut can only be right here.
          have hrest : c ∉ rest := cutLast_eq_none.mp h
          simp only [cutLast, h]
          by_cases hd : d = c
          · subst hd
            simp only [if_true, Option.some.injEq, Prod.mk.injEq]
            constructor
            · rintro ⟨rfl, rfl⟩; exact ⟨rfl, hrest⟩
            · rintro ⟨heq, _⟩
              cases before with
              | nil => simpa using heq
              | cons e before =>
                  simp only [List.cons_append, List.cons.injEq] at heq
                  exact absurd (heq.2 ▸ by simp) hrest
          · simp only [hd, if_false, reduceCtorEq, false_iff, not_and]
            intro heq
            cases before with
            | nil => simp at heq; exact absurd heq.1 hd
            | cons e before =>
                simp only [List.cons_append, List.cons.injEq] at heq
                exact absurd (heq.2 ▸ by simp) hrest

/-- A character that is known to occur: what stands before it does not say where the last one is. -/
theorem cutLast_append_cons (c : Char) (xs ys : List Char) :
    cutLast c (xs ++ c :: ys)
      = some (((cutLast c ys).map (fun p => (xs ++ c :: p.1, p.2))).getD (xs, ys)) := by
  rw [cutLast_eq_some]
  cases h : cutLast c ys with
  | none => exact ⟨rfl, cutLast_eq_none.mp h⟩
  | some p =>
      obtain ⟨hys, hmem⟩ := cutLast_eq_some.mp h
      refine ⟨?_, hmem⟩
      show xs ++ c :: ys = (xs ++ c :: p.1) ++ c :: p.2
      rw [List.append_assoc, List.cons_append, ← hys]

/-- Nothing is dropped if the first character is not to be dropped. -/
theorem dropWhile_of_head? {p : Char → Bool} {cs : List Char}
    (h : ∀ c, cs.head? = some c → p c = false) : cs.dropWhile p = cs := by
  cases cs with
  | nil => rfl
  | cons c rest =>
      rw [List.dropWhile_cons, h c rfl]
      rfl

/-- Nothing is dropped if no character is to be dropped. -/
theorem dropWhile_of_forall {p : Char → Bool} {cs : List Char} (h : ∀ c ∈ cs, p c = false) :
    cs.dropWhile p = cs :=
  dropWhile_of_head? (fun c hc => h c (List.mem_of_head? hc))

/-- A run at the front stops at a character that does not belong to it. -/
theorem dropWhile_append_cons {p : Char → Bool} {c : Char} (h : p c = false) (xs ys : List Char) :
    (xs ++ c :: ys).dropWhile p = xs.dropWhile p ++ c :: ys := by
  induction xs with
  | nil => simp [h]
  | cons x xs ih =>
      rw [List.cons_append, List.dropWhile_cons, List.dropWhile_cons, ih]
      split
      · rfl
      · rfl

/-- What stands behind a character that is not to be taken makes no difference. -/
theorem takeWhile_append_cons {p : Char → Bool} {c : Char} (h : p c = false) (xs ys : List Char) :
    (xs ++ c :: ys).takeWhile p = xs.takeWhile p := by
  induction xs with
  | nil => simp [h]
  | cons x xs ih => rw [List.cons_append, List.takeWhile_cons, List.takeWhile_cons, ih]

end GraphLink.Text
