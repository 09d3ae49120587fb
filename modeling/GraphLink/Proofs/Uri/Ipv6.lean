import GraphLink.Uri.Ipv6

/-! # IPv6 addresses are read back from their shortest form

    `render` writes eight groups and leaves out one run of zeros; `parse` splits at the first two
    colons in a row and fills the gap.  Three facts meet in `parse_render`:

    * written groups hold no two colons in a row (`cutDoubleColon_joined`), so the cut falls on
      the gap and nowhere else;
    * a written group is read back, alone and in a row (`readGroup_hexadecimal`,
      `readTail_hexadecimal`);
    * what `render` leaves out is zeros (`eq_around_zeros`), of which the number is known from
      the groups on both sides. -/

namespace GraphLink.Ipv6

open GraphLink.Text

-- ── Where the double colon is ──────────────────────────────────────

/-- Texts with a colon between them. -/
def joined (texts : List (List Char)) : List Char :=
  [':'].intercalate texts

/-- Whether a text can stand between colons: it is not empty and holds none. -/
def IsPart (cs : List Char) : Prop :=
  cs ≠ [] ∧ ':' ∉ cs

theorem joined_singleton (w : List Char) : joined [w] = w := by
  simp [joined]

/-- A colon stands between the first two texts. -/
theorem joined_cons_cons (w v : List Char) (rest : List (List Char)) :
    joined (w :: v :: rest) = w ++ ':' :: joined (v :: rest) := by
  simp [joined, List.intercalate_cons_cons]

/-- A character other than a colon is passed over. -/
theorem cutDoubleColon_cons {c : Char} (hc : c ≠ ':') (cs : List Char) :
    cutDoubleColon (c :: cs) = (cutDoubleColon cs).map (fun p => (c :: p.1, p.2)) := by
  rw [cutDoubleColon.eq_2]
  intro rest h
  exact absurd h hc

/-- A colon is passed over if another character follows it. -/
theorem cutDoubleColon_colon_cons {c : Char} (hc : c ≠ ':') (cs : List Char) :
    cutDoubleColon (':' :: c :: cs)
      = (cutDoubleColon (c :: cs)).map (fun p => (':' :: p.1, p.2)) := by
  rw [cutDoubleColon.eq_2]
  intro rest _ h
  exact hc (List.cons.inj h).1

/-- A text without a colon is passed over whole. -/
theorem cutDoubleColon_append {w : List Char} (hw : ':' ∉ w) (tail : List Char) :
    cutDoubleColon (w ++ tail) = (cutDoubleColon tail).map (fun p => (w ++ p.1, p.2)) := by
  induction w with
  | nil => cases h : cutDoubleColon tail <;> simp [h]
  | cons c w ih =>
      have hc : c ≠ ':' := fun h => hw (h ▸ List.mem_cons_self)
      have hrest : ':' ∉ w := fun h => hw (List.mem_cons_of_mem c h)
      rw [List.cons_append, cutDoubleColon_cons hc, ih hrest, Option.map_map]
      rfl

/-- **A SINGLE COLON IS NO CUT**: parts with colons between them are passed over whole, whatever
    follows. -/
theorem cutDoubleColon_joined {texts : List (List Char)} (h : ∀ w ∈ texts, IsPart w)
    (tail : List Char) :
    cutDoubleColon (joined texts ++ tail)
      = (cutDoubleColon tail).map (fun p => (joined texts ++ p.1, p.2)) := by
  induction texts with
  | nil => exact cutDoubleColon_append (w := []) (by simp) tail
  | cons w rest ih =>
      have hw := h w List.mem_cons_self
      have hrest : ∀ v ∈ rest, IsPart v := fun v hv => h v (List.mem_cons_of_mem w hv)
      cases rest with
      | nil =>
          rw [joined_singleton]
          exact cutDoubleColon_append hw.2 tail
      | cons v rest =>
          -- The colon behind `w` is single, because the part `v` begins with something else.
          obtain ⟨c, cs, hcs, hc⟩ : ∃ c cs, joined (v :: rest) ++ tail = c :: cs ∧ c ≠ ':' := by
            obtain ⟨hne, hcolon⟩ := hrest v List.mem_cons_self
            obtain ⟨c, v', rfl⟩ := List.exists_cons_of_ne_nil hne
            have hc : c ≠ ':' := fun hc => hcolon (hc ▸ List.mem_cons_self)
            cases rest with
            | nil => exact ⟨c, v' ++ tail, by rw [joined_singleton]; rfl, hc⟩
            | cons u rest => exact ⟨c, _, by rw [joined_cons_cons]; rfl, hc⟩
          have hcolon : cutDoubleColon (':' :: (joined (v :: rest) ++ tail))
              = (cutDoubleColon (joined (v :: rest) ++ tail)).map
                  (fun p => (':' :: p.1, p.2)) := by
            rw [hcs]
            exact cutDoubleColon_colon_cons hc cs
          rw [joined_cons_cons, List.append_assoc, List.cons_append,
            cutDoubleColon_append hw.2, hcolon, ih hrest, Option.map_map, Option.map_map]
          congr 1
          funext p
          simp

/-- Parts with colons between them are split into these parts. -/
theorem colonParts_joined {texts : List (List Char)} (h : ∀ w ∈ texts, IsPart w) :
    colonParts (joined texts) = texts := by
  cases texts with
  | nil => rfl
  | cons w rest =>
      have hne : (joined (w :: rest)).isEmpty = false := by
        obtain ⟨c, w', rfl⟩ := List.exists_cons_of_ne_nil (h w List.mem_cons_self).1
        cases rest with
        | nil => rw [joined_singleton]; rfl
        | cons v rest => rw [joined_cons_cons]; rfl
      rw [colonParts, hne]
      exact List.splitOn_intercalate ':' (fun v hv => (h v hv).2) (by simp)

-- ── Written groups ─────────────────────────────────────────────────

/-- The digits of groups. -/
def groupTexts (gs : List UInt16) : List (List Char) :=
  gs.map (fun g => hexadecimal g.toNat)

theorem renderGroups_eq (gs : List UInt16) : renderGroups gs = joined (groupTexts gs) := rfl

/-- The digits of a group can stand between colons. -/
theorem isPart_of_mem_groupTexts {gs : List UInt16} : ∀ w ∈ groupTexts gs, IsPart w := by
  intro w hw
  obtain ⟨g, -, rfl⟩ := List.mem_map.mp hw
  refine ⟨hexadecimal_ne_nil _, ?_⟩
  intro hcolon
  have hne : ∀ c ∈ hexadecimal g.toNat, c ≠ ':' := forall_mem_hexadecimal (by decide) _
  exact hne ':' hcolon rfl

/-- **A WRITTEN GROUP IS READ BACK.** -/
theorem readGroup_hexadecimal (g : UInt16) : readGroup (hexadecimal g.toNat) = some g := by
  have hlen : (hexadecimal g.toNat).length ≤ 4 := length_hexadecimal_le (UInt16.toNat_lt g)
  rw [readGroup, if_pos hlen, readNat_hexadecimal]
  simp

/-- The digits of groups are read back one by one. -/
theorem mapM_readGroup (gs : List UInt16) : (groupTexts gs).mapM readGroup = some gs := by
  induction gs with
  | nil => rfl
  | cons g gs ih =>
      have ih' : (gs.map (fun g => hexadecimal g.toNat)).mapM readGroup = some gs := ih
      simp [groupTexts, readGroup_hexadecimal, ih']

/-- Written groups in a row are read back; the last is not taken for decimal bytes. -/
theorem readTail_groupTexts (gs : List UInt16) : readTail (groupTexts gs) = some gs := by
  induction gs with
  | nil => rfl
  | cons g gs ih =>
      cases gs with
      | nil => simp [groupTexts, readTail, readGroup_hexadecimal]
      | cons g' gs =>
          have ih' : readTail (hexadecimal g'.toNat :: groupTexts gs) = some (g' :: gs) := ih
          show readTail (hexadecimal g.toNat :: hexadecimal g'.toNat :: groupTexts gs)
            = some (g :: g' :: gs)
          simp [readTail, readGroup_hexadecimal, ih']

-- ── What is left out ───────────────────────────────────────────────

/-- The zeros at the front are zeros. -/
theorem take_zerosAtFront {gs : List UInt16} {n : Nat} (h : n ≤ zerosAtFront gs) :
    gs = List.replicate n 0 ++ gs.drop n := by
  induction n generalizing gs with
  | zero => rfl
  | succ n ih =>
      cases gs with
      | nil => simp [zerosAtFront] at h
      | cons g gs =>
          by_cases hg : g = 0
          · subst hg
            have hn : n ≤ zerosAtFront gs := by
              simpa [zerosAtFront] using h
            rw [List.replicate_succ, List.cons_append, List.drop_succ_cons, ← ih hn]
          · simp [zerosAtFront, hg] at h

/-- The run that is found is one: there are as many zeros in that place. -/
theorem longestZeros_le (gs : List UInt16) :
    (longestZeros gs).2 ≤ zerosAtFront (gs.drop (longestZeros gs).1) := by
  rw [longestZeros]
  -- The best run so far is a run, whatever places are still to be looked at.
  refine List.foldlRecOn
    (motive := fun (best : Nat × Nat) => best.2 ≤ zerosAtFront (gs.drop best.1))
    _ _ (Nat.zero_le _) ?_
  intro best h i _
  by_cases hrun : best.2 < zerosAtFront (gs.drop i)
  · simp only [if_pos hrun]
    exact Nat.le_refl _
  · simp only [if_neg hrun]
    exact h

/-- **ONLY ZEROS ARE LEFT OUT.** -/
theorem eq_around_zeros (gs : List UInt16) :
    gs = gs.take (longestZeros gs).1 ++ (List.replicate (longestZeros gs).2 0
      ++ gs.drop ((longestZeros gs).1 + (longestZeros gs).2)) := by
  have hzeros := take_zerosAtFront (longestZeros_le gs)
  rw [List.drop_drop] at hzeros
  rw [← hzeros, List.take_append_drop]

-- ── Write, then read ───────────────────────────────────────────────

/-- Groups around a gap are read as all eight. -/
theorem readGroups_gap {front back : List UInt16} {n : Nat} (hn : 0 < n)
    (h8 : front.length + n + back.length = 8) :
    readGroups (renderGroups front ++ [':', ':'] ++ renderGroups back)
      = some (front ++ List.replicate n 0 ++ back) := by
  have hcut : cutDoubleColon (renderGroups front ++ [':', ':'] ++ renderGroups back)
      = some (renderGroups front, renderGroups back) := by
    rw [List.append_assoc, renderGroups_eq, cutDoubleColon_joined isPart_of_mem_groupTexts]
    simp [cutDoubleColon]
  have hgap : 8 - front.length - back.length = n := by omega
  rw [readGroups, hcut]
  simp only [renderGroups_eq, colonParts_joined isPart_of_mem_groupTexts, mapM_readGroup,
    readTail_groupTexts, hgap, Option.bind_eq_bind, Option.bind_some]
  rw [if_pos (by omega)]
  rfl

/-- Groups without a gap are read as they are. -/
theorem readGroups_renderGroups {gs : List UInt16} (hne : gs ≠ []) :
    readGroups (renderGroups gs) = some gs := by
  have hcut : cutDoubleColon (renderGroups gs) = none := by
    rw [← List.append_nil (renderGroups gs), renderGroups_eq,
      cutDoubleColon_joined isPart_of_mem_groupTexts]
    rfl
  have hsplit : (renderGroups gs).splitOn ':' = groupTexts gs :=
    List.splitOn_intercalate ':' (fun w hw => (isPart_of_mem_groupTexts w hw).2)
      (by simpa [groupTexts] using hne)
  rw [readGroups, hcut]
  show readTail ((renderGroups gs).splitOn ':') = some gs
  rw [hsplit, readTail_groupTexts]

/-- A written address is read as its groups. -/
theorem readGroups_render (a : Ipv6) : readGroups a.render = some a.groups := by
  have hparts := eq_around_zeros a.groups
  by_cases hgap : 2 ≤ (longestZeros a.groups).2
  · have hlen := congrArg List.length hparts
    simp only [List.length_append, List.length_replicate, a.eight] at hlen
    rw [render]
    simp only [if_pos hgap]
    rw [readGroups_gap (n := (longestZeros a.groups).2) (by omega) (by omega), List.append_assoc,
      ← hparts]
  · have hne : a.groups ≠ [] := by
      intro hnil
      have h8 := a.eight
      rw [hnil] at h8
      exact nomatch h8
    rw [render]
    simp only [if_neg hgap]
    exact readGroups_renderGroups hne

/-- **WRITE, THEN READ**: every address comes back from its shortest form. -/
theorem parse_render (a : Ipv6) : parse a.render = some a := by
  rw [parse, readGroups_render]
  exact dif_pos a.eight

/-- A written address is not empty. -/
theorem render_ne_nil (a : Ipv6) : a.render ≠ [] := by
  intro hnil
  have hread := parse_render a
  rw [hnil] at hread
  exact nomatch hread

/-- What holds of the colon and of the digits holds of every character of an address. -/
theorem forall_mem_render {p : Char → Prop} (hcolon : p ':') (hdigit : ∀ d < 16, p d.digitChar)
    (a : Ipv6) : ∀ c ∈ a.render, p c := by
  have hgroups : ∀ gs : List UInt16, ∀ c ∈ renderGroups gs, p c := by
    intro gs
    rw [renderGroups_eq]
    induction gs with
    | nil => intro c hc; exact nomatch hc
    | cons g gs ih =>
        have hg : ∀ c ∈ hexadecimal g.toNat, p c := forall_mem_hexadecimal hdigit _
        cases gs with
        | nil =>
            intro c hc
            exact hg c (by simpa [groupTexts, joined] using hc)
        | cons g' gs =>
            intro c hc
            have hc' : c ∈ hexadecimal g.toNat ++ ':' :: joined (groupTexts (g' :: gs)) := hc
            rcases List.mem_append.mp hc' with hfront | hrest
            · exact hg c hfront
            · rcases List.mem_cons.mp hrest with rfl | hmem
              · exact hcolon
              · exact ih c hmem
  intro c hc
  rw [render] at hc
  -- The gap brings two more colons.
  by_cases hgap : 2 ≤ (longestZeros a.groups).2
  · simp only [if_pos hgap, List.mem_append, List.mem_cons, List.not_mem_nil, or_false,
      or_self] at hc
    rcases hc with (hfront | rfl) | hback
    · exact hgroups _ c hfront
    · exact hcolon
    · exact hgroups _ c hback
  · simp only [if_neg hgap] at hc
    exact hgroups _ c hc

end GraphLink.Ipv6
