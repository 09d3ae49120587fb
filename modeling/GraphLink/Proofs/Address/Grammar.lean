import GraphLink.Address.Target
import Mathlib.Data.List.TakeWhile

/-! # The grammar of targets

    A target is read in stages: blanks are dropped, the rest is split, the port text is read, and
    defaults stand in for what is missing.  For each stage there is a description of what it comes
    to that does not mention how it is done: `Text.Trims`, `Parts` and `DenotesPort`.  Each stage
    answers exactly what its description says (`Text.trim_eq_iff`, `split_eq_some_iff`,
    `readPort_eq_some_iff`), so a target is read exactly if it has a derivation (`parse_eq_ok_iff`),
    and is refused otherwise for the first part without one (`parse_eq_error_iff`). -/

namespace GraphLink

-- ── Trimmed texts ──────────────────────────────────────────────────

namespace Text

variable {text core : List Char} {c : Char} {cs : List Char} {n : Nat}

/-- The second text is the first one without the blanks at its ends. -/
structure Trims (text core : List Char) : Prop where
  around : ∃ before after, text = before ++ core ++ after
    ∧ (∀ c ∈ before, isBlank c = true) ∧ ∀ c ∈ after, isBlank c = true
  head : ∀ c, core.head? = some c → isBlank c = false
  last : ∀ c, core.getLast? = some c → isBlank c = false

/-- Dropping stops at a character that is not to be dropped. -/
theorem head?_dropWhile {p : Char → Bool} (h : (cs.dropWhile p).head? = some c) : p c = false := by
  have hnot := List.head?_dropWhile_not p cs
  rw [h] at hnot
  exact hnot

/-- What is dropped at the end is a run of blanks. -/
theorem trimEnd_append_blanks (cs : List Char) :
    cs = trimEnd cs ++ (cs.reverse.takeWhile isBlank).reverse := by
  rw [trimEnd, ← List.reverse_append, List.takeWhile_append_dropWhile, List.reverse_reverse]

/-- Trimming finds a core. -/
theorem trims_trim (text : List Char) : Trims text (trim text) where
  around := by
    refine ⟨text.takeWhile isBlank, ((trimStart text).reverse.takeWhile isBlank).reverse,
      ?_, ?_, ?_⟩
    · rw [List.append_assoc, trim, ← trimEnd_append_blanks, trimStart,
        List.takeWhile_append_dropWhile]
    · intro c hc
      exact List.mem_takeWhile_imp hc
    · intro c hc
      exact List.mem_takeWhile_imp (List.mem_reverse.mp hc)
  head := by
    intro c hc
    have hstart : (trimStart text).head? = some c := by
      have hcore : (trimEnd (trimStart text)).head? = some c := hc
      rw [trimEnd_append_blanks (trimStart text), List.head?_append, hcore]
      rfl
    exact head?_dropWhile hstart
  last := by
    intro c hc
    rw [trim, trimEnd, List.getLast?_reverse] at hc
    exact head?_dropWhile hc

/-- Whatever trims a text is what trimming finds. -/
theorem trim_of_trims (h : Trims text core) : trim text = core := by
  obtain ⟨⟨before, after, rfl, hbefore, hafter⟩, hhead, hlast⟩ := h
  have hstart : trimStart (before ++ core ++ after) = (core ++ after).dropWhile isBlank := by
    rw [trimStart, List.append_assoc]
    exact List.dropWhile_append_of_pos hbefore
  rw [trim, hstart]
  cases core with
  | nil =>
      rw [List.nil_append, List.dropWhile_eq_nil_iff.mpr hafter]
      rfl
  | cons c core =>
      have hfirst : ((c :: core) ++ after).dropWhile isBlank = (c :: core) ++ after := by
        refine dropWhile_of_head? (fun d hd => hhead d ?_)
        exact hd
      have hend : ∀ d ∈ after.reverse, isBlank d = true :=
        fun d hd => hafter d (List.mem_reverse.mp hd)
      rw [hfirst, trimEnd, List.reverse_append, List.dropWhile_append_of_pos hend,
        dropWhile_of_head? (fun d hd => hlast d (by rwa [List.head?_reverse] at hd)),
        List.reverse_reverse]

/-- A text has one core only. -/
theorem Trims.unique {core' : List Char} (h : Trims text core) (h' : Trims text core') :
    core = core' :=
  (trim_of_trims h).symm.trans (trim_of_trims h')

/-- **TRIMMING DROPS THE BLANKS AT THE ENDS** and nothing else. -/
theorem trim_eq_iff : trim text = core ↔ Trims text core := by
  constructor
  · rintro rfl
    exact trims_trim text
  · exact trim_of_trims

-- ── Decimals ───────────────────────────────────────────────────────

/-- The digits of base ten are the ten digits. -/
theorem digitValue_ten_eq_some_iff {d : Nat} :
    digitValue 10 c = some d ↔ c.isDigit = true ∧ c.toNat - '0'.toNat = d := by
  have hdigit : c.isDigit = true ↔ 0x30 ≤ c.toNat ∧ c.toNat ≤ 0x39 := Char.isDigit_iff_toNat
  rw [hdigit]
  show Option.filter (· < 10) (if 0x30 ≤ c.toNat ∧ c.toNat ≤ 0x39 then some (c.toNat - 0x30)
      else _) = some d ↔ _ ∧ c.toNat - 0x30 = d
  by_cases h : 0x30 ≤ c.toNat ∧ c.toNat ≤ 0x39
  · have hlt : c.toNat - 0x30 < 10 := by omega
    rw [if_pos h, Option.filter_some_pos (by simpa using hlt), Option.some_inj, and_iff_right h]
  · -- A letter stands for ten or more.
    rw [if_neg h]
    refine iff_of_false (fun hsome => ?_) (fun hd => h hd.1)
    obtain ⟨hvalue, hlt⟩ := Option.filter_eq_some_iff.mp hsome
    have hlt : d < 10 := of_decide_eq_true hlt
    split at hvalue
    · cases hvalue
      omega
    · split at hvalue
      · cases hvalue
        omega
      · cases hvalue

/-- Digits are read to the number that they stand for in base ten; anything else is refused. -/
theorem readDigits_ten_eq_some_iff {acc : Nat} : readDigits 10 acc cs = some n
    ↔ (∀ c ∈ cs, c.isDigit = true) ∧ Nat.ofDigitChars 10 cs acc = n := by
  induction cs generalizing acc with
  | nil =>
      rw [readDigits, Option.some_inj]
      exact (and_iff_right (List.forall_mem_nil _)).symm
  | cons c cs ih =>
      rw [readDigits, List.forall_mem_cons, Nat.ofDigitChars_cons]
      cases hvalue : digitValue 10 c with
      | none =>
          refine iff_of_false (by rintro ⟨⟩) (fun h => ?_)
          rw [digitValue_ten_eq_some_iff.mpr ⟨h.1.1, rfl⟩] at hvalue
          cases hvalue
      | some d =>
          obtain ⟨hdigit, rfl⟩ := digitValue_ten_eq_some_iff.mp hvalue
          show readDigits 10 _ cs = some n ↔ _
          rw [ih, Nat.mul_comm, and_iff_right hdigit]

/-- A decimal number is one digit or more, read from the left. -/
theorem readNat_ten_eq_some_iff : readNat 10 cs = some n
    ↔ cs ≠ [] ∧ (∀ c ∈ cs, c.isDigit = true) ∧ Nat.ofDigitChars 10 cs 0 = n := by
  cases cs with
  | nil => exact iff_of_false (by rintro ⟨⟩) (fun h => h.1 rfl)
  | cons c cs =>
      show readDigits 10 0 (c :: cs) = some n ↔ _
      rw [readDigits_ten_eq_some_iff, and_iff_right (List.cons_ne_nil c cs)]

end Text

-- ── The parts of a target ──────────────────────────────────────────

namespace Address

open GraphLink.Text

variable {t host port behind : List Char} {d : Defaults} {a : Address} {target : String}
  {fault : Fault}

/-- The host text and the port text of a trimmed target.  A host in brackets reaches to the last
    closing one, and one colon behind that is not part of the port text; another host reaches to the
    first colon. -/
inductive Parts : List Char → List Char → List Char → Prop where
  | bracketed {host behind port : List Char} (hlast : ']' ∉ behind)
      (hport : behind = ':' :: port ∨ behind = port ∧ port.head? ≠ some ':') :
      Parts ('[' :: (host ++ ']' :: behind)) host port
  | bare {host : List Char} (hfirst : host.head? ≠ some '[') (hhost : ':' ∉ host) :
      Parts host host []
  | withPort {host port : List Char} (hfirst : host.head? ≠ some '[') (hhost : ':' ∉ host) :
      Parts (host ++ ':' :: port) host port

/-- One colon is dropped, if there is one. -/
theorem dropColon_eq_iff :
    dropColon behind = port ↔ behind = ':' :: port ∨ behind = port ∧ port.head? ≠ some ':' := by
  cases behind with
  | nil =>
      constructor
      · rintro rfl
        exact .inr ⟨rfl, fun h => by cases h⟩
      · rintro (h | ⟨h, -⟩)
        · cases h
        · exact h
  | cons c rest =>
      by_cases hc : c = ':'
      · subst hc
        constructor
        · rintro rfl
          exact .inl rfl
        · rintro (h | ⟨rfl, hhead⟩)
          · exact (List.cons.inj h).2
          · exact absurd rfl hhead
      · have hdrop : dropColon (c :: rest) = c :: rest := by
          rw [dropColon]
          intro rest' h
          exact hc (List.cons.inj h).1
        rw [hdrop]
        constructor
        · rintro rfl
          exact .inr ⟨rfl, fun h => hc (Option.some.inj h)⟩
        · rintro (h | ⟨h, -⟩)
          · exact absurd (List.cons.inj h).1 hc
          · exact h

/-- What has no bracket in front of a colon has none with the colon behind it. -/
theorem head?_append_ne (h : host.head? ≠ some '[') : (host ++ ':' :: port).head? ≠ some '[' := by
  cases host with
  | nil =>
      intro h
      cases h
  | cons c host => exact h

/-- A target that does not start with a bracket is cut at its first colon. -/
theorem split_of_head_ne (h : t.head? ≠ some '[') :
    split t = some ((cutFirst ':' t).getD (t, [])) := by
  rw [split]
  rintro rest rfl
  exact h rfl

/-- **A TARGET IS SPLIT INTO ITS PARTS.** -/
theorem split_eq_some_iff : split t = some (host, port) ↔ Parts t host port := by
  constructor
  · intro h
    -- A bracket in front asks for the last closing one; else the first colon decides.
    by_cases hbracket : t.head? = some '['
    · obtain ⟨rest, rfl⟩ := List.head?_eq_some_iff.mp hbracket
      obtain ⟨⟨before, behind⟩, hcut, hparts⟩ := Option.map_eq_some_iff.mp h
      obtain ⟨rfl, hlast⟩ := cutLast_eq_some.mp hcut
      cases hparts
      exact .bracketed hlast (dropColon_eq_iff.mp rfl)
    · rw [split_of_head_ne hbracket, Option.some_inj] at h
      cases hcut : cutFirst ':' t with
      | none =>
          rw [hcut] at h
          cases h
          exact .bare hbracket (cutFirst_eq_none.mp hcut)
      | some p =>
          rw [hcut] at h
          cases h
          obtain ⟨rfl, hhost⟩ := cutFirst_eq_some.mp hcut
          refine .withPort ?_ hhost
          intro hfirst
          exact hbracket (by rw [List.head?_append, hfirst]; rfl)
  · rintro (⟨hlast, hport⟩ | ⟨hfirst, hhost⟩ | ⟨hfirst, hhost⟩)
    · show (cutLast ']' (host ++ ']' :: _)).map _ = _
      rw [cutLast_eq_some.mpr ⟨rfl, hlast⟩, Option.map_some, dropColon_eq_iff.mpr hport]
    · rw [split_of_head_ne hfirst, cutFirst_eq_none.mpr hhost]
      rfl
    · rw [split_of_head_ne (head?_append_ne hfirst), cutFirst_eq_some.mpr ⟨rfl, hhost⟩]
      rfl

/-- A target has no parts exactly if it starts with a bracket that is never closed. -/
theorem split_eq_none_iff : split t = none ↔ ∃ rest, t = '[' :: rest ∧ ']' ∉ rest := by
  constructor
  · intro h
    by_cases hbracket : t.head? = some '['
    · obtain ⟨rest, rfl⟩ := List.head?_eq_some_iff.mp hbracket
      exact ⟨rest, rfl, cutLast_eq_none.mp (Option.map_eq_none_iff.mp h)⟩
    · rw [split_of_head_ne hbracket] at h
      cases h
  · rintro ⟨rest, rfl, hlast⟩
    show (cutLast ']' rest).map _ = none
    rw [cutLast_eq_none.mpr hlast]
    rfl

-- ── Port texts ─────────────────────────────────────────────────────

/-- The number of a port text: zero for none, else that of one digit or more behind an optional plus
    sign, if it fits sixteen bits. -/
inductive DenotesPort : List Char → Nat → Prop where
  | empty : DenotesPort [] 0
  | number {sign digits : List Char} (hsign : sign = [] ∨ sign = ['+']) (hne : digits ≠ [])
      (hdigits : ∀ c ∈ digits, c.isDigit = true) (hmax : Nat.ofDigitChars 10 digits 0 ≤ 65535) :
      DenotesPort (sign ++ digits) (Nat.ofDigitChars 10 digits 0)

/-- A port text denotes no more than sixteen bits hold. -/
theorem DenotesPort.le {n : Nat} (h : DenotesPort port n) : n ≤ 65535 := by
  cases h with
  | empty => exact Nat.zero_le _
  | number _ _ _ hmax => exact hmax

/-- Digits are read as their number, if it fits sixteen bits. -/
theorem portOfDigits_eq_some_iff {digits : List Char} {n : UInt16} :
    portOfDigits digits = some n ↔ digits ≠ [] ∧ (∀ c ∈ digits, c.isDigit = true)
      ∧ Nat.ofDigitChars 10 digits 0 = n.toNat := by
  rw [← readNat_ten_eq_some_iff, portOfDigits, Option.map_eq_some_iff]
  constructor
  · rintro ⟨value, hvalue, rfl⟩
    obtain ⟨hread, hlt⟩ := Option.filter_eq_some_iff.mp hvalue
    rw [UInt16.toNat_ofNat_of_lt' (of_decide_eq_true hlt)]
    exact hread
  · intro hread
    refine ⟨n.toNat, ?_, UInt16.ofNat_toNat⟩
    rw [hread, Option.filter_some_pos (by simpa using UInt16.toNat_lt n)]

/-- Digits without a sign are read as they stand. -/
theorem readPort_of_digits {digits : List Char} (hne : digits ≠ [])
    (hdigits : ∀ c ∈ digits, c.isDigit = true) : readPort digits = portOfDigits digits := by
  obtain ⟨c, rest, rfl⟩ := List.exists_cons_of_ne_nil hne
  have hc : c.isDigit = true := hdigits c List.mem_cons_self
  rw [readPort]
  · exact List.cons_ne_nil c rest
  · intro digits heq
    cases heq
    exact absurd hc (by decide)

/-- **A PORT TEXT IS READ AS ITS NUMBER.** -/
theorem readPort_eq_some_iff {n : UInt16} : readPort port = some n ↔ DenotesPort port n.toNat := by
  have hmax : n.toNat ≤ 65535 := Nat.le_of_lt_succ (UInt16.toNat_lt n)
  constructor
  · intro h
    unfold readPort at h
    split at h
    · cases h
      exact .empty
    · obtain ⟨hne, hdigits, hvalue⟩ := portOfDigits_eq_some_iff.mp h
      rw [← hvalue] at hmax ⊢
      exact .number (.inr rfl) hne hdigits hmax
    · obtain ⟨hne, hdigits, hvalue⟩ := portOfDigits_eq_some_iff.mp h
      rw [← hvalue] at hmax ⊢
      exact .number (.inl rfl) hne hdigits hmax
  -- The number is a variable of its own here, as the cases on the grammar need one.
  · generalize hvalue : n.toNat = value
    intro h
    cases h with
    | empty =>
        have hzero : n = 0 := UInt16.toNat_inj.mp hvalue
        rw [hzero]
        rfl
    | number hsign hne hdigits _ =>
        have hread := portOfDigits_eq_some_iff.mpr ⟨hne, hdigits, hvalue.symm⟩
        rcases hsign with rfl | rfl
        · rw [List.nil_append, readPort_of_digits hne hdigits]
          exact hread
        · exact hread

theorem portText_ne_nil (n : UInt16) : portText n ≠ [] :=
  decimal_ne_nil _

/-- What holds of the ten digits holds of every character of a port in writing. -/
theorem forall_mem_portText {p : Char → Prop} (h : ∀ d < 10, p d.digitChar) (n : UInt16) :
    ∀ c ∈ portText n, p c :=
  forall_mem_decimal h _

/-- Behind the host stand a colon and digits, and nothing else. -/
theorem notMem_colon_portText {c : Char} (hcolon : c ≠ ':') (hdigit : c.isDigit = false)
    (n : UInt16) : c ∉ ':' :: portText n := by
  intro hmem
  rcases List.mem_cons.mp hmem with heq | hmem
  · exact hcolon heq
  · have hport : ∀ c ∈ portText n, c.isDigit = true := forall_mem_portText (by decide) n
    rw [hport c hmem] at hdigit
    cases hdigit

/-- A port in writing denotes that port. -/
theorem denotesPort_portText (n : UInt16) : DenotesPort (portText n) n.toNat := by
  have hvalue : Nat.ofDigitChars 10 (portText n) 0 = n.toNat := Nat.ofDigitChars_ten_toDigits
  have hdigits : ∀ c ∈ portText n, c.isDigit = true := forall_mem_portText (by decide) n
  have h : DenotesPort ([] ++ portText n) (Nat.ofDigitChars 10 (portText n) 0) := by
    refine .number (.inl rfl) (portText_ne_nil n) hdigits ?_
    rw [hvalue]
    exact Nat.le_of_lt_succ (UInt16.toNat_lt n)
  rwa [hvalue] at h

-- ── Targets ────────────────────────────────────────────────────────

/-- The address for a host text and a port number, with the defaults for what is empty or zero. -/
def named (d : Defaults) (host : List Char) (n : Nat) : Address where
  host := if host = [] then d.host else String.ofList host
  port := if n = 0 then d.port else UInt16.ofNat n

/-- A host that is given is taken. -/
theorem host_named_of_ne_nil {n : Nat} (h : host ≠ []) : (named d host n).host.toList = host := by
  rw [named, if_neg h, String.toList_ofList]

/-- Port zero stands for the default. -/
theorem port_named_ne_zero {n : Nat} (hdefault : d.port ≠ 0) (hmax : n ≤ 65535) :
    (named d host n).port ≠ 0 := by
  show (if n = 0 then d.port else UInt16.ofNat n) ≠ 0
  by_cases hzero : n = 0
  · rw [if_pos hzero]
    exact hdefault
  · rw [if_neg hzero]
    intro h
    have hvalue : (UInt16.ofNat n).toNat = n := UInt16.toNat_ofNat_of_lt' (Nat.lt_succ_of_le hmax)
    rw [h] at hvalue
    exact hzero hvalue.symm

/-- There is no host only if none is given and there is no default. -/
theorem host_named_eq_empty_iff {n : Nat} :
    (named d host n).host = "" ↔ host = [] ∧ d.host = "" := by
  cases host with
  | nil => exact (and_iff_right rfl).symm
  | cons c host =>
      refine iff_of_false (fun h => ?_) (fun h => List.cons_ne_nil c host h.1)
      cases String.ofList_inj.mp h

/-- For a port of sixteen bits nothing is cut off. -/
theorem named_toNat (d : Defaults) (host : List Char) (n : UInt16) : named d host n.toNat
    = ⟨if host = [] then d.host else String.ofList host, if n = 0 then d.port else n⟩ := by
  have hzero : n.toNat = 0 ↔ n = 0 := UInt16.toNat_inj (b := 0)
  rw [named, UInt16.ofNat_toNat, if_congr hzero rfl rfl]

/-- The defaults are put in as the description says, and a host is needed. -/
theorem resolve_eq (d : Defaults) (host : List Char) (n : UInt16) :
    resolve d host n = if host = [] ∧ d.host = "" then none else some (named d host n.toNat) := by
  have hhost : (if host.isEmpty then d.host else String.ofList host)
      = (named d host n.toNat).host := by
    cases host <;> rfl
  rw [resolve, named_toNat]
  simp only [hhost]
  exact if_congr (String.isEmpty_iff.trans host_named_eq_empty_iff) rfl rfl

/-- Why a trimmed target is refused. -/
inductive Refuses (d : Defaults) (t : List Char) : Fault → Prop where
  | unterminated {rest : List Char} (ht : t = '[' :: rest) (hlast : ']' ∉ rest) :
      Refuses d t (.unterminated (String.ofList t))
  | badPort {host port : List Char} (hparts : Parts t host port)
      (hport : ∀ n, ¬ DenotesPort port n) :
      Refuses d t (.badPort (String.ofList port) (String.ofList t))
  | noHost {port : List Char} {n : Nat} (hparts : Parts t [] port) (hport : DenotesPort port n)
      (hhost : d.host = "") : Refuses d t (.noHost (String.ofList t))

/-- What the stages come to, one after the other: an address, or the first fault. -/
inductive Reads (d : Defaults) (t : List Char) : Except Fault Address → Prop where
  | named {host port : List Char} {n : Nat} (hparts : Parts t host port)
      (hport : DenotesPort port n) (hhost : host ≠ [] ∨ d.host ≠ "") :
      Reads d t (.ok (named d host n))
  | refused {fault : Fault} (h : Refuses d t fault) : Reads d t (.error fault)

/-- With parts and a port number, all that can be missing is a host. -/
theorem ofTrimmed_of_parts {n : Nat} (hparts : Parts t host port) (hport : DenotesPort port n) :
    ofTrimmed d t = if host = [] ∧ d.host = "" then .error (.noHost (String.ofList t))
      else .ok (named d host n) := by
  have hvalue : (UInt16.ofNat n).toNat = n := UInt16.toNat_ofNat_of_lt' (Nat.lt_succ_of_le hport.le)
  have hread : readPort port = some (UInt16.ofNat n) := by
    rw [readPort_eq_some_iff, hvalue]
    exact hport
  simp only [ofTrimmed, split_eq_some_iff.mpr hparts, hread, resolve_eq, hvalue]
  by_cases hhost : host = [] ∧ d.host = ""
  · rw [if_pos hhost, if_pos hhost]
  · rw [if_neg hhost, if_neg hhost]

/-- What the description comes to is what the stages answer. -/
theorem ofTrimmed_of_reads {answer : Except Fault Address} (h : Reads d t answer) :
    ofTrimmed d t = answer := by
  cases h with
  | named hparts hport hhost => rw [ofTrimmed_of_parts hparts hport, if_neg (not_and_or.mpr hhost)]
  | refused h =>
      cases h with
      | unterminated ht hlast =>
          simp only [ofTrimmed, split_eq_none_iff.mpr ⟨_, ht, hlast⟩]
      | badPort hparts hport =>
          have hread : readPort _ = none :=
            Option.eq_none_iff_forall_ne_some.mpr
              (fun n hn => hport n.toNat (readPort_eq_some_iff.mp hn))
          simp only [ofTrimmed, split_eq_some_iff.mpr hparts, hread]
      | noHost hparts hport hhost => rw [ofTrimmed_of_parts hparts hport, if_pos ⟨rfl, hhost⟩]

/-- There is always an answer. -/
theorem exists_reads (d : Defaults) (t : List Char) : ∃ answer, Reads d t answer := by
  cases hsplit : split t with
  | none =>
      obtain ⟨rest, ht, hlast⟩ := split_eq_none_iff.mp hsplit
      exact ⟨_, .refused (.unterminated ht hlast)⟩
  | some p =>
      have hparts : Parts t p.1 p.2 := split_eq_some_iff.mp hsplit
      by_cases hport : ∃ n, DenotesPort p.2 n
      · obtain ⟨n, hport⟩ := hport
        by_cases hhost : p.1 = [] ∧ d.host = ""
        · rw [hhost.1] at hparts
          exact ⟨_, .refused (.noHost hparts hport hhost.2)⟩
        · exact ⟨_, .named hparts hport (not_and_or.mp hhost)⟩
      · exact ⟨_, .refused (.badPort hparts (fun n hn => hport ⟨n, hn⟩))⟩

/-- **A TARGET IS READ AS THE GRAMMAR SAYS.** -/
theorem parse_eq_iff {answer : Except Fault Address} :
    parse target d = answer ↔ ∃ t, Trims target.toList t ∧ Reads d t answer := by
  rw [parse]
  constructor
  · rintro rfl
    obtain ⟨answer, hreads⟩ := exists_reads d (trim target.toList)
    refine ⟨_, trims_trim _, ?_⟩
    rwa [ofTrimmed_of_reads hreads]
  · rintro ⟨t, ht, hreads⟩
    rw [trim_of_trims ht, ofTrimmed_of_reads hreads]

/-- A target is accepted exactly if it has a derivation, and names the address that the parts and
    the defaults make up. -/
theorem parse_eq_ok_iff : parse target d = .ok a ↔ ∃ t host port n, Trims target.toList t
    ∧ Parts t host port ∧ DenotesPort port n ∧ (host ≠ [] ∨ d.host ≠ "") ∧ a = named d host n := by
  rw [parse_eq_iff]
  constructor
  · rintro ⟨t, ht, hreads⟩
    cases hreads with
    | named hparts hport hhost => exact ⟨t, _, _, _, ht, hparts, hport, hhost, rfl⟩
  · rintro ⟨t, host, port, n, ht, hparts, hport, hhost, rfl⟩
    exact ⟨t, ht, .named hparts hport hhost⟩

/-- No target names port zero, if the default is another port. -/
theorem port_ne_zero_of_parse (hdefault : d.port ≠ 0) (h : parse target d = .ok a) :
    a.port ≠ 0 := by
  obtain ⟨_, _, _, _, -, -, hport, -, rfl⟩ := parse_eq_ok_iff.mp h
  exact port_named_ne_zero hdefault hport.le

/-- A target is refused exactly if a part of it has no derivation. -/
theorem parse_eq_error_iff :
    parse target d = .error fault ↔ ∃ t, Trims target.toList t ∧ Refuses d t fault := by
  rw [parse_eq_iff]
  constructor
  · rintro ⟨t, ht, hreads⟩
    cases hreads with
    | refused h => exact ⟨t, ht, h⟩
  · rintro ⟨t, ht, h⟩
    exact ⟨t, ht, .refused h⟩

/-- No colon stands in a port text. -/
theorem colon_notMem_of_denotesPort {n : Nat} (h : DenotesPort port n) : ':' ∉ port := by
  cases h with
  | empty => exact List.not_mem_nil
  | number hsign _ hdigits _ =>
      rw [List.mem_append]
      rintro (hmem | hmem)
      · rcases hsign with rfl | rfl
        · cases hmem
        · cases List.mem_singleton.mp hmem
      · exact absurd (hdigits ':' hmem) (by decide)

/-- **THE GRAMMAR OF TARGETS.**  A target is accepted exactly if, trimmed, it has a host text and a
    port text, the port text denotes a number of sixteen bits, and there is a host in it or by
    default; and then it names the address of the two, with the defaults for what is empty or zero.
    Otherwise it is refused as malformed for the first of these that fails.  So a target that is not
    in brackets cannot have two colons. -/
theorem parse_follows_grammar (target : String) (d : Defaults) :
    (∀ a, parse target d = .ok a ↔ ∃ t host port n, Trims target.toList t
        ∧ Parts t host port ∧ DenotesPort port n ∧ (host ≠ [] ∨ d.host ≠ "")
        ∧ a = ⟨if host = [] then d.host else String.ofList host,
            if n = 0 then d.port else UInt16.ofNat n⟩)
      ∧ (∀ fault, parse target d = .error fault
          ↔ ∃ t, Trims target.toList t ∧ Refuses d t fault)
      ∧ (∀ fault, parse target d = .error fault →
          (parse target d).mapError Fault.toError = .error (.malformedAddress fault.message))
      ∧ ∀ t, Trims target.toList t → t.head? ≠ some '[' → 2 ≤ t.count ':' →
          ∃ fault, parse target d = .error fault := by
  refine ⟨fun a => parse_eq_ok_iff, fun fault => parse_eq_error_iff, ?_, ?_⟩
  · intro fault h
    rw [h]
    rfl
  · intro t ht hfirst hcolons
    cases hparse : parse target d with
    | error fault => exact ⟨fault, rfl⟩
    | ok a =>
        obtain ⟨t', host, port, n, ht', hparts, hport, -, -⟩ := parse_eq_ok_iff.mp hparse
        -- No part of a target outside brackets has room for a second colon.
        obtain rfl : t' = t := ht'.unique ht
        cases hparts with
        | bracketed => exact absurd rfl hfirst
        | bare _ hhost =>
            rw [List.count_eq_zero_of_not_mem hhost] at hcolons
            cases hcolons
        | withPort _ hhost =>
            rw [List.count_append, List.count_cons_self, List.count_eq_zero_of_not_mem hhost,
              List.count_eq_zero_of_not_mem (colon_notMem_of_denotesPort hport)] at hcolons
            omega

end Address
end GraphLink
