import GraphLink.Options.Security

/-! # What security does to a bag

    A security mode either refuses a bag or puts its values where there were none.  `Secured` says
    what the bag is afterwards, mode by mode, and `Contradicts` when it is refused; the two are all
    that can happen (`settle_cases`), and a bag that is refused is left as it was. -/

namespace GraphLink.Options

variable {security : Security} {o o' : Options} {fault : Fault}

/-- Whether a bag sets an option that the scheme settles. -/
def Contradicts (security : Security) (o : Options) : Prop :=
  security.isSecure = true
    ∧ (o.contains encryptedKey = true ∨ o.contains certificatesKey = true)

/-- `Secured o security o'`: the bag is `o'` after the mode has put its values into `o`. -/
inductive Secured (o : Options) : Security → Options → Prop where
  | plain : Secured o .plain o
  | verified (hencrypted : o.get? encryptedKey = none)
      (hcertificates : o.get? certificatesKey = none) :
      Secured o .verified (o.insert encryptedKey (.bool true))
  | selfSigned (hencrypted : o.get? encryptedKey = none)
      (hcertificates : o.get? certificatesKey = none) :
      Secured o .selfSigned
        ((o.insert encryptedKey (.bool true)).insert certificatesKey (.list []))

/-- A bag that contradicts a mode is refused, and left as it is. -/
theorem settle_of_contradicts (h : Contradicts security o) :
    settle security o = (.error .settledByScheme, o) := by
  obtain ⟨hsecure, hset⟩ := h
  rw [settle, if_pos hsecure, if_pos (Bool.or_eq_true_iff.mpr hset)]

/-- What is new is put in. -/
theorem insertNew_of_absent {key : String} (h : o.get? key = none) (value : Value) :
    (o.insertNew key value).2 = o.insert key value := by
  rw [insertNew, SortedMap.contains, h]
  rfl

/-- Where neither option is set, the values of the mode are put in as they are. -/
theorem settle_of_absent (hencrypted : o.get? encryptedKey = none)
    (hcertificates : o.get? certificatesKey = none) (security : Security) :
    ∃ o', settle security o = (.ok (), o') ∧ Secured o security o' := by
  have hunset : ¬ (o.contains encryptedKey || o.contains certificatesKey) = true := by
    rw [SortedMap.contains, SortedMap.contains, hencrypted, hcertificates]
    exact Bool.false_ne_true
  cases security with
  | plain => exact ⟨o, rfl, .plain⟩
  | verified =>
      have hsecure : Security.verified.isSecure = true := rfl
      refine ⟨o.insert encryptedKey (.bool true), ?_, .verified hencrypted hcertificates⟩
      rw [settle, if_pos hsecure, if_neg hunset, insertNew_of_absent hencrypted]
      rfl
  | selfSigned =>
      have hsecure : Security.selfSigned.isSecure = true := rfl
      have hstill : (o.insert encryptedKey (.bool true)).get? certificatesKey = none := by
        rw [SortedMap.get?_insert_of_ne o (by decide)]
        exact hcertificates
      refine ⟨_, ?_, .selfSigned hencrypted hcertificates⟩
      rw [settle, if_pos hsecure, if_neg hunset, insertNew_of_absent hencrypted,
        ← insertNew_of_absent hstill]
      rfl

/-- **A MODE REFUSES OR SECURES**: it refuses a bag that contradicts it and leaves it, and puts its
    values into every other one. -/
theorem settle_cases (security : Security) (o : Options) :
    (Contradicts security o ∧ settle security o = (.error .settledByScheme, o))
      ∨ (¬ Contradicts security o
        ∧ ∃ o', Secured o security o' ∧ settle security o = (.ok (), o')) := by
  by_cases h : Contradicts security o
  · exact .inl ⟨h, settle_of_contradicts h⟩
  · refine .inr ⟨h, ?_⟩
    by_cases hsecure : security.isSecure = true
    · have hunset := not_or.mp (fun hset => h ⟨hsecure, hset⟩)
      have habsent {key : String} (hkey : ¬ o.contains key = true) : o.get? key = none :=
        Option.not_isSome_iff_eq_none.mp hkey
      obtain ⟨o', hsettle, hsecured⟩ :=
        settle_of_absent (habsent hunset.1) (habsent hunset.2) security
      exact ⟨o', hsecured, hsettle⟩
    · cases security with
      | plain => exact ⟨o, .plain, rfl⟩
      | verified | selfSigned => exact absurd rfl hsecure

/-- A caller with a bag that contradicts the mode is told so. -/
theorem applySecurity_of_contradicts (h : Contradicts security o) :
    o.applySecurity security = .error .settledByScheme := by
  rw [applySecurity, settle_of_contradicts h]
  rfl

/-- A caller is given the secured bag, or the fault of one that contradicts the mode. -/
theorem applySecurity_cases (security : Security) (o : Options) :
    (Contradicts security o ∧ o.applySecurity security = .error .settledByScheme)
      ∨ (¬ Contradicts security o
        ∧ ∃ o', o.applySecurity security = .ok o' ∧ Secured o security o') := by
  obtain ⟨hcontra, -⟩ | ⟨hcontra, o', hsecured, hsettle⟩ := settle_cases security o
  · exact .inl ⟨hcontra, applySecurity_of_contradicts hcontra⟩
  · refine .inr ⟨hcontra, o', ?_, hsecured⟩
    rw [applySecurity, hsettle]
    rfl

/-- A bag that a caller goes on with is secured. -/
theorem secured_of_applySecurity (h : o.applySecurity security = .ok o') :
    Secured o security o' := by
  obtain ⟨-, hfault⟩ | ⟨-, o'', hok, hsecured⟩ := applySecurity_cases security o
  · rw [hfault] at h
    exact nomatch h
  · rw [hok] at h
    cases h
    exact hsecured

end GraphLink.Options
