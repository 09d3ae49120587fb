import GraphLink.Proofs.Config.Settings

/-! # Security takes hold as a whole or not at all

    A security mode first looks for the two options that it settles, and only then puts its values
    in, one after the other.  The bag is changed in place, so it has to be seen that nothing has
    changed when the mode refuses, and nothing but the two options when it does not
    (`Options.settle_cases`, `Options.Secured.get?_of_ne`).

    A bag that a mode has secured sets an option that every secure mode settles, so no mode secures
    it again.  For the layers that take from it the two values are as good as any that a caller
    could have given: they are admissible, and they reach two parts of the configuration. -/

namespace GraphLink

/-- What a security mode settles in the configuration of a layer. -/
def LayerConfig.secure (security : Security) : LayerConfig → LayerConfig
  | .pool c =>
      match security with
      | .plain => .pool c
      | .verified => .pool { c with encrypted := true, trust := .system }
      | .selfSigned => .pool { c with encrypted := true, trust := .all }
  | config => config

namespace DriverConfig

/-- The chain of the two layers of a driver, of which the pool's has what a mode settles. -/
theorem consumeChain_of_secured {security : Security} {o o' : Options}
    (h : Options.Secured o security o') :
    LayerName.consumeChain [.pool, .workspace] o'
      = (LayerName.consumeChain [.pool, .workspace] o).map
          (List.map (LayerConfig.secure security)) := by
  rw [consumeChain_eq, consumeChain_eq, consume_of_secured h]
  cases consume o with
  | error fault => rfl
  | ok c => cases security <;> rfl

end DriverConfig

namespace Options

variable {security again : Security} {o o' : Options} {key : String}

namespace Secured

/-- Nothing but the two options is changed. -/
theorem get?_of_ne (h : Secured o security o') (hencrypted : key ≠ encryptedKey)
    (hcertificates : key ≠ certificatesKey) : o'.get? key = o.get? key := by
  cases h with
  | plain => rfl
  | verified => exact SortedMap.get?_insert_of_ne o hencrypted _
  | selfSigned =>
      rw [SortedMap.get?_insert_of_ne _ hcertificates]
      exact SortedMap.get?_insert_of_ne o hencrypted _

/-- Every secure mode turns encryption on. -/
theorem get?_encryptedKey (h : Secured o security o') (hsecure : security.isSecure = true) :
    o'.get? encryptedKey = some (.bool true) := by
  cases h with
  | plain => cases hsecure
  | verified => exact SortedMap.get?_insert_self o _ _
  | selfSigned =>
      rw [SortedMap.get?_insert_of_ne _ (by decide)]
      exact SortedMap.get?_insert_self o _ _

/-- A mode with verified certificates says nothing of them. -/
theorem get?_certificatesKey_verified (h : Secured o .verified o') :
    o'.get? certificatesKey = none := by
  cases h with
  | verified _ hcertificates =>
      rw [SortedMap.get?_insert_of_ne o (by decide)]
      exact hcertificates

/-- A mode with certificates of the server's own trusts every certificate. -/
theorem get?_certificatesKey_selfSigned (h : Secured o .selfSigned o') :
    o'.get? certificatesKey = some (.list []) := by
  cases h with
  | selfSigned => exact SortedMap.get?_insert_self _ _ _

/-- What is secured contradicts every secure mode. -/
theorem contradicts (h : Secured o security o') (hsecure : security.isSecure = true)
    (hagain : again.isSecure = true) : Contradicts again o' := by
  refine ⟨hagain, .inl ?_⟩
  rw [SortedMap.contains, h.get?_encryptedKey hsecure]
  rfl

end Secured

/-- A bag contradicts a secure mode exactly if it has one of the two keys. -/
theorem contradicts_iff : Contradicts security o
    ↔ security.isSecure = true ∧ (encryptedKey ∈ o.keys ∨ certificatesKey ∈ o.keys) :=
  and_congr_right' (or_congr SortedMap.contains_iff SortedMap.contains_iff)

/-- **SECURITY TAKES HOLD AS A WHOLE OR NOT AT ALL.**  A mode refuses a bag exactly if it is secure
    and the bag has one of its two options, whatever the value; then the bag is left as it was.
    Otherwise the other options stay as they are, the two have the values of the mode, and no secure
    mode accepts the bag again.  A driver's configuration is then what it would have been, but for
    the two parts that the mode settles; and if there is none, it is for the same fault. -/
theorem settle_all_or_nothing (security : Security) (o : Options) :
    ((∃ fault, (settle security o).1 = .error fault)
        ↔ security.isSecure = true ∧ ("encrypted" ∈ o.keys ∨ "trusted_certificates" ∈ o.keys))
      ∧ (∀ fault, (settle security o).1 = .error fault →
          (settle security o).2 = o ∧ ∃ detail, fault.toError = .configuration detail)
      ∧ ∀ o', settle security o = (.ok (), o') →
          (∀ key, key ≠ "encrypted" → key ≠ "trusted_certificates" → o'.get? key = o.get? key)
            ∧ (security = .plain → o' = o)
            ∧ (security = .verified → o'.get? "encrypted" = some (.bool true)
                ∧ o'.get? "trusted_certificates" = none)
            ∧ (security = .selfSigned → o'.get? "encrypted" = some (.bool true)
                ∧ o'.get? "trusted_certificates" = some (.list []))
            ∧ (security.isSecure = true → ∀ again : Security, again.isSecure = true →
                settle again o' = (.error .settledByScheme, o'))
            ∧ LayerName.consumeChain [.pool, .workspace] o'
                = (LayerName.consumeChain [.pool, .workspace] o).map
                    (List.map (LayerConfig.secure security)) := by
  -- Either the bag contradicts the mode and stays, or it is secured.
  obtain ⟨hcontra, hsettle⟩ | ⟨hcontra, o', hsecured, hsettle⟩ := settle_cases security o
  · rw [hsettle]
    refine ⟨iff_of_true ⟨_, rfl⟩ (contradicts_iff.mp hcontra), ?_, ?_⟩
    · rintro fault ⟨⟩
      exact ⟨rfl, _, rfl⟩
    · intro o' h
      cases h
  · rw [hsettle]
    refine ⟨iff_of_false ?_ (fun h => hcontra (contradicts_iff.mpr h)), ?_, ?_⟩
    · rintro ⟨fault, h⟩
      cases h
    · intro fault h
      cases h
    -- A secured bag is described entry by entry, and it contradicts every secure mode.
    · rintro o' ⟨⟩
      refine ⟨fun key => hsecured.get?_of_ne, ?_, ?_, ?_, ?_,
        DriverConfig.consumeChain_of_secured hsecured⟩
      · rintro rfl
        cases hsecured
        rfl
      · rintro rfl
        exact ⟨hsecured.get?_encryptedKey rfl, hsecured.get?_certificatesKey_verified⟩
      · rintro rfl
        exact ⟨hsecured.get?_encryptedKey rfl, hsecured.get?_certificatesKey_selfSigned⟩
      · intro hsecure again hagain
        exact settle_of_contradicts (hsecured.contradicts hsecure hagain)

/-- A value of the wrong type contradicts a secure mode all the same. -/
example : settle .verified (SortedMap.ofList [("encrypted", .null), ("database", .string "d")])
    = (.error .settledByScheme,
        SortedMap.ofList [("encrypted", .null), ("database", .string "d")]) := by
  rfl

end Options
end GraphLink
