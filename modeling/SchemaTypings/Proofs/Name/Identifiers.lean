import SchemaTypings.Name.Pointer
import SchemaTypings.Proofs.Name.Fresh
import SchemaTypings.Proofs.Name.Pascal

/-!
# Names that are identifiers

Type names, value names, the names of references, and what is made fresh of an identifier are identifiers.
-/

namespace SchemaTypings.Name

variable {text tail : String}

theorem isIdentifierChars_append {cs rest : List Char} (h : isIdentifierChars cs = true)
    (hrest : rest.all continuesIdentifier = true) : isIdentifierChars (cs ++ rest) = true := by
  cases cs with
  | nil => cases h
  | cons first others =>
    rw [isIdentifierChars, Bool.and_eq_true] at h
    rw [List.cons_append, isIdentifierChars, List.all_append, h.1, h.2, hrest]
    rfl

theorem isIdentifier_append (h : isIdentifier text = true)
    (htail : tail.toList.all continuesIdentifier = true) : isIdentifier (text ++ tail) = true := by
  rw [isIdentifier, String.toList_append]
  exact isIdentifierChars_append h htail

theorem all_continuesIdentifier (h : isIdentifier text = true) :
    text.toList.all continuesIdentifier = true := by
  rw [isIdentifier] at h
  cases hchars : text.toList with
  | nil => rfl
  | cons first rest =>
    rw [hchars, isIdentifierChars, Bool.and_eq_true] at h
    rw [List.all_cons, h.2, continuesIdentifier, h.1]
    rfl

theorem isIdentifier_sanitize (text : String) : isIdentifier (sanitize text) = true := by
  rw [isIdentifier, sanitize, String.toList_ofList]
  exact isIdentifierChars_sanitizeChars text.toList

theorem isIdentifier_numbered {mark base : String} (hmark : mark.toList.all continuesIdentifier = true)
    (h : isIdentifier base = true) (number : Nat) : isIdentifier (numbered mark base number) = true := by
  have hdigits : number.repr.toList.all continuesIdentifier = true := by
    rw [List.all_eq_true]
    intro c hc
    rw [continuesIdentifier, isDigit_of_mem_repr hc, Bool.or_true]
  rw [isIdentifier, toList_numbered]
  refine isIdentifierChars_append h ?_
  rw [List.all_append, hmark, hdigits]
  rfl

theorem isIdentifier_fresh {mark base : String} (hmark : mark.toList.all continuesIdentifier = true)
    (h : isIdentifier base = true) (taken : List String) : isIdentifier (fresh mark taken base) = true := by
  obtain ⟨position, hfresh, -⟩ := fresh_eq_candidate mark base taken
  rw [hfresh, candidate]
  split
  · exact h
  · exact isIdentifier_numbered hmark h _

theorem isIdentifier_camel (text : String) : isIdentifier (camel text) = true := by
  have hpascal : isIdentifierChars (pascalChars text.toList) = true := isIdentifierChars_sanitizeChars _
  unfold camel
  split
  · rename_i rest hchars
    rw [isIdentifier, String.toList_ofList, ← hchars]
    exact hpascal
  · rw [isIdentifier, String.toList_ofList]
    cases hchars : pascalChars text.toList with
    | nil =>
      rw [hchars] at hpascal
      cases hpascal
    | cons first rest =>
      rw [hchars, isIdentifierChars, Bool.and_eq_true] at hpascal
      have hascii : Text.isAscii first = true := isAscii_of_continuesIdentifier (by
        simp [continuesIdentifier, hpascal.1])
      have hlower : startsIdentifier first.toLower = true :=
        Text.forall_ascii (P := fun c => startsIdentifier c = true → startsIdentifier c.toLower = true)
          (by decide +kernel) hascii hpascal.1
      rw [Text.uncapitalize, Text.lowerOf, if_pos hascii, List.singleton_append, isIdentifierChars,
        hlower, hpascal.2]
      rfl

theorem isIdentifier_ofReference (reference : String) : isIdentifier (ofReference reference) = true :=
  isIdentifier_pascal _

theorem isIdentifier_ofPointer (reference : String) : isIdentifier (ofPointer reference) = true := by
  unfold ofPointer
  split
  · exact isIdentifier_ofReference reference
  · exact isIdentifier_sanitize _

/-! ## Beginnings -/

theorem head?_guardStart (cs : List Char) : (guardStart cs).head? ≠ some '$' := by
  cases cs with
  | nil => decide
  | cons c rest =>
    by_cases hguard : (c.isAlpha || c == '_') = true
    · rw [guardStart, if_pos hguard]
      rintro ⟨⟩
      exact absurd hguard (by decide)
    · rw [guardStart, if_neg hguard]
      simp

/-- The text is an identifier that does not begin with a dollar sign. -/
structure IsPlain (text : String) : Prop where
  isIdentifier : isIdentifier text = true
  head? : text.toList.head? ≠ some '$'

theorem isPlain_sanitize (text : String) : IsPlain (sanitize text) where
  isIdentifier := isIdentifier_sanitize text
  head? := by
    rw [sanitize, String.toList_ofList]
    exact head?_guardStart _

theorem isPlain_pascal (text : String) : IsPlain (pascal text) where
  isIdentifier := isIdentifier_pascal text
  head? := by
    rw [pascal, String.toList_ofList]
    exact head?_guardStart _

/-- A small letter is that of no dollar sign. -/
theorem isPlain_camel (text : String) : IsPlain (camel text) where
  isIdentifier := isIdentifier_camel text
  head? := by
    have hpascal := (isPlain_pascal text).head?
    rw [pascal, String.toList_ofList] at hpascal
    unfold camel
    split
    · simp
    · rw [String.toList_ofList]
      cases hchars : pascalChars text.toList with
      | nil => simp [Text.uncapitalize]
      | cons first rest =>
        have hidentifier : isIdentifierChars (first :: rest) = true :=
          hchars ▸ isIdentifierChars_sanitizeChars _
        rw [isIdentifierChars, Bool.and_eq_true] at hidentifier
        have hascii : Text.isAscii first = true := isAscii_of_continuesIdentifier (by
          simp [continuesIdentifier, hidentifier.1])
        have hlower : first.toLower = '$' → first = '$' :=
          Text.forall_ascii (P := fun c => c.toLower = '$' → c = '$') (by decide +kernel) hascii
        rw [hchars] at hpascal
        rw [Text.uncapitalize, Text.lowerOf, if_pos hascii, List.singleton_append]
        rintro hdollar
        exact hpascal (congrArg some (hlower (Option.some.inj hdollar)))

theorem isPlain_ofReference (reference : String) : IsPlain (ofReference reference) :=
  isPlain_pascal _

theorem isPlain_ofPointer (reference : String) : IsPlain (ofPointer reference) := by
  unfold ofPointer
  split
  · exact isPlain_ofReference reference
  · exact isPlain_sanitize _

end SchemaTypings.Name
