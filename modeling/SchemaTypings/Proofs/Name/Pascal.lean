import SchemaTypings.Name.Style
import SchemaTypings.Proofs.Name.Fresh

/-!
# Type names of type names

A type name is made of a text by cutting it into words, and may be made of a type name again. If the
text is all ASCII, its words are run together without a mark, so that they are found again where they
begin with a capital, and the second name is the first one. Any other character leaves an underscore in
the first name, where the second one finds the end of a word: the names are the same if and only if
nothing was left behind (`Name.pascal_pascal_eq_iff`).
-/

namespace SchemaTypings

namespace Text

/-- What holds of all ASCII characters is found by looking at each of them. -/
theorem forall_ascii {P : Char → Prop} (h : ∀ n : Fin 128, P (Char.ofNat n)) {c : Char}
    (hc : isAscii c = true) : P c := by
  have hlt : c.toNat < 128 := by simpa [isAscii] using hc
  have hself : Char.ofNat c.toNat = c := Char.ofNat_toNat c
  exact hself ▸ h ⟨c.toNat, hlt⟩

theorem isAscii_of_isAlphanum {c : Char} (h : c.isAlphanum = true) : isAscii c = true := by
  change ((decide ('A'.val ≤ c.val ∧ c.val ≤ 'Z'.val)
    || decide ('a'.val ≤ c.val) && decide (c.val ≤ 'z'.val))
    || decide ('0'.val ≤ c.val) && decide (c.val ≤ '9'.val)) = true at h
  simp only [Bool.or_eq_true, Bool.and_eq_true, decide_eq_true_eq, UInt32.le_iff_toNat_le] at h
  have hval : c.toNat = c.val.toNat := rfl
  have hZ : 'Z'.val.toNat = 90 := rfl
  have hz : 'z'.val.toNat = 122 := rfl
  have h9 : '9'.val.toNat = 57 := rfl
  simp only [isAscii, decide_eq_true_eq]
  omega

theorem isLower_iff {c : Char} : c.isLower = true ↔ 97 ≤ c.toNat ∧ c.toNat ≤ 122 := by
  change (decide ('a'.val ≤ c.val) && decide (c.val ≤ 'z'.val)) = true ↔ _
  simp [UInt32.le_iff_toNat_le, ← Char.toNat_val]

theorem isLower_ofNat {n : Nat} (h : n < 97 ∨ 122 < n) : (Char.ofNat n).isLower = false := by
  have htoNat : (Char.ofNat n).toNat = n ∨ (Char.ofNat n).toNat = 0 := by
    by_cases hvalid : n.isValidChar
    · exact Or.inl (congrArg Char.toNat (dif_pos hvalid))
    · exact Or.inr (congrArg Char.toNat (dif_neg hvalid))
  rw [← Bool.not_eq_true, isLower_iff]
  omega

/-- The upper case of a character begins with no small ASCII letter. The tables are read once: no entry
leads to one. -/
theorem upperOf_eq_cons (c : Char) : ∃ first rest, upperOf c = first :: rest ∧ first.isLower = false := by
  have hexpansions : upperExpansions.all (fun entry =>
      !entry.2.isEmpty && entry.2.all fun point => point < 97 || 122 < point) = true := by decide +kernel
  have hshifts : upperShifts.all (fun shift => decide (122 < (shift.run.first : Int) + shift.distance)
      || decide ((shift.run.last : Int) + shift.distance < 97)) = true := by decide +kernel
  unfold upperOf
  split
  · rename_i hascii
    exact ⟨c.toUpper, [], rfl, forall_ascii (P := fun c => c.toUpper.isLower = false)
      (by decide +kernel) hascii⟩
  · rename_i hascii
    split
    · rename_i points hlookup
      obtain ⟨before, after, hsplit, -⟩ := List.lookup_eq_some_iff.mp hlookup
      rw [hsplit] at hexpansions
      simp only [List.all_append, List.all_cons, Bool.and_eq_true] at hexpansions
      obtain ⟨-, ⟨hpoints, hsmall⟩, -⟩ := hexpansions
      cases points with
      | nil => simp at hpoints
      | cons point rest =>
        simp only [List.all_cons, Bool.and_eq_true, Bool.or_eq_true, decide_eq_true_eq] at hsmall
        exact ⟨_, _, rfl, isLower_ofNat hsmall.1⟩
    · refine ⟨_, [], rfl, ?_⟩
      unfold CaseShift.shifted?
      cases hfind : upperShifts.find? fun shift => shift.run.contains c.toNat with
      | none =>
        have hc : ¬c.toNat < 128 := by simpa [isAscii] using hascii
        rw [Option.map_none, Option.getD_none, ← Bool.not_eq_true, isLower_iff]
        omega
      | some shift =>
        have hmem := List.mem_of_find?_eq_some hfind
        have hcontains := List.find?_some hfind
        have hrun := CodePointRun.contains_iff.mp hcontains
        have hshift := List.all_eq_true.mp hshifts shift hmem
        simp only [Bool.or_eq_true, decide_eq_true_eq] at hshift
        rw [Option.map_some, Option.getD_some]
        exact isLower_ofNat (by omega)

theorem upperOf_of_isAscii {c : Char} (h : isAscii c = true) : upperOf c = [c.toUpper] := by
  rw [upperOf, if_pos h]

/-- A capital or a digit begins a word as it is. -/
theorem capitalize_eq_self {c : Char} (hascii : isAscii c = true) (hsmall : c.isLower = false)
    (rest : List Char) : capitalize (c :: rest) = c :: rest := by
  have htoUpper : c.toUpper = c :=
    forall_ascii (P := fun c => c.isLower = false → c.toUpper = c) (by decide +kernel) hascii hsmall
  rw [capitalize, upperOf_of_isAscii hascii, htoUpper, List.singleton_append]

end Text

namespace Name

open Text

/-! ## Words of letters and digits -/

theorem eq_of_mem_closeWord {word found : List Char} (h : found ∈ closeWord word) :
    found ≠ [] ∧ found = word := by
  unfold closeWord at h
  split at h
  · cases h
  · rename_i hempty
    obtain rfl := List.mem_singleton.mp h
    exact ⟨by simpa using hempty, rfl⟩

/-- Words are not empty, and made of letters and digits of the text. -/
theorem mem_wordsAfter {word cs found : List Char} {hump : Bool}
    (h : found ∈ wordsAfter word hump cs) :
    found ≠ [] ∧ ∀ c ∈ found, c ∈ word ∨ c ∈ cs ∧ isAlphanumeric c = true := by
  induction cs generalizing word hump with
  | nil =>
    obtain ⟨hne, rfl⟩ := eq_of_mem_closeWord h
    exact ⟨hne, fun c hc => Or.inl hc⟩
  | cons first rest ih =>
    have hlater : ∀ c, c ∈ rest ∧ isAlphanumeric c = true →
        c ∈ first :: rest ∧ isAlphanumeric c = true := fun c hc => ⟨List.mem_cons_of_mem _ hc.1, hc.2⟩
    rw [wordsAfter] at h
    split at h
    · rcases List.mem_append.mp h with h | h
      · obtain ⟨hne, rfl⟩ := eq_of_mem_closeWord h
        exact ⟨hne, fun c hc => Or.inl hc⟩
      · obtain ⟨hne, hfound⟩ := ih h
        exact ⟨hne, fun c hc => Or.inr (hlater c ((hfound c hc).resolve_left List.not_mem_nil))⟩
    · rename_i hmark
      have hfirst : isAlphanumeric first = true := by simpa using hmark
      have hhere : first ∈ first :: rest ∧ isAlphanumeric first = true := ⟨List.mem_cons_self, hfirst⟩
      split at h
      · rename_i hbegins
        rcases List.mem_cons.mp h with rfl | h
        · simp only [Bool.and_eq_true, Bool.not_eq_true', List.isEmpty_eq_false_iff] at hbegins
          exact ⟨hbegins.2, fun c hc => Or.inl hc⟩
        · obtain ⟨hne, hfound⟩ := ih h
          refine ⟨hne, fun c hc => Or.inr ?_⟩
          rcases hfound c hc with hc | hc
          · exact List.mem_singleton.mp hc ▸ hhere
          · exact hlater c hc
      · obtain ⟨hne, hfound⟩ := ih h
        refine ⟨hne, fun c hc => ?_⟩
        rcases hfound c hc with hc | hc
        · rcases List.mem_append.mp hc with hc | hc
          · exact Or.inl hc
          · exact Or.inr (List.mem_singleton.mp hc ▸ hhere)
        · exact Or.inr (hlater c hc)

theorem capitalize_append {word : List Char} (h : word ≠ []) (rest : List Char) :
    capitalize (word ++ rest) = capitalize word ++ rest := by
  cases word with
  | nil => exact absurd rfl h
  | cons first others => simp [capitalize]

theorem flatMap_capitalize_closeWord (word : List Char) :
    (closeWord word).flatMap capitalize = capitalize word := by
  unfold closeWord
  cases word <;> simp [capitalize]

/-- What the words after the characters of a first one run together to begins with that. -/
theorem exists_flatMap_capitalize_wordsAfter (word : List Char) (hump : Bool) (cs : List Char) :
    ∃ rest, (wordsAfter word hump cs).flatMap capitalize = capitalize word ++ rest := by
  induction cs generalizing word hump with
  | nil => exact ⟨[], by rw [wordsAfter, flatMap_capitalize_closeWord, List.append_nil]⟩
  | cons c cs ih =>
    rw [wordsAfter]
    split
    · exact ⟨(wordsAfter [] false cs).flatMap capitalize, by
        rw [List.flatMap_append, flatMap_capitalize_closeWord]⟩
    · split
      · exact ⟨(wordsAfter [c] (endsHump c) cs).flatMap capitalize, List.flatMap_cons⟩
      · obtain ⟨rest, hrest⟩ := ih (word ++ [c]) (endsHump c)
        cases word with
        | nil => exact ⟨_, hrest⟩
        | cons first others =>
          rw [capitalize_append (List.cons_ne_nil _ _), List.append_assoc] at hrest
          exact ⟨_, hrest⟩

/-- Letters and digits without a mark between them make words that run together again, the first of which is
given its capital, up to a last word that what follows them may go on with. -/
theorem flatMap_capitalize_wordsAfter_append {cs : List Char} (h : cs.all (·.isAlphanum) = true)
    (word : List Char) (hump : Bool) (rest : List Char) : ∃ before last next,
      (wordsAfter word hump (cs ++ rest)).flatMap capitalize =
        before ++ (wordsAfter last next rest).flatMap capitalize ∧
      before ++ capitalize last = capitalize (word ++ cs) := by
  induction cs generalizing word hump with
  | nil => exact ⟨[], word, hump, rfl, by simp⟩
  | cons c cs ih =>
    rw [List.all_cons, Bool.and_eq_true] at h
    obtain ⟨hc, hcs⟩ := h
    have hascii := isAscii_of_isAlphanum hc
    rw [List.cons_append, wordsAfter, isAlphanumeric_of_isAscii hascii, hc, if_neg (by simp)]
    split
    · rename_i hbegins
      simp only [Bool.and_eq_true, Bool.not_eq_true', List.isEmpty_eq_false_iff] at hbegins
      obtain ⟨⟨hupper, -⟩, hword⟩ := hbegins
      have hsmall : c.isLower = false := by
        rw [isUppercase, if_pos hascii] at hupper
        exact forall_ascii (P := fun c => c.isUpper = true → c.isLower = false) (by decide +kernel)
          hascii hupper
      obtain ⟨before, last, next, hwords, hlast⟩ := ih hcs [c] (endsHump c)
      refine ⟨capitalize word ++ before, last, next, ?_, ?_⟩
      · rw [List.flatMap_cons, hwords, List.append_assoc]
      · rw [List.append_assoc, hlast, List.singleton_append, capitalize_eq_self hascii hsmall,
          capitalize_append hword]
    · obtain ⟨before, last, next, hwords, hlast⟩ := ih hcs (word ++ [c]) (endsHump c)
      exact ⟨before, last, next, hwords, by rw [hlast, List.append_assoc, List.singleton_append]⟩

/-- Letters and digits without a mark between them make words that run together again, the first of
which is given its capital. -/
theorem flatMap_capitalize_wordsAfter {cs : List Char} (h : cs.all (·.isAlphanum) = true)
    (word : List Char) (hump : Bool) :
    (wordsAfter word hump cs).flatMap capitalize = capitalize (word ++ cs) := by
  obtain ⟨before, last, next, hwords, hlast⟩ := flatMap_capitalize_wordsAfter_append h word hump []
  rw [List.append_nil, wordsAfter, flatMap_capitalize_closeWord, hlast] at hwords
  exact hwords

theorem flatMap_capitalize_words {cs : List Char} (h : cs.all (·.isAlphanum) = true) :
    (words cs).flatMap capitalize = capitalize cs :=
  flatMap_capitalize_wordsAfter h [] false

/-! ## Settled names -/

/-- The name is made of letters and digits, but for an underscore that stands alone or in front of a
digit, where a name needs one. -/
def isSettledChars : List Char → Bool
  | '_' :: rest => rest.all (·.isAlphanum) && rest.head?.all (·.isDigit)
  | cs => cs.all (·.isAlphanum)

def isSettled (name : String) : Bool :=
  isSettledChars name.toList

theorem identifierChar_of_isAlphanum {c : Char} (h : c.isAlphanum = true) : identifierChar c = c :=
  forall_ascii (P := fun c => c.isAlphanum = true → identifierChar c = c) (by decide +kernel)
    (isAscii_of_isAlphanum h) h

theorem map_identifierChar {cs : List Char} (h : cs.all (·.isAlphanum) = true) :
    cs.map identifierChar = cs := by
  have hsame : cs.map identifierChar = cs.map id :=
    List.map_congr_left fun c hc => identifierChar_of_isAlphanum (List.all_eq_true.mp h c hc)
  rw [hsame, List.map_id]

theorem isSettledChars_of_all {cs : List Char} (h : cs.all (·.isAlphanum) = true) :
    isSettledChars cs = true := by
  unfold isSettledChars
  split
  · rw [List.all_cons, Bool.and_eq_true] at h
    exact absurd h.1 (by decide)
  · exact h

/-- Letters and digits are settled once the start is guarded. -/
theorem isSettledChars_guardStart {cs : List Char} (h : cs.all (·.isAlphanum) = true) :
    isSettledChars (guardStart cs) = true := by
  cases cs with
  | nil => rfl
  | cons c rest =>
    rw [guardStart]
    split
    · exact isSettledChars_of_all h
    · rename_i hstart
      have hc := (Bool.and_eq_true _ _ ▸ (List.all_cons ▸ h : _)).1
      have hdigit : c.isDigit = true := by
        simp only [Char.isAlphanum, Bool.or_eq_true, not_or] at hc hstart
        exact hc.resolve_left hstart.1
      simp [isSettledChars, h, hdigit]

/-- The type name of an ASCII text is settled. -/
theorem isSettled_pascal_of_ascii {name : String} (h : name.toList.all isAscii = true) :
    isSettled (pascal name) = true := by
  have hwords : ((words name.toList).flatMap capitalize).all (·.isAlphanum) = true := by
    rw [List.all_eq_true]
    intro c hc
    obtain ⟨word, hword, hc⟩ := List.mem_flatMap.mp hc
    obtain ⟨-, hfound⟩ := mem_wordsAfter hword
    have halphanum : ∀ d ∈ word, isAscii d = true ∧ d.isAlphanum = true := by
      intro d hd
      obtain ⟨hmem, hd⟩ := (hfound d hd).resolve_left List.not_mem_nil
      have hascii := List.all_eq_true.mp h d hmem
      exact ⟨hascii, isAlphanumeric_of_isAscii hascii ▸ hd⟩
    cases word with
    | nil => cases hc
    | cons first rest =>
      obtain ⟨hascii, hfirst⟩ := halphanum first List.mem_cons_self
      rw [capitalize, upperOf_of_isAscii hascii] at hc
      rcases List.mem_append.mp hc with hc | hc
      · rw [List.mem_singleton.mp hc]
        exact forall_ascii (P := fun c => c.isAlphanum = true → c.toUpper.isAlphanum = true)
          (by decide +kernel) hascii hfirst
      · exact (halphanum c (List.mem_cons_of_mem _ hc)).2
  rw [isSettled, pascal, String.toList_ofList, pascalChars, sanitizeChars, map_identifierChar hwords]
  exact isSettledChars_guardStart hwords

theorem isAscii_of_continuesIdentifier {c : Char} (h : continuesIdentifier c = true) :
    isAscii c = true := by
  simp only [continuesIdentifier, startsIdentifier, Bool.or_eq_true, beq_iff_eq] at h
  rcases h with ((h | rfl) | rfl) | h
  · exact isAscii_of_isAlphanum (by simp [Char.isAlphanum, h])
  · decide
  · decide
  · exact isAscii_of_isAlphanum (by simp [Char.isAlphanum, h])

theorem all_isAscii_pascal (name : String) : (pascal name).toList.all isAscii = true := by
  have hidentifier := isIdentifier_pascal name
  rw [isIdentifier] at hidentifier
  rw [List.all_eq_true]
  intro c hc
  cases hname : (pascal name).toList with
  | nil => simp [hname] at hc
  | cons first rest =>
    rw [hname, isIdentifierChars, Bool.and_eq_true] at hidentifier
    rw [hname] at hc
    refine isAscii_of_continuesIdentifier ?_
    rcases List.mem_cons.mp hc with rfl | hc
    · simp [continuesIdentifier, hidentifier.1]
    · exact List.all_eq_true.mp hidentifier.2 c hc

/-- The words of a text run together do not begin with a small letter. -/
theorem head_flatMap_capitalize {cs rest : List Char} {first : Char}
    (h : (words cs).flatMap capitalize = first :: rest) : first.isLower = false := by
  cases hwords : words cs with
  | nil => simp [hwords] at h
  | cons word others =>
    obtain ⟨hne, -⟩ := mem_wordsAfter (show word ∈ wordsAfter [] false cs by
      rw [← words, hwords]; exact List.mem_cons_self)
    cases word with
    | nil => exact absurd rfl hne
    | cons c tail =>
      obtain ⟨begin, more, hupper, hsmall⟩ := upperOf_eq_cons c
      rw [hwords, List.flatMap_cons, capitalize, hupper] at h
      obtain rfl := (List.cons.inj h).1
      exact hsmall

/-- A type name begins with a capital or with an underscore. -/
theorem head_pascal (name : String) : ∃ first rest, (pascal name).toList = first :: rest ∧
    first.isLower = false ∧ first.isDigit = false := by
  rw [pascal, String.toList_ofList, pascalChars, sanitizeChars]
  cases hchars : (words name.toList).flatMap capitalize with
  | nil => exact ⟨'_', [], rfl, by decide, by decide⟩
  | cons c rest =>
    rw [List.map_cons, guardStart]
    split
    · rename_i hstart
      refine ⟨_, _, rfl, ?_, ?_⟩
      · unfold identifierChar
        split
        · exact head_flatMap_capitalize hchars
        · decide
      · rw [Bool.or_eq_true, beq_iff_eq] at hstart
        rcases hstart with hletter | hmark
        · have hascii := isAscii_of_isAlphanum (c := identifierChar c) (by
            simp [Char.isAlphanum, hletter])
          exact forall_ascii (P := fun c => c.isAlpha = true → c.isDigit = false) (by decide +kernel)
            hascii hletter
        · rw [hmark]
          decide
    · exact ⟨'_', _, rfl, by decide, by decide⟩

theorem pascalChars_of_all {cs : List Char} (h : cs.all (·.isAlphanum) = true)
    (hsmall : ∀ first, cs.head? = some first → first.isLower = false) :
    pascalChars cs = guardStart cs := by
  have hcapital : capitalize cs = cs := by
    cases cs with
    | nil => rfl
    | cons first rest =>
      rw [List.all_cons, Bool.and_eq_true] at h
      exact capitalize_eq_self (isAscii_of_isAlphanum h.1) (hsmall first rfl) rest
  rw [pascalChars, flatMap_capitalize_words h, hcapital, sanitizeChars, map_identifierChar h]

/-- A settled name that begins like a type name is its own type name. -/
theorem pascalChars_of_isSettledChars {first : Char} {rest : List Char}
    (hsettled : isSettledChars (first :: rest) = true) (hsmall : first.isLower = false)
    (hdigit : first.isDigit = false) : pascalChars (first :: rest) = first :: rest := by
  unfold isSettledChars at hsettled
  split at hsettled
  · rename_i tail hname
    obtain ⟨rfl, rfl⟩ := List.cons.inj hname
    rw [Bool.and_eq_true] at hsettled
    obtain ⟨hall, hhead⟩ := hsettled
    -- the underscore ends an empty word, so the words are those of the rest
    have hwords : pascalChars ('_' :: rest) = pascalChars rest := rfl
    have hdigits : ∀ d, rest.head? = some d → d.isDigit = true := by
      intro d hd
      rw [hd] at hhead
      exact hhead
    have hsmalls : ∀ d, rest.head? = some d → d.isLower = false := by
      intro d hd
      have halphanum : d.isAlphanum = true := by simp [Char.isAlphanum, hdigits d hd]
      exact forall_ascii (P := fun d => d.isDigit = true → d.isLower = false) (by decide +kernel)
        (isAscii_of_isAlphanum halphanum) (hdigits d hd)
    rw [hwords, pascalChars_of_all hall hsmalls]
    cases rest with
    | nil => rfl
    | cons d tail =>
      have hd := hdigits d rfl
      have hascii := isAscii_of_isAlphanum (c := d) (by simp [Char.isAlphanum, hd])
      have hguard : ¬(d.isAlpha || d == '_') = true :=
        forall_ascii (P := fun d => d.isDigit = true → ¬(d.isAlpha || d == '_') = true)
          (by decide +kernel) hascii hd
      rw [guardStart, if_neg hguard]
  · have hsmalls : ∀ c, (first :: rest).head? = some c → c.isLower = false := by
      rintro c ⟨⟩
      exact hsmall
    rw [pascalChars_of_all hsettled hsmalls]
    rw [List.all_cons, Bool.and_eq_true] at hsettled
    have hletter : first.isAlpha = true := by
      simpa [Char.isAlphanum, hdigit] using hsettled.1
    rw [guardStart, if_pos (by simp [hletter])]

theorem pascal_eq_self {name : String} {first : Char} {rest : List Char}
    (hname : name.toList = first :: rest) (hsmall : first.isLower = false)
    (hdigit : first.isDigit = false) (hsettled : isSettled name = true) : pascal name = name := by
  rw [isSettled, hname] at hsettled
  rw [pascal, hname, pascalChars_of_isSettledChars hsettled hsmall hdigit, ← hname,
    String.ofList_toList]

/-- The type name of a type name is the same again if and only if it is settled. -/
theorem pascal_pascal_eq_iff (name : String) :
    pascal (pascal name) = pascal name ↔ isSettled (pascal name) = true := by
  constructor
  · intro hsame
    rw [← hsame]
    exact isSettled_pascal_of_ascii (all_isAscii_pascal name)
  · intro hsettled
    obtain ⟨first, rest, hname, hsmall, hdigit⟩ := head_pascal name
    exact pascal_eq_self hname hsmall hdigit hsettled

/-- The type name of an ASCII text is its own type name. -/
theorem pascal_pascal_of_ascii {name : String} (h : name.toList.all isAscii = true) :
    pascal (pascal name) = pascal name :=
  (pascal_pascal_eq_iff name).mpr (isSettled_pascal_of_ascii h)

/-! ## Fresh names -/

theorem isDigit_of_mem_repr {number : Nat} {c : Char} (h : c ∈ number.repr.toList) :
    c.isDigit = true := by
  rw [Nat.toList_repr] at h
  exact Nat.isDigit_of_mem_toDigits (by decide) (by decide) h

theorem all_isAscii_repr (number : Nat) : number.repr.toList.all isAscii = true := by
  rw [List.all_eq_true]
  intro c hc
  exact isAscii_of_isAlphanum (by simp [Char.isAlphanum, isDigit_of_mem_repr hc])

theorem isSettledChars_append {first : Char} {rest digits : List Char}
    (h : isSettledChars (first :: rest) = true) (hdigits : ∀ c ∈ digits, c.isDigit = true) :
    isSettledChars (first :: rest ++ digits) = true := by
  have halphanum : digits.all (·.isAlphanum) = true := by
    rw [List.all_eq_true]
    intro c hc
    simp [Char.isAlphanum, hdigits c hc]
  unfold isSettledChars at h
  split at h
  · rename_i tail hname
    obtain ⟨rfl, rfl⟩ := List.cons.inj hname
    rw [Bool.and_eq_true] at h
    have hhead : (rest ++ digits).head?.all (·.isDigit) = true := by
      cases rest with
      | nil =>
        cases digits with
        | nil => rfl
        | cons digit others => exact hdigits digit List.mem_cons_self
      | cons digit others => exact h.2
    rw [List.cons_append, isSettledChars, List.all_append, h.1, halphanum, hhead]
    rfl
  · apply isSettledChars_of_all
    rw [List.all_append, h, halphanum]
    rfl

/-- A fresh name made of the type name of an ASCII text is its own type name, numbered or not. -/
theorem pascal_fresh {base : String} (h : base.toList.all isAscii = true) (taken : List String) :
    pascal (fresh "" taken (pascal base)) = fresh "" taken (pascal base) := by
  obtain ⟨position, hfresh, -, -⟩ := fresh_eq_candidate "" (pascal base) taken
  rw [hfresh, candidate]
  split
  · exact pascal_pascal_of_ascii h
  · obtain ⟨first, rest, hname, hsmall, hdigit⟩ := head_pascal base
    have hnumbered : (numbered "" (pascal base) (position + 1)).toList =
        first :: rest ++ (position + 1).repr.toList := by
      rw [toList_numbered, hname]
      rfl
    have hsettled := isSettled_pascal_of_ascii h
    rw [isSettled, hname] at hsettled
    refine pascal_eq_self hnumbered hsmall hdigit ?_
    rw [isSettled, hnumbered]
    exact isSettledChars_append hsettled fun c hc => isDigit_of_mem_repr hc

example : pascal (pascal "größe") = "GrE" ∧ pascal "größe" = "Gr__e" := by decide +kernel

/-! ## Texts that begin with a type name -/

/-- The type name of a text that begins with a type name of letters and digits begins with that. -/
theorem pascal_prefix_pascal_append {name : String} (hall : (pascal name).toList.all (·.isAlphanum) = true)
    (rest : String) : (pascal name).toList <+: (pascal (pascal name ++ rest)).toList := by
  obtain ⟨first, others, hname, hsmall, hdigit⟩ := head_pascal name
  rw [hname] at hall ⊢
  obtain ⟨before, last, next, hwords, hlast⟩ :=
    flatMap_capitalize_wordsAfter_append hall [] false rest.toList
  obtain ⟨after, hafter⟩ := exists_flatMap_capitalize_wordsAfter last next rest.toList
  have halphanum := hall
  rw [List.all_cons, Bool.and_eq_true] at halphanum
  have hletter : first.isAlpha = true := by
    simpa [Char.isAlphanum, hdigit] using halphanum.1
  have hcapital : capitalize (first :: others) = first :: others :=
    capitalize_eq_self (isAscii_of_isAlphanum halphanum.1) hsmall others
  refine ⟨after.map identifierChar, ?_⟩
  rw [pascal, String.toList_ofList, String.toList_append, hname, pascalChars, words, hwords, hafter,
    ← List.append_assoc, hlast, List.nil_append, hcapital, sanitizeChars, List.map_append,
    map_identifierChar hall, List.cons_append, guardStart, if_pos (by simp [hletter])]

theorem prefix_fresh (mark base : String) (taken : List String) :
    base.toList <+: (fresh mark taken base).toList := by
  obtain ⟨position, hfresh, -, -⟩ := fresh_eq_candidate mark base taken
  rw [hfresh, candidate]
  split
  · exact List.prefix_rfl
  · rw [toList_numbered]
    exact List.prefix_append _ _

end Name

end SchemaTypings
