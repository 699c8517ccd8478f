import SchemaTypings.Proofs.Name.Pascal

/-!
# Spellings of a name

A list of plain words has many spellings: `user_profile`, `user-profile`, `userProfile`, `UserProfile`. In
each of them a word is set off from the one before it by a run of characters that stand in no word, by its
capital, or by both. All of them give one type name, though capitals next to each other are found in one
word; they give one constant name if every word has at least two characters (`Name.spellings_agree`).
-/

namespace SchemaTypings

namespace Text

theorem isAlphanumeric_of_isAlphanum {c : Char} (h : c.isAlphanum = true) : isAlphanumeric c = true := by
  rw [isAlphanumeric_of_isAscii (isAscii_of_isAlphanum h), h]

theorem uppercase_of_all_isAlphanum {cs : List Char} (h : cs.all (·.isAlphanum) = true) :
    uppercase cs = cs.map Char.toUpper := by
  rw [uppercase, List.map_eq_flatMap]
  exact List.flatMap_congr fun c hc =>
    upperOf_of_isAscii (isAscii_of_isAlphanum (List.all_eq_true.mp h c hc))

end Text

namespace Name

open Text

/-! ## Capitals and small characters -/

/-- A capital of ASCII: it begins a word where a hump ends. -/
structure IsCapital (c : Char) : Prop where
  isAlpha : c.isAlpha = true
  isUppercase : isUppercase c = true
  isLower : c.isLower = false

/-- A small letter or a digit of ASCII: it begins no word behind another, and ends a hump. -/
structure IsSmall (c : Char) : Prop where
  isAlphanum : c.isAlphanum = true
  isUppercase : isUppercase c = false
  endsHump : endsHump c = true

theorem isSmall_of_isLower_or_isDigit {c : Char} (h : (c.isLower || c.isDigit) = true) : IsSmall c := by
  have halphanum : c.isAlphanum = true := by
    change ((c.isUpper || c.isLower) || c.isDigit) = true
    rw [Bool.or_assoc, h, Bool.or_true]
  have hascii := isAscii_of_isAlphanum halphanum
  exact {
    isAlphanum := halphanum
    isUppercase := forall_ascii (P := fun c => (c.isLower || c.isDigit) = true → isUppercase c = false)
      (by decide +kernel) hascii h
    endsHump := forall_ascii (P := fun c => (c.isLower || c.isDigit) = true → endsHump c = true)
      (by decide +kernel) hascii h }

theorem isCapital_toUpper {c : Char} (h : c.isLower = true) : IsCapital c.toUpper := by
  have hascii := isAscii_of_isAlphanum (isSmall_of_isLower_or_isDigit (c := c) (by simp [h])).isAlphanum
  exact {
    isAlpha := forall_ascii (P := fun c => c.isLower = true → c.toUpper.isAlpha = true)
      (by decide +kernel) hascii h
    isUppercase := forall_ascii (P := fun c => c.isLower = true → isUppercase c.toUpper = true)
      (by decide +kernel) hascii h
    isLower := forall_ascii (P := fun c => c.isLower = true → c.toUpper.isLower = false)
      (by decide +kernel) hascii h }

theorem IsCapital.isAlphanum {c : Char} (h : IsCapital c) : c.isAlphanum = true := by
  rw [Char.isAlphanum, h.isAlpha, Bool.true_or]

/-! ## Plain words -/

/-- A small letter followed by small letters and digits, all of ASCII. -/
structure PlainWord where
  first : Char
  rest : List Char
  isLower_first : first.isLower = true := by decide
  all_rest : rest.all (fun c => c.isLower || c.isDigit) = true := by decide

namespace PlainWord

variable (word : PlainWord)

def small : List Char :=
  word.first :: word.rest

/-- The word with a capital at its beginning. -/
def capital : List Char :=
  word.first.toUpper :: word.rest

/-- The word in capitals. -/
def upper : List Char :=
  word.small.map Char.toUpper

/-- The word, with a capital at its beginning or without. -/
def cased (hasCapital : Bool) : List Char :=
  if hasCapital then word.capital else word.small

@[simp] theorem cased_false : word.cased false = word.small := rfl

@[simp] theorem cased_true : word.cased true = word.capital := rfl

theorem cased_ne_nil (hasCapital : Bool) : word.cased hasCapital ≠ [] := by
  cases hasCapital <;> exact List.cons_ne_nil _ _

theorem isSmall_first : IsSmall word.first :=
  isSmall_of_isLower_or_isDigit (by rw [word.isLower_first, Bool.true_or])

theorem isSmall_of_mem_rest {c : Char} (h : c ∈ word.rest) : IsSmall c :=
  isSmall_of_isLower_or_isDigit (List.all_eq_true.mp word.all_rest c h)

theorem isCapital_first : IsCapital word.first.toUpper :=
  isCapital_toUpper word.isLower_first

theorem all_isAlphanum_cased (hasCapital : Bool) : (word.cased hasCapital).all (·.isAlphanum) = true := by
  have hrest : word.rest.all (·.isAlphanum) = true :=
    List.all_eq_true.mpr fun c hc => (word.isSmall_of_mem_rest hc).isAlphanum
  cases hasCapital with
  | false => rw [cased_false, small, List.all_cons, word.isSmall_first.isAlphanum, hrest, Bool.true_and]
  | true => rw [cased_true, capital, List.all_cons, word.isCapital_first.isAlphanum, hrest, Bool.true_and]

theorem capitalize_capital : capitalize word.capital = word.capital :=
  capitalize_eq_self (isAscii_of_isAlphanum word.isCapital_first.isAlphanum) word.isCapital_first.isLower _

theorem capitalize_cased (hasCapital : Bool) : capitalize (word.cased hasCapital) = word.capital := by
  cases hasCapital with
  | false =>
    have hascii := isAscii_of_isAlphanum word.isSmall_first.isAlphanum
    rw [cased_false, small, capitalize, upperOf_of_isAscii hascii, List.singleton_append, capital]
  | true => exact word.capitalize_capital

/-- A capital stays what it is behind other characters, and where it begins a word. -/
theorem capitalize_append_capital (before : List Char) :
    capitalize (before ++ word.capital) = capitalize before ++ word.capital := by
  cases before with
  | nil => exact word.capitalize_capital
  | cons first rest => exact capitalize_append (List.cons_ne_nil _ _) _

theorem uppercase_cased (hasCapital : Bool) : uppercase (word.cased hasCapital) = word.upper := by
  rw [uppercase_of_all_isAlphanum (word.all_isAlphanum_cased hasCapital)]
  cases hasCapital with
  | false => rfl
  | true =>
    have hfirst : word.first.toUpper.toUpper = word.first.toUpper :=
      forall_ascii (P := fun c => c.toUpper.toUpper = c.toUpper) (by decide +kernel)
        (isAscii_of_isAlphanum word.isSmall_first.isAlphanum)
    rw [cased_true, capital, List.map_cons, hfirst, upper, small, List.map_cons]

end PlainWord

/-! ## Spellings -/

/-- A run of characters that stand in no word. -/
structure Gap where
  marks : List Char
  ne_nil : marks ≠ []
  all_marks : marks.all (fun c => !isAlphanumeric c) = true := by decide

/-- What sets a word off from the one before it: a gap, behind which it may have a capital, or its capital
alone. -/
inductive Joint where
  | marked (gap : Gap) (hasCapital : Bool)
  | hump

def Joint.spell : Joint → PlainWord → List Char
  | .marked gap hasCapital, word => gap.marks ++ word.cased hasCapital
  | .hump, word => word.capital

/-- The later words of a spelling, each behind the joint of its place. -/
def spellLater (joints : Nat → Joint) : List PlainWord → List Char
  | [] => []
  | word :: later => (joints 0).spell word ++ spellLater (fun place => joints (place + 1)) later

/-- A way to spell lists of words: whether the first one has a capital, and the joints in front of the
later ones. -/
structure Style where
  hasCapital : Bool
  joints : Nat → Joint

namespace Style

def chars (style : Style) : List PlainWord → List Char
  | [] => []
  | first :: later => first.cased style.hasCapital ++ spellLater style.joints later

def text (style : Style) (plain : List PlainWord) : String :=
  String.ofList (style.chars plain)

/-- Small words with a gap between each two of them: `user_profile`. -/
def joined (gaps : Nat → Gap) : Style where
  hasCapital := false
  joints place := .marked (gaps place) false

/-- A capital at the beginning of every word but the first: `userProfile`. -/
def camel : Style where
  hasCapital := false
  joints _ := .hump

/-- A capital at the beginning of every word: `UserProfile`. -/
def pascal : Style where
  hasCapital := true
  joints _ := .hump

end Style

/-! ## Where the splitter cuts -/

theorem closeWord_of_ne_nil {word : List Char} (h : word ≠ []) : closeWord word = [word] := by
  rw [closeWord, if_neg (by simpa using h)]

theorem wordsAfter_cons_mark {c : Char} (h : isAlphanumeric c = false) (word : List Char) (hump : Bool)
    (rest : List Char) : wordsAfter word hump (c :: rest) = closeWord word ++ wordsAfter [] false rest := by
  rw [wordsAfter, h, Bool.not_false, if_pos rfl]

theorem wordsAfter_marks {marks : List Char} (h : marks.all (fun c => !isAlphanumeric c) = true)
    (rest : List Char) : wordsAfter [] false (marks ++ rest) = wordsAfter [] false rest := by
  induction marks with
  | nil => rfl
  | cons c marks ih =>
    rw [List.all_cons, Bool.and_eq_true, Bool.not_eq_true'] at h
    exact (wordsAfter_cons_mark h.1 [] false _).trans (ih h.2)

/-- A gap ends the word in front of it. -/
theorem wordsAfter_gap (gap : Gap) (word : List Char) (hump : Bool) (rest : List Char) :
    wordsAfter word hump (gap.marks ++ rest) = closeWord word ++ wordsAfter [] false rest := by
  obtain ⟨marks, hne, hmarks⟩ := gap
  cases marks with
  | nil => exact absurd rfl hne
  | cons c marks =>
    rw [List.all_cons, Bool.and_eq_true, Bool.not_eq_true'] at hmarks
    rw [List.cons_append, wordsAfter_cons_mark hmarks.1, wordsAfter_marks hmarks.2]

theorem wordsAfter_cons_small {c : Char} (h : IsSmall c) (word : List Char) (hump : Bool)
    (rest : List Char) : wordsAfter word hump (c :: rest) = wordsAfter (word ++ [c]) true rest := by
  rw [wordsAfter, isAlphanumeric_of_isAlphanum h.isAlphanum, h.isUppercase, h.endsHump]
  rfl

theorem wordsAfter_cons_capital {c : Char} (h : IsCapital c) (word : List Char) (hump : Bool)
    (rest : List Char) : wordsAfter word hump (c :: rest) =
      if (hump && !word.isEmpty) = true then word :: wordsAfter [c] (endsHump c) rest
      else wordsAfter (word ++ [c]) (endsHump c) rest := by
  rw [wordsAfter, isAlphanumeric_of_isAlphanum h.isAlphanum, h.isUppercase, Bool.true_and]
  rfl

theorem wordsAfter_small {cs : List Char} (h : ∀ c ∈ cs, IsSmall c) (word rest : List Char) :
    wordsAfter word true (cs ++ rest) = wordsAfter (word ++ cs) true rest := by
  induction cs generalizing word with
  | nil => rw [List.nil_append, List.append_nil]
  | cons c cs ih =>
    rw [List.cons_append, wordsAfter_cons_small (h c List.mem_cons_self),
      ih (fun d hd => h d (List.mem_cons_of_mem _ hd)), List.append_assoc, List.singleton_append]

variable {word : PlainWord}

/-- A word goes on behind its capital, and ends a hump if anything follows the capital. -/
theorem wordsAfter_rest (htwo : 2 ≤ word.small.length) (hump : Bool) (rest : List Char) :
    wordsAfter [word.first.toUpper] hump (word.rest ++ rest) = wordsAfter word.capital true rest := by
  have hsmall : ∀ c ∈ word.rest, IsSmall c := fun c hc => word.isSmall_of_mem_rest hc
  rw [PlainWord.capital]
  cases hrest : word.rest with
  | nil => simp [PlainWord.small, hrest] at htwo
  | cons second others =>
    rw [hrest] at hsmall
    rw [List.cons_append, wordsAfter_cons_small (hsmall second List.mem_cons_self),
      wordsAfter_small (fun c hc => hsmall c (List.mem_cons_of_mem _ hc)), List.append_assoc,
      List.singleton_append, List.singleton_append]

/-- A word with none in front of it is read to its end, which ends a hump. -/
theorem wordsAfter_cased (htwo : 2 ≤ word.small.length) (hasCapital : Bool) (rest : List Char) :
    wordsAfter [] false (word.cased hasCapital ++ rest) = wordsAfter (word.cased hasCapital) true rest := by
  cases hasCapital with
  | false =>
    rw [PlainWord.cased_false, PlainWord.small, List.cons_append, wordsAfter_cons_small word.isSmall_first,
      wordsAfter_small (fun c hc => word.isSmall_of_mem_rest hc), List.nil_append, List.singleton_append]
  | true =>
    rw [PlainWord.cased_true, PlainWord.capital, List.cons_append,
      wordsAfter_cons_capital word.isCapital_first, Bool.false_and, if_neg Bool.false_ne_true,
      List.nil_append, wordsAfter_rest htwo, PlainWord.capital]

/-- A capital behind a hump ends the word in front of it. -/
theorem wordsAfter_capital (htwo : 2 ≤ word.small.length) {before : List Char} (hbefore : before ≠ [])
    (rest : List Char) :
    wordsAfter before true (word.capital ++ rest) = before :: wordsAfter word.capital true rest := by
  have hbegins : (true && !before.isEmpty) = true := by simpa using hbefore
  rw [PlainWord.capital, List.cons_append, wordsAfter_cons_capital word.isCapital_first, if_pos hbegins,
    wordsAfter_rest htwo, PlainWord.capital]

/-! ## The names of a spelling -/

/-- Letters and digits go on with a word wherever they are cut, if what follows them does. -/
theorem flatMap_capitalize_wordsAfter_of_all {cs rest after : List Char}
    (h : cs.all (·.isAlphanum) = true)
    (hrest : ∀ word hump, (wordsAfter word hump rest).flatMap capitalize = capitalize word ++ after)
    (word : List Char) (hump : Bool) :
    (wordsAfter word hump (cs ++ rest)).flatMap capitalize = capitalize (word ++ cs) ++ after := by
  obtain ⟨before, last, ends, hcut, hlast⟩ := flatMap_capitalize_wordsAfter_append h word hump rest
  rw [hcut, hrest, ← List.append_assoc, hlast]

/-- Later words run together with their capitals, wherever they are cut. -/
theorem flatMap_capitalize_spellLater (joints : Nat → Joint) (later : List PlainWord) (word : List Char)
    (hump : Bool) : (wordsAfter word hump (spellLater joints later)).flatMap capitalize =
      capitalize word ++ later.flatMap PlainWord.capital := by
  -- for any characters in front, since the splitter goes on with them where it misses a hump
  induction later generalizing joints word hump with
  | nil => rw [spellLater, wordsAfter, flatMap_capitalize_closeWord, List.flatMap_nil, List.append_nil]
  | cons next later ih =>
    have hlater := ih fun place => joints (place + 1)
    rw [spellLater, List.flatMap_cons]
    cases joints 0 with
    | marked gap hasCapital =>
      rw [Joint.spell, List.append_assoc, wordsAfter_gap, List.flatMap_append,
        flatMap_capitalize_closeWord,
        flatMap_capitalize_wordsAfter_of_all (next.all_isAlphanum_cased hasCapital) hlater,
        List.nil_append, next.capitalize_cased]
    | hump =>
      rw [Joint.spell, ← PlainWord.cased_true,
        flatMap_capitalize_wordsAfter_of_all (next.all_isAlphanum_cased true) hlater,
        PlainWord.cased_true, next.capitalize_append_capital, List.append_assoc]

theorem flatMap_capitalize_chars (style : Style) (plain : List PlainWord) :
    (words (style.chars plain)).flatMap capitalize = plain.flatMap PlainWord.capital := by
  cases plain with
  | nil => rfl
  | cons first later =>
    rw [words, Style.chars, flatMap_capitalize_wordsAfter_of_all (first.all_isAlphanum_cased _)
      (flatMap_capitalize_spellLater style.joints later), List.nil_append, first.capitalize_cased,
      List.flatMap_cons]

/-- Behind a word that ends a hump, later words of at least two characters are found one by one. -/
theorem map_uppercase_spellLater (joints : Nat → Joint) {later : List PlainWord}
    (htwo : ∀ next ∈ later, 2 ≤ next.small.length) {word : List Char} (hword : word ≠ []) :
    (wordsAfter word true (spellLater joints later)).map uppercase =
      uppercase word :: later.map PlainWord.upper := by
  induction later generalizing joints word with
  | nil => rw [spellLater, wordsAfter, closeWord_of_ne_nil hword, List.map_singleton, List.map_nil]
  | cons next later ih =>
    have hnext := htwo next List.mem_cons_self
    have hlater := fun hasCapital => ih (fun place => joints (place + 1))
      (fun other hother => htwo other (List.mem_cons_of_mem _ hother)) (next.cased_ne_nil hasCapital)
    rw [spellLater, List.map_cons]
    cases joints 0 with
    | marked gap hasCapital =>
      rw [Joint.spell, List.append_assoc, wordsAfter_gap, closeWord_of_ne_nil hword,
        wordsAfter_cased hnext, List.singleton_append, List.map_cons, hlater, next.uppercase_cased]
    | hump =>
      have hupper := hlater true
      rw [next.uppercase_cased, PlainWord.cased_true] at hupper
      rw [Joint.spell, wordsAfter_capital hnext hword, List.map_cons, hupper]

theorem map_uppercase_chars (style : Style) {plain : List PlainWord}
    (htwo : ∀ word ∈ plain, 2 ≤ word.small.length) :
    (words (style.chars plain)).map uppercase = plain.map PlainWord.upper := by
  cases plain with
  | nil => rfl
  | cons first later =>
    rw [words, Style.chars, wordsAfter_cased (htwo first List.mem_cons_self),
      map_uppercase_spellLater style.joints (fun next hnext => htwo next (List.mem_cons_of_mem _ hnext))
        (first.cased_ne_nil _), first.uppercase_cased, List.map_cons]

/-- Capitalised words run together are an identifier as they are. -/
theorem sanitizeChars_flatMap_capital {plain : List PlainWord} (hplain : plain ≠ []) :
    sanitizeChars (plain.flatMap PlainWord.capital) = plain.flatMap PlainWord.capital := by
  have hall : (plain.flatMap PlainWord.capital).all (·.isAlphanum) = true := by
    rw [List.all_flatMap, List.all_eq_true]
    exact fun word _ => word.all_isAlphanum_cased true
  rw [sanitizeChars, map_identifierChar hall]
  cases plain with
  | nil => exact absurd rfl hplain
  | cons first later =>
    rw [List.flatMap_cons, PlainWord.capital, List.cons_append, guardStart, first.isCapital_first.isAlpha,
      Bool.true_or, if_pos rfl]

/-- Every spelling of plain words, with gaps between them (`Style.joined`), in `Style.camel`, in
`Style.pascal` or in a mixture of these, gives the type name that is the words run together with their
capitals. If every word has at least two characters, it also gives the constant name of the words. -/
theorem spellings_agree (style : Style) {plain : List PlainWord} (hplain : plain ≠ []) :
    pascal (style.text plain) = String.ofList (plain.flatMap PlainWord.capital) ∧
      ((∀ word ∈ plain, 2 ≤ word.small.length) →
        upperSnake (style.text plain) =
          String.ofList (['_'].intercalate (plain.map PlainWord.upper))) := by
  constructor
  · rw [pascal, Style.text, String.toList_ofList, pascalChars, flatMap_capitalize_chars,
      sanitizeChars_flatMap_capital hplain]
  · intro htwo
    rw [upperSnake, Style.text, String.toList_ofList, map_uppercase_chars style htwo]

/-- The words `user`, `p2` and `id`. -/
def userP2Id : List PlainWord :=
  [{ first := 'u', rest := ['s', 'e', 'r'] }, { first := 'p', rest := ['2'] }, { first := 'i', rest := ['d'] }]

def dash : Gap where
  marks := ['-']
  ne_nil := List.cons_ne_nil _ _

def arrow : Gap where
  marks := [' ', '→', ' ']
  ne_nil := List.cons_ne_nil _ _
  all_marks := by decide +kernel

theorem spellings_agree_of_userP2Id :
    userP2Id ≠ [] ∧ (∀ word ∈ userP2Id, 2 ≤ word.small.length) ∧
      ∀ text ∈ ["user-p2 → id", "userP2Id", "UserP2Id"],
        pascal text = "UserP2Id" ∧ upperSnake text = "USER_P2_ID" := by
  have hplain : userP2Id ≠ [] := by decide
  have htwo : ∀ word ∈ userP2Id, 2 ≤ word.small.length := by decide
  have hspelled : ∀ style : Style, pascal (style.text userP2Id) = "UserP2Id" ∧
      upperSnake (style.text userP2Id) = "USER_P2_ID" := fun style =>
    have hagree := spellings_agree style hplain
    ⟨hagree.1, hagree.2 htwo⟩
  have hjoined : (Style.joined fun place => if place = 0 then dash else arrow).text userP2Id =
      "user-p2 → id" := rfl
  have hcamel : Style.camel.text userP2Id = "userP2Id" := rfl
  have hpascal : Style.pascal.text userP2Id = "UserP2Id" := rfl
  refine ⟨hplain, htwo, ?_⟩
  rw [← hjoined, ← hcamel, List.forall_mem_cons, List.forall_mem_cons, List.forall_mem_singleton]
  exact ⟨hspelled _, hspelled _, hpascal ▸ hspelled .pascal⟩

-- a word of one character is lost in the constant name where its capital stands in front of another one
example : pascal "getABTest" = "GetABTest" ∧ upperSnake "getABTest" = "GET_ABTEST" := by decide +kernel

end Name

end SchemaTypings
