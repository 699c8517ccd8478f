import SchemaTypings.Json.Writer
import SchemaTypings.Options.Basic
import SchemaTypings.Proofs.Name.Pascal
import SchemaTypings.Proofs.Typing.Templates
import SchemaTypings.Typing.DocComment
import SchemaTypings.Typing.Property

/-!
# Texts at rest

Names, literals, documentation comments and type expressions are at rest, and so is what is joined of such
texts.
-/

namespace SchemaTypings.Typing

variable {allowed : List Char → Prop}

/-! ## Words -/

namespace IsWord

variable {text lead : String}

theorem of_isIdentifier (h : Name.isIdentifier text = true) : IsWord text := by
  rw [Name.isIdentifier] at h
  unfold IsWord
  cases hchars : text.toList with
  | nil => simp [hchars, Name.isIdentifierChars] at h
  | cons first rest =>
    rw [hchars, Name.isIdentifierChars, Bool.and_eq_true, List.all_eq_true] at h
    refine ⟨List.cons_ne_nil _ _, List.all_eq_true.mpr ?_⟩
    intro c hc
    have hcontinues : Name.continuesIdentifier c = true := by
      rcases List.mem_cons.mp hc with rfl | hc
      · simp [Name.continuesIdentifier, h.1]
      · exact h.2 c hc
    simp [Lexer.isWordChar, hcontinues]

theorem pascal (name : String) : IsWord (Name.pascal name) :=
  of_isIdentifier (Name.isIdentifier_pascal name)

theorem append (hlead : IsWord lead) (h : text.toList.all Lexer.isWordChar = true) :
    IsWord (lead ++ text) := by
  refine ⟨?_, ?_⟩
  · simp [hlead.1]
  · rw [String.toList_append, List.all_append, hlead.2, h]
    rfl

theorem rests (h : IsWord text) : Rests allowed .word text :=
  .of_template [.word text] [] (by simp) rfl rfl (by simpa using h) (by simp)

end IsWord

/-! ## Joined texts -/

namespace Rests

variable {first second : String} {ending : Ending} {parts : List String}

theorem append (hfirst : Rests allowed .closed first) (hsecond : Rests allowed ending second) :
    Rests allowed ending (first ++ second) := by
  intro before hbefore
  obtain ⟨middle, _, hreads, rfl, hmiddle⟩ := hfirst before hbefore
  obtain ⟨last, mode, hreads', hleaves⟩ := hsecond middle hmiddle
  refine ⟨last, mode, ?_, hleaves⟩
  rw [String.toList_append]
  exact hreads.append hreads'

theorem empty : Rests allowed .closed "" :=
  fun before hbefore => ⟨before, .code, .nil, rfl, hbefore⟩

theorem join (h : ∀ part ∈ parts, Rests allowed .closed part) :
    Rests allowed .closed (String.join parts) := by
  induction parts with
  | nil => exact empty
  | cons part rest ih =>
    have hjoin : String.join (part :: rest) = part ++ String.join rest := by
      rw [String.join_cons]
    rw [hjoin]
    exact (h part List.mem_cons_self).append (ih fun other hother => h other (List.mem_cons_of_mem _ hother))

/-- Any texts at rest may stand before and after the separator. -/
def Separates (separator : String) : Prop :=
  ∀ first second, Template.eval .plain {} [.part first .word, .literal separator, .part second .word] =
    some (.part .word, {}, [])

theorem intercalate {separator : String} (hseparator : Separates separator)
    (h : ∀ part ∈ parts, Rests allowed .word part) :
    Rests allowed .word (String.intercalate separator parts) := by
  induction parts with
  | nil => exact empty.toWord
  | cons first rest ih =>
    cases rest with
    | nil => exact h first List.mem_cons_self
    | cons second rest =>
      have hrest : Rests allowed .word (String.intercalate separator (second :: rest)) :=
        ih fun part hpart => h part (List.mem_cons_of_mem _ hpart)
      have htext : (String.intercalate separator (first :: second :: rest)).toList =
          Template.render [.part first .word, .literal separator,
            .part (String.intercalate separator (second :: rest)) .word] := by
        simp [String.toList_intercalate, List.intercalate]
      refine .of_template _ [] htext (hseparator _ _) rfl ?_ (by rintro _ ⟨⟩)
      simp only [List.forall_mem_cons]
      exact ⟨h first List.mem_cons_self, trivial, hrest, by simp⟩

end Rests

/-! ## Documentation comments -/

namespace Lexer

/-- Within a comment, where it does not end at once. -/
def WithinComment (cs : List Char) (lexer : Lexer) : Prop :=
  lexer = ⟨.comment, []⟩ ∨ cs.head? ≠ some '/' ∧ lexer = ⟨.star, []⟩

theorem step_withinComment {c : Char} {cs : List Char} {lexer : Lexer}
    (h : WithinComment (c :: cs) lexer) :
    lexer.step c = (⟨if c == '*' then .star else .comment, []⟩, []) := by
  rcases h with rfl | ⟨hc, rfl⟩
  · rfl
  · have hslash : (c == '/') = false := beq_eq_false_iff_ne.mpr fun h => hc (by rw [h]; rfl)
    rw [step, hslash]
    rfl

/-- A line of a comment does not end it: the pair that would is taken apart. -/
theorem run_commentLine (line : List Char) {lexer : Lexer} (h : WithinComment line lexer) :
    ∃ next, lexer.run (Text.replacePair '*' '/' ['*', '\\', '/'] line) = (next, []) ∧
      (next = ⟨.comment, []⟩ ∨ next = ⟨.star, []⟩) := by
  have hwithin : ∀ c : Char, (⟨if c == '*' then .star else .comment, []⟩ : Lexer) = ⟨.comment, []⟩ ∨
      (⟨if c == '*' then .star else .comment, []⟩ : Lexer) = ⟨.star, []⟩ := by
    intro c
    split
    · exact Or.inr rfl
    · exact Or.inl rfl
  induction line using Text.replacePair.induct '*' '/' generalizing lexer with
  | case1 => exact ⟨lexer, rfl, h.imp id And.right⟩
  | case2 c =>
    refine ⟨_, ?_, hwithin c⟩
    rw [Text.replacePair, run_cons, step_withinComment h]
    rfl
  | case3 c d rest hpair ih =>
    have hcomment : WithinComment rest ⟨.comment, []⟩ := Or.inl rfl
    obtain ⟨next, hrun, hnext⟩ := ih hcomment
    obtain ⟨rfl, rfl⟩ : c = '*' ∧ d = '/' := by simpa using hpair
    have hlead : lexer.run ['*', '\\', '/'] = (⟨.comment, []⟩, []) := by
      rw [run_cons, step_withinComment h]
      rfl
    refine ⟨next, ?_, hnext⟩
    rw [Text.replacePair, if_pos hpair, run_append, hlead, hrun]
    rfl
  | case4 c d rest hpair ih =>
    have hnext : WithinComment (d :: rest) ⟨if c == '*' then .star else .comment, []⟩ := by
      split
      · rename_i hstar
        refine Or.inr ⟨?_, rfl⟩
        rintro ⟨⟩
        rw [hstar] at hpair
        exact hpair rfl
      · exact Or.inl rfl
    obtain ⟨next, hrun, hafter⟩ := ih hnext
    refine ⟨next, ?_, hafter⟩
    rw [Text.replacePair, if_neg hpair, run_cons, step_withinComment h, hrun]
    rfl

/-- A line of a comment, and the blank or the break after it. -/
theorem run_commentLine_then {c : Char} (hc : c = ' ' ∨ c = '\n') (line cs : List Char) :
    run ⟨.comment, []⟩ ((commentLine line).toList ++ c :: cs) = run ⟨.comment, []⟩ cs := by
  obtain ⟨next, hrun, hnext⟩ := run_commentLine line (Or.inl rfl)
  have hthen : next.step c = (⟨.comment, []⟩, []) := by
    rcases hnext with rfl | rfl <;> rcases hc with rfl | rfl <;> rfl
  rw [commentLine, String.toList_ofList, run_append, hrun, run_cons, hthen]
  rfl

theorem run_commentRow {indent : String} (hindent : indent = "" ∨ indent = "  ") (line : List Char) :
    run ⟨.comment, []⟩ (commentRow indent line).toList = (⟨.comment, []⟩, []) := by
  unfold commentRow
  split
  · rcases hindent with rfl | rfl <;> rfl
  · have hrow : (s!"{indent} * {commentLine line}\n").toList =
        indent.toList ++ (" * ".toList ++ ((commentLine line).toList ++ ['\n'])) := by
      simp
    have hlead : run ⟨.comment, []⟩ (indent.toList ++ " * ".toList) = (⟨.comment, []⟩, []) := by
      rcases hindent with rfl | rfl <;> rfl
    rw [hrow, ← List.append_assoc, run_append, hlead, run_commentLine_then (Or.inr rfl)]
    rfl

theorem run_commentRows {indent : String} (hindent : indent = "" ∨ indent = "  ")
    (rows : List (List Char)) :
    run ⟨.comment, []⟩ (String.join (rows.map (commentRow indent))).toList = (⟨.comment, []⟩, []) := by
  induction rows with
  | nil => rfl
  | cons row rest ih =>
    rw [List.map_cons, String.join_cons, String.toList_append, run_append, run_commentRow hindent, ih]
    rfl

/-- No token stands in a documentation comment. -/
theorem run_docComment (texts : List String) {indent : String} (hindent : indent = "" ∨ indent = "  ") :
    run {} (docComment texts indent).toList = ({}, []) := by
  unfold docComment
  split
  · rfl
  · rename_i line _
    have htext : (s!"{indent}/** {commentLine line} */\n").toList =
        (indent.toList ++ "/** ".toList) ++ ((commentLine line).toList ++ ' ' :: "*/\n".toList) := by
      simp
    have hlead : run {} (indent.toList ++ "/** ".toList) = (⟨.comment, []⟩, []) := by
      rcases hindent with rfl | rfl <;> rfl
    rw [htext, run_append, hlead, run_commentLine_then (Or.inl rfl)]
    rfl
  · generalize commentLines texts = rows
    have htext : (s!"{indent}/**\n" ++ String.join (rows.map (commentRow indent)) ++
        s!"{indent} */\n").toList = (indent.toList ++ "/**\n".toList) ++
          ((String.join (rows.map (commentRow indent))).toList ++ (indent.toList ++ " */\n".toList)) := by
      simp
    have hlead : run {} (indent.toList ++ "/**\n".toList) = (⟨.comment, []⟩, []) := by
      rcases hindent with rfl | rfl <;> rfl
    have hend : run ⟨.comment, []⟩ (indent.toList ++ " */\n".toList) = ({}, []) := by
      rcases hindent with rfl | rfl <;> rfl
    rw [htext, run_append, hlead, run_append, run_commentRows hindent, hend]
    rfl

end Lexer

namespace Rests

theorem docComment (texts : List String) {indent : String} (hindent : indent = "" ∨ indent = "  ") :
    Rests allowed .closed (docComment texts indent) := by
  intro before hbefore
  refine ⟨before, .code, ⟨[], Lexer.run_docComment texts hindent, rfl, ?_⟩, rfl, hbefore⟩
  rintro _ ⟨⟩

theorem exportWord (options : Options) : Rests allowed .closed options.exportWord := by
  unfold Options.exportWord
  split
  · exact .of_template [.literal "export "] [] (by simp) rfl rfl (by simp)
      (by simp)
  · exact empty

end Rests

/-! ## Literals -/

/-- A character of a number. -/
def isNumeric (c : Char) : Bool :=
  c.isDigit || ['.', 'e', '+', '-'].contains c

theorem eq_sign_of_isNumeric {c : Char} (h : isNumeric c = true) (hword : Lexer.isWordChar c = false) :
    c = '+' ∨ c = '-' := by
  rw [isNumeric, Bool.or_eq_true] at h
  rw [Lexer.isWordChar, Name.continuesIdentifier, Bool.or_eq_false_iff, Bool.or_eq_false_iff] at hword
  rcases h with h | h
  · rw [hword.1.2] at h
    cases h
  · simp only [List.contains_cons, List.contains_nil, Bool.or_eq_true, beq_iff_eq, Bool.or_false] at h
    rcases h with rfl | rfl | h
    · exact absurd hword.2 (by decide)
    · exact absurd hword.1.1 (by decide)
    · exact h

/-- A number names nothing. -/
theorem plain_of_numeric {word : List Char} (h : word.all isNumeric = true) : Token.Plain (.word word) := by
  have hno : ∀ c ∈ word, isNumeric c = true := List.all_eq_true.mp h
  refine Token.plain_word ?_ ?_ ?_
  · refine Bool.eq_false_iff.mpr fun hguard => ?_
    obtain ⟨lead, hlead, hstart⟩ := List.any_eq_true.mp hguard
    rw [Bool.and_eq_true, List.isPrefixOf_iff_prefix] at hstart
    have hfirst : ∀ c ∈ lead.toList, isNumeric c = true := fun c hc => hno c (hstart.1.subset hc)
    simp only [List.mem_cons, List.not_mem_nil, or_false] at hlead
    rcases hlead with rfl | rfl | rfl
    · exact absurd (hfirst 'i' (by decide)) (by decide)
    · exact absurd (hfirst 'p' (by decide)) (by decide)
    · exact absurd (hfirst 'm' (by decide)) (by decide)
  · refine Bool.eq_false_iff.mpr fun hvalues => ?_
    have hsuffix := List.isSuffixOf_iff_suffix.mp hvalues
    exact absurd (hno 'V' (hsuffix.subset (by decide))) (by decide)
  · rintro rfl
    exact absurd (hno 't' (by decide)) (by decide)

/-- Between the numbers of a text of them, or within one. -/
def Lexer.WithinNumber (last : Token) (mode : Lexer.Mode) : Prop :=
  last.Plain ∧ (mode = .code ∨ ∃ word, mode = .word word ∧ word.all isNumeric = true)

theorem reads_numeric (allowed : List Char → Prop) {cs : List Char} (h : cs.all isNumeric = true) {before : Token} {mode : Lexer.Mode}
    (hmode : Lexer.WithinNumber before mode) : ∃ last next,
      Reads allowed before ⟨mode, []⟩ cs last ⟨next, []⟩ ∧ Lexer.WithinNumber last next := by
  induction cs generalizing before mode with
  | nil => exact ⟨before, mode, .nil, hmode⟩
  | cons c rest ih =>
    rw [List.all_cons, Bool.and_eq_true] at h
    obtain ⟨hplain, hwithin⟩ := hmode
    have hstep : ∃ middle next, Reads allowed before ⟨mode, []⟩ [c] middle ⟨next, []⟩ ∧
        Lexer.WithinNumber middle next := by
      cases hword : Lexer.isWordChar c with
      | true =>
        rcases hwithin with rfl | ⟨word, rfl, hall⟩
        · refine ⟨before, .word [c], ⟨[], ?_, rfl, by rintro _ ⟨⟩⟩, hplain, Or.inr ⟨[c], rfl, ?_⟩⟩
          · exact Lexer.run_word (by simp) (by simpa using hword) []
          · simpa using h.1
        · refine ⟨before, .word (word ++ [c]), ⟨[], ?_, rfl, by rintro _ ⟨⟩⟩, hplain,
            Or.inr ⟨word ++ [c], rfl, ?_⟩⟩
          · exact Lexer.run_wordChars (by simpa using hword) word []
          · simpa [hall] using h.1
      | false =>
        rcases hwithin with rfl | ⟨word, rfl, hall⟩
        · refine ⟨.sign c, .code, ⟨[.sign c], ?_, rfl, ?_⟩, Token.plain_sign c, Or.inl rfl⟩
          · rcases eq_sign_of_isNumeric h.1 hword with rfl | rfl <;> rfl
          · rw [companionsOf_plain hplain]
            rintro _ ⟨⟩
        · refine ⟨.sign c, .code, ⟨[.word word, .sign c], ?_, rfl, ?_⟩, Token.plain_sign c, Or.inl rfl⟩
          · rcases eq_sign_of_isNumeric h.1 hword with rfl | rfl <;> rfl
          · rw [companionsOf_plain hplain, companionsOf_plain (plain_of_numeric hall)]
            rintro _ ⟨⟩
    obtain ⟨middle, next, hreads, hnext⟩ := hstep
    obtain ⟨last, final, hreads', hfinal⟩ := ih h.2 hnext
    exact ⟨last, final, hreads.append hreads', hfinal⟩

namespace Rests

theorem numeric {text : String} (h : text.toList.all isNumeric = true) : Rests allowed .plain text := by
  intro before hbefore
  obtain ⟨last, mode, hreads, hplain, hmode⟩ := reads_numeric allowed h ⟨hbefore, Or.inl rfl⟩
  refine ⟨last, mode, hreads, ?_⟩
  rcases hmode with rfl | ⟨word, rfl, hall⟩
  · exact Or.inl ⟨rfl, hplain⟩
  · refine Or.inr ⟨word, rfl, plain_of_numeric hall, ?_⟩
    rw [hplain]
    rintro _ ⟨⟩

/-- A word that is none of those that matter is at rest, whatever follows. -/
theorem keyword {text : String} (hword : Name.isIdentifier text = true)
    (hguard : namesGuard text.toList = false) (hvalues : namesValues text.toList = false)
    (htypeof : text.toList ≠ "typeof".toList) : Rests allowed .plain text := by
  have hplain : Token.Plain (.word text.toList) := Token.plain_word hguard hvalues htypeof
  obtain ⟨hne, hall⟩ := IsWord.of_isIdentifier hword
  intro before hbefore
  refine ⟨before, .word text.toList, ⟨[], ?_, rfl, by rintro _ ⟨⟩⟩, Or.inr ⟨_, rfl, hplain, ?_⟩⟩
  · exact Lexer.run_word hne hall []
  · rw [hbefore]
    rintro _ ⟨⟩

theorem toPlain {text : String} (h : Rests allowed .closed text) : Rests allowed .plain text := by
  intro before hbefore
  obtain ⟨last, mode, hreads, hleaves⟩ := h before hbefore
  exact ⟨last, mode, hreads, Or.inl hleaves⟩

end Rests

theorem numeric_digits (n : Nat) : ∀ c ∈ n.repr.toList, isNumeric c = true := by
  intro c hc
  rw [isNumeric, Name.isDigit_of_mem_repr hc, Bool.true_or]

theorem numeric_repr (n : Int) : n.repr.toList.all isNumeric = true := by
  refine List.all_eq_true.mpr fun c hc => ?_
  cases n with
  | ofNat n => exact numeric_digits n c hc
  | negSucc n =>
    have hchars : (Int.negSucc n).repr.toList = '-' :: (n + 1).repr.toList := by simp [Int.repr]
    rw [hchars] at hc
    rcases List.mem_cons.mp hc with rfl | hc
    · decide
    · exact numeric_digits (n + 1) c hc

theorem numeric_positional {digits : List Char} (h : ∀ c ∈ digits, isNumeric c = true)
    (layout : DecimalLayout) (exponent : Int) :
    ∀ c ∈ layout.positional digits exponent, isNumeric c = true := by
  have hzero : isNumeric '0' = true := by decide
  have hpoint : isNumeric '.' = true := by decide
  intro c hc
  unfold DecimalLayout.positional at hc
  split at hc
  · simp only [List.cons_append, List.mem_cons, List.mem_append, List.mem_replicate] at hc
    rcases hc with rfl | rfl | ⟨-, rfl⟩ | hc
    · exact hzero
    · exact hpoint
    · exact hzero
    · exact h c hc
  · dsimp only at hc
    split at hc <;>
      simp only [List.mem_append, List.mem_cons, List.mem_replicate, List.mem_ite_nil_right,
        List.not_mem_nil, or_false] at hc
    · rcases hc with (hc | ⟨-, rfl⟩) | ⟨-, rfl | rfl⟩
      · exact h c (List.mem_of_mem_take hc)
      · exact hzero
      · exact hpoint
      · exact hzero
    · rcases hc with (hc | ⟨-, rfl⟩) | rfl | hc
      · exact h c (List.mem_of_mem_take hc)
      · exact hzero
      · exact hpoint
      · exact h c (List.mem_of_mem_drop hc)

theorem numeric_scientific {digits : List Char} (h : ∀ c ∈ digits, isNumeric c = true)
    (exponent : Int) : ∀ c ∈ DecimalLayout.scientific digits exponent, isNumeric c = true := by
  intro c hc
  unfold DecimalLayout.scientific at hc
  simp only [List.mem_append, List.mem_cons] at hc
  rcases hc with hc | rfl | rfl | hc
  · split at hc
    · simp only [List.mem_cons] at hc
      rcases hc with rfl | rfl | rfl | hc
      · exact h c (by simp)
      · decide
      · exact h c (by simp)
      · exact h c (by simp [hc])
    · exact h c hc
  · decide
  · split <;> decide
  · exact numeric_digits _ c hc

theorem numeric_format (layout : DecimalLayout) (x : Binary64) :
    (layout.format x).toList.all isNumeric = true := by
  have hdigits := numeric_digits (x.shortest layout.tie).digits
  have hmagnitude : ∀ exponent, ∀ c ∈ (if layout.isPositional exponent then
      layout.positional (x.shortest layout.tie).digits.repr.toList exponent
      else DecimalLayout.scientific (x.shortest layout.tie).digits.repr.toList exponent),
        isNumeric c = true := by
    intro exponent c hc
    split at hc
    · exact numeric_positional hdigits layout exponent c hc
    · exact numeric_scientific hdigits exponent c hc
  refine List.all_eq_true.mpr fun c hc => ?_
  unfold DecimalLayout.format at hc
  dsimp only at hc
  rw [String.toList_ofList] at hc
  split at hc
  · rcases List.mem_cons.mp hc with rfl | hc
    · decide
    · exact hmagnitude _ c hc
  · exact hmagnitude _ c hc

theorem rests_quoted (text : String) : Rests allowed .closed (quoted text) :=
  .of_template [.quoted text] [] (by simp) rfl rfl (by simp) (by simp)

mutual

/-- A literal refers to nothing. -/
theorem rests_compact (value : Json) : Rests allowed .plain value.compact := by
  cases value with
  | null =>
    rw [Json.compact]
    exact .keyword (by decide) (by decide) (by decide) (by decide)
  | bool value =>
    rw [Json.compact]
    cases value with
    | true => exact .keyword (by decide) (by decide) (by decide) (by decide)
    | false => exact .keyword (by decide) (by decide) (by decide) (by decide)
  | int n =>
    rw [Json.compact]
    exact .numeric (numeric_repr n)
  | float x =>
    rw [Json.compact]
    exact .numeric (numeric_format _ x)
  | str s =>
    rw [Json.compact]
    exact (rests_quoted s).toPlain
  | arr items =>
    have hitems : Rests allowed .word (String.intercalate "," (Json.compactItems items)) :=
      .intercalate (fun _ _ => rfl) (rests_compactItems items)
    refine .toPlain (.of_template [.literal "[",
      .part (String.intercalate "," (Json.compactItems items)) .word, .literal "]"] [] ?_ rfl rfl ?_ ?_)
    · rw [Json.compact]
      simp
    · simp [hitems]
    · simp
  | obj members =>
    have hmembers : Rests allowed .word (String.intercalate "," (Json.compactMembers members)) :=
      .intercalate (fun _ _ => rfl) (rests_compactMembers members)
    refine .toPlain (.of_template [.literal "\x7b",
      .part (String.intercalate "," (Json.compactMembers members)) .word, .literal "\x7d"] [] ?_ rfl rfl
        ?_ ?_)
    · rw [Json.compact]
      simp
    · simp [hmembers]
    · simp

theorem rests_compactItems (items : List Json) : ∀ text ∈ Json.compactItems items, Rests allowed .word text := by
  cases items with
  | nil => rintro _ ⟨⟩
  | cons item rest =>
    rw [Json.compactItems]
    intro text htext
    rcases List.mem_cons.mp htext with rfl | htext
    · exact (rests_compact item).toWord
    · exact rests_compactItems rest text htext

theorem rests_compactMembers (members : List (String × Json)) :
    ∀ text ∈ Json.compactMembers members, Rests allowed .word text := by
  cases members with
  | nil => rintro _ ⟨⟩
  | cons member rest =>
    obtain ⟨key, value⟩ := member
    rw [Json.compactMembers]
    intro text htext
    rcases List.mem_cons.mp htext with rfl | htext
    · have hvalue : Rests allowed .word value.compact := (rests_compact value).toWord
      refine .of_template [.quoted key, .literal ":", .part value.compact .word] [] ?_ rfl rfl ?_ ?_
      · simp
      · simp [hvalue]
      · simp
    · exact rests_compactMembers rest text htext

end

/-! ## Types -/

section

variable {type : String} {parts : List String}

theorem rests_propertyKey (name : String) : Rests allowed .word (Name.propertyKey name) := by
  unfold Name.propertyKey
  split
  · rename_i hname
    exact (IsWord.of_isIdentifier hname).rests
  · exact (rests_quoted name).toWord

theorem rests_parenthesize (h : Rests allowed .word type) : Rests allowed .word (parenthesize type) := by
  unfold parenthesize
  split
  · exact (Rests.of_template [.literal "(", .part type .word, .literal ")"] []
      (by simp) rfl rfl (by simp [h]) (by simp)).toWord
  · exact h

theorem rests_union (h : ∀ part ∈ parts, Rests allowed .word part) :
    Rests allowed .word (union parts) :=
  .intercalate (fun _ _ => rfl) fun part hpart => h part (List.mem_eraseDups.mp hpart)

theorem rests_intersection (h : ∀ part ∈ parts, Rests allowed .word part) :
    Rests allowed .word (intersection parts) := by
  unfold intersection
  split
  · exact h _ List.mem_cons_self
  · refine .intercalate (fun _ _ => rfl) fun text htext => ?_
    obtain ⟨part, hpart, rfl⟩ := List.mem_map.mp htext
    unfold intersectionPart
    split
    · exact rests_parenthesize (h part hpart)
    · exact h part hpart

theorem rests_arrayOf (options : Options) (h : Rests allowed .word type) :
    Rests allowed .word (arrayOf options type) := by
  unfold arrayOf
  split
  · exact (Rests.of_template [.literal "Array<", .part type .word, .literal ">"] []
      (by simp) rfl rfl (by simp [h]) (by simp)).toWord
  · exact (Rests.of_template [.part (parenthesize type) .word, .literal "[]"] []
      (by simp) rfl rfl (by simp [rests_parenthesize h])
      (by simp)).toWord

theorem rests_indexSignatureText (h : Rests allowed .word type) :
    Rests allowed .word (indexSignatureText type) :=
  .of_template [.literal "[key: string]: ", .part type .word] [] (by simp [indexSignatureText]) rfl rfl
    (by simp [h]) (by simp)

theorem rests_mapOf (options : Options) (h : Rests allowed .word type) :
    Rests allowed .word (mapOf options type) := by
  unfold mapOf
  split
  · exact (Rests.of_template [.literal "Record<string, ", .part type .word, .literal ">"] []
      (by simp) rfl rfl (by simp [h]) (by simp)).toWord
  · exact (Rests.of_template [.literal "\x7b ", .part (indexSignatureText type) .word, .literal " \x7d"] []
      (by simp) rfl rfl (by simp [rests_indexSignatureText h])
      (by simp)).toWord

theorem rests_makeNullable (options : Options) (h : Rests allowed .word type) :
    Rests allowed .word (makeNullable options type) := by
  have hsuffix : Rests allowed .word (nullSuffix options) := by
    unfold nullSuffix
    split
    · exact (IsWord.of_isIdentifier (by decide)).rests
    · exact (IsWord.of_isIdentifier (by decide)).rests
    · exact .of_template [.word "null", .literal " | ", .word "undefined"] [] (by simp) rfl rfl
        (by simp [IsWord]; decide) (by simp)
  unfold makeNullable
  dsimp only
  split
  · exact h
  · split
    · exact h
    · exact .of_template [.part type .word, .literal " | ", .part (nullSuffix options) .word] []
        (by simp) rfl rfl (by simp [h, hsuffix]) (by simp)

/-- The signature of a property, after which the type of the property stands. -/
theorem rests_signatureText (optionalMarkers : Bool) (name : String) (required readonly : Bool)
    (h : Rests allowed .word type) :
    Rests allowed .word (Property.signatureText optionalMarkers name type required readonly) := by
  have hkey : Rests allowed .word (Name.propertyKey name) := rests_propertyKey name
  have hlead : Rests allowed .closed (if readonly then "readonly " else "") := by
    split
    · exact .of_template [.literal "readonly "] [] (by simp) rfl rfl (by simp)
        (by simp)
    · exact .empty
  have habsent : Rests allowed .word (union [type, absentType]) := by
    refine rests_union ?_
    simp only [List.forall_mem_cons]
    exact ⟨h, (IsWord.of_isIdentifier (by decide)).rests, by simp⟩
  unfold Property.signatureText
  dsimp only
  generalize (if readonly then "readonly " else "") = lead at hlead
  split
  · exact .of_template
      [.part lead .closed, .part (Name.propertyKey name) .word, .literal ": ", .part type .word] []
      (by simp) rfl rfl (by simp [hlead, hkey, h]) (by simp)
  · split
    · exact .of_template
        [.part lead .closed, .part (Name.propertyKey name) .word, .literal "?: ", .part type .word] []
        (by simp) rfl rfl (by simp [hlead, hkey, h]) (by simp)
    · exact .of_template
        [.part lead .closed, .part (Name.propertyKey name) .word, .literal ": ",
          .part (union [type, absentType]) .word] []
        (by simp) rfl rfl (by simp [hlead, hkey, habsent]) (by simp)

end

/-! ## Silent texts -/

/-- The text may stand where a type does, and refers to no companion. -/
def Silent (text : String) : Prop :=
  Rests (fun _ => False) .word text

theorem Silent.rests {text : String} (h : Silent text) : Rests allowed .word text :=
  h.mono fun _ => False.elim

/-- The declaration refers to no companion. -/
def Declaration.Silent (declaration : Declaration) : Prop :=
  Rests (fun _ => False) .closed declaration.content

theorem Declaration.Silent.rests {declaration : Declaration} (h : declaration.Silent) :
    Rests allowed .closed declaration.content :=
  h.mono fun _ => False.elim

end SchemaTypings.Typing
