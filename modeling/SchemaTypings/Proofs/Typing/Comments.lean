import Mathlib.Data.List.Chain
import SchemaTypings.Typing.DocComment

/-!
# Comments that end where they should

A comment ends with the first star that a slash follows. A documentation comment has this pair at its end and
nowhere before, whatever the texts in it hold (`docComment_ends_last`): in a line the pair is taken apart
(`Unclosed.commentLine`), and what stands between lines keeps a star before and a slash after them apart from them
(`WithinComment`).
-/

namespace SchemaTypings.Typing

variable {first second text line : List Char}

/-! ## Texts that end no comment -/

/-- No star is followed by a slash. -/
def Unclosed (text : List Char) : Prop :=
  text.IsChain fun c d => ¬ (c = '*' ∧ d = '/')

instance : DecidablePred Unclosed :=
  fun text => inferInstanceAs (Decidable (text.IsChain fun c d => ¬ (c = '*' ∧ d = '/')))

namespace Unclosed

theorem append (hfirst : Unclosed first) (hsecond : Unclosed second)
    (h : first.getLast? ≠ some '*' ∨ second.head? ≠ some '/') : Unclosed (first ++ second) := by
  refine List.isChain_append.mpr ⟨hfirst, hsecond, ?_⟩
  rintro c hlast d hhead ⟨rfl, rfl⟩
  exact h.elim (· hlast) (· hhead)

theorem of_starless (h : '*' ∉ text) : Unclosed text := by
  induction text with
  | nil => exact .nil
  | cons c rest ih =>
    obtain ⟨hc, hrest⟩ := not_or.mp (List.mem_cons.not.mp h)
    exact List.isChain_cons.mpr ⟨fun d _ hpair => hc hpair.1.symm, ih hrest⟩

/-- To take pairs apart leaves the first character as it is. -/
theorem head?_replacePair (line : List Char) :
    (Text.replacePair '*' '/' ['*', '\\', '/'] line).head? = line.head? := by
  fun_cases Text.replacePair '*' '/' ['*', '\\', '/'] line <;> simp_all

/-- A line in which the pair is taken apart has it nowhere, as no slash comes to stand after a star. -/
theorem commentLine (line : List Char) : Unclosed (commentLine line).toList := by
  rw [Typing.commentLine, String.toList_ofList]
  fun_induction Text.replacePair '*' '/' ['*', '\\', '/'] line with
  | case1 => exact .nil
  | case2 c => exact .singleton c
  | case3 c d rest hpair ih => exact append (by decide) ih (Or.inl (by decide))
  | case4 c d rest hpair ih =>
    refine List.isChain_cons.mpr ⟨?_, ih⟩
    rintro e hhead ⟨rfl, rfl⟩
    rw [head?_replacePair] at hhead
    obtain rfl : d = '/' := Option.some.inj hhead
    exact hpair rfl

/-- Nothing is taken apart in a line without stars. -/
theorem commentLine_of_starless (h : '*' ∉ line) : Typing.commentLine line = String.ofList line := by
  rw [Typing.commentLine]
  congr 1
  fun_induction Text.replacePair '*' '/' ['*', '\\', '/'] line with
  | case1 => rfl
  | case2 c => rfl
  | case3 c d rest hpair ih =>
    have hstar : c = '*' := by simpa using (Bool.and_eq_true_iff.mp hpair).1
    exact absurd (hstar ▸ List.mem_cons_self) h
  | case4 c d rest hpair ih => rw [ih fun hmem => h (List.mem_cons_of_mem c hmem)]

end Unclosed

/-! ## Texts that may stand within a comment -/

/-- The text ends no comment, by itself or together with what stands next to it. -/
structure WithinComment (text : List Char) : Prop where
  unclosed : Unclosed text
  head : text.head? ≠ some '/'
  last : text.getLast? ≠ some '*'

namespace WithinComment

theorem append (hfirst : WithinComment first) (hsecond : WithinComment second) :
    WithinComment (first ++ second) where
  unclosed := hfirst.unclosed.append hsecond.unclosed (Or.inl hfirst.last)
  head := by
    cases first with
    | nil => exact hsecond.head
    | cons c rest => exact hfirst.head
  last := by
    rw [List.getLast?_append]
    cases hlast : second.getLast? with
    | none => exact hfirst.last
    | some c => exact fun h => hsecond.last (hlast.trans h)

theorem join {texts : List String} (h : ∀ text ∈ texts, WithinComment text.toList) :
    WithinComment (String.join texts).toList := by
  induction texts with
  | nil => exact ⟨by decide, by decide, by decide⟩
  | cons text rest ih =>
    obtain ⟨htext, hrest⟩ := List.forall_mem_cons.mp h
    rw [String.join_cons, String.toList_append]
    exact htext.append (ih hrest)

theorem of_plain (hstar : '*' ∉ text) (hslash : '/' ∉ text) : WithinComment text where
  unclosed := .of_starless hstar
  head h := hslash (List.mem_of_head? h)
  last h := hstar (List.mem_of_getLast? h)

/-- What ends no comment by itself, between two characters that are no stars and slashes. -/
theorem enclose {c d : Char} (h : Unclosed text) (hc : c ≠ '*' ∧ c ≠ '/') (hd : d ≠ '*' ∧ d ≠ '/') :
    WithinComment (c :: (text ++ [d])) where
  unclosed := by
    have hend : Unclosed (text ++ [d]) := h.append (.singleton d) (Or.inr (by simpa using hd.2))
    exact (Unclosed.append (.singleton c) hend (Or.inl (by simpa using hc.1)) : Unclosed ([c] ++ (text ++ [d])))
  head := by simpa using hc.2
  last := by
    rw [← List.cons_append, List.getLast?_concat]
    simpa using hd.1

theorem commentRow {indent : String} (hindent : WithinComment indent.toList) (line : List Char) :
    WithinComment (commentRow indent line).toList := by
  unfold Typing.commentRow
  split
  · have hrow : (s!"{indent} *\n").toList = indent.toList ++ " *\n".toList :=
      String.toList_append ..
    rw [hrow]
    exact hindent.append ⟨by decide, by decide, by decide⟩
  · have hrow : (s!"{indent} * {commentLine line}\n").toList =
        indent.toList ++ ' ' :: ("* ".toList ++ (commentLine line).toList ++ ['\n']) := by
      simp [toString]
    have hline : Unclosed ("* ".toList ++ (commentLine line).toList) :=
      .append (by decide) (.commentLine line) (Or.inl (by decide))
    rw [hrow]
    exact hindent.append (enclose hline (by decide) (by decide))

end WithinComment

/-! ## Documentation comments -/

/-- The text begins with a documentation comment in which the tag is the only line, or one of several. No other
line ends the comment. -/
inductive Tagged (tag : String) : String → Prop
  | alone (rest : String) : Tagged tag ("/** " ++ tag ++ " */\n" ++ rest)
  | among (before after : List String) (rest : String)
    (hrows : ∀ row ∈ before ++ after, ∃ text, row = " *" ++ text ++ "\n" ∧ Unclosed ('*' :: text.toList)) :
    Tagged tag ("/**\n" ++ String.join before ++ " * " ++ tag ++ "\n" ++ String.join after ++ " */\n" ++ rest)

/-- A row of a comment has a star at its beginning, and no slash follows that or another star. -/
theorem exists_commentRow (line : List Char) :
    ∃ text, commentRow "" line = " *" ++ text ++ "\n" ∧ Unclosed ('*' :: text.toList) := by
  cases line with
  | nil => exact ⟨"", rfl, by decide⟩
  | cons c rest =>
    refine ⟨" " ++ commentLine (c :: rest), String.toList_injective (by simp [commentRow, toString]), ?_⟩
    rw [String.toList_append]
    exact (Unclosed.append (by decide) (.commentLine _) (Or.inl (by decide)) :
      Unclosed ("* ".toList ++ (commentLine (c :: rest)).toList))

theorem docComment_rows {texts : List String} (h : 1 < (commentLines texts).length) :
    docComment texts "" = "/**\n" ++ String.join ((commentLines texts).map (commentRow "")) ++ " */\n" := by
  unfold docComment
  generalize commentLines texts = rows at h ⊢
  split
  · cases h
  · exact absurd h (Nat.lt_irrefl 1)
  · rfl

/-- A line of the texts without stars is a tag of their comment. -/
theorem tagged_docComment {texts : List String} {tag : String} (h : tag.toList ∈ commentLines texts)
    (hsome : tag.toList ≠ []) (hstar : '*' ∉ tag.toList) (rest : String) :
    Tagged tag (docComment texts "" ++ rest) := by
  have htag : commentLine tag.toList = tag := by
    rw [Unclosed.commentLine_of_starless hstar, String.ofList_toList]
  obtain ⟨before, after, hlines⟩ := List.append_of_mem h
  by_cases halone : before = [] ∧ after = []
  · obtain ⟨rfl, rfl⟩ := halone
    have hcomment : docComment texts "" = "/** " ++ tag ++ " */\n" := by
      simp only [docComment, hlines, List.nil_append, htag]
      exact String.toList_injective (by simp [toString])
    exact hcomment ▸ .alone rest
  · have hlength : 1 < (commentLines texts).length := by
      rw [hlines, List.length_append, List.length_cons]
      by_contra hshort
      exact halone ⟨List.length_eq_zero_iff.mp (by omega), List.length_eq_zero_iff.mp (by omega)⟩
    have hrow : commentRow "" tag.toList = " * " ++ tag ++ "\n" := by
      simp only [commentRow, List.isEmpty_eq_false_iff.mpr hsome, Bool.false_eq_true, if_false, htag]
      exact String.toList_injective (by simp [toString])
    have hcomment : docComment texts "" ++ rest =
        "/**\n" ++ String.join (before.map (commentRow "")) ++ " * " ++ tag ++ "\n" ++
          String.join (after.map (commentRow "")) ++ " */\n" ++ rest := by
      simp only [docComment_rows hlength, hlines, List.map_append, List.map_cons, String.join_append,
        String.join_cons, hrow, String.append_assoc]
    rw [hcomment]
    refine .among _ _ rest fun row hmem => ?_
    rw [← List.map_append] at hmem
    obtain ⟨line, -, rfl⟩ := List.mem_map.mp hmem
    exact exists_commentRow line

/-- What stands between the signs of a documentation comment ends it nowhere. -/
theorem exists_commentBody {texts : List String} {indent : String}
    (hindent : WithinComment indent.toList) (h : commentLines texts ≠ []) :
    ∃ body : String, docComment texts indent = s!"{indent}/**{body}*/\n" ∧ WithinComment body.toList := by
  unfold docComment
  generalize commentLines texts = rows at h ⊢
  split
  · exact absurd rfl h
  · rename_i line
    refine ⟨s!" {commentLine line} ", String.toList_injective (by simp [toString]), ?_⟩
    have hbody : (s!" {commentLine line} ").toList = ' ' :: ((commentLine line).toList ++ [' ']) := by
      simp [toString]
    rw [hbody]
    exact .enclose (.commentLine line) (by decide) (by decide)
  · refine ⟨"\n" ++ String.join (rows.map (commentRow indent)) ++ indent ++ " ",
      String.toList_injective (by simp [toString]), ?_⟩
    have hrows : WithinComment (String.join (rows.map (commentRow indent))).toList := by
      refine .join fun text htext => ?_
      obtain ⟨row, -, rfl⟩ := List.mem_map.mp htext
      exact .commentRow hindent row
    simp only [String.toList_append]
    exact ((WithinComment.of_plain (by decide) (by decide)).append hrows).append hindent |>.append
      (.of_plain (by decide) (by decide))

/-- A comment whose body ends it nowhere has the pair that ends it only before its last line break. -/
theorem WithinComment.ends_last {indent body before after : List Char} (hindent : WithinComment indent)
    (hbody : WithinComment body)
    (h : indent ++ "/**".toList ++ body ++ "*/\n".toList = before ++ '*' :: '/' :: after) :
    after = ['\n'] := by
  have hopened : Unclosed (indent ++ "/**".toList ++ body) :=
    (hindent.unclosed.append (by decide) (Or.inl hindent.last)).append hbody.unclosed (Or.inr hbody.head)
  have hunclosed : Unclosed (indent ++ "/**".toList ++ body ++ ['*']) :=
    hopened.append (by decide) (Or.inr (by decide))
  have hsplit : (indent ++ "/**".toList ++ body ++ ['*']) ++ ['/', '\n'] = before ++ '*' :: '/' :: after := by
    rw [← h]
    simp
  rcases List.append_eq_append_iff.mp hsplit with ⟨past, -, hpast⟩ | ⟨between, hbetween, hrest⟩
  · have hmem : '*' ∈ ['/', '\n'] := hpast ▸ List.mem_append_right past List.mem_cons_self
    exact absurd hmem (by decide)
  rcases between with _ | ⟨first, _ | ⟨second, rest⟩⟩
  · exact absurd (List.cons.inj hrest).1 (by decide)
  · exact (List.cons.inj (List.cons.inj hrest).2).2
  · -- the pair stands before the sign that ends the comment
    simp only [List.cons_append, List.cons.injEq] at hrest
    obtain ⟨rfl, rfl, -⟩ := hrest
    rw [hbetween] at hunclosed
    have hpair := (List.isChain_append.mp hunclosed).2.1
    exact absurd ⟨rfl, rfl⟩ (List.isChain_cons_cons.mp hpair).1

theorem lines_eq_nil {cs : List Char} : Text.lines cs = [] ↔ cs = [] := by
  refine ⟨fun h => ?_, fun h => h ▸ rfl⟩
  cases cs with
  | nil => rfl
  | cons c rest =>
    rw [Text.lines, List.append_eq_nil_iff, List.map_eq_nil_iff, Text.fields] at h
    obtain ⟨field, others, hfields⟩ := List.exists_cons_of_ne_nil (Text.fields_ne_nil '\n' rest)
    rw [hfields] at h
    split at h
    · exact absurd h.1 (by simp)
    · obtain ⟨hothers, hlast⟩ := h
      cases others with
      | nil => exact absurd hlast (by simp)
      | cons other others => exact absurd hothers (by simp)

theorem commentLines_eq_nil {texts : List String} : commentLines texts = [] ↔ ∀ text ∈ texts, text = "" := by
  simp [commentLines, lines_eq_nil]

/-- The comment that holds texts is nothing if they are all empty. Otherwise, indented by what has no stars and
slashes, it begins with a slash and two stars, and the pair that ends a comment stands before the line break at its
end and nowhere else. -/
theorem docComment_ends_last (texts : List String) (indent : String) (hstar : '*' ∉ indent.toList)
    (hslash : '/' ∉ indent.toList) :
    (docComment texts indent = "" ↔ ∀ text ∈ texts, text = "") ∧
    ((∃ text ∈ texts, text ≠ "") →
      (∃ body : String, docComment texts indent = s!"{indent}/**{body}*/\n") ∧
      ∀ before after, (docComment texts indent).toList = before ++ '*' :: '/' :: after → after = ['\n']) := by
  have hindent := WithinComment.of_plain hstar hslash
  have hshown : commentLines texts ≠ [] →
      ∃ body : String, docComment texts indent = s!"{indent}/**{body}*/\n" ∧ WithinComment body.toList :=
    exists_commentBody hindent
  refine ⟨⟨fun hnone => commentLines_eq_nil.mp ?_, fun hempty => ?_⟩, fun hsome => ?_⟩
  · by_contra hlines
    obtain ⟨body, hcomment, -⟩ := hshown hlines
    have hchars := congrArg String.toList (hcomment.symm.trans hnone)
    simp [toString] at hchars
  · rw [docComment, commentLines_eq_nil.mpr hempty]
  · obtain ⟨body, hcomment, hbody⟩ := hshown fun hlines => by
      obtain ⟨text, htext, hne⟩ := hsome
      exact hne (commentLines_eq_nil.mp hlines text htext)
    refine ⟨⟨body, hcomment⟩, fun before after hsplit => ?_⟩
    have hwhole : indent.toList ++ "/**".toList ++ body.toList ++ "*/\n".toList =
        before ++ '*' :: '/' :: after := by
      rw [← hsplit, hcomment]
      simp [toString]
    exact hindent.ends_last hbody hwhole

/-- A description that tries to end the comment, line by line. -/
theorem docComment_ends_last_of_description :
    '*' ∉ "  ".toList ∧ '/' ∉ "  ".toList ∧ (∃ text ∈ ["a **// b */\r\n/ *", ""], text ≠ "") ∧
    docComment ["a **// b */\r\n/ *", ""] "  " = "  /**\n   * a **\\// b *\\/\n   * / *\n   */\n" ∧
    ∀ before after, (docComment ["a **// b */\r\n/ *", ""] "  ").toList = before ++ '*' :: '/' :: after →
      after = ['\n'] := by
  have hsome : ∃ text ∈ ["a **// b */\r\n/ *", ""], text ≠ "" := ⟨_, List.mem_cons_self, by decide⟩
  exact ⟨by decide, by decide, hsome, by decide,
    ((docComment_ends_last ["a **// b */\r\n/ *", ""] "  " (by decide) (by decide)).2 hsome).2⟩

end SchemaTypings.Typing
