import SchemaTypings.Proofs.Typing.Comments
import SchemaTypings.Proofs.Typing.Complete

/-!
# Headings of declarations

What the text of a declaration declares, and under which name, stands behind the documentation comment that it may
begin with: the word for exports, if there is one, a keyword, and the name. Whatever texts the comment holds, this
heading is found behind it (`heading?_opening`).
-/

namespace SchemaTypings.Typing

/-! ## Reading headings -/

/-- The keyword of a kind of declaration. -/
def DeclarationKind.keyword : DeclarationKind → String
  | typeAlias => "type"
  | interface => "interface"
  | enum => "enum"
  | const => "const"
  | function => "function"

/-- What stands behind the first pair that ends a comment. -/
def pastClose : List Char → List Char
  | [] => []
  | [_] => []
  | c :: d :: rest => if c = '*' ∧ d = '/' then rest else pastClose (d :: rest)

/-- What stands behind the comment that the text begins with and the blanks after it, if there is one. -/
def pastDoc (cs : List Char) : List Char :=
  match Text.dropLead? "/**".toList cs with
  | some rest => (pastClose rest).dropWhile Text.isBlank
  | none => cs

/-- What stands behind the word for exports, if the text begins with it. -/
def pastExport (cs : List Char) : List Char :=
  (Text.dropLead? "export ".toList cs).getD cs

/-- The name that stands behind the keyword of the kind, if the text begins with that. -/
def nameBehind? (kind : DeclarationKind) (cs : List Char) : Option (List Char) :=
  ((Text.dropLead? kind.keyword.toList cs).bind pastSomeBlanks?).bind leadingIdentifier?

/-- What is declared, and under which name, by a text that begins with a keyword. -/
def declaredAs? (cs : List Char) : Option (DeclarationKind × String) :=
  [.typeAlias, .interface, .function, .const, .enum].findSome? fun kind =>
    (nameBehind? kind cs).map fun name => (kind, String.ofList name)

/-- What the text of a declaration declares, and under which name. -/
def heading? (text : String) : Option (DeclarationKind × String) :=
  declaredAs? (pastExport (pastDoc text.toList))

/-! ## Finding headings -/

variable {options : Options} {kind : DeclarationKind} {content : String} {name body rest : List Char}

theorem pastClose_append (h : Unclosed (body ++ ['*'])) : pastClose (body ++ '*' :: '/' :: rest) = rest := by
  induction body with
  | nil => rfl
  | cons c body ih =>
    obtain ⟨hpair, htail⟩ := List.isChain_cons.mp h
    cases body with
    | nil =>
      rw [List.cons_append, List.nil_append, pastClose, if_neg (by simp), pastClose, if_pos ⟨rfl, rfl⟩]
    | cons d body =>
      rw [List.cons_append, List.cons_append, pastClose, if_neg (hpair d rfl)]
      exact ih htail

/-- A documentation comment is passed, whatever it holds. -/
theorem pastDoc_docComment (texts : List String) {first : Char} (hblank : Text.isBlank first = false)
    (hslash : first ≠ '/') : pastDoc ((docComment texts "").toList ++ first :: rest) = first :: rest := by
  by_cases hlines : commentLines texts = []
  · have hnone : Text.dropLead? "/**".toList (first :: rest) = none := by
      simp [Text.dropLead?, List.isPrefixOf, hslash.symm]
    rw [docComment, hlines, String.toList_empty, List.nil_append, pastDoc, hnone]
  · have hindent : WithinComment "".toList := .of_plain (by decide) (by decide)
    obtain ⟨body, hcomment, hbody⟩ := exists_commentBody hindent hlines
    have hchars : (docComment texts "").toList ++ first :: rest =
        "/**".toList ++ (body.toList ++ '*' :: '/' :: '\n' :: first :: rest) := by
      rw [hcomment]
      simp [toString]
    have hopen : Text.dropLead? "/**".toList ("/**".toList ++ (body.toList ++ '*' :: '/' :: '\n' :: first :: rest)) =
        some (body.toList ++ '*' :: '/' :: '\n' :: first :: rest) := rfl
    have hunclosed : Unclosed (body.toList ++ ['*']) := hbody.unclosed.append (.singleton _) (Or.inr (by decide))
    rw [hchars, pastDoc, hopen]
    simp only [pastClose_append hunclosed, List.dropWhile_cons, show Text.isBlank '\n' = true by decide, hblank,
      if_true, Bool.false_eq_true, if_false]

/-- The text that opens a declaration, in front of what begins with its name. -/
def opening (options : Options) (kind : DeclarationKind) (rest : List Char) : List Char :=
  options.exportWord.toList ++ (kind.keyword.toList ++ ' ' :: rest)

theorem pastExport_opening (options : Options) (kind : DeclarationKind) (rest : List Char) :
    pastExport (opening options kind rest) = kind.keyword.toList ++ ' ' :: rest := by
  unfold opening Options.exportWord
  cases options.exported <;> cases kind <;> rfl

theorem declaredAs?_keyword (kind : DeclarationKind)
    (hfound : (pastSomeBlanks? (' ' :: rest)).bind leadingIdentifier? = some name) :
    declaredAs? (kind.keyword.toList ++ ' ' :: rest) = some (kind, String.ofList name) := by
  -- no keyword is the beginning of another one
  have hkeyword : ∀ other : DeclarationKind, Text.dropLead? other.keyword.toList (kind.keyword.toList ++ ' ' :: rest) =
      if other = kind then some (' ' :: rest) else none := by
    intro other
    cases kind <;> cases other <;> rfl
  have hbehind : ∀ other : DeclarationKind, nameBehind? other (kind.keyword.toList ++ ' ' :: rest) =
      if other = kind then some name else none := by
    intro other
    rw [nameBehind?, hkeyword]
    split
    · exact hfound
    · rfl
  unfold declaredAs?
  cases kind <;> simp [hbehind]

/-- The heading stands behind the comment, whatever this holds. -/
theorem heading?_opening (options : Options) (doc : List String) (kind : DeclarationKind)
    (hfound : (pastSomeBlanks? (' ' :: rest)).bind leadingIdentifier? = some name)
    (hcontent : content.toList = (docComment doc "").toList ++ opening options kind rest) :
    heading? content = some (kind, String.ofList name) := by
  obtain ⟨first, others, hopening, hblank, hslash⟩ : ∃ first others, opening options kind rest = first :: others ∧
      Text.isBlank first = false ∧ first ≠ '/' := by
    unfold opening Options.exportWord
    cases options.exported <;> cases kind <;> exact ⟨_, _, rfl, by decide, by decide⟩
  rw [heading?, hcontent, hopening, pastDoc_docComment doc hblank hslash, ← hopening, pastExport_opening,
    declaredAs?_keyword kind hfound]

/-- The text opens a declaration of the kind, without a comment, and a name begins there. -/
def Opens (options : Options) (kind : DeclarationKind) (content : String) : Prop :=
  ∃ first rest, Name.startsIdentifier first = true ∧ content.toList = opening options kind (first :: rest)

/-- In a text that opens a declaration, the name of a type or of a function is that of its heading. -/
theorem Opens.exists_name (h : Opens options kind content) (hkind : kind = .typeAlias ∨ kind = .function) :
    ∃ name, declaredName? content = some name ∧ heading? content = some (kind, name) := by
  obtain ⟨first, rest, hstarts, hcontent⟩ := h
  have hblank : Text.isBlank first = false :=
    isBlank_of_continuesIdentifier (by simp [Name.continuesIdentifier, hstarts])
  have hpast : pastSomeBlanks? (' ' :: first :: rest) = some (first :: rest) := by
    simp [pastSomeBlanks?, hblank, show Text.isBlank ' ' = true by decide]
  have hfound : (pastSomeBlanks? (' ' :: first :: rest)).bind leadingIdentifier? =
      some (first :: rest.takeWhile Name.continuesIdentifier) := by
    rw [hpast, Option.bind_some, leadingIdentifier?, if_pos hstarts]
  have hkeyword : kind.keyword = "type" ∨ kind.keyword = "function" := by
    rcases hkind with rfl | rfl
    · exact Or.inl rfl
    · exact Or.inr rfl
  exact ⟨_, declaredName?_found options hkeyword hfound hcontent, heading?_opening options [] kind hfound hcontent⟩

end SchemaTypings.Typing
