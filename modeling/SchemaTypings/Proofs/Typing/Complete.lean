import SchemaTypings.Proofs.Typing.Resting

/-!
# Declarations that are complete

Declarations are complete among others if these declare every companion that they refer to. The name that the
text of a function declares is that of the function (`declaredName?_function`), so what is declared again from
its text keeps its name.
-/

namespace SchemaTypings.Typing

/-! ## Completeness -/

/-- One of the declarations has the name. -/
def Declares (declarations : List Declaration) (name : List Char) : Prop :=
  String.ofList name ∈ declarations.map (·.name)

theorem declares_toList {declarations : List Declaration} {name : String} :
    Declares declarations name.toList ↔ name ∈ declarations.map (·.name) := by
  rw [Declares, String.ofList_toList]

theorem Declaration.allowed_companion {allowed : List Char → Prop} {ending : Ending}
    {declaration : Declaration} (h : Rests allowed ending declaration.content) {companion : String}
    (hcompanion : companion ∈ declaration.companions) : allowed companion.toList := by
  obtain ⟨cs, hcs, rfl⟩ := List.mem_map.mp hcompanion
  rw [String.toList_ofList]
  exact h.companions cs hcs

/-- The declarations refer to companions only that are declared among all. -/
def Complete (declarations all : List Declaration) : Prop :=
  ∀ declaration ∈ declarations, Rests (Declares all) .closed declaration.content

namespace Complete

variable {declarations others known all : List Declaration}

theorem of_silent (h : ∀ declaration ∈ declarations, declaration.Silent) : Complete declarations all :=
  fun declaration hdeclaration => (h declaration hdeclaration).rests

theorem append (h : Complete declarations all) (h' : Complete others all) :
    Complete (declarations ++ others) all := by
  intro declaration hdeclaration
  rcases List.mem_append.mp hdeclaration with hmem | hmem
  · exact h declaration hmem
  · exact h' declaration hmem

theorem mono (h : Complete declarations known) (hsubset : known ⊆ all) : Complete declarations all := by
  intro declaration hdeclaration
  exact (h declaration hdeclaration).mono fun _ hname => List.map_subset _ hsubset hname

end Complete

/-! ## The names of functions -/

theorem isBlank_of_continuesIdentifier {c : Char} (h : Name.continuesIdentifier c = true) :
    Text.isBlank c = false :=
  Text.forall_ascii (P := fun c => Name.continuesIdentifier c = true → Text.isBlank c = false)
    (by decide +kernel) (Name.isAscii_of_continuesIdentifier h) h

/-- The text declares a function of the name, after which its parameters are opened by the sign. -/
def DeclaresFunction (options : Options) (name : String) (sign : Char) (content : String) : Prop :=
  options.exportWord.toList ++ ("function ".toList ++ (name.toList ++ [sign])) <+: content.toList

variable {name : String} {rest : List Char}

theorem leadingIdentifier?_append (hname : Name.isIdentifier name = true)
    (hrest : ∀ c ∈ rest.head?, Name.continuesIdentifier c = false) :
    (pastSomeBlanks? (' ' :: (name.toList ++ rest))).bind leadingIdentifier? = some name.toList := by
  rw [Name.isIdentifier] at hname
  cases hchars : name.toList with
  | nil => simp [hchars, Name.isIdentifierChars] at hname
  | cons first others =>
    rw [hchars, Name.isIdentifierChars, Bool.and_eq_true] at hname
    have hblank : Text.isBlank first = false :=
      isBlank_of_continuesIdentifier (by simp [Name.continuesIdentifier, hname.1])
    have hpast : pastSomeBlanks? (' ' :: (first :: others ++ rest)) = some (first :: others ++ rest) := by
      simp [pastSomeBlanks?, hblank, show Text.isBlank ' ' = true by decide]
    have htake : (others ++ rest).takeWhile Name.continuesIdentifier = others := by
      rw [List.takeWhile_append_of_pos (List.all_eq_true.mp hname.2)]
      cases rest with
      | nil => simp
      | cons c tail => simp [hrest c rfl]
    rw [hpast, Option.bind_some, List.cons_append, leadingIdentifier?, if_pos hname.1, htake]

/-- The name that begins behind the keyword of a type or of a function is found. -/
theorem declaredName?_found (options : Options) {keyword content : String} {found : List Char}
    (hkeyword : keyword = "type" ∨ keyword = "function")
    (hfound : (pastSomeBlanks? (' ' :: rest)).bind leadingIdentifier? = some found)
    (hcontent : content.toList = options.exportWord.toList ++ (keyword.toList ++ ' ' :: rest)) :
    declaredName? content = some (String.ofList found) := by
  have hhere : declaredNameFrom false (keyword.toList ++ ' ' :: rest) = some found := by
    rcases hkeyword with rfl | rfl
    · have hstep : declaredNameFrom false ("type".toList ++ ' ' :: rest) =
          (nameAfterKeyword? ("type".toList ++ ' ' :: rest) <|>
            declaredNameFrom true ("ype".toList ++ ' ' :: rest)) := rfl
      have htype : Text.dropLead? "type".toList ("type".toList ++ ' ' :: rest) = some (' ' :: rest) := rfl
      simp only [hstep, nameAfterKeyword?, declaringKeywords, List.map_cons, List.findSome?_cons, htype,
        Option.bind_some, hfound]
      rfl
    · have hstep : declaredNameFrom false ("function".toList ++ ' ' :: rest) =
          (nameAfterKeyword? ("function".toList ++ ' ' :: rest) <|>
            declaredNameFrom true ("unction".toList ++ ' ' :: rest)) := rfl
      have htype : Text.dropLead? "type".toList ("function".toList ++ ' ' :: rest) = none := rfl
      have hinterface : Text.dropLead? "interface".toList ("function".toList ++ ' ' :: rest) = none := rfl
      have hfunction : Text.dropLead? "function".toList ("function".toList ++ ' ' :: rest) =
          some (' ' :: rest) := rfl
      simp only [hstep, nameAfterKeyword?, declaringKeywords, List.map_cons, List.findSome?_cons, htype,
        hinterface, hfunction, Option.bind_none, Option.bind_some, hfound]
      rfl
  have hexported : declaredNameFrom false (options.exportWord.toList ++ (keyword.toList ++ ' ' :: rest)) =
      declaredNameFrom false (keyword.toList ++ ' ' :: rest) := by
    rcases hkeyword with rfl | rfl <;> unfold Options.exportWord <;> split <;> rfl
  rw [declaredName?, hcontent, hexported, hhere, Option.map_some]

/-- The name of a type or of a function is found in its text, if something ends it there. -/
theorem declaredName?_keyword (options : Options) {keyword content : String} {sign : Char} {after : List Char}
    (hkeyword : keyword = "type" ∨ keyword = "function") (hname : Name.isIdentifier name = true)
    (hsign : Name.continuesIdentifier sign = false)
    (hcontent : content.toList = options.exportWord.toList ++ (keyword.toList ++ ' ' :: (name.toList
      ++ sign :: after))) : declaredName? content = some name := by
  have hidentifier : (pastSomeBlanks? (' ' :: (name.toList ++ sign :: after))).bind leadingIdentifier? =
      some name.toList := by
    refine leadingIdentifier?_append hname ?_
    rintro _ ⟨⟩
    exact hsign
  rw [declaredName?_found options hkeyword hidentifier hcontent, String.ofList_toList]

/-- The name of a function is found in its text. -/
theorem declaredName?_function (options : Options) {sign : Char} {content : String}
    (hname : Name.isIdentifier name = true) (hsign : sign = '(' ∨ sign = '<')
    (h : DeclaresFunction options name sign content) : declaredName? content = some name := by
  obtain ⟨after, hcontent⟩ := h
  have hends : Name.continuesIdentifier sign = false := by
    rcases hsign with rfl | rfl <;> decide
  have hkeyword : content.toList = options.exportWord.toList ++ ("function".toList ++ ' ' :: (name.toList
      ++ sign :: after)) := by
    rw [← hcontent, List.append_assoc, List.append_assoc, List.append_assoc]
    rfl
  exact declaredName?_keyword options (Or.inr rfl) hname hends hkeyword

end SchemaTypings.Typing
