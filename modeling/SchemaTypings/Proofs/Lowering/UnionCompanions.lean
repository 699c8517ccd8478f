import SchemaTypings.Lowering.UnionDispatch
import SchemaTypings.Proofs.Name.Identifiers
import SchemaTypings.Proofs.Typing.Complete

/-!
# Companions of unions

Which companions the functions about a union refer to: the guards of the members, which the match may call
and the assertion does, and the match, which the fold calls.
-/

namespace SchemaTypings

open Typing

variable {allowed : List Char → Prop}

namespace UnionDispatch

/-! ## Checks -/

/-- The expression is the value that is looked at, or a property of it. -/
def IsSubject (expr : String) : Prop :=
  expr = "value" ∨ ∃ key, expr = propertyOf key

theorem propertyOf_eq (key : String) :
    propertyOf key = "(value as Record<string, unknown>)[" ++ quoted key ++ "]" := rfl

/-- Pieces around an expression, where either kind of expression may stand. -/
theorem rests_around {expr text : String} (hexpr : IsSubject expr) (before : String) (after : List Piece)
    (htext : text.toList = Template.render (.literal before :: .part expr .word :: after))
    {edge edge' : Edge} {ending : Ending} (uses uses' : List Use)
    (hvalue : Template.eval .plain {} (.literal before :: .word "value" :: after) = some (edge, {}, uses))
    (hproperty : ∀ key, Template.eval .plain {}
      (.literal (before ++ "(value as Record<string, unknown>)[") :: .quoted key
        :: .literal "]" :: after) = some (edge', {}, uses'))
    (hedge : edge.ending? = some ending) (hedge' : edge'.ending? = some ending)
    (hfits : ∀ piece ∈ after, piece.Fits allowed) (huses : ∀ use ∈ uses, use.Met allowed)
    (huses' : ∀ use ∈ uses', use.Met allowed) : Rests allowed ending text := by
  have hword : IsWord "value" := .of_isIdentifier (by decide)
  rcases hexpr with rfl | ⟨key, rfl⟩
  · refine .of_template _ uses ?_ hvalue hedge ?_ huses
    · exact htext
    · simpa [hword] using hfits
  · refine .of_template _ uses' ?_ (hproperty key) hedge' ?_ huses'
    · refine htext.trans ?_
      simp only [Template.render_cons, Piece.text, propertyOf_eq, String.toList_append, List.append_assoc]
    · simpa using hfits

section

variable {expr : String} (hexpr : IsSubject expr)

include hexpr

theorem rests_subject : Rests allowed .word expr := by
  have hword : IsWord "value" := .of_isIdentifier (by decide)
  rcases hexpr with rfl | ⟨key, rfl⟩
  · exact hword.rests
  · rw [propertyOf_eq]
    exact (Rests.of_template [.literal "(value as Record<string, unknown>)[", .quoted key, .literal "]"] []
      (by simp) rfl rfl (by simp) (by simp)).toWord

theorem rests_typeCheck {comparison : String}
    (htype : comparison ∈ [" === \"string\"", " === \"number\"", " === \"boolean\""]) :
    Rests allowed .word ("typeof " ++ expr ++ comparison) := by
  have hread : (Use.read "value").Met allowed := fun h => absurd h (by decide)
  simp only [List.mem_cons, List.not_mem_nil, or_false] at htype
  rcases htype with rfl | rfl | rfl
  · exact (rests_around hexpr "typeof " [.literal " === \"string\""] (by simp)
      [.read "value"] [] rfl (fun _ => rfl) rfl rfl (by simp) (by simp [hread]) (by simp)).toWord
  · exact (rests_around hexpr "typeof " [.literal " === \"number\""] (by simp)
      [.read "value"] [] rfl (fun _ => rfl) rfl rfl (by simp) (by simp [hread]) (by simp)).toWord
  · exact (rests_around hexpr "typeof " [.literal " === \"boolean\""] (by simp)
      [.read "value"] [] rfl (fun _ => rfl) rfl rfl (by simp) (by simp [hread]) (by simp)).toWord

theorem rests_kindCheck {kind : SchemaKind Schema} {check : String}
    (h : kindCheck? expr kind = some check) : Rests allowed .word check := by
  have hsubject : Rests allowed .word expr := rests_subject hexpr
  unfold kindCheck? at h
  split at h
  · cases h
    exact rests_typeCheck hexpr (by simp)
  · cases h
    exact rests_typeCheck hexpr (by simp)
  · cases h
    exact rests_typeCheck hexpr (by simp)
  · cases h
    exact rests_typeCheck hexpr (by simp)
  · cases h
    exact .of_template [.part expr .word, .literal " === ", .word "null"] [] (by simp) rfl rfl
      (by simpa [hsubject] using IsWord.of_isIdentifier (by decide)) (by simp)
  · cases h
    exact (Rests.of_template [.literal "Array.isArray(", .part expr .word, .literal ")"] []
      (by simp) rfl rfl (by simp [hsubject]) (by simp)).toWord
  · rename_i shape
    split at h
    · cases h
    · cases h
      have hliterals : Rests allowed .word (String.intercalate ", " (shape.values.map Json.literal)) := by
        refine .intercalate (fun _ _ => rfl) fun literal hliteral => ?_
        obtain ⟨value, -, rfl⟩ := List.mem_map.mp hliteral
        exact (rests_compact value).toWord
      exact (Rests.of_template [.literal "([",
        .part (String.intercalate ", " (shape.values.map Json.literal)) .word,
        .literal "] as readonly unknown[]).includes(", .part expr .word, .literal ")"] []
        (by simp) rfl rfl (by simp [hliterals, hsubject]) (by simp)).toWord
  · cases h

theorem rests_valueCheck {schema : Schema} {check : String} (h : valueCheck? schema expr = some check) :
    Rests allowed .word check := by
  obtain ⟨base, hbase, rfl⟩ := Option.map_eq_some_iff.mp h
  have hcheck : Rests allowed .word base := rests_kindCheck hexpr hbase
  have hsubject : Rests allowed .word expr := rests_subject hexpr
  split
  · exact (Rests.of_template [.literal "(", .part expr .word, .literal " === null || ", .part base .word,
      .literal ")"] [] (by simp) rfl rfl (by simp [hsubject, hcheck]) (by simp)).toWord
  · exact hcheck

end

theorem rests_objectChecks : ∀ check ∈ objectChecks, Rests allowed .word check := by
  have hobject : Rests allowed .word "typeof value === \"object\"" :=
    (Rests.of_template [.literal "typeof value === \"object\""] [] (by simp) rfl rfl (by simp)
      (by simp)).toWord
  have hnull : Rests allowed .word "value !== null" :=
    .of_template [.literal "value !== ", .word "null"] [] (by simp) rfl rfl
      (by simpa using IsWord.of_isIdentifier (by decide)) (by simp)
  have harray : Rests allowed .word "!Array.isArray(value)" :=
    (Rests.of_template [.literal "!Array.isArray(value)"] [] (by simp) rfl rfl (by simp) (by simp)).toWord
  simp only [objectChecks, List.forall_mem_cons]
  exact ⟨hobject, hnull, harray, by simp⟩

theorem rests_emptyCheck (shape : ObjectShape Schema) :
    ∀ check ∈ emptyCheck shape, Rests allowed .word check := by
  have hempty : Rests allowed .word "Object.keys(value).length === 0" :=
    .of_template [.literal "Object.keys(value).length === ", .word "0"] [] (by simp) rfl rfl
      (by simp [IsWord]; decide) (by simp)
  unfold emptyCheck
  split
  · split
    · simpa using hempty
    · simp
  · simp

/-! ## Guards -/

variable (dispatch : UnionDispatch)

theorem rests_requiredChecks (shape : ObjectShape Schema) (property : String) :
    ∀ check ∈ dispatch.requiredChecks shape property, Rests allowed .word check := by
  have hpresent : Rests allowed .word s!"{quoted property} in value" :=
    .of_template [.quoted property, .literal " in ", .word "value"] [] (by simp) rfl rfl
      (by simpa using IsWord.of_isIdentifier (by decide)) (by simp)
  intro check hcheck
  rw [requiredChecks] at hcheck
  rcases List.mem_cons.mp hcheck with rfl | hcheck
  · exact hpresent
  · obtain ⟨schema, -, hschema⟩ := Option.bind_eq_some_iff.mp (Option.mem_toList.mp hcheck)
    exact rests_valueCheck (Or.inr ⟨property, rfl⟩) hschema

theorem rests_structuralCheck (schema : Schema) :
    Rests allowed .word (dispatch.structuralCheck schema) := by
  have htrue : Rests allowed .word "true" := (IsWord.of_isIdentifier (by decide)).rests
  unfold structuralCheck
  split
  · exact htrue
  · split
    · rename_i shape _
      refine .intercalate (fun _ _ => rfl) fun check hcheck => ?_
      simp only [List.mem_append, List.mem_flatMap] at hcheck
      rcases hcheck with (hcheck | ⟨property, -, hcheck⟩) | hcheck
      · exact rests_objectChecks check hcheck
      · exact rests_requiredChecks dispatch shape property check hcheck
      · exact rests_emptyCheck shape check hcheck
    · rename_i resolved _ _ _
      cases hcheck : valueCheck? resolved "value" with
      | none => exact htrue
      | some check => exact rests_valueCheck (Or.inl rfl) hcheck

/-! ## Functions -/

/-- The names of the union and of its members are identifiers, and the types of the members are at rest. -/
structure Wellformed (allowed : List Char → Prop) (dispatch : UnionDispatch) : Prop where
  name : Name.isIdentifier dispatch.name = true
  exportWord : ∃ options : Options, dispatch.exportWord = options.exportWord
  types : ∀ member ∈ dispatch.members, Rests allowed .word member.typeName
  tags : ∀ member ∈ dispatch.members, Name.isIdentifier member.tag = true

theorem rests_handlerKey (member : UnionMember) : Rests allowed .word (dispatch.handlerKey member) := by
  unfold handlerKey
  split
  · exact rests_propertyKey _
  · exact (IsWord.of_isIdentifier (Name.isIdentifier_camel _)).rests

/-- The handler of a member is called in a text as an access, or by its key between brackets. -/
theorem rests_handlerCall (member : UnionMember) {handlers text : String} (hhandlers : IsWord handlers)
    (hcall : ∀ key, (Use.call (handlers ++ "." ++ key)).Met allowed) (before after : List Piece)
    (htext : text.toList = Template.render
      (before ++ .part (dispatch.handlerOf member handlers) .word :: .literal "(" :: after))
    (uses : List Use)
    (haccess : ∀ word, Template.eval .plain {} (before ++ .word word :: .literal "(" :: after) =
      some (.plain, {}, uses ++ [.call word]))
    (hbrackets : ∀ key, Template.eval .plain {} (before ++ .word handlers :: .literal "["
      :: .part key .word :: .literal "](" :: after) = some (.plain, {}, uses))
    (hbefore : ∀ piece ∈ before, piece.Fits allowed) (hafter : ∀ piece ∈ after, piece.Fits allowed)
    (huses : ∀ use ∈ uses, use.Met allowed) : Rests allowed .closed text := by
  unfold handlerOf at htext
  dsimp only at htext
  split at htext
  · rename_i hkey
    have hword : IsWord (handlers ++ "." ++ dispatch.handlerKey member) :=
      (hhandlers.append (by decide)).append (IsWord.of_isIdentifier hkey).2
    refine .of_template _ _ ?_ (haccess (handlers ++ "." ++ dispatch.handlerKey member)) rfl ?_ ?_
    · simpa using htext
    · simpa [or_imp, forall_and, hword] using ⟨hbefore, hafter⟩
    · simpa [or_imp, forall_and] using ⟨huses, hcall _⟩
  · refine .of_template _ _ ?_ (hbrackets (dispatch.handlerKey member)) rfl ?_ huses
    · simpa using htext
    · simpa [or_imp, forall_and, hhandlers, dispatch.rests_handlerKey member] using ⟨hbefore, hafter⟩

theorem met_handler (key : String) : (Use.call ("handlers" ++ "." ++ key)).Met allowed :=
  Use.met_of_head 'h' (by simp) (by decide)

theorem met_reducer (key : String) : (Use.call ("reducers" ++ "." ++ key)).Met allowed :=
  Use.met_of_head 'r' (by simp) (by decide)

theorem rests_memberCheck (member : UnionMember) :
    Rests allowed .word (dispatch.memberCheck member) := by
  unfold memberCheck
  split
  · rename_i property value _ _
    have hvalue : Rests allowed .plain value.literal := rests_compact value
    refine (Rests.of_template [.literal "typeof value === \"object\" && value !== null && ",
      .literal "(value as Record<string, unknown>)[",
      .quoted property, .literal "]", .literal " === ", .part value.literal .plain] [] ?_ rfl rfl (by simp [hvalue])
      (by simp)).toWord
    simp [propertyOf_eq]
  · exact dispatch.rests_structuralCheck member.schema

theorem rests_foldCall (member : UnionMember) : Rests allowed .closed (dispatch.foldCall member) := by
  have hreducers : IsWord "reducers" := .of_isIdentifier (by decide)
  exact dispatch.rests_handlerCall member hreducers met_reducer
    [.literal "      ", .part (dispatch.handlerKey member) .word, .literal ": (v) => "]
    [.literal "acc, v),\n"] (by simp [foldCall]) [] (fun _ => rfl) (fun _ => rfl)
    (by simp [dispatch.rests_handlerKey member]) (by simp) (by simp)

variable {dispatch : UnionDispatch} (h : dispatch.Wellformed allowed)

include h

theorem Wellformed.isWord : IsWord dispatch.name :=
  .of_isIdentifier h.name

theorem Wellformed.rests_exportWord : Rests allowed .closed dispatch.exportWord := by
  obtain ⟨options, hword⟩ := h.exportWord
  rw [hword]
  exact .exportWord options

theorem Wellformed.isWord_after {lead : String} (hlead : IsWord lead) : IsWord (lead ++ dispatch.name) :=
  hlead.append h.isWord.2

theorem Wellformed.isIdentifier_guardName {member : UnionMember} (hmember : member ∈ dispatch.members) :
    Name.isIdentifier (dispatch.guardName member) = true := by
  unfold guardName
  split
  · exact Name.isIdentifier_append (by decide) (Name.all_continuesIdentifier (h.tags member hmember))
  · exact Name.isIdentifier_append
      (Name.isIdentifier_append (by decide) (Name.all_continuesIdentifier h.name))
      (Name.all_continuesIdentifier (Name.isIdentifier_pascal member.tag))

theorem Wellformed.isWord_guardName {member : UnionMember} (hmember : member ∈ dispatch.members) :
    IsWord (dispatch.guardName member) :=
  .of_isIdentifier (h.isIdentifier_guardName hmember)

theorem Wellformed.rests_guard {member : UnionMember} (hmember : member ∈ dispatch.members)
    (hguard : (Use.call (dispatch.guardName member)).Met allowed) :
    Rests allowed .closed (dispatch.guard member).content :=
  .of_template [.part dispatch.exportWord .closed, .literal "function ", .word (dispatch.guardName member),
    .literal "(value: unknown): value is ", .part member.typeName .word, .literal " \x7b\n  return ",
    .part (dispatch.memberCheck member) .word, .literal ";\n\x7d"] [.call (dispatch.guardName member)]
    (by simp [guard, function]) rfl rfl
    (by simp [h.rests_exportWord, h.isWord_guardName hmember, h.types member hmember,
      dispatch.rests_memberCheck member])
    (by simpa using hguard)

theorem Wellformed.rests_switchCase {member : UnionMember} (hmember : member ∈ dispatch.members) :
    Rests allowed .closed (dispatch.switchCase member) := by
  have hhandlers : IsWord "handlers" := .of_isIdentifier (by decide)
  unfold switchCase
  split
  · rename_i value _
    have hvalue : Rests allowed .plain value.literal := rests_compact value
    exact dispatch.rests_handlerCall member hhandlers met_handler
      [.literal "    case ", .part value.literal .plain, .literal ":\n      return "]
      [.literal "value as ", .part member.typeName .word, .literal ");\n"] (by simp) [] (fun _ => rfl)
      (fun _ => rfl) (by simp [hvalue]) (by simp [h.types member hmember]) (by simp)
  · exact .empty

theorem Wellformed.rests_switchBody (property : String) :
    Rests allowed .closed (dispatch.switchBody property) := by
  have hcases : Rests allowed .closed (String.join (dispatch.members.map dispatch.switchCase)) := by
    refine .join fun line hline => ?_
    obtain ⟨member, hmember, rfl⟩ := List.mem_map.mp hline
    exact h.rests_switchCase hmember
  refine .of_template [.literal "  switch (", .literal "(value as Record<string, unknown>)[", .quoted property,
    .literal "]", .literal ") \x7b\n", .part (String.join (dispatch.members.map dispatch.switchCase)) .closed,
    .literal "    default:\n      throw new Error(\x60Unhandled ", .word dispatch.name,
    .literal " variant: $\x7bString(", .literal "(value as Record<string, unknown>)[", .quoted property,
    .literal "]", .literal ")\x7d\x60);\n  \x7d\n"] [] ?_ rfl rfl (by simp [h.isWord, hcases]) (by simp)
  unfold switchBody
  simp only [propertyOf_eq, Template.toString_text, String.toList_append, List.append_assoc,
    Template.render_cons, Template.render_nil, Piece.text, List.append_nil]

theorem Wellformed.rests_guardStep {member : UnionMember} (hmember : member ∈ dispatch.members)
    (hguard : (Use.call (dispatch.guardName member)).Met allowed) :
    Rests allowed .closed (dispatch.guardStep member) := by
  have hhandlers : IsWord "handlers" := .of_isIdentifier (by decide)
  exact dispatch.rests_handlerCall member hhandlers met_handler
    [.literal "  if (", .word (dispatch.guardName member), .literal "(value)) \x7b\n    return "]
    [.literal "value);\n  \x7d\n"] (by simp [guardStep]) [.call (dispatch.guardName member)] (fun _ => rfl)
    (fun _ => rfl) (by simp [h.isWord_guardName hmember]) (by simp) (by simpa using hguard)

theorem Wellformed.rests_chainBody
    (hguards : ∀ member ∈ dispatch.members, (Use.call (dispatch.guardName member)).Met allowed) :
    Rests allowed .closed dispatch.chainBody := by
  have hsteps : Rests allowed .closed (String.join (dispatch.members.map dispatch.guardStep)) := by
    refine .join fun line hline => ?_
    obtain ⟨member, hmember, rfl⟩ := List.mem_map.mp hline
    exact h.rests_guardStep hmember (hguards member hmember)
  exact .of_template [.part (String.join (dispatch.members.map dispatch.guardStep)) .closed,
    .literal "  throw new Error(\"No ", .word dispatch.name, .literal " variant matched\");\n"] []
    (by simp [chainBody]) rfl rfl (by simp [h.isWord, hsteps]) (by simp)

theorem Wellformed.rests_matchBody
    (hguards : ∀ member ∈ dispatch.members, (Use.call (dispatch.guardName member)).Met allowed) :
    Rests allowed .closed dispatch.matchBody := by
  unfold matchBody
  split
  · exact h.rests_switchBody _
  · exact h.rests_chainBody hguards

theorem Wellformed.rests_handlersType {lead : String} (hlead : lead = "" ∨ lead = "acc: R, ") :
    Rests allowed .word (dispatch.handlersType lead) := by
  refine .intercalate (fun _ _ => rfl) fun handler hhandler => ?_
  obtain ⟨member, hmember, rfl⟩ := List.mem_map.mp hhandler
  rcases hlead with rfl | rfl
  · exact .of_template [.part (dispatch.handlerKey member) .word, .literal ": (value: ",
      .part member.typeName .word, .literal ") => ", .word "R"] [] (by simp) rfl rfl
      (by simpa [dispatch.rests_handlerKey member, h.types member hmember] using
        IsWord.of_isIdentifier (by decide)) (by simp)
  · exact .of_template [.part (dispatch.handlerKey member) .word, .literal ": (acc: R, value: ",
      .part member.typeName .word, .literal ") => ", .word "R"] [] (by simp) rfl rfl
      (by simpa [dispatch.rests_handlerKey member, h.types member hmember] using
        IsWord.of_isIdentifier (by decide)) (by simp)

theorem Wellformed.rests_matcher
    (hguards : ∀ member ∈ dispatch.members, (Use.call (dispatch.guardName member)).Met allowed)
    (hmatcher : (Use.call ("match" ++ dispatch.name)).Met allowed) :
    Rests allowed .closed dispatch.matcher.content := by
  have hmatch : IsWord ("match" ++ dispatch.name) := h.isWord_after (.of_isIdentifier (by decide))
  exact .of_template [.part dispatch.exportWord .closed, .literal "function ", .word ("match" ++ dispatch.name),
    .literal "<R>(\n  value: ", .word dispatch.name, .literal ",\n  handlers: \x7b ",
    .part (dispatch.handlersType "") .word, .literal " \x7d,\n): R \x7b\n",
    .part dispatch.matchBody .closed, .literal "\x7d"] [.call ("match" ++ dispatch.name)]
    (by simp [matcher, function]) rfl rfl
    (by simp [h.rests_exportWord, h.isWord, hmatch,
      h.rests_handlersType (Or.inl rfl), h.rests_matchBody hguards])
    (by simpa using hmatcher)

/-- The fold calls the match. -/
theorem Wellformed.rests_folder (hmatcher : (Use.call ("match" ++ dispatch.name)).Met allowed) :
    Rests allowed .closed dispatch.folder.content := by
  have hcalls : Rests allowed .closed (String.join (dispatch.members.map dispatch.foldCall)) := by
    refine .join fun line hline => ?_
    obtain ⟨member, hmember, rfl⟩ := List.mem_map.mp hline
    exact dispatch.rests_foldCall member
  have hmatch : IsWord ("match" ++ dispatch.name) := h.isWord_after (.of_isIdentifier (by decide))
  have hfold : IsWord ("fold" ++ dispatch.name) := h.isWord_after (.of_isIdentifier (by decide))
  have hown : (Use.call ("fold" ++ dispatch.name)).Met allowed := Use.met_of_head 'f' (by simp) (by decide)
  -- The last word of this piece is part of the name of the match.
  have hlast : " \x7d,\n): R \x7b\n  let acc = initial;\n  for (const value of values) \x7b\n    acc = match".toList =
      " \x7d,\n): R \x7b\n  let acc = initial;\n  for (const value of values) \x7b\n    acc = ".toList ++
        "match".toList := rfl
  exact .of_template [.part dispatch.exportWord .closed, .literal "function ",
    .word ("fold" ++ dispatch.name), .literal "<R>(\n  values: readonly ", .word dispatch.name,
    .literal "[],\n  initial: R,\n  reducers: \x7b ", .part (dispatch.handlersType "acc: R, ") .word,
    .literal " \x7d,\n): R \x7b\n  let acc = initial;\n  for (const value of values) \x7b\n    acc = ",
    .word ("match" ++ dispatch.name), .literal "<R>(value, \x7b\n",
    .part (String.join (dispatch.members.map dispatch.foldCall)) .closed,
    .literal "    \x7d);\n  \x7d\n  return acc;\n\x7d"]
    [.call ("fold" ++ dispatch.name), .call ("match" ++ dispatch.name)]
    (by simp only [folder, function, Template.toString_text, hlast, String.toList_append, List.append_assoc,
      Template.render_cons, Template.render_nil, Piece.text, List.append_nil]) rfl rfl
    (by simp [h.rests_exportWord, h.isWord, hmatch, hfold, h.rests_handlersType (Or.inr rfl), hcalls])
    (by simp [hown, hmatcher])

/-- The assertion calls the guards. -/
theorem Wellformed.rests_assertion
    (hguards : ∀ member ∈ dispatch.members, (Use.call (dispatch.guardName member)).Met allowed) :
    Rests allowed .closed dispatch.assertion.content := by
  have hcontent : ∃ calls, Rests allowed .word calls ∧ dispatch.assertion.content =
      let name := "assert" ++ dispatch.name
      s!"{dispatch.exportWord}function {name}(value: unknown): asserts value is {dispatch.name} \x7b\n  if (!({calls})) \x7b\n    throw new TypeError(\"Value is not a valid {dispatch.name}\");\n  \x7d\n\x7d" := by
    refine ⟨_, .intercalate (fun _ _ => rfl) fun call hcall => ?_, rfl⟩
    obtain ⟨member, hmember, rfl⟩ := List.mem_map.mp hcall
    exact (Rests.of_template [.word (dispatch.guardName member), .literal "(value)"]
      [.call (dispatch.guardName member)] (by simp) rfl rfl (by simp [h.isWord_guardName hmember])
      (by simpa using hguards member hmember)).toWord
  obtain ⟨calls, hcalls, hcontent⟩ := hcontent
  have hassert : IsWord ("assert" ++ dispatch.name) := h.isWord_after (.of_isIdentifier (by decide))
  have hown : (Use.call ("assert" ++ dispatch.name)).Met allowed :=
    Use.met_of_head 'a' (by simp) (by decide)
  rw [hcontent]
  exact .of_template [.part dispatch.exportWord .closed, .literal "function ",
    .word ("assert" ++ dispatch.name), .literal "(value: unknown): asserts value is ", .word dispatch.name,
    .literal " \x7b\n  if (!(", .part calls .word,
    .literal ")) \x7b\n    throw new TypeError(\"Value is not a valid ", .word dispatch.name,
    .literal "\");\n  \x7d\n\x7d"] [.call ("assert" ++ dispatch.name)] (by simp) rfl rfl
    (by simp [h.rests_exportWord, h.isWord, hassert, hcalls]) (by simp [hown])

/-- The functions about a union refer to the guards of its members, and to the match. -/
theorem Wellformed.rests_functions (options : UnionOptions)
    (hguards : options.generateHelpers || options.generateValidation → ∀ member ∈ dispatch.members,
      (Use.call (dispatch.guardName member)).Met allowed)
    (hmatcher : options.generateHelpers → (Use.call ("match" ++ dispatch.name)).Met allowed) :
    ∀ declaration ∈ dispatch.functions options, Rests allowed .closed declaration.content := by
  intro declaration hdeclaration
  unfold functions at hdeclaration
  simp only [List.mem_append, List.mem_ite_nil_right, List.mem_map, List.mem_cons, List.not_mem_nil,
    or_false] at hdeclaration
  rcases hdeclaration with (⟨hasked, member, hmember, rfl⟩ | ⟨hhelpers, rfl | rfl⟩) | ⟨hvalidation, rfl⟩
  · exact h.rests_guard hmember (hguards hasked member hmember)
  · exact h.rests_matcher (hguards (by simp [hhelpers])) (hmatcher hhelpers)
  · exact h.rests_folder (hmatcher hhelpers)
  · exact h.rests_assertion (hguards (by simp [hvalidation]))

/-! ## Completeness -/

omit h in
/-- The functions about a union refer to one another only. -/
theorem complete_functions (h : ∀ allowed, dispatch.Wellformed allowed) (options : UnionOptions) :
    Complete (dispatch.functions options) (dispatch.functions options) := by
  refine (h _).rests_functions options (fun hasked member hmember _ => ?_) fun hhelpers _ => ?_
  · refine declares_toList.mpr (List.mem_map.mpr ⟨dispatch.guard member, ?_, rfl⟩)
    rw [functions, if_pos hasked]
    exact List.mem_append_left _ (List.mem_append_left _ (List.mem_map_of_mem hmember))
  · refine declares_toList.mpr (List.mem_map.mpr ⟨dispatch.matcher, ?_, rfl⟩)
    rw [functions, if_pos hhelpers]
    exact List.mem_append_left _ (List.mem_append_right _ List.mem_cons_self)

omit h in
/-- The text of a function about a union declares its name. -/
theorem declaredName?_functions {allowed : List Char → Prop} (h : dispatch.Wellformed allowed)
    (options : UnionOptions) :
    ∀ declaration ∈ dispatch.functions options, declaredName? declaration.content = some declaration.name := by
  obtain ⟨base, hword⟩ := h.exportWord
  have hafter : ∀ {lead}, Name.isIdentifier lead = true → Name.isIdentifier (lead ++ dispatch.name) = true :=
    fun hlead => Name.isIdentifier_append hlead (Name.all_continuesIdentifier h.name)
  intro declaration hdeclaration
  unfold functions at hdeclaration
  simp only [List.mem_append, List.mem_ite_nil_right, List.mem_map, List.mem_cons, List.not_mem_nil,
    or_false] at hdeclaration
  rcases hdeclaration with (⟨-, member, hmember, rfl⟩ | ⟨-, rfl | rfl⟩) | ⟨-, rfl⟩
  · exact declaredName?_function base (h.isIdentifier_guardName hmember) (Or.inl rfl)
      (by simp [DeclaresFunction, guard, function, hword])
  · exact declaredName?_function base (hafter (by decide)) (Or.inr rfl)
      (by simp [DeclaresFunction, matcher, function, hword])
  · exact declaredName?_function base (hafter (by decide)) (Or.inr rfl)
      (by
        simp only [DeclaresFunction, folder, function, hword, Template.toString_text, String.toList_append,
          List.append_assoc, List.prefix_append_right_inj]
        exact ⟨_, rfl⟩)
  · exact declaredName?_function base (hafter (by decide)) (Or.inl rfl)
      (by simp [DeclaresFunction, assertion, function, hword])

end UnionDispatch

end SchemaTypings
