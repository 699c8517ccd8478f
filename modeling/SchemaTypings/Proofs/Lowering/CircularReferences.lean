import SchemaTypings.Proofs.FirstOccurrences
import SchemaTypings.Proofs.Lowering.EnsuredCompositions
import SchemaTypings.Proofs.Lowering.ObjectForms
import SchemaTypings.Proofs.Typing.Comments
import SchemaTypings.Proofs.Typing.Complete

/-!
# References that lead back

A composition reports the references to which it comes while they are being resolved: it has the name of each of
them once, and there are none if they are to be refused (`Context.reports_compose`). So a named schema that is composed,
and comes to a reference to itself, does not lower if references back are refused, and otherwise says so in a line
of its comment (`Context.circularity_reported`). Other references are kept without a word, though they stand in
the schema just as well: what is written inline and what is in a union is no site of the composition
(`Context.circularity_missed_beyond_sites`).
-/

namespace SchemaTypings

open LowerM Lowering Typing

variable {raw : Json} {document : Document} {options : Options} {visited : List String}

/-! ## References of compositions -/

namespace Schema

/-- What the schema refers to, if it is a reference. -/
def target? (schema : Schema) : Option String :=
  match schema.kind with
  | .ref target => some target
  | _ => none

/-- The references to which composing a schema comes, in order. -/
def composedReferences (options : Options) (schema : Schema) : List String :=
  (schema.compositionSites options).filterMap target?

/-- Whether the reference stands right below the schema, or one step further down. -/
def mentionsNearby (schema : Schema) (reference : String) : Bool :=
  (schema.children ++ schema.children.flatMap children).any fun below => below.target? == some reference

theorem kind_of_target? {schema : Schema} {reference : String} (h : schema.target? = some reference) :
    schema.kind = .ref reference := by
  unfold target? at h
  split at h <;> cases h
  assumption

theorem mentions_of_nearby {schema : Schema} {reference : String} (h : schema.mentionsNearby reference = true) :
    schema.Mentions reference := by
  obtain ⟨below, hbelow, htarget⟩ := List.any_eq_true.mp h
  have hmention : below.Mentions reference := ⟨below, .refl below, kind_of_target? (eq_of_beq htarget)⟩
  rcases List.mem_append.mp hbelow with hchild | hbelow
  · exact hmention.of_child hchild
  · obtain ⟨child, hchild, hgrandchild⟩ := List.mem_flatMap.mp hbelow
    exact (hmention.of_child hgrandchild).of_child hchild

end Schema

namespace Lowering

/-- The references among the sites that are being resolved. -/
def backReferences (visited : List String) (sites : List Schema) : List String :=
  (sites.filterMap Schema.target?).filter visited.contains

theorem backReferences_ref (target : String) (info : SchemaInfo) :
    backReferences visited [⟨.ref target, info⟩] = if visited.contains target then [target] else [] := by
  have htarget : Schema.target? ⟨.ref target, info⟩ = some target := rfl
  rw [backReferences, List.filterMap_cons_some htarget, List.filterMap_nil, List.filter_cons, List.filter_nil]

/-- The names are those of the references that lead back, one by one, and there are none if such references are
refused. -/
structure Reports (document : Document) (options : Options) (visited : List String) (sites : List Schema)
    (names : List String) : Prop where
  named : List.Forall₂ (fun reference name => document.Fixed reference → name = document.fixedName reference)
    (backReferences visited sites) names
  marked : names ≠ [] → options.composition.circularRefs = .marker

namespace Reports

variable {sites others : List Schema} {names more : List String}

/-- Where no reference leads back there is nothing to report. -/
theorem none (h : backReferences visited sites = []) : Reports document options visited sites [] :=
  ⟨by rw [h]; exact .nil, fun hnames => absurd rfl hnames⟩

theorem append (h : Reports document options visited sites names)
    (h' : Reports document options visited others more) :
    Reports document options visited (sites ++ others) (names ++ more) where
  named := by
    rw [backReferences, List.filterMap_append, List.filter_append]
    exact List.rel_append h.named h'.named
  marked hnames := by
    by_cases hnil : names = []
    · exact h'.marked fun hmore => hnames (by rw [hnil, hmore, List.nil_append])
    · exact h.marked hnil

/-- A reference that leads back is reported under its name, if that is fixed. -/
theorem fixedName_mem (h : Reports document options visited sites names) {reference : String}
    (hback : reference ∈ backReferences visited sites) (hfixed : document.Fixed reference) :
    document.fixedName reference ∈ names := by
  obtain ⟨name, hname, hnamed⟩ := exists_right_of_forall₂ h.named hback
  exact hnamed hfixed ▸ hname

end Reports

end Lowering

/-! ## Steps with references being resolved -/

/-- What is recorded has the names that are fixed, and these references are being resolved. -/
structure Visiting (document : Document) (options : Options) (visited : List String) (setting : Setting)
    (store : Store) : Prop extends Settled document options setting store where
  active : setting.scope.visited = visited

namespace Visiting

variable {α : Type} {step : LowerM α} {post : α → Prop}

theorem tells : Tells options (Visiting document options visited) where
  push setting segment depth _ :=
    have hpush := Settled.placeless.push setting segment depth
    ⟨fun h => ⟨hpush.mp h.toSettled, h.active⟩, fun h => ⟨hpush.mpr h.toSettled, h.active⟩⟩
  warned message h := ⟨Settled.placeless.warned message h.toSettled, h.active⟩
  asked h := h.asked

/-- A step does not change which references are being resolved where it is run. -/
theorem of_settled (h : step.Ensures (Settled document options) post) :
    step.Ensures (Visiting document options visited) post := by
  intro setting store hvisiting
  obtain ⟨hafter, hpost⟩ := h setting store hvisiting.toSettled
  exact ⟨⟨hafter, hvisiting.active⟩, hpost⟩

variable (h : Document.ofJson raw = .ok document)

include h

/-- An operation leaves recorded names as they are fixed. -/
theorem of_changes {demands : Nat → List Demand}
    (hchanges : ∀ active depth, Changes document options active depth step (demands depth)) :
    step.Ensures (Visiting document options visited) fun _ => True := by
  refine of_settled ?_
  rintro ⟨source, asked, path, active, depth⟩ store ⟨rfl, rfl, hcanonical⟩
  exact ⟨⟨rfl, rfl, hcanonical.changes h ((hchanges active depth).run path store)⟩, fun _ _ => trivial⟩

/-- A reference leads back exactly if it is being resolved. -/
theorem resolveReference (reference : String) :
    (resolveReference reference).Ensures (Visiting document options visited) fun resolution =>
      resolution.circular = visited.contains reference ∧
        (document.Fixed reference → resolution.name = document.fixedName reference) := by
  rintro ⟨source, asked, path, active, depth⟩ store ⟨⟨rfl, rfl, hcanonical⟩, rfl⟩
  have hsettled := (types_resolveReference h reference {} ⟨source, asked, path, active, depth⟩ store
    ⟨rfl, rfl, hcanonical⟩).1
  refine ⟨⟨hsettled, rfl⟩, fun resolution hresolution => ?_⟩
  have hcircular : resolution = ⟨resolution.name, active.contains reference⟩ :=
    circular_of_resolveReference (Prod.ext hresolution rfl)
  exact ⟨congrArg Resolution.circular hcircular,
    fun hfixed => resolvedName_eq_fixedName h _ hcanonical hfixed (Prod.ext hresolution rfl)⟩

end Visiting

namespace Lowering

variable (h : Document.ofJson raw = .ok document)

include h

theorem reports_composeReference (target : String) (info : SchemaInfo) (parts : CompositionParts) :
    (composeReference target parts).Ensures (Visiting document options visited) fun named =>
      ∃ names, Reports document options visited [⟨.ref target, info⟩] names ∧
        named.2.circularRefs = names.foldl addName parts.circularRefs := by
  refine (Visiting.resolveReference h target).bind ?_
  rintro ⟨name, _⟩ ⟨rfl, hname⟩
  have hsite : backReferences visited [⟨.ref target, info⟩] = if visited.contains target then [target] else [] :=
    backReferences_ref target info
  cases hback : visited.contains target with
  | false => exact .pure ⟨[], .none (by rw [hsite, hback]; rfl), rfl⟩
  | true =>
    refine Visiting.tells.readOptions ?_
    cases hpolicy : options.composition.circularRefs with
    | error => exact .readScope fun scope => .throw _
    | marker =>
      refine .pure ⟨[name], ⟨?_, fun _ => hpolicy⟩, rfl⟩
      rw [hsite, hback]
      exact .cons hname .nil

/-- What is composed reports the references that lead back, of itself and of its parts. -/
theorem reportRules : CompositionRules document options (Visiting document options visited)
    (fun sites start final => ∃ names, Reports document options visited sites names ∧
      final.circularRefs = names.foldl addName start.circularRefs)
    fun sites composed => ∃ names, Reports document options visited sites names ∧
      composed.circularRefs = names.foldl addName [] where
  toTells := Visiting.tells
  source h := h.source
  claimName base := Visiting.of_changes h fun _ _ => Changes.rules.claimName base
  typeExpression schema := Visiting.of_settled ((types_typeExpression h schema).mono fun _ _ => trivial)
  collectDependencies hstep := hstep.collectDependencies fun _ _ _ hvisiting =>
    ⟨⟨hvisiting.source, hvisiting.asked, hvisiting.canonical⟩, hvisiting.active⟩
  refl parts := ⟨[], .none rfl, rfl⟩
  trans := by
    rintro sites others start between final ⟨names, hnames, hbetween⟩ ⟨more, hmore, hfinal⟩
    exact ⟨names ++ more, hnames.append hmore, by rw [hfinal, hbetween, List.foldl_append]⟩
  absorb := by
    rintro sites nested parts ⟨names, hnames, hnested⟩
    refine ⟨names, hnames, ?_⟩
    rw [CompositionParts.absorb, hnested, addsFirst_addName.foldl_foldl, List.foldl_nil]
  reference target info parts := reports_composeReference h target info parts
  union derive name {schema} hunion := by
    have hnone : backReferences visited [schema] = [] := by
      obtain ⟨members, hkind | hkind⟩ := Operation.kind_of_select_union hunion <;>
        simp [backReferences, Schema.target?, hkind]
    refine (Visiting.of_changes h fun _ _ => Changes.rules.lowerUnion _ schema).bind fun union _ => ?_
    exact .readDocument fun _ => .readOptions fun _ => .pure ⟨[], .none hnone, rfl⟩
  assemble derive name {kind info sites body parts} dependencies _ := by
    rintro ⟨names, hnames, hparts⟩ -
    have hnone : backReferences visited (Schema.ownSites ⟨kind, info⟩) = [] := by
      cases kind <;> rfl
    exact ⟨names, List.append_nil names ▸ hnames.append (.none hnone), hparts⟩

end Lowering

/-! ## Documentation -/

namespace Typing

/-- A text is a line of the comment that holds it, if it has no line break and does not end with a blank. -/
theorem mem_commentLines {text : String} {texts : List String} {last : Char} (h : text ∈ texts)
    (hbreak : '\n' ∉ text.toList) (hlast : text.toList.getLast? = some last) (hblank : Text.isBlank last = false) :
    text.toList ∈ commentLines texts := by
  have hsplit := List.dropLast_append_getLast? last hlast
  have htrimmed : Text.trimEnd text.toList = text.toList := by
    rw [← hsplit, Text.trimEnd]
    simp [hblank]
  have hlines : Text.lines text.toList = [text.toList] := by
    have hsome : text.toList.isEmpty = false := by
      rw [← hsplit]
      simp
    rw [Text.lines, Text.fields_eq_singleton hbreak]
    simp [hsome]
  refine List.mem_flatMap.mpr ⟨text, h, ?_⟩
  rw [hlines, List.map_singleton, htrimmed]
  exact List.mem_singleton_self _

/-- The marker of a reference that leads back is a line of the comment that holds it. -/
theorem tagged_of_marker {name : String} {texts : List String} (hname : Name.isIdentifier name = true)
    (h : s!"@circular {name}" ∈ texts) (rest : String) :
    Tagged s!"@circular {name}" (docComment texts "" ++ rest) := by
  have hall := List.all_eq_true.mp (Name.all_continuesIdentifier hname)
  have hchars : (s!"@circular {name}").toList = "@circular ".toList ++ name.toList := by
    simp [toString]
  have hsome : name.toList ≠ [] := by
    intro hnil
    rw [Name.isIdentifier, hnil] at hname
    cases hname
  have hplain : ∀ c, c ∉ "@circular ".toList → Name.continuesIdentifier c = false →
      c ∉ (s!"@circular {name}").toList := by
    intro c hmarker hc
    rw [hchars, List.mem_append]
    rintro (hmem | hmem)
    · exact hmarker hmem
    · rw [hall c hmem] at hc
      cases hc
  have hlast := List.getLast?_eq_some_getLast hsome
  refine tagged_docComment (mem_commentLines h (hplain _ (by decide) (by decide)) ?_
    (isBlank_of_continuesIdentifier (hall _ (List.getLast_mem hsome)))) ?_
    (hplain _ (by decide) (by decide)) rest
  · rw [hchars, List.getLast?_append, hlast, Option.some_or]
  · rw [hchars]
    exact List.append_ne_nil_of_right_ne_nil _ hsome

end Typing

namespace Lowering

/-- The text of a composed type is its documentation, and more. -/
theorem content_eq_docComment_append (options : Options) (name : String) (info : SchemaInfo)
    (circularRefs : List String) (body : CompositionBody) : ∃ rest, compositionContent options name info
      circularRefs body = docComment (compositionDoc options info circularRefs) "" ++ rest := by
  have halias : ∀ doc type, aliasText options doc name type =
      docComment doc "" ++ (options.exportWord ++ s!"type {name} = {type};") := fun doc type =>
    String.toList_injective (by simp [aliasText, toString])
  have hinterface : ∀ doc lines, interfaceText options doc name lines =
      docComment doc "" ++ (options.exportWord ++ s!"interface {name} \x7b\n{lines}\x7d") := fun doc lines =>
    String.toList_injective (by simp [interfaceText, toString])
  rcases body with type | ⟨lines, properties⟩
  · exact ⟨_, (compositionContent_expression ..).trans (halias _ _)⟩
  · rw [compositionContent_members]
    split
    · exact ⟨_, halias _ _⟩
    · exact ⟨_, hinterface _ _⟩

theorem documented_compose (derive : Bool) (name : String) {schema : Schema}
    (hunion : Operation.select schema ≠ .union) :
    (compose derive name schema).Ensures (Over document options) fun composed => ∃ rest,
      composed.content = docComment (compositionDoc options schema.info composed.circularRefs) "" ++ rest := by
  obtain ⟨kind, info⟩ := schema
  rw [compose.eq_3]
  · refine .withSegment Over.placeless _ ((Over.any _).bind ?_)
    rintro ⟨⟨body, parts⟩, dependencies⟩ -
    exact Over.readDocument (Over.readOptions (.pure (content_eq_docComment_append ..)))
  · rintro members rfl
    exact hunion rfl
  · rintro members rfl
    exact hunion rfl

end Lowering

/-! ## Named schemas -/

/-- The reference that is entered is being resolved. -/
theorem Scope.mem_visit (scope : Scope) (reference : String) : reference ∈ (scope.visit reference).visited := by
  rw [visit]
  split
  · rename_i hvisited
    exact List.contains_iff_mem.mp hvisited
  · exact List.mem_append_right _ (List.mem_singleton_self reference)

namespace Context

variable {context : Context} {entry : NamedSchema}

/-- What is declared for a named schema that is composed is what the composition declares while the reference to
the schema is being resolved. -/
theorem composed_of_lowerNamed {declarations : List Declaration}
    (hcompose : Operation.select entry.schema = .compose)
    (hrun : (context.run (lowerNamed entry)).1 = .ok declarations) : ∃ composed,
      (context.run (LowerM.withVisited entry.pointer (compose true (Name.pascal entry.name) entry.schema))).1 =
        .ok composed ∧ declarations = composed.declarations := by
  rw [run_eq] at hrun ⊢
  obtain ⟨inner, hdeclare, -⟩ := runWith_lowerNamed_eq_ok.mp (Prod.ext hrun rfl)
  have hmap : declare (Name.pascal entry.name) entry.schema =
      Composition.declarations <$> compose true (Name.pascal entry.name) entry.schema := by
    rw [declare, hcompose]
  rw [hmap, runWith_map] at hdeclare
  rw [runWith_withVisited]
  rcases hcomposed : (compose true (Name.pascal entry.name) entry.schema).runWith _ context.store with
    ⟨error | composed, after⟩ <;> rw [hcomposed] at hdeclare
  · cases hdeclare
  · cases hdeclare
    exact ⟨composed, rfl, rfl⟩

/-- A composition reports the references to which it comes while they are being resolved. -/
theorem reports_compose (h : Document.ofJson raw = .ok document) (hreached : Reached document options context)
    {reference name : String} {derive : Bool} {schema : Schema} {composed : Composition}
    (hrun : (context.run (LowerM.withVisited reference (compose derive name schema))).1 = .ok composed) :
    ∃ names, Reports document options (context.scope.visit reference).visited
      (schema.compositionSites options) names ∧ composed.circularRefs = names.eraseDups := by
  obtain ⟨hdocument, hoptions, -⟩ := hreached.changes
  have hvisiting : Visiting document options (context.scope.visit reference).visited
      { context.setting with scope := context.setting.scope.visit reference } context.store :=
    ⟨⟨hdocument, hoptions, hreached.canonical h⟩, rfl⟩
  rw [run_eq, runWith_withVisited] at hrun
  obtain ⟨names, hnames, hcircular⟩ :=
    ((reportRules h).compose derive name schema _ _ hvisiting).2 composed hrun
  exact ⟨names, hnames, hcircular.trans foldl_addName_nil⟩

/-- The text of what is composed begins with its documentation, wherever it is composed. -/
theorem documented_of_composed (hreached : Reached document options context) {reference name : String}
    {derive : Bool} {schema : Schema} {composed : Composition} (hunion : Operation.select schema ≠ .union)
    (hrun : (context.run (LowerM.withVisited reference (compose derive name schema))).1 = .ok composed) :
    ∃ rest, composed.content =
      docComment (compositionDoc options schema.info composed.circularRefs) "" ++ rest := by
  obtain ⟨hdocument, hoptions, -⟩ := hreached.changes
  rw [run_eq, runWith_withVisited] at hrun
  exact (documented_compose derive name hunion _ _ ⟨hdocument, hoptions⟩).2 composed hrun

/-- A named schema is being resolved while it is composed. So if the composition comes to a reference to it, there
is a result only if such references are marked. The result reports the name of the schema, and no names but those
of references that lead back. -/
theorem reported_of_lowerNamed (h : Document.ofJson raw = .ok document)
    (hreached : Reached document options context) (hentry : entry ∈ document.named)
    (hcompose : Operation.select entry.schema = .compose)
    (hcircular : entry.pointer ∈ entry.schema.composedReferences options) {declarations : List Declaration}
    (hlowered : (context.run (lowerNamed entry)).1 = .ok declarations) :
    options.composition.circularRefs = .marker ∧ ∃ composed,
      (context.run (LowerM.withVisited entry.pointer
        (compose true (Name.pascal entry.name) entry.schema))).1 = .ok composed ∧
      declarations = composed.declarations ∧ Name.pascal entry.name ∈ composed.circularRefs ∧
      ∀ name ∈ composed.circularRefs, ∃ reference ∈ entry.schema.composedReferences options,
        reference ∈ (context.scope.visit entry.pointer).visited ∧
          (document.Fixed reference → name = document.fixedName reference) := by
  obtain ⟨composed, hcomposed, hdeclarations⟩ := composed_of_lowerNamed hcompose hlowered
  obtain ⟨names, hnames, hcircularRefs⟩ := reports_compose h hreached hcomposed
  have hback : entry.pointer ∈ backReferences (context.scope.visit entry.pointer).visited
      (entry.schema.compositionSites options) :=
    List.mem_filter.mpr ⟨hcircular, List.contains_iff_mem.mpr (context.scope.mem_visit entry.pointer)⟩
  have hnamed : document.isNamed entry.pointer := Document.isNamed_iff.mpr ⟨entry, hentry, rfl⟩
  have hname : document.fixedName entry.pointer = Name.pascal entry.name :=
    (Document.fixedName_of_isNamed h hnamed).trans (Document.ofReference_pointer h hentry)
  have hmem : Name.pascal entry.name ∈ names := hname ▸ hnames.fixedName_mem hback (Or.inl hnamed)
  refine ⟨hnames.marked (List.ne_nil_of_mem hmem), composed, hcomposed, hdeclarations, ?_, ?_⟩
  · rw [hcircularRefs, List.mem_eraseDups]
    exact hmem
  · intro name hreported
    rw [hcircularRefs, List.mem_eraseDups] at hreported
    obtain ⟨reference, hback, hfixed⟩ := exists_left_of_forall₂ hnames.named hreported
    obtain ⟨hsite, hvisited⟩ := List.mem_filter.mp hback
    exact ⟨reference, hsite, List.contains_iff_mem.mp hvisited, hfixed⟩

/-- A named schema that is composed, and comes to a reference to itself, does not lower if references back are
refused. If they are marked, what is composed reports its own name, and a line of its comment says so if comments
are asked for; and every name that is reported is that of a reference that leads back. -/
theorem circularity_reported (h : Document.ofJson raw = .ok document) (hreached : Reached document options context)
    (hentry : entry ∈ document.named) (hcompose : Operation.select entry.schema = .compose)
    (hcircular : entry.pointer ∈ entry.schema.composedReferences options) :
    (options.composition.circularRefs = .error →
      ∀ declarations, (context.run (lowerNamed entry)).1 ≠ .ok declarations) ∧
    (options.composition.circularRefs = .marker → options.generateComments = true →
      ∀ declarations, (context.run (lowerNamed entry)).1 = .ok declarations → ∃ composed,
        (context.run (LowerM.withVisited entry.pointer
          (compose true (Name.pascal entry.name) entry.schema))).1 = .ok composed ∧
        declarations = composed.declarations ∧ Name.pascal entry.name ∈ composed.circularRefs ∧
        Tagged s!"@circular {Name.pascal entry.name}" composed.content ∧
        ∀ name ∈ composed.circularRefs, ∃ reference ∈ entry.schema.composedReferences options,
          reference ∈ (context.scope.visit entry.pointer).visited ∧
            (document.Fixed reference → name = document.fixedName reference)) := by
  refine ⟨fun herror declarations hlowered => ?_, fun _ hcomments declarations hlowered => ?_⟩
  · obtain ⟨hmarker, -⟩ := reported_of_lowerNamed h hreached hentry hcompose hcircular hlowered
    rw [herror] at hmarker
    cases hmarker
  · obtain ⟨-, composed, hcomposed, hdeclarations, hmem, hleads⟩ :=
      reported_of_lowerNamed h hreached hentry hcompose hcircular hlowered
    have hunion : Operation.select entry.schema ≠ .union := by simp [hcompose]
    obtain ⟨rest, hcontent⟩ := documented_of_composed hreached hunion hcomposed
    refine ⟨composed, hcomposed, hdeclarations, hmem, ?_, hleads⟩
    rw [hcontent]
    refine tagged_of_marker (Name.isIdentifier_pascal _) ?_ rest
    rw [compositionDoc, if_pos hcomments]
    exact List.mem_append_right _ (List.mem_map_of_mem hmem)

/-! ## Nodes -/

/-- The reference to a node. -/
def nodeReference : Json :=
  .obj [("$ref", .str "#/$defs/Node")]

/-- A document that names nodes, with the keywords that describe them. -/
def nodeDocument (keywords : List (String × Json)) : Json :=
  .obj [("$defs", .obj [("Node", .obj keywords)])]

/-- The value of a node is composed. -/
def nodeValue : Json :=
  .obj [("anyOf", .arr [.obj [("type", .str "string")], .obj [("type", .str "number")]])]

/-- A node has a parent and a value. -/
def childNode : Json :=
  nodeDocument [("properties", .obj [("parent", nodeReference), ("value", nodeValue)])]

/-- Options that refuse references back. -/
def refusing : Options := { composition := { circularRefs := .error } }

/-- A node with a parent is refused, or marked as circular. -/
theorem circularity_reported_of_child : ∃ document entry declarations, Document.ofJson childNode = .ok document ∧
    Reached document {} (fresh document {}) ∧ Reached document refusing (fresh document refusing) ∧
    entry ∈ document.named ∧ Operation.select entry.schema = .compose ∧
    entry.pointer ∈ entry.schema.composedReferences {} ∧
    entry.pointer ∈ entry.schema.composedReferences refusing ∧
    (∀ declarations, ((fresh document refusing).run (lowerNamed entry)).1 ≠ .ok declarations) ∧
    ((fresh document {}).run (lowerNamed entry)).1 = .ok declarations ∧
    ∃ (composed : Composition), declarations = composed.declarations ∧
      Name.pascal entry.name ∈ composed.circularRefs ∧
      Tagged s!"@circular {Name.pascal entry.name}" composed.content := by
  have hcheck : ((Document.ofJson childNode).toOption.any fun document => document.named.head?.any fun entry =>
      Operation.select entry.schema == .compose &&
        (entry.schema.composedReferences {}).contains entry.pointer &&
        (entry.schema.composedReferences refusing).contains entry.pointer &&
        ((fresh document {}).run (lowerNamed entry)).1.toOption.any fun _ => true) = true := by
    decide +kernel
  obtain ⟨document, hdocument, hcheck⟩ := Decode.exists_ok_of_any hcheck
  obtain ⟨entry, hhead, hcheck⟩ := (Option.any_eq_true _ _).mp hcheck
  simp only [Bool.and_eq_true, beq_iff_eq, List.contains_iff_mem] at hcheck
  obtain ⟨⟨⟨hcompose, hcircular⟩, hcircular'⟩, hlowered⟩ := hcheck
  obtain ⟨declarations, hlowered, -⟩ := Decode.exists_ok_of_any hlowered
  have hentry := List.mem_of_head? hhead
  have hrefused : ∀ declarations, ((fresh document refusing).run (lowerNamed entry)).1 ≠ .ok declarations :=
    (circularity_reported hdocument .fresh hentry hcompose hcircular').1 rfl
  obtain ⟨composed, -, hdeclarations, hmem, htagged, -⟩ :=
    (circularity_reported hdocument .fresh hentry hcompose hcircular).2 rfl rfl declarations hlowered
  exact ⟨document, entry, declarations, hdocument, .fresh, .fresh, hentry, hcompose, hcircular, hcircular',
    hrefused, hlowered, composed, hdeclarations, hmem, htagged⟩

/-- A named schema is composed and refers to itself. But it lowers even if references back are refused, and it
reports nothing otherwise. -/
def MissesItself (raw : Json) : Prop :=
  ∃ document entry declarations composed, Document.ofJson raw = .ok document ∧ entry ∈ document.named ∧
    Operation.select entry.schema = .compose ∧ entry.schema.Mentions entry.pointer ∧
    ((fresh document refusing).run (lowerNamed entry)).1 = .ok declarations ∧
    ((fresh document {}).run (LowerM.withVisited entry.pointer
      (compose true (Name.pascal entry.name) entry.schema))).1 = .ok composed ∧ composed.circularRefs = [] ∧
    Text.occursIn "@circular".toList composed.content.toList = false

/-- Whether the first named schema misses itself, though the reference is not far. -/
def missesItself (raw : Json) : Bool :=
  (Document.ofJson raw).toOption.any fun document => document.named.head?.any fun entry =>
    Operation.select entry.schema == .compose && entry.schema.mentionsNearby entry.pointer &&
    (((fresh document refusing).run (lowerNamed entry)).1.toOption.any fun _ => true) &&
    ((fresh document {}).run (LowerM.withVisited entry.pointer
      (compose true (Name.pascal entry.name) entry.schema))).1.toOption.any fun composed =>
        composed.circularRefs.isEmpty && !Text.occursIn "@circular".toList composed.content.toList

theorem missesItself_of_eq_true {raw : Json} (h : missesItself raw = true) : MissesItself raw := by
  obtain ⟨document, hdocument, hfirst⟩ := Decode.exists_ok_of_any h
  obtain ⟨entry, hhead, hmissed⟩ := (Option.any_eq_true _ _).mp hfirst
  simp only [Bool.and_eq_true, beq_iff_eq] at hmissed
  obtain ⟨⟨⟨hcompose, hmention⟩, hlowered⟩, hcomposed⟩ := hmissed
  obtain ⟨declarations, hlowered, -⟩ := Decode.exists_ok_of_any hlowered
  obtain ⟨composed, hcomposed, hsilent⟩ := Decode.exists_ok_of_any hcomposed
  rw [Bool.and_eq_true, List.isEmpty_iff, Bool.not_eq_true'] at hsilent
  exact ⟨document, entry, declarations, composed, hdocument, List.mem_of_head? hhead, hcompose,
    Schema.mentions_of_nearby hmention, hlowered, hcomposed, hsilent.1, hsilent.2⟩

/-- Nodes miss themselves as items of a property, in a member that stands inline, under arbitrary keys, and in a
union. -/
theorem circularity_missed_beyond_sites :
    MissesItself (nodeDocument [("properties", .obj [
      ("children", .obj [("type", .str "array"), ("items", nodeReference)]), ("value", nodeValue)])]) ∧
    MissesItself (nodeDocument [("allOf", .arr [.obj [("properties", .obj [("next", nodeReference)])]])]) ∧
    MissesItself (nodeDocument [
      ("properties", .obj [("value", nodeValue)]), ("additionalProperties", nodeReference)]) ∧
    MissesItself (nodeDocument [("properties", .obj [
      ("next", .obj [("oneOf", .arr [nodeReference, .obj [("type", .str "null")]])])])]) := by
  refine ⟨?items, ?member, ?keys, ?union⟩
  all_goals
    apply missesItself_of_eq_true
    decide +kernel

end Context

end SchemaTypings
