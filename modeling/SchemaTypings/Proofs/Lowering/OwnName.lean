import SchemaTypings.Proofs.Lowering.Agreement
import SchemaTypings.Proofs.Lowering.Ensures
import SchemaTypings.Proofs.Name.Pascal

/-!
# The name under which a schema is declared

A reference to a named schema gives the type name of the schema. Its declarations are made under the type
name of that, since each operation makes a type name of what it is given. So a schema is declared under the
name by which it is referred to exactly if that name is settled, which it is if the schema is named in
ASCII (`Context.declared_as_referenced`).
-/

namespace SchemaTypings

open LowerM Lowering Typing

/-! ## Main declarations -/

/-- Whether a declaration of the kind introduces a type. -/
def Typing.DeclarationKind.isType : DeclarationKind → Bool
  | typeAlias | interface | enum => true
  | const | function => false

/-- The declaration introduces a type under the name. -/
def Typing.Declaration.Introduces (declaration : Declaration) (name : String) : Prop :=
  declaration.name = name ∧ declaration.kind.isType = true

/-- The declarations introduce a type under the name. -/
def Typing.Introduce (declarations : List Declaration) (name : String) : Prop :=
  ∃ declaration ∈ declarations, declaration.Introduces name

theorem Typing.EnumText.introduces (text : EnumText) (strategy : EnumStrategy) (info : SchemaInfo) :
    (text.declarations strategy info).1.Introduces text.name := by
  cases strategy <;> exact ⟨rfl, rfl⟩

theorem Lowering.introduces_interfaceDeclaration (options : Options) (name : String)
    (info : SchemaInfo) (properties : List Property) (index : Option String)
    (dependencies : List String) :
    (interfaceDeclaration options name info properties index dependencies).Introduces name := by
  unfold interfaceDeclaration
  split <;> exact ⟨rfl, rfl⟩

theorem Composition.introduce (composed : Composition) :
    Introduce composed.declarations composed.typeName := by
  refine ⟨⟨composed.typeName, composed.mainKind, composed.content, composed.dependencies⟩, ?_, rfl, ?_⟩
  · simp [Composition.declarations]
  · unfold Composition.mainKind
    split <;> rfl

/-! ## What operations give -/

/-- What the step gives, wherever it is run and succeeds, has the property. -/
def LowerM.Gives {α : Type} (step : LowerM α) (post : α → Prop) : Prop :=
  step.Ensures (fun _ _ => True) post

namespace LowerM.Gives

variable {α β : Type} {step : LowerM α} {post : α → Prop} {result : β → Prop}

theorem placeless : Placeless fun _ _ => True :=
  ⟨fun _ _ _ _ => Iff.rfl, fun _ => id⟩

theorem any (step : LowerM α) : step.Gives fun _ => True :=
  fun _ _ _ => ⟨trivial, fun _ _ => trivial⟩

/-- Whatever came before, the last step decides on what is given. -/
theorem last {next : α → LowerM β} (h : ∀ value, (next value).Gives result) :
    (step >>= next).Gives result :=
  .bind (any step) fun value _ => h value

end LowerM.Gives

namespace Lowering

open LowerM.Gives

theorem gives_lowerEnum (name : String) (schema : Schema) :
    (lowerEnum name schema).Gives fun lowered =>
      lowered.declaration.Introduces (Name.pascal name) :=
  Ensures.lowerEnum placeless name (fun _ _ _ => ⟨rfl, rfl⟩) fun _ _ _ strategy => EnumText.introduces _ strategy _

theorem gives_lowerUnion (name : String) (schema : Schema) :
    (lowerUnion name schema).Gives fun lowered =>
      lowered.declaration.Introduces (Name.pascal name) := by
  apply Ensures.withSegment placeless
  cases unionMembersOf schema with
  | nil => exact last fun _ => last fun _ => .pure ⟨rfl, rfl⟩
  | cons member rest => exact last fun _ => last fun _ => last fun _ => .pure ⟨rfl, rfl⟩

theorem gives_declareInterface (name : String) (schema : Schema) :
    (declareInterface name schema).Gives fun declarations =>
      Introduce declarations (Name.pascal name) := by
  have hlowered : (lowerInterface name schema).Gives fun lowered =>
      lowered.declaration.Introduces (Name.pascal name) :=
    last fun _ => last fun _ => .pure (introduces_interfaceDeclaration _ _ _ _ _ _)
  apply Ensures.bind hlowered
  intro lowered hintroduces
  exact last fun _ => .pure ⟨lowered.declaration, List.mem_append_left _ List.mem_cons_self, hintroduces⟩

theorem gives_lowerAlias (name : String) (schema : Schema) :
    (lowerAlias name schema).Gives fun declaration => declaration.Introduces (Name.pascal name) :=
  last fun _ => last fun _ => .pure ⟨rfl, rfl⟩

theorem gives_compose (derive : Bool) (name : String) (schema : Schema) :
    (compose derive name schema).Gives fun composed => composed.typeName = Name.pascal name := by
  obtain ⟨kind, info⟩ := schema
  have hunion : ∀ union, (composeUnion derive (Name.pascal name) union).Gives fun composed =>
      composed.typeName = Name.pascal name := fun union =>
    last fun _ => last fun _ => last fun _ => .pure rfl
  cases kind with
  | oneOf members | anyOf members => exact hunion _
  | _ =>
    apply Ensures.withSegment placeless
    exact last fun _ => last fun _ => last fun _ => .pure rfl

/-- Whatever operation is selected, a type is introduced under the type name made of the given one. -/
theorem gives_declare (typeName : String) (schema : Schema) :
    (declare typeName schema).Gives fun declarations =>
      Introduce declarations (Name.pascal typeName) := by
  unfold Lowering.declare
  cases Operation.select schema with
  | enum =>
    have henum := gives_lowerEnum typeName schema
    exact .map (henum.mono fun lowered h => ⟨lowered.declaration, List.mem_cons_self, h⟩)
  | union =>
    have hunion := gives_lowerUnion typeName schema
    refine .map (hunion.mono fun lowered h => ⟨lowered.declaration, ?_, h⟩)
    exact List.mem_append_right _ List.mem_cons_self
  | compose =>
    have hcompose := gives_compose true typeName schema
    exact .map (hcompose.mono fun composed h => h ▸ composed.introduce)
  | interface => exact gives_declareInterface typeName schema
  | _ =>
    have halias := gives_lowerAlias typeName schema
    exact .map (halias.mono fun declaration h => ⟨declaration, List.mem_singleton_self _, h⟩)

/-- A named schema that lowers is introduced as a type, and recorded. -/
theorem introduce_of_lowerNamed {entry : NamedSchema} {setting : Setting} {store after : Store}
    {declarations : List Declaration}
    (h : (lowerNamed entry).runWith setting store = (.ok declarations, after)) :
    Introduce declarations (Name.pascal (Name.pascal entry.name)) ∧ after.Records entry.pointer := by
  have hdeclare := gives_declare (Name.pascal entry.name) entry.schema
    { setting with scope := setting.scope.visit entry.pointer } store trivial
  obtain ⟨inner, hrun, rfl⟩ := runWith_lowerNamed_eq_ok.mp h
  rw [hrun] at hdeclare
  exact ⟨hdeclare.2 declarations rfl, Store.records_record.mpr (Or.inr rfl)⟩

end Lowering

/-! ## References -/

namespace Context

variable {raw : Json} {document : Document} {options : Options} {context : Context}
  {entry : NamedSchema}

/-- A recorded reference resolves. -/
theorem resolves_of_records {reference : String} (h : context.store.Records reference) :
    ∃ resolution, (context.run (resolveReference reference)).1 = .ok resolution := by
  obtain ⟨document, options, ⟨path, visited, depth⟩, store⟩ := context
  rw [run_eq]
  show ∃ resolution, ((resolveReference reference).runWith
    (.within document options path visited depth) store).1 = .ok resolution
  rw [runWith_resolveReference, Document.referenceBound]
  by_cases hvisited : reference ∈ visited
  · rw [runWith_resolveWithin_of_mem _ hvisited, runWith_forwardReference]
    exact ⟨_, rfl⟩
  · obtain ⟨name, hname⟩ := Option.isSome_iff_exists.mp h
    rw [runWith_resolveWithin_of_not_mem _ hvisited, resolveNew, runWith_bind,
      runWith_withVisited_of_not_mem _ hvisited, runWith_resolveFresh, hname]
    exact ⟨_, rfl⟩

/-- A named schema that lowers is introduced as a type, and its reference resolves from then on.
Wherever the reference is resolved, the type name of the name that it gives is the one under which the
schema is introduced. The two are the same if and only if the name that it gives is settled, as it is if
the schema is named in ASCII. -/
theorem declared_as_referenced (h : Document.ofJson raw = .ok document)
    (hentry : entry ∈ document.named) {declarations : List Declaration}
    (hlowered : (context.run (lowerNamed entry)).1 = .ok declarations) :
    (∃ resolution, ((context.run (lowerNamed entry)).2.run
      (resolveReference entry.pointer)).1 = .ok resolution) ∧
    ∃ declaration ∈ declarations, declaration.kind.isType = true ∧
      ∀ other, Reached document options other → ∀ resolution,
        (other.run (resolveReference entry.pointer)).1 = .ok resolution →
          declaration.name = Name.pascal resolution.name ∧
            (declaration.name = resolution.name ↔ Name.isSettled resolution.name = true) ∧
              (entry.name.toList.all Text.isAscii = true → declaration.name = resolution.name) := by
  have hnamed : document.isNamed entry.pointer := Document.isNamed_iff.mpr ⟨entry, hentry, rfl⟩
  have hrun : (lowerNamed entry).runWith context.setting context.store =
      (.ok declarations, (context.run (lowerNamed entry)).2.store) := by
    rw [run_eq] at hlowered ⊢
    exact Prod.ext hlowered rfl
  obtain ⟨⟨declaration, hmem, hname, hkind⟩, hrecords⟩ := introduce_of_lowerNamed hrun
  constructor
  · exact resolves_of_records hrecords
  · refine ⟨declaration, hmem, hkind, ?_⟩
    intro other hother resolution hresolved
    have hcanonical := hother.canonical h
    obtain ⟨rfl, rfl, -⟩ := hother.changes
    rw [run_eq] at hresolved
    have hresolution : resolution.name = Name.pascal entry.name := by
      rw [resolvedName_eq_fixedName h other.scope hcanonical (Or.inl hnamed) (Prod.ext hresolved rfl),
        Document.fixedName_of_isNamed h hnamed, Document.ofReference_pointer h hentry]
    rw [hname, hresolution]
    exact ⟨rfl, Name.pascal_pascal_eq_iff entry.name, Name.pascal_pascal_of_ascii⟩

/-- A document that names a text, and refers to it from a box. -/
def labelled (name : String) : Json :=
  .obj [("definitions", .obj [(name, .obj [("type", .str "string")]),
    ("Box", .obj [("properties", .obj [("label", .obj [("$ref",
      .str ("#/definitions/" ++ name))])])])])]

/-- A text named in ASCII is introduced under the name that its reference gives. -/
theorem declared_as_referenced_of_label : ∃ document entry declarations,
    Document.ofJson (labelled "box-label") = .ok document ∧ entry ∈ document.named ∧
      ((fresh document {}).run (lowerNamed entry)).1 = .ok declarations ∧
        ∃ declaration ∈ declarations, ∃ resolution,
          ((fresh document {}).run (resolveReference entry.pointer)).1 = .ok resolution ∧
            declaration.name = resolution.name := by
  have hrun : ((Document.ofJson (labelled "box-label")).toOption.any fun document =>
      document.named.head?.any fun entry => entry.name.toList.all Text.isAscii &&
        ((fresh document {}).run (lowerNamed entry)).1.toOption.any fun _ =>
          ((fresh document {}).run (resolveReference entry.pointer)).1.toOption.any fun _ => true) =
            true := by decide +kernel
  obtain ⟨document, hdocument, hrun⟩ := Decode.exists_ok_of_any hrun
  obtain ⟨entry, hhead, hentry⟩ := (Option.any_eq_true _ _).mp hrun
  rw [Bool.and_eq_true] at hentry
  obtain ⟨hascii, hruns⟩ := hentry
  obtain ⟨declarations, hlowered, hruns⟩ := Decode.exists_ok_of_any hruns
  obtain ⟨resolution, hresolved, -⟩ := Decode.exists_ok_of_any hruns
  have hmem := List.mem_of_head? hhead
  obtain ⟨-, declaration, hdeclaration, -, hnames⟩ :=
    declared_as_referenced hdocument hmem hlowered
  obtain ⟨-, -, hsame⟩ := hnames _ .fresh resolution hresolved
  exact ⟨document, entry, declarations, hdocument, hmem, hlowered, declaration, hdeclaration,
    resolution, hresolved, hsame hascii⟩

/-- A text whose type name is not settled is introduced under another name than its reference gives. -/
theorem declared_apart_of_umlaut : ∃ document entry declarations resolution,
    Document.ofJson (labelled "größe") = .ok document ∧ entry ∈ document.named ∧
      ((fresh document {}).run (lowerNamed entry)).1 = .ok declarations ∧
        ((fresh document {}).run (resolveReference entry.pointer)).1 = .ok resolution ∧
          ∀ declaration ∈ declarations, declaration.name ≠ resolution.name := by
  have hrun : ((Document.ofJson (labelled "größe")).toOption.any fun document =>
      document.named.head?.any fun entry =>
        ((fresh document {}).run (lowerNamed entry)).1.toOption.any fun declarations =>
          ((fresh document {}).run (resolveReference entry.pointer)).1.toOption.any fun resolution =>
            declarations.all (·.name != resolution.name)) = true := by decide +kernel
  obtain ⟨document, hdocument, hrun⟩ := Decode.exists_ok_of_any hrun
  obtain ⟨entry, hhead, hentry⟩ := (Option.any_eq_true _ _).mp hrun
  obtain ⟨declarations, hlowered, hresolves⟩ := Decode.exists_ok_of_any hentry
  obtain ⟨resolution, hresolved, hapart⟩ := Decode.exists_ok_of_any hresolves
  refine ⟨document, entry, declarations, resolution, hdocument, List.mem_of_head? hhead, hlowered,
    hresolved, ?_⟩
  intro declaration hdeclaration
  exact bne_iff_ne.mp (List.all_eq_true.mp hapart declaration hdeclaration)

end Context

end SchemaTypings
