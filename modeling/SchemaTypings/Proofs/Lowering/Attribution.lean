import SchemaTypings.Proofs.FirstOccurrences
import SchemaTypings.Proofs.Lowering.InlineTexts
import SchemaTypings.Proofs.Lowering.OwnName
import SchemaTypings.Proofs.Lowering.Truthful

/-!
# What may be depended on

While a named schema is declared, each reference that it mentions adds its own name to the dependencies,
and nothing else adds any (`Attribution.resolveReference`). So all of them are allowed if the type names of
the named schemas that it mentions are allowed, and every name that is the type name of no named schema:
an alias or a part.
-/

namespace SchemaTypings

open LowerM Lowering Typing

/-! ## Names -/

theorem Document.not_mem_typeNames_of_beginsSmall {named : List NamedSchema} {name : String}
    (h : Name.beginsSmall name = true) : name ∉ typeNames named := by
  intro hmem
  obtain ⟨entry, -, rfl⟩ := List.mem_map.mp hmem
  rw [Name.not_beginsSmall_pascal] at h
  cases h

/-- The reference to a named schema that the schema mentions has a name that is allowed. -/
def Schema.Allowed (document : Document) (allowed : String → Prop) (schema : Schema) : Prop :=
  ∀ reference, schema.Mentions reference → document.isNamed reference →
    allowed (Name.ofReference reference)

namespace Schema.Allowed

variable {document : Document} {allowed : String → Prop}

theorem child {schema child : Schema} (h : schema.Allowed document allowed) (hchild : child ∈ schema.children) :
    child.Allowed document allowed :=
  fun reference hmention => h reference (.of_child hchild hmention)

theorem target {target : String} {info : SchemaInfo}
    (h : Schema.Allowed document allowed ⟨.ref target, info⟩) (hnamed : document.isNamed target) :
    allowed (Name.ofReference target) :=
  h target ⟨_, .refl _, rfl⟩ hnamed

/-- A property that is pinned mentions nothing. -/
theorem pin {shape : ObjectShape Schema} {info : SchemaInfo}
    (h : Schema.Allowed document allowed ⟨.object shape, info⟩) (property : String) (value : Json) :
    Schema.Allowed document allowed ⟨.object (shape.pin property value), info⟩ := by
  have hproperties : ∀ properties : List (String × Schema),
      ∀ child ∈ (setProperty property (.constant value) properties).map (·.2),
        child = .constant value ∨ child ∈ properties.map (·.2) := by
    intro properties
    induction properties with
    | nil => simp [setProperty]
    | cons first rest ih =>
      intro child hchild
      unfold setProperty at hchild
      split at hchild
      · simp at hchild ⊢
        grind
      · simp at hchild ih ⊢
        grind
  intro reference hmention
  rcases mentions_iff.mp hmention with hkind | ⟨child, hchild, hmention⟩
  · cases hkind
  · rcases List.mem_append.mp hchild with hchild | hchild
    · rcases hproperties shape.properties child hchild with rfl | hchild
      · rcases mentions_iff.mp hmention with hkind | ⟨child, hchild, -⟩
        · cases hkind
        · cases hchild
      · exact h reference (.of_child (List.mem_append_left _ hchild) hmention)
    · exact h reference (.of_child (List.mem_append_right _ hchild) hmention)

end Schema.Allowed

/-! ## Where a named schema is declared -/

/-- A named schema is being declared: its own reference is the only one being resolved, the store is
truthful, and all dependencies are allowed. -/
structure Declaring (document : Document) (own : String) (allowed : String → Prop)
    (setting : Setting) (store : Store) : Prop where
  source : setting.document = document
  visited : setting.scope.visited = [own]
  truthful : store.Truthful document
  dependencies : ∀ name ∈ store.dependencies, allowed name

/-- What is allowed in the declaration of the named schema at a reference: whatever is the type name of no
named schema, at least. -/
structure Attribution (raw : Json) (document : Document) (own : String) (allowed : String → Prop) :
    Prop where
  ofJson : Document.ofJson raw = .ok document
  own : document.isNamed own
  other : ∀ name, name ∉ Document.typeNames document.named → allowed name

theorem Declaring.placeless {document : Document} {own : String} {allowed : String → Prop} :
    Placeless (Declaring document own allowed) where
  push _ _ _ _ := ⟨fun h => ⟨h.source, h.visited, h.truthful, h.dependencies⟩,
    fun h => ⟨h.source, h.visited, h.truthful, h.dependencies⟩⟩
  warned _ h := ⟨h.source, h.visited, ⟨h.truthful.reserved, h.truthful.denotes⟩, h.dependencies⟩

namespace Declaring

variable {document : Document} {own : String} {allowed : String → Prop} {setting : Setting}
  {store after : Store}

theorem fresh (h : Declaring document own allowed setting store) :
    Declaring document own allowed setting { store with dependencies := [] } :=
  ⟨h.source, h.visited, ⟨h.truthful.reserved, h.truthful.denotes⟩, by simp⟩

theorem merged (h : Declaring document own allowed setting store)
    (hafter : Declaring document own allowed setting after) :
    Declaring document own allowed setting
      { after with dependencies := after.dependencies.foldl addName store.dependencies } where
  source := h.source
  visited := h.visited
  truthful := ⟨hafter.truthful.reserved, hafter.truthful.denotes⟩
  dependencies name hname := (mem_foldl_addName.mp hname).elim (h.dependencies name) (hafter.dependencies name)

end Declaring

namespace Attribution

variable {raw : Json} {document : Document} {own : String} {allowed : String → Prop}
  (h : Attribution raw document own allowed) {α : Type} {step : LowerM α} {post : α → Prop}

include h

theorem small {name : String} (hsmall : Name.beginsSmall name = true) : allowed name :=
  h.other name (Document.not_mem_typeNames_of_beginsSmall hsmall)

theorem words : HoldsOfWords fun name => allowed name ∨ name = "Date" where
  small _ hsmall := Or.inl (h.small hsmall)
  date := Or.inr rfl

theorem of_denotes {name reference : String} (hdenotes : document.Denotes name reference)
    (hnamed : document.isNamed reference → allowed (Name.ofReference reference)) : allowed name := by
  by_cases hreference : document.isNamed reference = true
  · rw [(Document.denotes_of_isNamed hreference).mp hdenotes]
    exact hnamed hreference
  · exact h.other name ((Document.denotes_of_not_isNamed hreference).mp hdenotes)

/-- A reference resolves to a name that is allowed. -/
theorem resolveReference {reference : String}
    (hnamed : document.isNamed reference → allowed (Name.ofReference reference)) :
    (resolveReference reference).Ensures (Declaring document own allowed) fun resolution =>
      allowed resolution.name := by
  rintro ⟨source, options, path, visited, depth⟩ store ⟨hsource, hvisited, htruthful, hdependencies⟩
  obtain rfl := hsource.symm
  obtain rfl := hvisited.symm
  have hown : ∀ other ∈ [own], document.isNamed other := by
    intro other hother
    rw [List.mem_singleton.mp hother]
    exact h.own
  have hafter := truthful_resolveReference h.ofJson htruthful options path [own] depth reference
  have hresolved := runWith_resolveReference_of_truthful h.ofJson htruthful hown options path depth
    reference
  have hsetting : (⟨document, options, ⟨path, [own], depth⟩⟩ : Setting) =
      .within document options path [own] depth := rfl
  rw [hsetting]
  rcases hrun : (Lowering.resolveReference reference).runWith
    (.within document options path [own] depth) store with ⟨error | resolution, after⟩ <;>
      rw [hrun] at hafter hresolved
  · refine ⟨⟨rfl, rfl, hafter, ?_⟩, ?_⟩
    · intro name hname
      exact hdependencies name (hresolved ▸ hname)
    · rintro _ ⟨⟩
  · obtain ⟨hdenotes, hadded⟩ := hresolved
    have hallowed := h.of_denotes hdenotes hnamed
    refine ⟨⟨rfl, rfl, hafter, ?_⟩, ?_⟩
    · intro name hname
      rw [hadded] at hname
      rcases mem_addName.mp hname with hname | rfl
      · exact hdependencies name hname
      · exact hallowed
    · rintro _ ⟨⟩
      exact hallowed

omit h in
theorem collectDependencies (hstep : step.Ensures (Declaring document own allowed) post) :
    (collectDependencies step).Ensures (Declaring document own allowed) fun collected =>
      post collected.1 ∧ ∀ name ∈ collected.2, allowed name :=
  hstep.collecting (D := fun dependencies => ∀ name ∈ dependencies, allowed name)
    (fun _ _ => Declaring.fresh) (fun _ _ _ => Declaring.merged) fun _ _ => Declaring.dependencies

/-- A name that is claimed for a part is its own type name, and the type name of no named schema. -/
theorem claimName {base : String} (hbase : base.toList.all Text.isAscii = true) :
    (claimName base).Ensures (Declaring document own allowed) fun name =>
      Name.pascal name = name ∧ allowed name := by
  intro setting store hinv
  refine ⟨⟨hinv.source, hinv.visited, hinv.truthful.claim base, hinv.dependencies⟩, ?_⟩
  rintro _ ⟨⟩
  exact ⟨Name.pascal_fresh hbase store.usedNames, h.other _ (hinv.truthful.claim_not_mem base)⟩

end Attribution

end SchemaTypings
