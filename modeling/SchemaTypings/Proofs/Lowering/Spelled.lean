import SchemaTypings.Proofs.Document.Aliases
import SchemaTypings.Proofs.Lowering.InlineTexts
import SchemaTypings.Proofs.Lowering.Relates
import SchemaTypings.Proofs.Name.Identifiers
import SchemaTypings.Proofs.Typing.Resting

/-!
# Names of references are identifiers

The name of a reference is recorded, reserved, made of its last segment, or claimed (`holds_of_resolveWithin`).
Reserved and claimed names are identifiers, and so are type names; hence all that is recorded are, from a fresh
store on (`Store.Spelled`). So a type expression refers to no companion (`Spelled.typeExpression`).
-/

namespace SchemaTypings

open LowerM Lowering Typing

variable {raw : Json} {document : Document} {options : Options} {reference name : String}

/-! ## Stores -/

namespace Store

variable {store inner : Store}

/-- Every name that is recorded is an identifier. -/
def Spelled (store : Store) : Prop :=
  ∀ reference name, store.types.lookup reference = some name → Name.isIdentifier name = true

theorem spelled_fresh : (fresh document).Spelled := by
  intro reference name h
  cases h

theorem isIdentifier_claim (store : Store) (base : String) :
    Name.isIdentifier (store.claim base).1 = true :=
  Name.isIdentifier_fresh (by decide) (Name.isIdentifier_pascal base) store.usedNames

namespace Spelled

theorem record (h : store.Spelled) (hname : Name.isIdentifier name = true) :
    (store.record reference name).Spelled := by
  intro other found hfound
  rw [lookup_record] at hfound
  split at hfound
  · cases hlookup : store.types.lookup reference with
    | none =>
      rw [hlookup] at hfound
      exact Option.some.inj hfound ▸ hname
    | some recorded =>
      rw [hlookup] at hfound
      exact Option.some.inj hfound ▸ h reference recorded hlookup
  · exact h other found hfound

theorem forget (h : store.Spelled) (reference : String) : (store.forget reference).Spelled := by
  intro other found hfound
  rw [lookup_forget] at hfound
  split at hfound
  · cases hfound
  · exact h other found hfound

theorem isIdentifier_nameBelow (hjson : Document.ofJson raw = .ok document) (store : Store)
    (reference : String) : Name.isIdentifier (store.nameBelow document reference).1 = true := by
  unfold Store.nameBelow
  split
  · rename_i reserved hreserved
    exact Document.isIdentifier_alias hjson hreserved
  · exact store.isIdentifier_claim _

theorem enterBelow (hjson : Document.ofJson raw = .ok document) (h : store.Spelled) (reference : String) :
    (store.enterBelow document reference).Spelled := by
  have hbelow : (store.nameBelow document reference).2.Spelled := by
    unfold Spelled
    rw [types_nameBelow]
    exact h
  exact hbelow.record (isIdentifier_nameBelow hjson store reference)

end Spelled

/-- A store after another one is spelled if that one is. -/
def StaysSpelled (_ : List String) (store after : Store) : Prop :=
  store.Spelled → after.Spelled

theorem storeRelation_staysSpelled : StoreRelation StaysSpelled where
  refl _ _ := id
  trans h h' hstore := h' (h hstore)
  dependencies _ _ _ := id
  warnings _ _ _ := id

theorem StaysSpelled.entering (hjson : Document.ofJson raw = .ok document) (visited : List String)
    (reference : String) :
    Entering document (StaysSpelled (visited ++ [reference])) reference fun _ => StaysSpelled visited where
  refl _ _ := id
  named _ h := ⟨h, fun hstore => (h hstore).record (Name.isIdentifier_ofReference reference)⟩
  below _ h := ⟨fun hstore => (h (hstore.enterBelow hjson reference)).forget reference,
    fun _ _ hstore => h (hstore.enterBelow hjson reference)⟩

end Store

/-! ## References -/

namespace Lowering

variable {path visited : List String} {depth : Nat} {store after : Store}

/-- The name of a reference is the one that is recorded for it, the one reserved for it, the one of its last
segment, or one that is claimed. What holds of these holds of it. -/
theorem holds_of_resolveWithin {P : String → Prop} {active : Nat} {resolution : Resolution}
    (hrecorded : ∀ name, store.types.lookup reference = some name → P name)
    (halias : ∀ name, document.alias? reference = some name → P name)
    (hlast : P (Name.ofReference reference))
    (hclaimed : P (store.claim (Name.ofPointer reference)).1)
    (hrun : (resolveWithin active reference).runWith (.within document options path visited depth)
      store = (.ok resolution, after)) : P resolution.name := by
  have hforward : (Lowering.forwardReference reference).runWith
      (.within document options path visited depth) store = (.ok resolution, after) → P resolution.name := by
    intro hrun
    rw [runWith_forwardReference] at hrun
    cases hrun
    show P ((store.types.lookup reference <|> document.alias? reference).getD (Name.ofReference reference))
    cases hlookup : store.types.lookup reference with
    | some recorded => exact hrecorded recorded hlookup
    | none =>
      cases hreserved : document.alias? reference with
      | some reserved => exact halias reserved hreserved
      | none => exact hlast
  cases active with
  | zero => exact hforward hrun
  | succ active =>
    by_cases hvisited : reference ∈ visited
    · rw [runWith_resolveWithin_of_mem _ hvisited] at hrun
      exact hforward hrun
    · rw [runWith_resolveWithin_of_not_mem _ hvisited, resolveNew, runWith_bind_eq_ok] at hrun
      obtain ⟨name, between, hfresh, hrest⟩ := hrun
      cases hrest
      rw [runWith_withVisited_of_not_mem _ hvisited, runWith_resolveFresh] at hfresh
      split at hfresh
      · rename_i hlookup
        cases hfresh
        exact hrecorded _ hlookup
      · cases hfresh
      · split at hfresh
        · obtain ⟨_, _, _, rfl, _⟩ := resolveNamed_eq_ok.mp hfresh
          exact hlast
        · obtain ⟨_, _, _, _, rfl, _⟩ := resolveBelow_eq_ok.mp hfresh
          unfold Store.nameBelow
          split
          · rename_i reserved hreserved
            exact halias reserved hreserved
          · exact hclaimed

/-! ## Where lowering stands -/

/-- The document and the options are the given ones, and the store is spelled. -/
structure Spelled (document : Document) (options : Options) (setting : Setting) (store : Store) :
    Prop where
  source : setting.document = document
  asked : setting.options = options
  store : store.Spelled

namespace Spelled

theorem placeless : Placeless (Spelled document options) where
  push _ _ _ _ := ⟨fun h => ⟨h.source, h.asked, h.store⟩, fun h => ⟨h.source, h.asked, h.store⟩⟩
  warned _ h := ⟨h.source, h.asked, h.store⟩

theorem tells : Tells options (Spelled document options) :=
  ⟨placeless, Spelled.asked⟩

theorem readOptions {α : Type} {next : Options → LowerM α} {post : α → Prop}
    (h : (next options).Ensures (Spelled document options) post) :
    (LowerM.options >>= next).Ensures (Spelled document options) post :=
  tells.readOptions h

theorem collectDependencies {α : Type} {step : LowerM α} {post : α → Prop}
    (hstep : step.Ensures (Spelled document options) post) :
    (collectDependencies step).Ensures (Spelled document options) fun collected => post collected.1 :=
  hstep.collectDependencies fun _ _ _ hinv => ⟨hinv.source, hinv.asked, hinv.store⟩

theorem claimName (base : String) :
    (claimName base).Ensures (Spelled document options) fun name => Name.isIdentifier name = true := by
  intro setting store hinv
  refine ⟨⟨hinv.source, hinv.asked, hinv.store⟩, ?_⟩
  rintro _ ⟨⟩
  exact store.isIdentifier_claim base

variable (h : Document.ofJson raw = .ok document)

include h

theorem resolveReference (reference : String) :
    (resolveReference reference).Ensures (Spelled document options) fun resolution =>
      Name.isIdentifier resolution.name = true := by
  rintro ⟨source, asked, path, visited, depth⟩ store ⟨hsource, hasked, hstore⟩
  obtain rfl : source = document := hsource
  obtain rfl : asked = options := hasked
  have hstays : Relates source asked (fun _ _ => True) Store.StaysSpelled visited depth
      (resolveWithin source.referenceBound reference) [.follow reference] :=
    Relates.resolveWithin Store.storeRelation_staysSpelled
      (fun visited reference _ _ => Store.StaysSpelled.entering h visited reference)
      (fun _ _ _ _ _ _ _ _ => trivial) _ reference
  have hsetting : (⟨source, asked, ⟨path, visited, depth⟩⟩ : Setting) =
      .within source asked path visited depth := rfl
  rw [hsetting, runWith_resolveReference]
  refine ⟨⟨rfl, rfl, hstays (fun _ _ => trivial) path store hstore⟩, ?_⟩
  intro resolution hresolution
  exact holds_of_resolveWithin (P := fun name => Name.isIdentifier name = true)
    (fun name hname => hstore reference name hname) (fun name hname => Document.isIdentifier_alias h hname)
    (Name.isIdentifier_ofReference reference) (store.isIdentifier_claim _) (Prod.ext hresolution rfl)

theorem referenceName (reference : String) :
    (referenceName reference).Ensures (Spelled document options) fun name => Name.isIdentifier name = true :=
  .map (resolveReference h reference)

end Spelled

/-! ## Type expressions -/

/-- What refers to no companion is kept by what joins type expressions. -/
theorem closed_silent : Closed Silent Silent where
  top := (IsWord.of_isIdentifier (by decide)).rests
  bottom := (IsWord.of_isIdentifier (by decide)).rests
  primitive options format type := by
    have hword : Name.isIdentifier (primitiveType options format type) = true := by
      cases type with
      | string =>
        rw [primitiveType]
        split <;> decide
      | _ =>
        rw [primitiveType]
        decide
    exact (IsWord.of_isIdentifier hword).rests
  literal value := (rests_compact value).toWord
  union := rests_union
  intersection := rests_intersection
  arrayOf options _ := rests_arrayOf options
  mapOf options _ := rests_mapOf options
  signature options name _ info required := rests_signatureText _ _ _ _
  index := rests_indexSignatureText
  object {signatures} h := by
    have hmembers : Rests (fun _ => False) .word (String.intercalate "; " signatures) := .intercalate (fun _ _ => rfl) h
    exact (Rests.of_template [.literal "\x7b ", .part (String.intercalate "; " signatures) .word,
      .literal " \x7d"] [] (by simp) rfl rfl (by simpa using hmembers) (by simp)).toWord
  nullable options _ := rests_makeNullable options

theorem Spelled.typeExpression (h : Document.ofJson raw = .ok document) (schema : Schema) :
    (typeExpression schema).Ensures (Spelled document options) Silent :=
  ensures_typeOf Spelled.placeless closed_silent fun reference _ =>
    (Spelled.referenceName h reference).mono fun _ hname => (IsWord.of_isIdentifier hname).rests

theorem Spelled.indexValue (h : Document.ofJson raw = .ok document) (propertyless : Bool)
    (additional : Additional Schema) :
    (indexValue Lowering.referenceName propertyless additional).Ensures (Spelled document options) fun index =>
      ∀ value ∈ index, Silent value :=
  ensures_indexValue Spelled.placeless closed_silent fun schema _ => Spelled.typeExpression h schema

theorem Spelled.describe (h : Document.ofJson raw = .ok document) (schema : Schema) :
    (describe schema).Ensures (Spelled document options) fun descriptor => Silent descriptor.typeName :=
  (Spelled.typeExpression h schema).bind fun _ htype => .pure htype

end Lowering

end SchemaTypings
