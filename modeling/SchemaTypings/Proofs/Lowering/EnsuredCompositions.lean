import SchemaTypings.Proofs.Lowering.InlineTexts

/-!
# What compositions ensure

What a composition ensures under an invariant is a logic of compositions (`CompositionInvariant.Sound.logic`): so
it follows from what the invariant, and what is said of parts and of composed types, come to at each site
(`CompositionInvariant.Sound.compose`).
-/

namespace SchemaTypings

open LowerM Lowering Typing

/-- What holds of a resolved reference, whether it is marked as leading back or not. -/
theorem LowerM.Ensures.composeReference {inv : Setting → Store → Prop} {target : String}
    {parts : CompositionParts} {known : Resolution → Prop} {post : String × CompositionParts → Prop}
    (hresolve : (resolveReference target).Ensures inv known)
    (hplain : ∀ resolution, known resolution → post (resolution.name, parts))
    (hmarked : ∀ resolution, known resolution →
      post (resolution.name, parts.addCircular resolution.name)) :
    (composeReference target parts).Ensures inv post := by
  apply hresolve.bind
  intro resolution hknown
  split
  · exact .pure (hplain resolution hknown)
  · apply Ensures.readOptions
    intro options
    cases options.composition.circularRefs with
    | error => exact .readScope fun scope => .throw _
    | marker => exact .pure (hmarked resolution hknown)

/-! ## Under an invariant -/

/-- What is said of the runs that compose a schema, under an invariant. -/
structure CompositionInvariant where
  /-- Where steps are run. -/
  inv : Setting → Store → Prop
  /-- The schemas that are composed. -/
  admits : Schema → Prop := fun _ => True
  /-- The names that they are composed under. -/
  names : String → Prop := fun _ => True
  /-- The texts of types. -/
  writes : String → Prop := fun _ => True
  /-- The dependencies of a body. -/
  depends : List String → Prop := fun _ => True
  /-- What comes to the parts at some sites: the parts before, and after. -/
  adds : List Schema → CompositionParts → CompositionParts → Prop
  /-- What is composed, at the top or below, at some sites. -/
  declares : Bool → List Schema → Composition → Prop

/-- What is said holds at each site, and is kept by putting sites together. -/
structure CompositionInvariant.Sound (said : CompositionInvariant) (options : Options) : Prop
    extends Tells options said.inv where
  closed : ∃ signs, Closed said.writes signs
  child {schema child : Schema} : said.admits schema → child ∈ schema.children → said.admits child
  claimName {base : String} : base.toList.all Text.isAscii = true →
    (LowerM.claimName base).Ensures said.inv fun name => said.names name ∧ said.writes name
  typeExpression {schema : Schema} : said.admits schema →
    (typeExpression schema).Ensures said.inv said.writes
  collectDependencies {α : Type} {step : LowerM α} {post : α → Prop} : step.Ensures said.inv post →
    (LowerM.collectDependencies step).Ensures said.inv fun collected =>
      post collected.1 ∧ said.depends collected.2
  refl (parts : CompositionParts) : said.adds [] parts parts
  trans {sites others : List Schema} {start between final : CompositionParts} :
    said.adds sites start between → said.adds others between final →
      said.adds (sites ++ others) start final
  absorb {sites : List Schema} {nested : Composition} (parts : CompositionParts) :
    said.declares false sites nested → said.adds sites parts (parts.absorb nested)
  reference {target : String} {info : SchemaInfo} (parts : CompositionParts) :
    said.admits ⟨.ref target, info⟩ → (composeReference target parts).Ensures said.inv fun named =>
      said.writes named.1 ∧ said.adds [⟨.ref target, info⟩] parts named.2
  union (derive : Bool) {name : String} {schema : Schema} : Operation.select schema = .union →
    said.admits schema → said.names name →
      (composeUnion derive (Name.pascal name) schema).Ensures said.inv (said.declares derive [schema])
  assemble (derive : Bool) {name : String} {kind : SchemaKind Schema} {info : SchemaInfo}
    {sites : List Schema} {body : CompositionBody} {parts : CompositionParts} {dependencies : List String}
    {setting : Setting} {store : Store} : said.inv setting store → Operation.ofKind kind ≠ .union →
      said.names name → said.adds sites {} parts → ComposedBody options kind body →
        BodyWrites options said.writes body → said.depends dependencies →
          said.declares derive (sites ++ Schema.ownSites ⟨kind, info⟩) (assemble setting.document options derive
            (Name.pascal name) ⟨kind, info⟩ body parts dependencies)

namespace CompositionInvariant.Sound

variable {said : CompositionInvariant} {options : Options} (sound : said.Sound options)

include sound

/-- Neither what is claimed nor what is depended on matters to what a step ensures. -/
theorem logic (document : Document) (visited : List String) : CompositionLogic.Sound
    { holds := fun _ {_} step _ post => step.Ensures said.inv fun value =>
        ∃ claimed, ∀ dependencies, post dependencies claimed value
      admits := said.admits
      names := said.names
      claims := fun name => said.names name ∧ said.writes name
      writes := fun _ _ => said.writes
      adds := fun sites start _ _ final => said.adds sites start final
      declares := fun derive _ sites _ _ => said.declares derive sites } document options visited where
  pure h := .pure ⟨[], h⟩
  bind h hnext := h.bind fun value ⟨before, hbefore⟩ => (hnext value).mono fun given ⟨claimed, hgiven⟩ =>
    ⟨before ++ claimed, fun dependencies => hgiven dependencies before (hbefore dependencies)⟩
  readOptions := sound.readOptions
  withSegment segment h := h.withSegment sound.toPlaceless segment
  descend segment h := h.descend sound.toPlaceless segment
  claimThen hbase h := (sound.claimName hbase).bind fun name hname => (h name hname).mono
    fun _ ⟨claimed, hgiven⟩ => ⟨name :: claimed, hgiven⟩
  names := And.left
  child := sound.child
  top := sound.closed.elim fun _ hclosed => hclosed.top
  intersection h := sound.closed.elim fun _ hclosed => hclosed.intersection h
  arrayOf h := sound.closed.elim fun _ hclosed => hclosed.arrayOf options h
  later _ := id
  refl := sound.refl
  trans := sound.trans
  typeExpression hschema := (sound.typeExpression hschema).mono fun _ htype => ⟨[], fun _ => ⟨rfl, fun _ => htype⟩⟩
  indexValue hschemas := by
    obtain ⟨signs, hclosed⟩ := sound.closed
    refine (ensures_indexValue sound.toPlaceless hclosed fun value hvalue =>
      sound.typeExpression (hschemas value hvalue)).mono fun _ hindex => ⟨[], fun _ => ⟨rfl, ?_⟩⟩
    exact fun value hvalue _ => hindex value hvalue
  reference parts hschema := (sound.reference parts hschema).mono fun _ hnamed =>
    ⟨[], fun _ => ⟨hnamed.2, hnamed.1⟩⟩
  union derive {_ _ _} hunion hschema hname := (sound.union derive hunion hschema hname).mono fun _ hunion =>
    ⟨[], fun _ => hunion⟩
  absorb parts hname hnested := ⟨sound.absorb parts hnested, hname.2⟩
  assembled derive {_ _ _ _ _ _ _} hunion hname h := by
    refine (sound.collectDependencies h).bind ?_
    rintro ⟨⟨body, parts⟩, dependencies⟩ ⟨⟨_, hcomposed⟩, hdepends⟩
    obtain ⟨hadds, hform, hwrites⟩ := hcomposed []
    refine Ensures.readGiven fun setting store hinv => sound.readOptions (.pure ⟨[], fun _ => ?_⟩)
    exact sound.assemble derive hinv hunion hname hadds hform hwrites hdepends

/-- What holds at the sites of a composition holds of the whole composition. -/
theorem compose (derive : Bool) {name : String} (hname : said.names name) {schema : Schema}
    (hschema : said.admits schema) :
    (compose derive name schema).Ensures said.inv (said.declares derive (schema.compositionSites options)) := by
  intro setting store hinv
  have hcomposed : (Lowering.compose derive name schema).Ensures said.inv _ :=
    (sound.logic setting.document []).compose 0 derive hname hschema
  exact (hcomposed.mono fun _ ⟨_, hdeclares⟩ => hdeclares []) setting store hinv

end CompositionInvariant.Sound

/-! ## Compositions apart from their texts -/

/-- What holds at the sites of a composition, one by one: `adds sites` of the parts before and after, and
`declares sites` of what is composed. -/
structure CompositionRules (document : Document) (options : Options) (inv : Setting → Store → Prop)
    (adds : List Schema → CompositionParts → CompositionParts → Prop)
    (declares : List Schema → Composition → Prop) : Prop extends Tells options inv where
  source {setting : Setting} {store : Store} : inv setting store → setting.document = document
  claimName (base : String) : (LowerM.claimName base).Ensures inv fun _ => True
  typeExpression (schema : Schema) : (typeExpression schema).Ensures inv fun _ => True
  collectDependencies {α : Type} {step : LowerM α} {post : α → Prop} : step.Ensures inv post →
    (LowerM.collectDependencies step).Ensures inv fun collected => post collected.1
  refl (parts : CompositionParts) : adds [] parts parts
  trans {sites others : List Schema} {start between final : CompositionParts} : adds sites start between →
    adds others between final → adds (sites ++ others) start final
  absorb {sites : List Schema} {nested : Composition} (parts : CompositionParts) : declares sites nested →
    adds sites parts (parts.absorb nested)
  reference (target : String) (info : SchemaInfo) (parts : CompositionParts) :
    (composeReference target parts).Ensures inv fun named => adds [⟨.ref target, info⟩] parts named.2
  union (derive : Bool) (name : String) {schema : Schema} : Operation.select schema = .union →
    (composeUnion derive (Name.pascal name) schema).Ensures inv (declares [schema])
  assemble (derive : Bool) (name : String) {kind : SchemaKind Schema} {info : SchemaInfo}
    {sites : List Schema} {body : CompositionBody} {parts : CompositionParts} (dependencies : List String) :
    Operation.ofKind kind ≠ .union → adds sites {} parts → ComposedBody options kind body →
      declares (sites ++ Schema.ownSites ⟨kind, info⟩)
        (assemble document options derive (Name.pascal name) ⟨kind, info⟩ body parts dependencies)

namespace CompositionRules

variable {document : Document} {options : Options} {inv : Setting → Store → Prop}
  {adds : List Schema → CompositionParts → CompositionParts → Prop} {declares : List Schema → Composition → Prop}
  (rules : CompositionRules document options inv adds declares)

include rules

theorem sound : CompositionInvariant.Sound { inv, adds, declares := fun _ => declares } options where
  toTells := rules.toTells
  closed := ⟨fun _ => True, closed_true⟩
  child _ _ := trivial
  claimName _ := (rules.claimName _).mono fun _ _ => ⟨trivial, trivial⟩
  typeExpression _ := rules.typeExpression _
  collectDependencies hstep := (rules.collectDependencies hstep).mono fun _ hpost => ⟨hpost, trivial⟩
  refl := rules.refl
  trans := rules.trans
  absorb := rules.absorb
  reference parts _ := (rules.reference _ _ parts).mono fun _ hadds => ⟨trivial, hadds⟩
  union derive _ _ hunion _ _ := rules.union derive _ hunion
  assemble derive {_ _ _ _ _ _ _ _ _} hinv hunion _ hadds hform _ _ := by
    obtain rfl := rules.source hinv
    exact rules.assemble derive _ _ hunion hadds hform

theorem compose (derive : Bool) (name : String) (schema : Schema) :
    (compose derive name schema).Ensures inv (declares (schema.compositionSites options)) :=
  rules.sound.compose derive trivial trivial

end CompositionRules

end SchemaTypings
