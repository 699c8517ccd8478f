import SchemaTypings.Proofs.Lowering.Claims
import SchemaTypings.Proofs.Lowering.NamedTexts
import SchemaTypings.Proofs.Lowering.PartNames

/-!
# Steps that spell texts

A step of lowering claims names for the parts that are declared on their own, follows references, and gives
texts that are written with the names of both. What it claims and what it gives are related by a
postcondition, for every run that succeeds, in whatever store it started (`LowerM.Spells`). Postconditions are
carried from step to step; the ones here are of steps that claim nothing for parts.
-/

namespace SchemaTypings

open LowerM Lowering Typing

variable {document : Document} {options : Options} {visited : List String} {α β : Type}

/-! ## Stores -/

namespace Store

variable {store between after inner : Store} {parts first second : List String}

/-- The store afterwards continues the one before, depends on no less, and has names claimed for the parts,
beside those that were claimed before. -/
structure Advances (document : Document) (visited parts : List String) (store after : Store) : Prop where
  additions : Extends document visited parts store after
  dependencies : store.dependencies ⊆ after.dependencies
  claimed {raw : Json} {claimed : List String} : Document.ofJson raw = .ok document →
    store.Claimed document claimed → after.Claimed document (parts ++ claimed)

namespace Advances

theorem refl (store : Store) : Advances document visited [] store store :=
  ⟨.of_eq rfl rfl, List.Subset.refl _, fun _ => id⟩

theorem trans (h : Advances document visited first store between)
    (h' : Advances document visited second between after) :
    Advances document visited (first ++ second) store after where
  additions := h.additions.trans h'.additions
  dependencies := List.Subset.trans h.dependencies h'.dependencies
  claimed {raw claimed} hjson hstore := by
    have hperm : (first ++ second ++ claimed).Perm (second ++ (first ++ claimed)) := by
      rw [← List.append_assoc]
      exact List.perm_append_comm.append_right claimed
    exact (h'.claimed hjson (h.claimed hjson hstore)).drop hperm.subperm

theorem perm (h : Advances document visited first store after) (hperm : first.Perm second) :
    Advances document visited second store after where
  additions := h.additions.perm hperm
  dependencies := h.dependencies
  claimed hjson hstore := (h.claimed hjson hstore).drop (hperm.symm.append_right _).subperm

theorem warned (message : String) : Advances document visited [] store (store.warned message) :=
  ⟨.of_eq rfl rfl, List.Subset.refl _, fun _ => storeRelation_staysClaimed.warnings visited store _ _⟩

/-- A name claimed for a part. -/
theorem claim (base : String) (store : Store) :
    Advances document visited [(store.claim base).1] store (store.claim base).2 :=
  ⟨.claim base store, List.Subset.refl _, fun _ hstore => hstore.claim base⟩

/-- The dependencies of a step, once they are collected, come to those before it. -/
theorem collected (h : Advances document visited parts { store with dependencies := [] } inner) :
    Advances document visited parts store
      { inner with dependencies := inner.dependencies.foldl addName store.dependencies } where
  additions := h.additions.congr ⟨rfl, rfl⟩ ⟨rfl, rfl⟩
  dependencies _ hname := mem_foldl_addName.mpr (Or.inl hname)
  claimed hjson hstore := storeRelation_staysClaimed.dependencies visited inner _ _
    (h.claimed hjson (storeRelation_staysClaimed.dependencies visited store [] _ hstore))

end Advances

end Store

/-! ## Steps that spell texts -/

/-- Every run of the step that succeeds claims names for some parts; and the postcondition holds of these names
and of what is given, with the dependencies afterwards and with any that include them. -/
def LowerM.Spells (document : Document) (options : Options) (visited : List String) (step : LowerM α)
    (post : List String → List String → α → Prop) : Prop :=
  ∀ path depth {store after : Store} {value : α},
    step.runWith (.within document options path visited depth) store = (.ok value, after) →
      ∃ parts, Store.Advances document visited parts store after ∧
        ∀ dependencies, after.dependencies ⊆ dependencies → post dependencies parts value

namespace LowerM.Spells

variable {step : LowerM α} {post weaker : List String → List String → α → Prop}
  {result : List String → List String → β → Prop}

theorem pure {value : α} (h : ∀ dependencies, post dependencies [] value) :
    Spells document options visited (Pure.pure value) post := by
  intro path depth store after given hrun
  cases hrun
  exact ⟨[], .refl _, fun dependencies _ => h dependencies⟩

theorem refuse (error : Scope → LoweringError) :
    Spells document options visited (LowerM.scope >>= fun scope => (throw (error scope) : LowerM α))
      post := by
  intro path depth store after given hrun
  cases hrun

theorem warn (message : String) :
    Spells document options visited (LowerM.warn message) fun _ parts _ => parts = [] := by
  intro path depth store after given hrun
  cases hrun
  exact ⟨[], .warned message, fun _ _ => rfl⟩

theorem degenerate (policy : DegeneratePolicy) (reason : String) :
    Spells document options visited (LowerM.degenerate policy reason) fun _ parts _ => parts = [] := by
  cases policy with
  | error => exact refuse fun scope => .degenerate scope.pathText reason
  | never => exact warn _

theorem mono (h : Spells document options visited step post)
    (himp : ∀ dependencies parts value, post dependencies parts value →
      weaker dependencies parts value) : Spells document options visited step weaker := by
  intro path depth store after value hrun
  obtain ⟨parts, hadvances, hpost⟩ := h path depth hrun
  exact ⟨parts, hadvances, fun dependencies hsubset => himp _ _ _ (hpost _ hsubset)⟩

/-- What is known of what the step gives may be added. -/
theorem ensuring {known : α → Prop} (h : Spells document options visited step post)
    (hknown : step.Ensures (Over document options) known) :
    Spells document options visited step fun dependencies parts value =>
      post dependencies parts value ∧ known value := by
  intro path depth store after value hrun
  obtain ⟨parts, hadvances, hpost⟩ := h path depth hrun
  have hvalue := (hknown (.within document options path visited depth) store ⟨rfl, rfl⟩).2 value
    (congrArg Prod.fst hrun)
  exact ⟨parts, hadvances, fun dependencies hsubset => ⟨hpost _ hsubset, hvalue⟩⟩

/-- A step and the next one: the names that the two claim for parts follow one another. -/
theorem bind {next : α → LowerM β} (h : Spells document options visited step post)
    (hnext : ∀ value, Spells document options visited (next value)
      fun dependencies parts given => ∀ before, post dependencies before value →
        result dependencies (before ++ parts) given) :
    Spells document options visited (step >>= next) result := by
  intro path depth store after given hrun
  obtain ⟨value, between, hstep, hrest⟩ := runWith_bind_eq_ok.mp hrun
  obtain ⟨before, hadvances, hpost⟩ := h path depth hstep
  obtain ⟨parts, hadvances', hpost'⟩ := hnext value path depth hrest
  refine ⟨before ++ parts, hadvances.trans hadvances', fun dependencies hsubset => ?_⟩
  exact hpost' _ hsubset before (hpost _ (List.Subset.trans hadvances'.dependencies hsubset))

/-- A step that claims nothing for parts, and the next one. -/
theorem bindNone {next : α → LowerM β}
    (h : Spells document options visited step fun _ parts _ => parts = [])
    (hnext : ∀ value, Spells document options visited (next value) result) :
    Spells document options visited (step >>= next) result := by
  refine h.bind fun value => (hnext value).mono ?_
  rintro dependencies parts given hgiven _ rfl
  exact hgiven

theorem map {f : α → β} (h : Spells document options visited step fun dependencies parts value =>
      result dependencies parts (f value)) :
    Spells document options visited (f <$> step) result := by
  rw [← bind_pure_comp]
  exact h.bind fun value => pure fun dependencies before hvalue => by simpa using hvalue

theorem readOptions {next : Options → LowerM α}
    (h : Spells document options visited (next options) post) :
    Spells document options visited (LowerM.options >>= next) post :=
  fun path depth _ _ _ hrun => h path depth hrun

theorem readDocument {next : Document → LowerM α}
    (h : Spells document options visited (next document) post) :
    Spells document options visited (LowerM.document >>= next) post :=
  fun path depth _ _ _ hrun => h path depth hrun

theorem withSegment (segment : String) (h : Spells document options visited step post) :
    Spells document options visited (LowerM.withSegment segment step) post :=
  fun path depth _ _ _ hrun => h (path ++ [segment]) depth hrun

theorem descend (segment : String) (h : Spells document options visited step post) :
    Spells document options visited (LowerM.descend segment step) post := by
  intro path depth store after value hrun
  obtain ⟨-, hstep⟩ := runWith_descend_eq_ok.mp hrun
  exact h (path ++ [segment]) (depth + 1) hstep

/-- What all forms of a member spell is spelled by the member, which is lowered one level down. -/
theorem lowerMember {union : String} {discriminator : Option ResolvedDiscriminator} {index : Nat}
    {member : Schema} {post : List String → List String → UnionMember × List Declaration → Prop}
    (h : ∀ step, MemberForm options union discriminator index member step →
      Spells document options visited step post) :
    Spells document options visited (lowerMember union discriminator index member) post := by
  apply descend
  cases discriminator with
  | some found => exact h _ (form_discriminatedMember options union found index member)
  | none =>
    obtain ⟨step, hform, hsame⟩ := form_plainMember options union index member
    intro path depth store after value hrun
    rw [hsame _ rfl] at hrun
    exact h step hform path depth hrun

/-- What is spelled with the dependencies of a step alone is spelled with the collected ones. -/
theorem collectDependencies (h : Spells document options visited step post) :
    Spells document options visited (LowerM.collectDependencies step) fun dependencies parts collected =>
      collected.2 ⊆ dependencies ∧ post collected.2 parts collected.1 := by
  rintro path depth store after ⟨value, collected⟩ hrun
  obtain ⟨inner, hstep, rfl, rfl⟩ := runWith_scopedDependencies_eq_ok.mp hrun
  obtain ⟨parts, hadvances, hpost⟩ := h path depth hstep
  refine ⟨parts, hadvances.collected, fun dependencies hsubset => ⟨?_, hpost _ (List.Subset.refl _)⟩⟩
  exact fun name hname => hsubset (mem_foldl_addName.mpr (Or.inr hname))

/-- A name that is claimed for a part is its own type name. -/
theorem claimThen {base : String} (hbase : base.toList.all Text.isAscii = true) {next : String → LowerM β}
    (h : ∀ name, Name.pascal name = name → Spells document options visited (next name)
      fun dependencies parts given => result dependencies (name :: parts) given) :
    Spells document options visited (LowerM.claimName base >>= next) result := by
  intro path depth store after given hrun
  obtain ⟨name, between, hclaim, hrest⟩ := runWith_bind_eq_ok.mp hrun
  rw [runWith_claimName] at hclaim
  cases hclaim
  obtain ⟨parts, hadvances, hpost⟩ := h _ (Name.pascal_fresh hbase store.usedNames) path depth hrest
  exact ⟨_ :: parts, (Store.Advances.claim base store).trans hadvances, hpost⟩

theorem mapM {names : α → List String} {post : List String → α → Prop} {f : β → LowerM α}
    {items : List β} (h : ∀ item ∈ items, Spells document options visited (f item)
      fun dependencies parts value => parts = names value ∧ post dependencies value) :
    Spells document options visited (items.mapM f) fun dependencies parts values =>
      parts = values.flatMap names ∧ ∀ value ∈ values, post dependencies value := by
  induction items with
  | nil => exact pure fun dependencies => ⟨rfl, by simp⟩
  | cons item rest ih =>
    rw [List.mapM_cons]
    refine (h item List.mem_cons_self).bind fun first => ?_
    refine (ih fun other hother => h other (List.mem_cons_of_mem _ hother)).bind fun others => ?_
    refine pure ?_
    rintro dependencies _ ⟨rfl, hothers⟩ _ ⟨rfl, hfirst⟩
    exact ⟨by simp, List.forall_mem_cons.mpr ⟨hfirst, hothers⟩⟩

end LowerM.Spells

/-! ## What has no parts -/

namespace Lowering

/-- The name is that of something depended on, or of a part. -/
def Known (dependencies parts : List String) (name : String) : Prop :=
  name ∈ dependencies ∨ name ∈ parts

end Lowering

namespace Spells

open LowerM.Spells

/-- A step that asks to follow references and claims nothing for parts. -/
theorem partless {step : LowerM α} {post : List String → α → Prop} {demands : Nat → List Demand}
    (hextending : ∀ depth, Extending document options visited depth step (demands depth))
    (hgathering : ∀ depth, Gathering document options visited depth step (demands depth))
    (hstays : ∀ {raw : Json}, Document.ofJson raw = .ok document → ∀ depth, Relates document options
      (fun _ _ => True) (Store.StaysClaimed document) visited depth step (demands depth))
    (hpost : ∀ path depth {store after : Store} {value : α},
      step.runWith (.within document options path visited depth) store = (.ok value, after) →
        ∀ dependencies, after.dependencies ⊆ dependencies → post dependencies value) :
    step.Spells document options visited fun dependencies parts value =>
      parts = [] ∧ post dependencies value := by
  intro path depth store after value hrun
  refine ⟨[], ⟨hextending depth path hrun, fun name hname => ?_, fun {_ claimed} hjson hstore => ?_⟩,
    fun dependencies hsubset => ⟨rfl, hpost path depth hrun dependencies hsubset⟩⟩
  · exact ((hgathering depth path hrun).mem_dependencies name).mpr (Or.inl hname)
  · have hafter := hstays hjson depth (fun _ _ => trivial) path store claimed hstore
    rwa [hrun] at hafter

theorem resolveReference (reference : String) :
    (resolveReference reference).Spells document options visited fun dependencies parts resolution =>
      parts = [] ∧ resolution.name ∈ dependencies := by
  refine partless (fun _ => Extending.resolveReference reference)
    (fun _ path _ _ _ hrun => (gathers_resolveReference hrun).2)
    (fun h depth => staysClaimed_resolveReference h options visited depth reference) ?_
  intro path depth store after resolution hrun dependencies hsubset
  obtain ⟨hname, hgathers⟩ := gathers_resolveReference hrun
  refine hsubset ((hgathers.mem_dependencies _).mpr (Or.inr ⟨reference, ?_, hname.symm⟩))
  exact List.mem_singleton_self _

theorem referenceName (reference : String) :
    (referenceName reference).Spells document options visited fun dependencies parts name =>
      parts = [] ∧ name ∈ dependencies :=
  .map (resolveReference reference)

theorem typeExpression (schema : Schema) :
    (typeExpression schema).Spells document options visited fun dependencies parts text =>
      parts = [] ∧ WrittenOver (· ∈ dependencies) text := by
  refine partless (fun _ => Extending.typeExpression schema)
    (fun _ => Gathering.rules.typeExpression schema)
    (fun h _ => (rules_staysClaimed h options).typeExpression schema) ?_
  intro path depth store after text hrun dependencies hsubset
  exact (written_typeExpression hrun).mono fun _ hname => hsubset hname

theorem indexValue (propertyless : Bool) (additional : Additional Schema) :
    (indexValue Lowering.referenceName propertyless additional).Spells document options visited
      fun dependencies parts index =>
        parts = [] ∧ ∀ value ∈ index, WrittenOver (· ∈ dependencies) value := by
  refine partless
    (fun _ => Extending.inlineRules.indexValue fun schema _ => Extending.typeExpression schema)
    (fun _ => Gathering.rules.indexValue fun schema _ => Gathering.rules.typeExpression schema)
    (fun h _ => (rules_staysClaimed h options).indexValue fun schema _ =>
      (rules_staysClaimed h options).typeExpression schema) ?_
  intro path depth store after index hrun dependencies hsubset value hvalue
  exact (written_indexValue hrun value hvalue).mono fun _ hname => hsubset hname

theorem describe (schema : Schema) :
    (describe schema).Spells document options visited fun dependencies parts descriptor =>
      parts = [] ∧ WrittenOver (· ∈ dependencies) descriptor.typeName :=
  (typeExpression schema).bind fun _ => .pure fun _ before hwritten =>
    (List.append_nil before).symm ▸ hwritten

/-! ## Objects, aliases and enumerations -/

theorem lowerShape (shape : ObjectShape Schema) :
    (lowerShape shape).Spells document options visited fun _ parts _ => parts = [] := by
  have hproperty : ∀ property ∈ shape.properties,
      (lowerProperty shape property.1 property.2).Spells document options visited
        fun _ parts _ => parts = [] ∧ True := by
    intro property _
    refine (withSegment property.1 (describe property.2)).bind fun descriptor => readOptions (.pure ?_)
    rintro dependencies _ ⟨rfl, -⟩
    exact ⟨rfl, trivial⟩
  refine (LowerM.Spells.mapM hproperty).bind fun properties => ?_
  refine (indexValue shape.properties.isEmpty shape.additional).bind fun index => .pure ?_
  rintro dependencies _ ⟨rfl, -⟩ _ ⟨rfl, -⟩
  simp

theorem lowerAlias (name : String) (schema : Schema) :
    (lowerAlias name schema).Spells document options visited fun _ parts _ => parts = [] := by
  refine (withSegment _ (collectDependencies (describe schema))).bind fun collected => readOptions ?_
  refine .pure ?_
  rintro dependencies _ ⟨-, rfl, -⟩
  rfl

theorem lowerInterface (name : String) (schema : Schema) :
    (lowerInterface name schema).Spells document options visited fun _ parts _ => parts = [] := by
  refine (withSegment _ (collectDependencies (lowerShape (objectShapeOf schema)))).bind fun collected => ?_
  refine readOptions (.pure ?_)
  rintro dependencies _ ⟨-, rfl, -⟩
  rfl

theorem declareInterface (name : String) (schema : Schema) :
    (declareInterface name schema).Spells document options visited fun _ parts _ => parts = [] :=
  (lowerInterface name schema).bindNone fun _ => readOptions (.pure fun _ => rfl)

theorem chooseStrategy (name : String) (values : List EnumValue) :
    (chooseStrategy name values).Spells document options visited fun _ parts _ => parts = [] := by
  refine readOptions ?_
  dsimp only
  split
  · exact (LowerM.Spells.warn _).bindNone fun _ => .pure fun _ => rfl
  · exact .pure fun _ => rfl

theorem lowerEnum (name : String) (schema : Schema) :
    (lowerEnum name schema).Spells document options visited fun _ parts _ => parts = [] := by
  refine withSegment _ (readOptions ?_)
  dsimp only
  split
  · exact (LowerM.Spells.degenerate _ _).bindNone fun _ => .pure fun _ => rfl
  · exact (Spells.chooseStrategy _ _).bindNone fun _ => readOptions (.pure fun _ => rfl)

end Spells

end SchemaTypings
