import Mathlib.Data.List.Forall2
import SchemaTypings.Proofs.Lowering.Upholds

/-!
# What steps ensure

A step ensures a postcondition under an invariant if every run of it that starts under the invariant ends
under it, and gives what the postcondition says if it succeeds. The postcondition is about what is given,
the invariant about the store and about where the step is run; most invariants do not depend on the way
and the level (`Placeless`), and tell the options (`Tells`). A step that asks for the options may be taken to be
run with given ones (`Asking`).

What an operation ensures is then a question of what it can do: an enumeration is declared as the bottom type or
by a strategy (`Ensures.lowerEnum`), and a member of a union is lowered in one of four forms (`MemberForm`).
-/

namespace SchemaTypings

open LowerM Lowering

/-- The invariant is about neither the way, nor the level of composition, nor warnings. -/
structure Placeless (inv : Setting → Store → Prop) : Prop where
  push (setting : Setting) (segment : String) (depth : Nat) {store : Store} : inv setting store ↔
    inv { setting with scope := { setting.scope.push segment with depth } } store
  warned {setting : Setting} {store : Store} (message : String) :
    inv setting store → inv setting (store.warned message)

/-- Every run of the step keeps the invariant, and what it gives if it succeeds has the property. -/
def LowerM.Ensures {α : Type} (inv : Setting → Store → Prop) (step : LowerM α) (post : α → Prop) :
    Prop :=
  ∀ setting store, inv setting store → inv setting (step.runWith setting store).2 ∧
    ∀ value, (step.runWith setting store).1 = .ok value → post value

namespace LowerM.Ensures

variable {inv : Setting → Store → Prop} {α β : Type} {step : LowerM α} {post weaker : α → Prop}
  {result : β → Prop}

theorem pure {value : α} (h : post value) : Ensures inv (Pure.pure value) post := by
  intro setting store hinv
  refine ⟨hinv, ?_⟩
  rintro _ ⟨⟩
  exact h

theorem throw (error : LoweringError) :
    Ensures inv (MonadExcept.throw error : LowerM α) post := by
  intro setting store hinv
  refine ⟨hinv, ?_⟩
  rintro _ ⟨⟩

theorem mono (h : Ensures inv step post) (himp : ∀ value, post value → weaker value) :
    Ensures inv step weaker := by
  intro setting store hinv
  obtain ⟨hafter, hpost⟩ := h setting store hinv
  exact ⟨hafter, fun value hvalue => himp value (hpost value hvalue)⟩

theorem bind {next : α → LowerM β} (h : Ensures inv step post)
    (hnext : ∀ value, post value → Ensures inv (next value) result) :
    Ensures inv (step >>= next) result := by
  intro setting store hinv
  obtain ⟨hbetween, hpost⟩ := h setting store hinv
  rw [runWith_bind]
  rcases hrun : step.runWith setting store with ⟨error | value, between⟩ <;>
    rw [hrun] at hbetween hpost
  · refine ⟨hbetween, ?_⟩
    rintro _ ⟨⟩
  · exact hnext value (hpost value rfl) setting between hbetween

theorem map {f : α → β} (h : Ensures inv step fun value => result (f value)) :
    Ensures inv (f <$> step) result := by
  rw [← bind_pure_comp]
  apply bind h
  intro value hvalue
  exact pure hvalue

theorem mapM_forall₂ {R : β → α → Prop} {f : β → LowerM α} {items : List β}
    (h : ∀ item ∈ items, Ensures inv (f item) (R item)) :
    Ensures inv (items.mapM f) (List.Forall₂ R items) := by
  induction items with
  | nil => exact pure .nil
  | cons item rest ih =>
    have hrest := ih fun other hother => h other (List.mem_cons_of_mem _ hother)
    rw [List.mapM_cons]
    apply bind (h item List.mem_cons_self)
    intro first hfirst
    apply bind hrest
    intro others hothers
    exact pure (.cons hfirst hothers)

theorem mapM {f : β → LowerM α} {items : List β} (h : ∀ item ∈ items, Ensures inv (f item) post) :
    Ensures inv (items.mapM f) fun results => ∀ value ∈ results, post value :=
  (mapM_forall₂ h).mono fun _ hresults =>
    ((List.forall₂_and_left _ _).mp (hresults.flip.imp fun _ _ hpost => ⟨hpost, trivial⟩)).1

/-! ## Reading -/

theorem readDocument {next : Document → LowerM α} (h : ∀ document, Ensures inv (next document) post) :
    Ensures inv (LowerM.document >>= next) post :=
  fun setting store hinv => h setting.document setting store hinv

/-- The document that is read is the one over which the step is run. -/
theorem readGiven {next : Document → LowerM α}
    (h : ∀ setting store, inv setting store → Ensures inv (next setting.document) post) :
    Ensures inv (LowerM.document >>= next) post :=
  fun setting store hinv => h setting store hinv setting store hinv

theorem readOptions {next : Options → LowerM α} (h : ∀ options, Ensures inv (next options) post) :
    Ensures inv (LowerM.options >>= next) post :=
  fun setting store hinv => h setting.options setting store hinv

theorem readScope {next : Scope → LowerM α} (h : ∀ scope, Ensures inv (next scope) post) :
    Ensures inv (LowerM.scope >>= next) post :=
  fun setting store hinv => h setting.scope setting store hinv

/-! ## Dependencies -/

/-- The invariant holds where no dependencies are collected yet, and where those of a step come to those
before it; and it says something about the dependencies. -/
theorem collecting {D : List String → Prop}
    (hfresh : ∀ setting store, inv setting store → inv setting { store with dependencies := [] })
    (hmerged : ∀ setting store after, inv setting store → inv setting after →
      inv setting { after with dependencies := after.dependencies.foldl addName store.dependencies })
    (hdepends : ∀ setting store, inv setting store → D store.dependencies)
    (h : Ensures inv step post) :
    Ensures inv (LowerM.collectDependencies step) fun collected =>
      post collected.1 ∧ D collected.2 := by
  intro setting store hinv
  obtain ⟨hafter, hpost⟩ := h setting _ (hfresh setting store hinv)
  rw [LowerM.collectDependencies, runWith_scopedDependencies]
  rcases hrun : step.runWith setting { store with dependencies := [] } with ⟨_ | value, after⟩ <;>
    rw [hrun] at hafter hpost
  · exact ⟨hmerged setting store after hinv hafter, nofun⟩
  · refine ⟨hmerged setting store after hinv hafter, ?_⟩
    rintro _ ⟨⟩
    exact ⟨hpost value rfl, hdepends setting after hafter⟩

/-- The invariant is not about the dependencies that are being collected. -/
theorem collectDependencies (hfree : ∀ setting store dependencies, inv setting store →
      inv setting { store with dependencies }) (h : Ensures inv step post) :
    Ensures inv (LowerM.collectDependencies step) fun collected => post collected.1 :=
  (collecting (D := fun _ => True) (fun setting store => hfree setting store [])
    (fun setting _ after _ => hfree setting after _) (fun _ _ _ => trivial) h).mono fun _ => And.left

/-! ## Where steps are run -/

variable (hplaceless : Placeless inv)

include hplaceless

theorem withSegment (segment : String) (h : Ensures inv step post) :
    Ensures inv (LowerM.withSegment segment step) post := by
  intro setting store hinv
  have hpushed := (hplaceless.push setting segment setting.scope.depth).mp hinv
  obtain ⟨hafter, hpost⟩ := h _ store hpushed
  exact ⟨(hplaceless.push setting segment setting.scope.depth).mpr hafter, hpost⟩

theorem descend (segment : String) (h : Ensures inv step post) :
    Ensures inv (LowerM.descend segment step) post := by
  intro setting store hinv
  rw [runWith_descend]
  split
  · refine ⟨hinv, ?_⟩
    rintro _ ⟨⟩
  · have hpushed := (hplaceless.push setting segment (setting.scope.depth + 1)).mp hinv
    obtain ⟨hafter, hpost⟩ := h _ store hpushed
    exact ⟨(hplaceless.push setting segment (setting.scope.depth + 1)).mpr hafter, hpost⟩

theorem warn (message : String) : Ensures inv (LowerM.warn message) fun _ => True :=
  fun _ _ hinv => ⟨hplaceless.warned message hinv, fun _ _ => trivial⟩

theorem degenerate (policy : DegeneratePolicy) (reason : String) :
    Ensures inv (LowerM.degenerate policy reason) fun _ => True := by
  cases policy with
  | error => exact readScope fun scope => throw _
  | never => exact warn hplaceless _

end LowerM.Ensures

/-- The invariant is about neither the way nor the level, and tells the options. -/
structure Tells (options : Options) (inv : Setting → Store → Prop) : Prop extends Placeless inv where
  asked {setting : Setting} {store : Store} : inv setting store → setting.options = options

theorem Tells.readOptions {options : Options} {inv : Setting → Store → Prop} (htells : Tells options inv)
    {α : Type} {next : Options → LowerM α} {post : α → Prop} (h : (next options).Ensures inv post) :
    (LowerM.options >>= next).Ensures inv post := by
  intro setting store hinv
  obtain rfl := htells.asked hinv
  exact h setting store hinv

/-- The options are asked besides. -/
def Asking (options : Options) (inv : Setting → Store → Prop) (setting : Setting) (store : Store) : Prop :=
  inv setting store ∧ setting.options = options

theorem Placeless.asking {inv : Setting → Store → Prop} (hplaceless : Placeless inv) (options : Options) :
    Tells options (Asking options inv) where
  push setting segment depth _ := and_congr_left fun _ => hplaceless.push setting segment depth
  warned message hinv := ⟨hplaceless.warned message hinv.1, hinv.2⟩
  asked := And.right

namespace LowerM.Ensures

variable {inv : Setting → Store → Prop} {α : Type} {step : LowerM α} {post : α → Prop}

theorem asking (h : step.Ensures inv post) (options : Options) : step.Ensures (Asking options inv) post := by
  intro setting store hinv
  obtain ⟨hafter, hpost⟩ := h setting store hinv.1
  exact ⟨⟨hafter, hinv.2⟩, hpost⟩

/-- The options that are asked are those with which the step is run. -/
theorem of_asking (h : ∀ setting store, inv setting store →
    step.Ensures (Asking setting.options inv) post) : step.Ensures inv post := by
  intro setting store hinv
  obtain ⟨hafter, hpost⟩ := h setting store hinv setting store ⟨hinv, rfl⟩
  exact ⟨hafter.1, hpost⟩

end LowerM.Ensures

/-! ## Enumerations -/

/-- The enumeration that is declared by a strategy. -/
def Typing.EnumText.lowered (text : EnumText) (options : EnumOptions) (strategy : EnumStrategy)
    (info : SchemaInfo) : LoweredEnum where
  name := text.name
  values := text.values
  declaration := (text.declarations strategy info).1
  companions := (text.declarations strategy info).2
  helpers := text.helpers options strategy info.default?
  mappings := if options.generateMapping then text.mappings else []

namespace LowerM.Ensures

variable {inv : Setting → Store → Prop}

theorem chooseStrategy (hplaceless : Placeless inv) (name : String) (values : List Typing.EnumValue) :
    (chooseStrategy name values).Ensures inv fun _ => True := by
  apply readOptions
  intro options
  dsimp only
  split
  · exact (warn hplaceless _).bind fun _ _ => pure trivial
  · exact pure trivial

/-- What holds of an enumeration without values, and of one that is declared by whatever strategy. -/
theorem lowerEnum (hplaceless : Placeless inv) (name : String) {schema : Schema} {post : LoweredEnum → Prop}
    (hempty : ∀ setting store, inv setting store → post
      { name := Name.pascal name
        values := []
        declaration := bottomAlias setting.options (Name.pascal name) })
    (hvalues : ∀ setting store, inv setting store → ∀ strategy, post
      (Typing.EnumText.lowered ⟨Name.pascal name, Typing.EnumValue.all setting.options.enums (enumShapeOf schema),
        setting.options.exportWord, setting.options.generateComments⟩ setting.options.enums strategy schema.info)) :
    (lowerEnum name schema).Ensures inv post := by
  refine of_asking fun setting store hinv => ?_
  have htells := hplaceless.asking setting.options
  refine withSegment htells.toPlaceless _ (htells.readOptions ?_)
  dsimp only
  split
  · exact (degenerate htells.toPlaceless _ _).bind fun _ _ => pure (hempty setting store hinv)
  · refine (chooseStrategy htells.toPlaceless _ _).bind fun strategy _ => htells.readOptions (pure ?_)
    exact hvalues setting store hinv strategy

end LowerM.Ensures

/-! ## Members of unions -/

namespace Lowering

/-- The value that a discriminator gives the member at a position. -/
def memberValue (discriminator : Option ResolvedDiscriminator) (index : Nat) : Option Json :=
  discriminator.bind fun found => (found.values[index]?).join

/-- A member that is declared on its own, under a fresh name. -/
def declaredMember (base : String) (value : Option Json) (member : Schema)
    (declare : String → LowerM (List Typing.Declaration)) :
    LowerM (UnionMember × List Typing.Declaration) := do
  let name ← LowerM.claimName base
  let declarations ← declare name
  return (⟨name, value, member, false, name⟩, declarations)

variable {union : String} {discriminator : Option ResolvedDiscriminator} {index : Nat}

/-- The forms of the steps that lower the member of a union at a position: a reference, a type that stands
inline, an interface, in which a discriminator is pinned, or an alias. -/
inductive MemberForm (options : Options) (union : String) (discriminator : Option ResolvedDiscriminator)
    (index : Nat) : Schema → LowerM (UnionMember × List Typing.Declaration) → Prop
  | reference (target : String) (info : SchemaInfo) :
    MemberForm options union discriminator index ⟨.ref target, info⟩
      (referenceMember target (memberValue discriminator index) ⟨.ref target, info⟩)
  | inline {member : Schema} (hreference : ∀ target, member.kind ≠ .ref target)
    (hinline : discriminator = none ∧ isInline options member = true ∨ member.isObject = false) :
    MemberForm options union discriminator index member
      (inlineMember (memberName union index) (memberValue discriminator index) member)
  | interface (shape : ObjectShape Schema) (info : SchemaInfo)
    (hdeclared : discriminator = none → isInline options ⟨.object shape, info⟩ = false) :
    MemberForm options union discriminator index ⟨.object shape, info⟩
      (declaredMember (valueMemberName union index (memberValue discriminator index))
        (memberValue discriminator index) ⟨.object shape, info⟩
        fun name => declareInterface name (pinnedMember discriminator (⟨.object shape, info⟩, index)))
  | typeAlias {member : Schema} (hdiscriminator : discriminator = none)
    (hreference : ∀ target, member.kind ≠ .ref target) (hobject : member.isObject = false) :
    MemberForm options union discriminator index member
      (declaredMember (memberName union index) none member
        fun name => (fun declaration => [declaration]) <$> lowerAlias name member)

theorem form_discriminatedMember (options : Options) (union : String) (found : ResolvedDiscriminator)
    (index : Nat) (member : Schema) : MemberForm options union (some found) index member
      (discriminatedMember union found.property index (memberValue (some found) index) member) := by
  obtain ⟨kind, info⟩ := member
  cases kind with
  | ref target => exact .reference target info
  | object shape => exact .interface shape info nofun
  | _ => exact .inline nofun (Or.inr rfl)

theorem runWith_plainMember (setting : Setting) (union : String) (index : Nat) {member : Schema}
    (hreference : ∀ target, member.kind ≠ .ref target) :
    (plainMember union index member).runWith setting =
      (if isInline setting.options member then inlineMember (memberName union index) none member
      else declaredMember (memberName union index) none member fun name =>
        if member.isObject then declareInterface name member
        else (fun declaration => [declaration]) <$> lowerAlias name member).runWith setting := by
  obtain ⟨kind, info⟩ := member
  cases kind with
  | ref target => exact absurd rfl (hreference target)
  | _ => rfl

/-- Without a discriminator, the form of a member depends on the options that are read. -/
theorem form_plainMember (options : Options) (union : String) (index : Nat) (member : Schema) :
    ∃ step, MemberForm options union none index member step ∧ ∀ setting : Setting,
      setting.options = options → (plainMember union index member).runWith setting =
        step.runWith setting := by
  have hother (hreference : ∀ target, member.kind ≠ .ref target) : ∃ step,
      MemberForm options union none index member step ∧ ∀ setting : Setting,
        setting.options = options → (plainMember union index member).runWith setting =
          step.runWith setting := by
    cases hinline : isInline options member with
    | true =>
      refine ⟨_, .inline hreference (Or.inl ⟨rfl, hinline⟩), ?_⟩
      rintro setting rfl
      rw [runWith_plainMember setting union index hreference, if_pos hinline]
      rfl
    | false =>
      obtain ⟨kind, info⟩ := member
      cases kind with
      | object shape =>
        refine ⟨_, .interface shape info fun _ => hinline, ?_⟩
        rintro setting rfl
        rw [runWith_plainMember setting union index hreference, hinline]
        rfl
      | _ =>
        refine ⟨_, .typeAlias rfl hreference rfl, ?_⟩
        rintro setting rfl
        rw [runWith_plainMember setting union index hreference, hinline]
        rfl
  obtain ⟨kind, info⟩ := member
  cases kind with
  | ref target => exact ⟨_, .reference target info, fun _ _ => rfl⟩
  | _ => exact hother nofun

end Lowering

namespace LowerM.Ensures

variable {inv : Setting → Store → Prop} {union : String} {discriminator : Option ResolvedDiscriminator}
  {index : Nat} {members : List Schema}

/-- What all forms of a member ensure is ensured of the member, which is lowered one level down. -/
theorem lowerMember (hplaceless : Placeless inv) {member : Schema}
    {post : UnionMember × List Typing.Declaration → Prop} (h : ∀ setting store, inv setting store →
      ∀ step, MemberForm setting.options union discriminator index member step → step.Ensures inv post) :
    (lowerMember union discriminator index member).Ensures inv post := by
  refine descend hplaceless _ fun setting store hinv => ?_
  cases discriminator with
  | some found =>
    exact h setting store hinv _ (form_discriminatedMember _ union found index member) setting store hinv
  | none =>
    obtain ⟨step, hform, hrun⟩ := form_plainMember setting.options union index member
    show inv setting ((plainMember union index member).runWith setting store).2 ∧ _
    rw [hrun setting rfl]
    exact h setting store hinv step hform setting store hinv

theorem lowerMembers {post : Schema × Nat → UnionMember × List Typing.Declaration → Prop}
    (h : ∀ item ∈ members.zipIdx,
      (Lowering.lowerMember union discriminator item.2 item.1).Ensures inv (post item)) :
    (lowerMembers union discriminator members).Ensures inv fun lowered => ∃ results,
      List.Forall₂ post members.zipIdx results ∧
        lowered = (results.map (·.1), results.flatMap (·.2)) :=
  (mapM_forall₂ h).bind fun results hresults => pure ⟨results, hresults, rfl⟩

/-- What holds of each member and of each of its declarations. -/
theorem lowerMembers_each {P : UnionMember → Prop} {Q : Typing.Declaration → Prop}
    (h : ∀ item ∈ members.zipIdx, (Lowering.lowerMember union discriminator item.2 item.1).Ensures inv
      fun lowered => P lowered.1 ∧ ∀ declaration ∈ lowered.2, Q declaration) :
    (Lowering.lowerMembers union discriminator members).Ensures inv fun lowered =>
      (∀ member ∈ lowered.1, P member) ∧ ∀ declaration ∈ lowered.2, Q declaration := by
  refine (mapM h).bind fun results hresults => pure ⟨?_, fun declaration hmem => ?_⟩
  · rw [List.forall_mem_map]
    exact fun result hresult => (hresults result hresult).1
  · obtain ⟨result, hresult, hdeclaration⟩ := List.mem_flatMap.mp hmem
    exact (hresults result hresult).2 declaration hdeclaration

theorem lowerUnion (hplaceless : Placeless inv) (name : String) {schema : Schema}
    {post : LoweredUnion → Prop}
    (hempty : unionMembersOf schema = [] → ∀ options,
      post { name := Name.pascal name, declaration := bottomAlias options (Name.pascal name) })
    (hmembers : unionMembersOf schema ≠ [] →
      (lowerUnionMembers (Name.pascal name) schema (unionMembersOf schema)).Ensures inv post) :
    (lowerUnion name schema).Ensures inv post := by
  refine withSegment hplaceless _ ?_
  cases hlist : unionMembersOf schema with
  | nil =>
    exact readOptions fun options => (degenerate hplaceless _ _).bind fun _ _ =>
      pure (hempty hlist options)
  | cons member rest =>
    rw [hlist] at hmembers
    exact hmembers (by simp)

end LowerM.Ensures

end SchemaTypings
