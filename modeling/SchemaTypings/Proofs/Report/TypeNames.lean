import Mathlib.Data.List.Duplicate
import SchemaTypings.Proofs.Lowering.DeclaredParts
import SchemaTypings.Proofs.Lowering.DerivedNames
import SchemaTypings.Proofs.Report.Turns

/-!
# Types of one name

The types that a run over a document declares are aliases of references, parts, main ones of named schemas, and
those derived from them (`Report.Accounts`). The first two kinds have names that were reserved or claimed for
them, so no two of these types have one name, and none has the type name of a named schema. The other two kinds
are declared under names that nobody claims. So where two types of one name differ, one of them is main or
derived (`Document.types_agree`): two named schemas make one name, the name of a schema is not the one that was
reserved for it, or a derived type has the name of another type.
-/

namespace SchemaTypings

open LowerM Lowering Typing

variable {raw : Json} {document : Document} {options : Options} {entry : NamedSchema} {store : Store}
  {claimed : List String}

/-- At its turn, a named schema leaves names claimed, and adds those of its parts if it is lowered. -/
theorem NamedSchema.outcome_introduces (h : Document.ofJson raw = .ok document) (options : Options)
    (hclaimed : store.Claimed document claimed) :
    (store.afterNamed document options entry).Claimed document claimed ∧
      ∀ declarations, entry.outcome document options store = .ok declarations →
        ∃ parts, Typing.Introduces entry.typeName declarations parts (entry.derivedTypes document options) ∧
          (store.afterNamed document options entry).Claimed document (introduced parts ++ claimed) := by
  obtain ⟨hstays, hintroduces⟩ := introduces_declare h options entry [] [entry.pointer] 0 hclaimed
  rw [Store.afterNamed, outcome, runWith_lowerNamed_alone]
  rcases hrun : (Lowering.declare (Name.pascal entry.name) entry.schema).runWith
    (.within document options [] [entry.pointer] 0) store with ⟨error | declarations, after⟩ <;>
      rw [hrun] at hstays hintroduces
  · refine ⟨hstays.recorded, ?_⟩
    rintro _ ⟨⟩
  · refine ⟨hstays.recorded, ?_⟩
    rintro _ ⟨⟩
    obtain ⟨parts, hparts, hafter⟩ := hintroduces declarations rfl
    exact ⟨parts, hparts, hafter.recorded⟩

/-- The name of the type that the named schema of an output is declared as. -/
def TypeOutput.typeName (output : TypeOutput) : String :=
  Name.pascal (Name.pascal output.name)

/-- Two elements of one value make that value a duplicate. -/
theorem duplicate_map {α β : Type} {f : α → β} {first second : α} {values : List α} (hfirst : first ∈ values)
    (hsecond : second ∈ values) (hne : first ≠ second) (h : f first = f second) :
    List.Duplicate (f first) (values.map f) := by
  induction values with
  | nil => cases hfirst
  | cons value rest ih =>
    rcases List.mem_cons.mp hfirst with rfl | hfirst' <;> rcases List.mem_cons.mp hsecond with rfl | hsecond'
    · exact absurd rfl hne
    · exact List.Mem.duplicate_cons_self (h ▸ List.mem_map_of_mem hsecond')
    · rw [h]
      exact List.Mem.duplicate_cons_self (h ▸ List.mem_map_of_mem hfirst')
    · exact (ih hfirst' hsecond').cons_duplicate

namespace Report

/-- The types among the declarations are those of parts, a main one for each output, and those derived from named
schemas. -/
structure Accounts (document : Document) (options : Options) (outputs : List TypeOutput)
    (declarations parts mains : List Declaration) : Prop where
  named : ∀ output ∈ outputs, Name.pascal output.name ∈ Document.typeNames document.named
  names : mains.map (·.name) = outputs.map (·.typeName)
  covers : ∀ declaration ∈ declarations, declaration.kind.isType = true →
    declaration ∈ parts ∨ declaration ∈ mains ∨
      ∃ entry ∈ document.named, declaration ∈ entry.derivedTypes document options

namespace Accounts

variable {outputs : List TypeOutput} {declarations own parts mains : List Declaration}

theorem nil : Accounts document options [] [] [] [] :=
  ⟨by rintro _ ⟨⟩, rfl, by rintro _ ⟨⟩⟩

theorem cons (haccounts : Accounts document options outputs declarations parts mains)
    (hentry : entry ∈ document.named) {lowered : List Declaration}
    (hintroduces : Typing.Introduces entry.typeName lowered own (entry.derivedTypes document options)) :
    ∃ main, Accounts document options
      (⟨entry.name, entry.pointer, Operation.select entry.schema, lowered⟩ :: outputs)
      (lowered ++ declarations) (types own ++ parts) (main :: mains) := by
  obtain ⟨main, hmain, htypes⟩ := hintroduces
  refine ⟨main, ?_, ?_, ?_⟩
  · intro output houtput
    rcases List.mem_cons.mp houtput with rfl | houtput
    · exact List.mem_map_of_mem hentry
    · exact haccounts.named output houtput
  · rw [List.map_cons, haccounts.names, hmain]
    rfl
  · intro declaration hmem htype
    rcases List.mem_append.mp hmem with hmem | hmem
    · have htyped : declaration ∈ types lowered := List.mem_filter.mpr ⟨hmem, htype⟩
      rw [htypes, List.mem_append, List.mem_cons] at htyped
      rcases htyped with hown | rfl | hderived
      · exact Or.inl (List.mem_append_left _ hown)
      · exact Or.inr (Or.inl List.mem_cons_self)
      · exact Or.inr (Or.inr ⟨entry, hentry, hderived⟩)
    · rcases haccounts.covers declaration hmem htype with hpart | hmain | hderived
      · exact Or.inl (List.mem_append_right _ hpart)
      · exact Or.inr (Or.inl (List.mem_cons_of_mem _ hmain))
      · exact Or.inr (Or.inr hderived)

/-- Two main types of one name belong to two outputs. -/
theorem duplicate (haccounts : Accounts document options outputs declarations parts mains)
    {first second : Declaration} (hfirst : first ∈ mains) (hsecond : second ∈ mains) (hne : first ≠ second)
    (hname : first.name = second.name) : List.Duplicate first.name (outputs.map (·.typeName)) :=
  haccounts.names ▸ duplicate_map hfirst hsecond hne hname

/-- A main type whose name was not reserved has a name that is not settled. -/
theorem unsettled (haccounts : Accounts document options outputs declarations parts mains)
    {main : Declaration} (hmain : main ∈ mains) (hfree : main.name ∉ Document.typeNames document.named) :
    ∃ output ∈ outputs, output.typeName = main.name ∧ Name.isSettled (Name.pascal output.name) = false := by
  have hmem : main.name ∈ outputs.map (·.typeName) := haccounts.names ▸ List.mem_map_of_mem hmain
  obtain ⟨output, houtput, htypeName⟩ := List.mem_map.mp hmem
  refine ⟨output, houtput, htypeName, ?_⟩
  rw [← Bool.not_eq_true, ← Name.pascal_pascal_eq_iff]
  intro hsettled
  have hreserved := haccounts.named output houtput
  rw [← hsettled] at hreserved
  exact hfree (htypeName ▸ hreserved)

end Accounts

/-- The outputs of a run are accounted for, with parts whose names were claimed. -/
theorem exists_accounts (h : Document.ofJson raw = .ok document) (options : Options) {entries : List NamedSchema}
    (hentries : entries ⊆ document.named) (hclaimed : store.Claimed document claimed) :
    ∃ parts mains, Accounts document options
        ((outcomesFrom document options store entries).filterMap output?)
        (((outcomesFrom document options store entries).filterMap output?).flatMap (·.declarations)) parts mains ∧
      (entries.foldl (Store.afterNamed document options) store).Claimed document
        (parts.map (·.name) ++ claimed) := by
  induction entries generalizing store claimed with
  | nil => exact ⟨[], [], .nil, hclaimed⟩
  | cons entry rest ih =>
    have hentry : entry ∈ document.named := hentries List.mem_cons_self
    have hrest : rest ⊆ document.named := fun other hother => hentries (List.mem_cons_of_mem _ hother)
    obtain ⟨hafter, hlowered⟩ := entry.outcome_introduces h options hclaimed
    rw [outcomesFrom, List.foldl_cons]
    cases houtcome : entry.outcome document options store with
    | error error => exact ih hrest hafter
    | ok declarations =>
      obtain ⟨own, hintroduces, howned⟩ := hlowered declarations houtcome
      obtain ⟨parts, mains, haccounts, hend⟩ := ih hrest howned
      obtain ⟨main, haccounts⟩ := haccounts.cons hentry hintroduces
      refine ⟨types own ++ parts, main :: mains, haccounts, hend.drop ?_⟩
      apply List.Perm.subperm
      rw [List.perm_iff_count]
      intro name
      simp only [introduced, List.map_append, List.count_append]
      omega

theorem lowerNext_store (entries : List NamedSchema) (report : Report) (store : Store) :
    (entries.foldl (lowerNext document options) (report, store)).2 =
      entries.foldl (Store.afterNamed document options) store := by
  induction entries generalizing report store with
  | nil => rfl
  | cons entry rest ih => exact ih _ _

/-- The aliases of a run are those that its store ends with. -/
theorem memo_lowerSequentially (document : Document) (options : Options) :
    (lowerSequentially document options).memo = (Store.afterAll document options document.named).memo :=
  congrArg Store.memo (lowerNext_store document.named {} (.fresh document))

/-- The report of a run is accounted for. The aliases and the parts have names that differ from one another, and
from the type names of named schemas. -/
theorem accounts_lowerSequentially (h : Document.ofJson raw = .ok document) (options : Options) :
    ∃ others mains, Accounts document options (lowerSequentially document options).outputs
        (lowerSequentially document options).declarations others mains ∧
      (others.map (·.name)).Nodup ∧ ∀ other ∈ others, other.name ∉ Document.typeNames document.named := by
  obtain ⟨parts, mains, haccounts, hclaimed⟩ := exists_accounts h options
    (List.Subset.refl document.named) Store.claimed_fresh
  rw [← (lowerSequentially_eq document options).1] at haccounts
  rw [List.append_nil] at hclaimed
  refine ⟨(Store.afterAll document options document.named).declarations ++ parts, mains,
    ⟨haccounts.named, haccounts.names, ?_⟩, ?_, ?_⟩
  · intro declaration hmem htype
    rw [declarations, memo_lowerSequentially, List.mem_append] at hmem
    rcases hmem with hmem | hmem
    · exact Or.inl (List.mem_append_left _ hmem)
    · exact (haccounts.covers declaration hmem htype).imp_left (List.mem_append_right _)
  · rw [List.map_append]
    exact hclaimed.distinct
  · intro other hother
    rcases List.mem_append.mp hother with hother | hother
    · exact hclaimed.aliases _ (List.mem_map_of_mem hother)
    · exact fun hmem => hclaimed.unreserved _ (List.mem_map_of_mem hother) (List.mem_append_left _ hmem)

end Report

namespace NamedSchema

/-- No two derived types have one name, and none has that of the type that they are derived from. -/
theorem nodup_derivedTypes (document : Document) (options : Options) (entry : NamedSchema) :
    (entry.typeName :: (entry.derivedTypes document options).map (·.name)).Nodup := by
  have hname : Name.isIdentifier entry.typeName = true := Name.isIdentifier_pascal _
  have hsublist : ((entry.derivedTypes document options).map (·.name)).Sublist
      (DerivedTypes.names entry.typeName) := by
    unfold derivedTypes utilityTypesFor
    split
    · split
      · have h := DerivedTypes.declaredNames_aliases options hname document entry.schema
        simpa only [List.map_map, Function.comp_def, Option.getD_some, List.map_id'] using
          h.map fun found => found.getD entry.typeName
      · exact List.nil_sublist _
    · exact List.nil_sublist _
  exact (DerivedTypes.nodup_names entry.typeName).sublist (hsublist.cons_cons _)

/-- Types that are derived from one named schema are told apart by their names. -/
theorem derivedTypes_injective {first second : Declaration} (hfirst : first ∈ entry.derivedTypes document options)
    (hsecond : second ∈ entry.derivedTypes document options) (hname : first.name = second.name) :
    first = second :=
  List.inj_on_of_nodup_map (List.nodup_cons.mp (entry.nodup_derivedTypes document options)).2 hfirst hsecond
    hname

end NamedSchema

/-! ## Types of one name -/

namespace Document

/-- Two types of one name in the report of a run over a document are the same, but for three reasons: two named
schemas that were lowered are declared as types of that name; one that was lowered has that name, which is not
the one that was reserved for it; or one of the types is derived from a named schema, and the other is not. -/
theorem types_agree (h : Document.ofJson raw = .ok document) {first second : Declaration}
    (hfirst : first ∈ (lowerSequentially document options).declarations) (hfirstType : first.kind.isType = true)
    (hsecond : second ∈ (lowerSequentially document options).declarations)
    (hsecondType : second.kind.isType = true) (hname : first.name = second.name) :
    first = second ∨
      List.Duplicate first.name ((lowerSequentially document options).outputs.map (·.typeName)) ∨
      (∃ output ∈ (lowerSequentially document options).outputs, output.typeName = first.name ∧
        Name.isSettled (Name.pascal output.name) = false) ∨
      ∃ entry ∈ document.named, ¬(first ∈ entry.derivedTypes document options ↔
        second ∈ entry.derivedTypes document options) := by
  obtain ⟨others, mains, haccounts, hdistinct, hforeign⟩ := Report.accounts_lowerSequentially h options
  by_cases hsame : first = second
  · exact Or.inl hsame
  by_cases hderived : ∀ entry ∈ document.named, first ∉ entry.derivedTypes document options ∧
      second ∉ entry.derivedTypes document options
  · have hcases : ∀ declaration ∈ (lowerSequentially document options).declarations,
        declaration.kind.isType = true →
          (∀ entry ∈ document.named, declaration ∉ entry.derivedTypes document options) →
            declaration ∈ others ∨ declaration ∈ mains := by
      intro declaration hmem htype hnone
      rcases haccounts.covers declaration hmem htype with hother | hmain | ⟨entry, hentry, hmem⟩
      · exact Or.inl hother
      · exact Or.inr hmain
      · exact absurd hmem (hnone entry hentry)
    rcases hcases first hfirst hfirstType fun entry hentry => (hderived entry hentry).1 with hother | hmain <;>
      rcases hcases second hsecond hsecondType fun entry hentry => (hderived entry hentry).2 with
        hother' | hmain'
    · exact Or.inl (List.inj_on_of_nodup_map hdistinct hother hother' hname)
    · have hfree : second.name ∉ typeNames document.named := hname ▸ hforeign first hother
      exact Or.inr (Or.inr (Or.inl (hname ▸ haccounts.unsettled hmain' hfree)))
    · have hfree : first.name ∉ typeNames document.named := hname ▸ hforeign second hother'
      exact Or.inr (Or.inr (Or.inl (haccounts.unsettled hmain hfree)))
    · exact Or.inr (Or.inl (haccounts.duplicate hmain hmain' hsame hname))
  · simp only [not_forall, not_and_or, not_not] at hderived
    obtain ⟨entry, hentry, hmem⟩ := hderived
    refine Or.inr (Or.inr (Or.inr ⟨entry, hentry, fun hiff => hsame ?_⟩))
    rcases hmem with hmem | hmem
    · exact NamedSchema.derivedTypes_injective hmem (hiff.mp hmem) hname
    · exact NamedSchema.derivedTypes_injective (hiff.mpr hmem) hmem hname

/-- A box whose label is a composition, and a named schema with the name that the label would have. -/
def labelledBox : Json :=
  .obj [("$defs", .obj [("Box", .obj [("properties", .obj [("label", .obj [("oneOf",
    .arr [.obj [("type", .str "string")]])])])]), ("BoxLabel", .obj [("type", .str "integer")])])]

/-- One type has the name of the named schema, since the label of the box gets another one. -/
theorem types_agree_of_labelledBox : ∃ document first, Document.ofJson labelledBox = .ok document ∧
    first ∈ (lowerSequentially document { composition := { generateUtilityTypes := false } }).declarations ∧
      first.kind.isType = true ∧ first.name = "BoxLabel" ∧
        ∀ second ∈ (lowerSequentially document { composition := { generateUtilityTypes := false } }).declarations,
          second.kind.isType = true → second.name = "BoxLabel" → first = second := by
  have hrun : ((Document.ofJson labelledBox).toOption.any fun document =>
      let report := lowerSequentially document { composition := { generateUtilityTypes := false } }
      decide (report.outputs.map (·.typeName)).Nodup &&
        report.outputs.all (fun output => Name.isSettled (Name.pascal output.name)) &&
          report.declarations.any fun first => first.kind.isType && first.name == "BoxLabel") = true := by
    decide +kernel
  obtain ⟨document, hdocument, hrun⟩ := Decode.exists_ok_of_any hrun
  simp only [Bool.and_eq_true, decide_eq_true_eq, List.all_eq_true, List.any_eq_true, beq_iff_eq] at hrun
  obtain ⟨⟨hnodup, hsettled⟩, first, hfirst, htype, hname⟩ := hrun
  refine ⟨document, first, hdocument, hfirst, htype, hname, fun second hsecond hsecondType hsecondName => ?_⟩
  rcases types_agree hdocument hfirst htype hsecond hsecondType (hname.trans hsecondName.symm) with
    hsame | hduplicate | ⟨output, houtput, -, hunsettled⟩ | ⟨entry, -, hderived⟩
  · exact hsame
  · exact absurd hnodup hduplicate.not_nodup
  · rw [hsettled output houtput] at hunsettled
    cases hunsettled
  · have hnone : entry.derivedTypes document { composition := { generateUtilityTypes := false } } = [] := by
      simp [NamedSchema.derivedTypes, utilityTypesFor]
    simp [hnone] at hderived

/-- Two types of one name differ: the names of both schemas make the same type name. -/
theorem types_differ_of_profiles : ∃ document first second,
    Document.ofJson (.obj [("$defs", .obj [("user_profile", .obj [("type", .str "string")]),
      ("UserProfile", .obj [("type", .str "integer")])])]) = .ok document ∧
    first ∈ (lowerSequentially document {}).declarations ∧ first.kind.isType = true ∧
      second ∈ (lowerSequentially document {}).declarations ∧ second.kind.isType = true ∧
        first.name = second.name ∧ first.content ≠ second.content := by
  have hrun : ((Document.ofJson (.obj [("$defs", .obj [("user_profile", .obj [("type", .str "string")]),
      ("UserProfile", .obj [("type", .str "integer")])])])).toOption.any fun document =>
        (lowerSequentially document {}).declarations.any fun first => first.kind.isType &&
          (lowerSequentially document {}).declarations.any fun second => second.kind.isType &&
            first.name == second.name && first.content != second.content) = true := by
    decide +kernel
  obtain ⟨document, hdocument, hrun⟩ := Decode.exists_ok_of_any hrun
  simp only [Bool.and_eq_true, List.any_eq_true, beq_iff_eq, bne_iff_ne] at hrun
  obtain ⟨first, hfirst, htype, second, hsecond, ⟨htype', hname⟩, hcontent⟩ := hrun
  exact ⟨document, first, second, hdocument, hfirst, htype, hsecond, htype', hname, hcontent⟩

end Document

end SchemaTypings
