import SchemaTypings.Proofs.Lowering.Identified
import SchemaTypings.Proofs.Lowering.MemoTables
import SchemaTypings.Proofs.Report.TypeNames
import SchemaTypings.Proofs.Report.Undisturbed

/-!
# Reports hold identifiers

Whatever a run is given, the names in its report are identifiers: those of aliases were reserved or claimed, and
those of other declarations are made of type names (`Report.names_identify`). A run may be cancelled at any time
(`Report.Arises`), which makes no difference to that.
-/

namespace SchemaTypings

open LowerM Lowering Relation Typing

variable {raw : Json} {document : Document} {options : Options} {entry : NamedSchema} {store : Store}

/-! ## Turns -/

namespace Store

/-- A name is used that was reserved, or claimed. -/
theorem isIdentifier_usedNames (h : Document.ofJson raw = .ok document)
    (hchanges : ReflTransGen (Change document) (.fresh document) store) :
    ∀ name ∈ store.usedNames, Name.isIdentifier name = true := by
  induction hchanges with
  | refl => exact Document.isIdentifier_reserved h
  | tail _ hchange ih =>
    cases hchange with
    | claim base =>
      intro name hname
      rcases List.mem_append.mp hname with hname | hname
      · exact ih name hname
      · exact List.mem_singleton.mp hname ▸ isIdentifier_claim _ base
    | _ => exact ih

theorem identified_afterAll (h : Document.ofJson raw = .ok document) (options : Options)
    {entries : List NamedSchema} (hentries : entries ⊆ document.named) :
    Identified (afterAll document options entries).declarations := by
  obtain ⟨parts, _, _, hclaimed⟩ := Report.exists_accounts h options hentries claimed_fresh
  intro declaration hdeclaration
  refine isIdentifier_usedNames h (changes_afterAll hentries) _ (hclaimed.taken ?_)
  exact List.mem_append_left _ (List.mem_map_of_mem hdeclaration)

theorem spelled_afterAll (h : Document.ofJson raw = .ok document) (options : Options)
    (entries : List NamedSchema) : (afterAll document options entries).Spelled := by
  refine List.foldlRecOn (motive := Spelled) entries _ spelled_fresh fun store hstore entry _ => ?_
  exact (Lowering.Spelled.lowerNamed h entry ⟨document, options, {}⟩ store ⟨rfl, rfl, hstore⟩).1.store

end Store

theorem NamedSchema.identified_outcome (h : Document.ofJson raw = .ok document) (hstore : store.Spelled)
    {declarations : List Declaration} (hlowered : entry.outcome document options store = .ok declarations) :
    Identified declarations := by
  rw [outcome_eq] at hlowered
  exact (Spelled.identified_declare h _ entry.schema _ store ⟨rfl, rfl, hstore⟩).2 declarations hlowered

/-! ## Reports -/

namespace Report

/-- The reports of runs over a document. With one store for all named schemas, a run that is cancelled does not
try those from some point on; with a store for each of them, it may leave out any. -/
inductive Arises (document : Document) (options : Options) : Report → Prop
  | inTurn {tried rest : List NamedSchema} {last : Report × Store} (hnamed : document.named = tried ++ rest)
    (hrun : tried.foldl (lowerNext document options) ({}, .fresh document) = last) :
    Arises document options { last.1 with memo := last.2.memo, cancelled := !rest.isEmpty }
  | apart {tried : List NamedSchema} (hnamed : tried.Sublist document.named) :
    Arises document options { tried.foldl (lowerApart document options) {} with
      cancelled := decide (tried.length < document.named.length) }

theorem cancelled_record (report : Report) (entry : NamedSchema)
    (result : Except LoweringError (List Declaration)) :
    (report.record entry result).cancelled = report.cancelled := by
  cases result <;> rfl

theorem memo_record (report : Report) (entry : NamedSchema)
    (result : Except LoweringError (List Declaration)) : (report.record entry result).memo = report.memo := by
  cases result <;> rfl

/-- A run that tries all named schemas, one after the other, is not cancelled. -/
theorem arises_lowerSequentially (document : Document) (options : Options) :
    Arises document options (lowerSequentially document options) := by
  have hcancelled : (lowerSequentially document options).cancelled = false :=
    List.foldlRecOn (motive := fun state : Report × Store => state.1.cancelled = false) document.named _ rfl
      fun state hstate entry _ => (cancelled_record state.1 entry _).trans hstate
  have hreport : { lowerSequentially document options with cancelled := false } =
      lowerSequentially document options := by rw [← hcancelled]
  have harises : Arises document options { lowerSequentially document options with cancelled := false } :=
    .inTurn (List.append_nil document.named).symm rfl
  exact hreport ▸ harises

/-- A run that tries each named schema with a store of its own is not cancelled. -/
theorem arises_lowerInParallel (document : Document) (options : Options) :
    Arises document options (lowerInParallel document options) := by
  have hcancelled : (lowerInParallel document options).cancelled = false :=
    List.foldlRecOn (motive := fun report : Report => report.cancelled = false) document.named _ rfl
      fun report hreport entry _ => (cancelled_record report entry _).trans hreport
  have hreport : { lowerInParallel document options with
      cancelled := decide (document.named.length < document.named.length) } = lowerInParallel document options := by
    rw [decide_eq_false (Nat.lt_irrefl _), ← hcancelled]
  exact hreport ▸ .apart (List.Sublist.refl _)

/-- A run that was cancelled before it began has tried nothing. -/
theorem arises_ofCancelled (document : Document) (options : Options) :
    Arises document options (ofCancelled document) :=
  .inTurn (List.nil_append _).symm rfl

namespace Arises

variable {report : Report}

/-- An output comes from a named schema that found the store that some others left. -/
theorem exists_outcome (h : report.Arises document options) {output : TypeOutput}
    (houtput : output ∈ report.outputs) : ∃ (entry : NamedSchema) (before : List NamedSchema),
      entry.outcome document options (.afterAll document options before) = .ok output.declarations := by
  cases h with
  | @inTurn tried rest last hnamed hrun =>
    have houtputs : (tried.foldl (lowerNext document options) ({}, .fresh document)).1.outputs = _ :=
      (foldl_lowerNext tried {} (.fresh document)).1
    rw [hrun] at houtputs
    rw [houtputs, List.nil_append, List.mem_filterMap] at houtput
    obtain ⟨⟨entry, result⟩, houtcome, hresult⟩ := houtput
    obtain ⟨before, after, -, rfl⟩ := mem_outcomesFrom.mp houtcome
    obtain ⟨declarations, hlowered, rfl⟩ := output?_eq_some.mp hresult
    exact ⟨entry, before, hlowered⟩
  | @apart tried hnamed =>
    have houtputs : (tried.foldl (lowerApart document options) {}).outputs = _ := (foldl_lowerApart tried {}).1
    rw [houtputs, List.nil_append, List.mem_filterMap] at houtput
    obtain ⟨outcome, houtcome, hresult⟩ := houtput
    obtain ⟨entry, -, rfl⟩ := List.mem_map.mp houtcome
    obtain ⟨declarations, hlowered, rfl⟩ := output?_eq_some.mp hresult
    exact ⟨entry, [], hlowered⟩

theorem identified_merge {first second : Memo} (h : Identified first.declarations)
    (h' : Identified second.declarations) : Identified (first.merge second).declarations := by
  have hnames : ∀ declarations : List Declaration, Identified declarations ↔
      ∀ name ∈ declarations.map (·.name), Name.isIdentifier name = true := by
    intro declarations
    rw [List.forall_mem_map, Identified]
  rw [hnames] at h h' ⊢
  intro name hname
  exact (Memo.addsFirst_addDeclaration.mem_keys_foldl.mp hname).elim (h name) (h' name)

theorem identified_memo (hjson : Document.ofJson raw = .ok document) (h : report.Arises document options) :
    Identified report.memo.declarations := by
  cases h with
  | @inTurn tried rest last hnamed hrun =>
    have hstore : last.2 = .afterAll document options tried := by
      rw [Store.afterAll, ← lowerNext_store tried {}, hrun]
    rw [hstore]
    exact Store.identified_afterAll hjson options (hnamed ▸ List.subset_append_left _ _)
  | @apart tried hnamed =>
    refine List.foldlRecOn (motive := fun report : Report => Identified report.memo.declarations) tried _ .nil ?_
    intro report hreport entry hentry
    refine identified_merge ((memo_record report entry _).symm ▸ hreport) ?_
    exact Store.identified_afterAll hjson options (List.cons_subset.mpr ⟨hnamed.subset hentry, List.nil_subset _⟩)

end Arises

/-! ## Names -/

/-- Type names, value names, and the names of references are identifiers that do not begin with a dollar sign,
whatever they are made of. So every declaration in the report of a run over a document is named by an identifier. -/
theorem names_identify :
    (∀ text, Name.IsPlain (Name.pascal text) ∧ Name.IsPlain (Name.camel text) ∧ Name.IsPlain (Name.sanitize text) ∧
      Name.IsPlain (Name.ofReference text) ∧ Name.IsPlain (Name.ofPointer text)) ∧
    ∀ {raw document options report}, Document.ofJson raw = .ok document → Arises document options report →
      ∀ declaration ∈ report.declarations, Name.isIdentifier declaration.name = true := by
  refine ⟨fun text => ?_, fun hjson harises declaration hdeclaration => ?_⟩
  · exact ⟨Name.isPlain_pascal text, Name.isPlain_camel text, Name.isPlain_sanitize text,
      Name.isPlain_ofReference text, Name.isPlain_ofPointer text⟩
  · rcases List.mem_append.mp hdeclaration with hmem | hmem
    · exact harises.identified_memo hjson declaration hmem
    · obtain ⟨output, houtput, hmem⟩ := List.mem_flatMap.mp hmem
      obtain ⟨entry, before, hlowered⟩ := harises.exists_outcome houtput
      exact NamedSchema.identified_outcome hjson (Store.spelled_afterAll hjson _ before) hlowered declaration hmem

/-- Schemas whose names hold a dollar sign, a digit in front, blanks, and letters beyond ASCII. -/
def oddlyNamed : Json :=
  .obj [("$defs", .obj [("$größe", .obj [("enum", .arr [.str "$"])]),
    ("1. weg", .obj [("oneOf", .arr [.obj [("$ref", .str "#/$defs/$größe")],
      .obj [("$ref", .str "#/$defs/ort/properties/ß")]])]),
    ("ort", .obj [("properties", .obj [("ß", .obj [("type", .str "string")])])])])]

/-- All that is declared for such schemas is named by identifiers. -/
theorem names_identify_of_oddlyNamed : ∃ document, Document.ofJson oddlyNamed = .ok document ∧
    (lowerSequentially document {}).declarations.map (·.name) = ["OrtSS", "GrE", "GrE", "GrEValues", "isGrE",
      "parseGrE", "parseGrEOrDefault", "_1Weg", "is_1WegGrE", "is_1WegOrtSS", "match_1Weg", "fold_1Weg", "Ort"] ∧
    ∀ declaration ∈ (lowerSequentially document {}).declarations, Name.isIdentifier declaration.name = true := by
  have hrun : ((Document.ofJson oddlyNamed).toOption.any fun document =>
      (lowerSequentially document {}).declarations.map (·.name) == ["OrtSS", "GrE", "GrE", "GrEValues", "isGrE",
        "parseGrE", "parseGrEOrDefault", "_1Weg", "is_1WegGrE", "is_1WegOrtSS", "match_1Weg", "fold_1Weg",
        "Ort"]) = true := by
    decide +kernel
  obtain ⟨document, hdocument, hnames⟩ := Decode.exists_ok_of_any hrun
  exact ⟨document, hdocument, beq_iff_eq.mp hnames,
    names_identify.2 hdocument (arises_lowerSequentially document {})⟩

end Report

end SchemaTypings
