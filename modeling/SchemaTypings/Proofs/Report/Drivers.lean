import SchemaTypings.Proofs.Report.Order
import SchemaTypings.Proofs.Report.Undisturbed

/-!
# One store for all, or one for each

A run over a document may lower its named schemas with one store, or each of them alone. Both runs report
the same named schemas as lowered and as failed exactly if no failure is concealed at a turn, which takes a
cycle of references with an obstacle behind it. They report the same declarations and the same errors
exactly if the outcome at every turn is the one alone, and that is so if no schema is disturbed at its turn
by what those before it left (`Document.drivers_agree`). None is in a document whose schemas are apart.
-/

namespace SchemaTypings

open LowerM Lowering Relation

variable {raw : Json} {document : Document} {options : Options} {entry : NamedSchema} {store : Store}

/-! ## Verdicts -/

namespace Report

/-- The named schema of an outcome, and whether it was lowered. -/
def verdict : NamedSchema × Except LoweringError (List Typing.Declaration) → NamedSchema × Bool :=
  Prod.map id Except.isOk

/-- The named schemas that were lowered, with their operations. -/
def lowered (report : Report) : List (String × String × Operation) :=
  report.outputs.map fun output => (output.name, output.pointer, output.operation)

/-- The named schemas that failed. -/
def failed (report : Report) : List (String × String) :=
  report.failures.map fun failure => (failure.name, failure.pointer)

theorem map_filterMap_eq
    (outcomes : List (NamedSchema × Except LoweringError (List Typing.Declaration))) :
    (outcomes.filterMap output?).map (fun output => (output.name, output.pointer, output.operation)) =
        ((outcomes.map verdict).filter (·.2)).map (fun verdict =>
          (verdict.1.name, verdict.1.pointer, Operation.select verdict.1.schema)) ∧
      (outcomes.filterMap failure?).map (fun failure => (failure.name, failure.pointer)) =
        ((outcomes.map verdict).filter (!·.2)).map (fun verdict =>
          (verdict.1.name, verdict.1.pointer)) := by
  induction outcomes with
  | nil => exact ⟨rfl, rfl⟩
  | cons outcome rest ih =>
    obtain ⟨entry, error | declarations⟩ := outcome
    · exact ⟨ih.1, congrArg ((entry.name, entry.pointer) :: ·) ih.2⟩
    · exact ⟨congrArg ((entry.name, entry.pointer, Operation.select entry.schema) :: ·) ih.1, ih.2⟩

/-- Two verdicts on one schema, the first one of which is no worse. -/
def NoWorse (verdict verdict' : NamedSchema × Bool) : Prop :=
  verdict.1 = verdict'.1 ∧ (verdict'.2 = true → verdict.2 = true)

variable {verdicts verdicts' : List (NamedSchema × Bool)}

theorem length_failed_le (h : List.Forall₂ NoWorse verdicts verdicts') :
    (verdicts.filter (!·.2)).length ≤ (verdicts'.filter (!·.2)).length := by
  induction h with
  | nil => exact Nat.le_refl _
  | @cons verdict verdict' rest rest' hfirst _ ih =>
    obtain ⟨entry, ok⟩ := verdict
    obtain ⟨entry', ok'⟩ := verdict'
    cases ok <;> cases ok'
    · simpa using ih
    · exact absurd (hfirst.2 rfl) (by simp)
    · simpa using Nat.le_succ_of_le ih
    · simpa using ih

/-- If no verdict is worse, and as many have failed, the verdicts are the same. -/
theorem verdicts_eq_of_length (h : List.Forall₂ NoWorse verdicts verdicts')
    (hlength : (verdicts.filter (!·.2)).length = (verdicts'.filter (!·.2)).length) :
    verdicts = verdicts' := by
  induction h with
  | nil => rfl
  | @cons verdict verdict' rest rest' hfirst hrest ih =>
    have hle := length_failed_le hrest
    obtain ⟨entry, ok⟩ := verdict
    obtain ⟨entry', ok'⟩ := verdict'
    obtain rfl : entry = entry' := hfirst.1
    cases ok <;> cases ok'
    · rw [ih (by simpa using hlength)]
    · exact absurd (hfirst.2 rfl) (by simp)
    · have hlong : (rest.filter (!·.2)).length = (rest'.filter (!·.2)).length + 1 := by
        simpa using hlength
      omega
    · rw [ih (by simpa using hlength)]

/-- What is read of the outcomes at the turns is what is read of those alone exactly if it is at each. -/
theorem map_outcomesFrom_eq_iff {α : Type} (read : Except LoweringError (List Typing.Declaration) → α)
    (document : Document) (options : Options) (entries : List NamedSchema) (store : Store) :
    (outcomesFrom document options store entries).map (Prod.map id read) =
        (entries.map fun entry =>
          (entry, entry.outcome document options (.fresh document))).map (Prod.map id read) ↔
      ∀ before entry after, entries = before ++ entry :: after →
        read (entry.outcome document options
            (before.foldl (Store.afterNamed document options) store)) =
          read (entry.outcome document options (.fresh document)) := by
  induction entries generalizing store with
  | nil => simp [outcomesFrom]
  | cons first rest ih =>
    rw [forall_turns_cons (P := fun store entry => read (entry.outcome document options store) =
      read (entry.outcome document options (.fresh document))), ← ih]
    simp [outcomesFrom]

/-- Outcomes are known from their verdicts and from what was lowered and what failed. -/
theorem outcomes_eq {outcomes outcomes' : List (NamedSchema × Except LoweringError
      (List Typing.Declaration))} (hverdicts : outcomes.map verdict = outcomes'.map verdict)
    (houtputs : outcomes.filterMap output? = outcomes'.filterMap output?)
    (hfailures : outcomes.filterMap failure? = outcomes'.filterMap failure?) :
    outcomes = outcomes' := by
  induction outcomes generalizing outcomes' with
  | nil => exact (List.map_eq_nil_iff.mp hverdicts.symm).symm
  | cons outcome rest ih =>
    obtain ⟨outcome', rest', rfl, hfirst, hrest⟩ := List.map_eq_cons_iff.mp hverdicts.symm
    obtain ⟨entry, error | declarations⟩ := outcome <;>
      obtain ⟨entry', error' | declarations'⟩ := outcome'
    · obtain ⟨hfailure, htail⟩ := List.cons.inj hfailures
      obtain rfl : entry' = entry := congrArg Prod.fst hfirst
      obtain rfl : error = error' := congrArg TypeFailure.error hfailure
      rw [ih hrest.symm houtputs htail]
    · cases congrArg Prod.snd hfirst
    · cases congrArg Prod.snd hfirst
    · obtain ⟨houtput, htail⟩ := List.cons.inj houtputs
      obtain rfl : entry' = entry := congrArg Prod.fst hfirst
      obtain rfl : declarations = declarations' := congrArg TypeOutput.declarations houtput
      rw [ih hrest.symm htail hfailures]

theorem forall₂_noWorse (hlocal : document.Local) (entries : List NamedSchema) (store : Store) :
    List.Forall₂ NoWorse ((outcomesFrom document options store entries).map verdict)
      ((entries.map fun entry =>
        (entry, entry.outcome document options (.fresh document))).map verdict) := by
  induction entries generalizing store with
  | nil => exact .nil
  | cons entry rest ih =>
    refine .cons ⟨rfl, fun halone => ?_⟩ (ih _)
    have hgranted := (NamedSchema.isOk_alone_iff hlocal).mp halone
    exact (NamedSchema.isOk_outcome_iff hlocal).mpr (hgranted.mono fun _ => False.elim)

end Report

/-! ## The two runs -/

/-- The reports give the same named schemas as lowered and as failed. -/
def Report.SameVerdicts (report report' : Report) : Prop :=
  report.lowered = report'.lowered ∧ report.failed = report'.failed

/-- The reports give the same declarations and the same errors. -/
def Report.SameResults (report report' : Report) : Prop :=
  report.outputs = report'.outputs ∧ report.failures = report'.failures

namespace Document

theorem verdicts_eq_of_failures (hlocal : document.Local)
    (hlength : (lowerSequentially document options).failures.length =
      (lowerInParallel document options).failures.length) :
    (Report.outcomesFrom document options (.fresh document) document.named).map Report.verdict =
      (document.named.map fun entry =>
        (entry, entry.outcome document options (.fresh document))).map Report.verdict := by
  have hkeys := (Report.map_filterMap_eq
    (Report.outcomesFrom document options (.fresh document) document.named)).2
  have hkeys' := (Report.map_filterMap_eq (document.named.map fun entry =>
    (entry, entry.outcome document options (.fresh document)))).2
  rw [← (Report.lowerSequentially_eq document options).2] at hkeys
  rw [← (Report.lowerInParallel_eq document options).2] at hkeys'
  have hfailed := congrArg List.length hkeys
  have hfailed' := congrArg List.length hkeys'
  simp only [List.length_map] at hfailed hfailed'
  exact Report.verdicts_eq_of_length (Report.forall₂_noWorse hlocal document.named (.fresh document))
    (hfailed.symm.trans (hlength.trans hfailed'))

/-- The two runs lower the same named schemas exactly if no failure is concealed at a turn. -/
theorem sameVerdicts_iff (hlocal : document.Local) (options : Options) :
    (lowerSequentially document options).SameVerdicts (lowerInParallel document options) ↔
      ∀ before entry after, document.named = before ++ entry :: after →
        ¬entry.Concealed document options (.afterAll document options before) := by
  obtain ⟨houtputs, hfailures⟩ := Report.lowerSequentially_eq document options
  obtain ⟨houtputs', hfailures'⟩ := Report.lowerInParallel_eq document options
  have hkeys := Report.map_filterMap_eq
    (Report.outcomesFrom document options (.fresh document) document.named)
  have hkeys' := Report.map_filterMap_eq (document.named.map fun entry =>
    (entry, entry.outcome document options (.fresh document)))
  have hverdicts := Report.map_outcomesFrom_eq_iff Except.isOk document options document.named
    (.fresh document)
  constructor
  · rintro ⟨-, hfailed⟩ before entry after hnamed
    have hlength := congrArg List.length hfailed
    rw [Report.failed, Report.failed, List.length_map, List.length_map] at hlength
    have hsame := verdicts_eq_of_failures hlocal hlength
    exact (NamedSchema.isOk_eq_iff hlocal).mp (hverdicts.mp hsame before entry after hnamed)
  · intro hconcealed
    have hsame := hverdicts.mpr fun before entry after hnamed =>
      (NamedSchema.isOk_eq_iff hlocal).mpr (hconcealed before entry after hnamed)
    unfold Report.SameVerdicts Report.lowered Report.failed
    rw [houtputs, hfailures, houtputs', hfailures', hkeys.1, hkeys.2, hkeys'.1, hkeys'.2,
      Report.verdict, hsame]
    exact ⟨rfl, rfl⟩

/-- The two runs give the same results exactly if the outcome at every turn is the one alone. -/
theorem sameResults_iff (hlocal : document.Local) (options : Options) :
    (lowerSequentially document options).SameResults (lowerInParallel document options) ↔
      ∀ before entry after, document.named = before ++ entry :: after →
        entry.outcome document options (.afterAll document options before) =
          entry.outcome document options (.fresh document) := by
  obtain ⟨houtputs, hfailures⟩ := Report.lowerSequentially_eq document options
  obtain ⟨houtputs', hfailures'⟩ := Report.lowerInParallel_eq document options
  have houtcomes := Report.map_outcomesFrom_eq_iff id document options document.named
    (.fresh document)
  rw [Prod.map_id, List.map_id, List.map_id] at houtcomes
  constructor
  · intro hsame
    have hverdicts := verdicts_eq_of_failures hlocal (congrArg List.length hsame.2)
    rw [Report.SameResults, houtputs, hfailures, houtputs', hfailures'] at hsame
    exact houtcomes.mp (Report.outcomes_eq hverdicts hsame.1 hsame.2)
  · intro hturns
    unfold Report.SameResults
    rw [houtputs, hfailures, houtputs', hfailures', houtcomes.mpr hturns]
    exact ⟨rfl, rfl⟩

/-- A run with one store and a run with a store for each schema lower the same named schemas exactly if no
failure is concealed at a turn, and give the same results exactly if the outcome at every turn is the one
alone, so if no schema is disturbed at its turn. The first is so if no cycle of references has an obstacle
behind it, and the second if, besides, the names of references are fixed and no name is claimed by two of
the schemas. -/
theorem drivers_agree (h : ofJson raw = .ok document) (options : Options) :
    ((lowerSequentially document options).SameVerdicts (lowerInParallel document options) ↔
      ∀ before entry after, document.named = before ++ entry :: after →
        ¬entry.Concealed document options (.afterAll document options before)) ∧
    ((lowerSequentially document options).SameResults (lowerInParallel document options) ↔
      ∀ before entry after, document.named = before ++ entry :: after →
        entry.outcome document options (.afterAll document options before) =
          entry.outcome document options (.fresh document)) ∧
    ((∀ before entry after, document.named = before ++ entry :: after →
        entry.Undisturbed document options (.afterAll document options before)) →
      (lowerSequentially document options).SameResults (lowerInParallel document options)) ∧
    (KeysDistinct raw →
      (document.Untangled options →
        (lowerSequentially document options).SameVerdicts (lowerInParallel document options)) ∧
      (document.Apart options →
        (lowerSequentially document options).SameResults (lowerInParallel document options))) := by
  have hlocal := local_of_ofJson h
  have hundisturbed : (∀ before entry after, document.named = before ++ entry :: after →
        entry.Undisturbed document options (.afterAll document options before)) →
      (lowerSequentially document options).SameResults (lowerInParallel document options) :=
    fun hturns => (sameResults_iff hlocal options).mpr fun before entry after hnamed =>
      (hturns before entry after hnamed).outcome_eq h (by simp [hnamed])
        (Store.changes_afterAll fun _ hmem => by simp [hnamed, hmem])
  refine ⟨sameVerdicts_iff hlocal options, sameResults_iff hlocal options, hundisturbed,
    fun hkeys => ⟨fun huntangled => ?_, fun hapart => ?_⟩⟩
  · exact (sameVerdicts_iff hlocal options).mpr fun before entry after hnamed =>
      NamedSchema.not_concealed h (pointers_nodup h hkeys) huntangled hnamed
  · exact hundisturbed fun before entry after hnamed =>
      hapart.undisturbed h (pointers_nodup h hkeys) hnamed

/-- A cycle whose failure is concealed fails in all three schemas if each is lowered alone. -/
theorem drivers_differ_of_cycle : ∃ document,
    ofJson (.obj [("$defs", .obj [cycleStart, onlooker, cycleEnd])]) = .ok document ∧
      (lowerSequentially document {}).failed ≠ (lowerInParallel document {}).failed := by
  have hrun : ((ofJson (.obj [("$defs", .obj [cycleStart, onlooker, cycleEnd])])).toOption.any
      fun document => (lowerSequentially document {}).failed != (lowerInParallel document {}).failed) =
        true := by decide +kernel
  obtain ⟨document, hdocument, hrun⟩ := Decode.exists_ok_of_any hrun
  exact ⟨document, hdocument, bne_iff_ne.mp hrun⟩

/-- A property whose schema is composed of one text. -/
def composedProperty (name property : String) : String × Json :=
  (name, .obj [("properties", .obj [(property, .obj [("oneOf", .arr [.obj [("type", .str
    "string")]])])])])

/-- Two properties are declared under one name if the two schemas are lowered alone, and under different
names if not. -/
theorem drivers_differ_of_names : ∃ document,
    ofJson (.obj [("$defs", .obj [composedProperty "Foo" "barBaz",
      composedProperty "FooBar" "baz"])]) = .ok document ∧
        (lowerSequentially document {}).outputs ≠ (lowerInParallel document {}).outputs := by
  have hrun : ((ofJson (.obj [("$defs", .obj [composedProperty "Foo" "barBaz",
      composedProperty "FooBar" "baz"])])).toOption.any fun document =>
        (lowerSequentially document {}).outputs.map (·.declarations.head?.map (·.name)) ==
            [some "FooBarBaz", some "FooBarBaz2"]
          && (lowerInParallel document {}).outputs.map (·.declarations.head?.map (·.name)) ==
            [some "FooBarBaz", some "FooBarBaz"]) = true := by decide +kernel
  obtain ⟨document, hdocument, hrun⟩ := Decode.exists_ok_of_any hrun
  rw [Bool.and_eq_true, beq_iff_eq, beq_iff_eq] at hrun
  refine ⟨document, hdocument, fun heq => ?_⟩
  rw [heq, hrun.2] at hrun
  simp at hrun

/-- Of two schemas, the second one meets the first one, which is recorded at its turn, but clear. -/
theorem drivers_agree_of_chain : ∃ document,
    ofJson (.obj [("$defs", .obj [("B", .obj [("type", .str "string")]),
      ("A", .obj [("properties", .obj [("b", .obj [("$ref", .str "#/$defs/B")])])])])]) =
        .ok document ∧
      (lowerSequentially document {}).SameResults (lowerInParallel document {}) := by
  have hrun : ((ofJson (.obj [("$defs", .obj [("B", .obj [("type", .str "string")]),
      ("A", .obj [("properties", .obj [("b", .obj [("$ref", .str "#/$defs/B")])])])])])).toOption.any
      fun document => document.named.map (·.pointer) = ["#/$defs/B", "#/$defs/A"]
        && (Store.afterAll document {} (document.named.take 1)).types.map (·.1) = ["#/$defs/B"]
        && (document.named.map fun entry =>
          ((Store.fresh document).afterNamed document {} entry).usedNames) =
            [document.reservedNames, document.reservedNames]
        && document.isNamed "#/$defs/B"
        && (document.resolve? "#/$defs/B").any fun target => match target.kind with
          | .primitive _ => true
          | _ => false) = true := by decide +kernel
  obtain ⟨document, hdocument, hrun⟩ := Decode.exists_ok_of_any hrun
  simp only [Bool.and_eq_true, decide_eq_true_eq] at hrun
  obtain ⟨⟨⟨⟨hpointers, htypes⟩, hnames⟩, hnamed⟩, htarget⟩ := hrun
  have hclear : document.Clear {} "#/$defs/A" "#/$defs/B" := by
    cases hresolve : document.resolve? "#/$defs/B" with
    | none => simp [hresolve] at htarget
    | some target =>
      obtain ⟨kind, info⟩ := target
      cases kind with
      | primitive type => exact .of_demands_eq_nil hnamed hresolve Schema.demands_primitive
      | _ => simp [hresolve] at htarget
  obtain ⟨first, _, hentries, hfirst, hrest⟩ := List.map_eq_cons_iff.mp hpointers
  obtain ⟨second, _, rfl, hsecond, hnil⟩ := List.map_eq_cons_iff.mp hrest
  obtain rfl := List.map_eq_nil_iff.mp hnil
  rw [hentries] at htypes hnames
  have hclaimed : ∀ entry ∈ document.named,
      ((Store.fresh document).afterNamed document {} entry).usedNames = document.reservedNames := by
    rw [hentries]
    simpa using hnames
  refine ⟨document, hdocument, (drivers_agree hdocument {}).2.2.1 fun before entry after hturn =>
    ⟨fun reference _ hrecords => ?_, fun name hname _ =>
      hclaimed entry (by simp [hturn]) ▸ hname⟩⟩
  rw [hentries] at hturn
  rcases before with _ | ⟨other, _ | ⟨_, _⟩⟩
  · simp [Store.afterAll, Store.fresh, Store.Records] at hrecords
  · obtain ⟨rfl, rfl, -⟩ : first = other ∧ second = entry ∧ [] = after := by simpa using hturn
    have hreference : reference ∈ (Store.afterAll document {} [first]).types.map (·.1) := by
      by_contra hnot
      simp [Store.Records, lookup_eq_none_of_not_mem hnot] at hrecords
    rw [show [first] = [first, second].take 1 from rfl, htypes, List.mem_singleton] at hreference
    rw [hreference, hsecond]
    exact hclear
  · simp at hturn

end Document

end SchemaTypings
