import Mathlib.Data.List.Basic
import SchemaTypings.Lowering.Report
import SchemaTypings.Proofs.Lowering.Resolution

/-!
# Turns

A run over a document takes its named schemas in turn. At its turn a schema finds the store that those
before it left; alone it finds a fresh one. It fails unless its demands are granted, the references that
are recorded and its own being taken for granted. So a schema that fails alone may succeed at its turn
(`NamedSchema.Concealed`), but not the other way round (`NamedSchema.fails_iff`).
-/

namespace SchemaTypings

open LowerM Lowering Typing

variable {raw : Json} {document : Document} {options : Options} {entry : NamedSchema} {store : Store}

/-! ## Outcomes -/

/-- What becomes of a named schema that finds a store. -/
def NamedSchema.outcome (document : Document) (options : Options) (store : Store)
    (entry : NamedSchema) : Except LoweringError (List Declaration) :=
  ((lowerNamed entry).runWith { document, options } store).1

/-- The store that a named schema leaves. -/
def Store.afterNamed (document : Document) (options : Options) (store : Store)
    (entry : NamedSchema) : Store :=
  ((lowerNamed entry).runWith { document, options } store).2

/-- The store that some named schemas leave, one after the other, from a fresh one on. -/
def Store.afterAll (document : Document) (options : Options) (entries : List NamedSchema) : Store :=
  entries.foldl (Store.afterNamed document options) (.fresh document)

namespace Report

/-- The outcomes of named schemas that find the stores that those before them left. -/
def outcomesFrom (document : Document) (options : Options) (store : Store) :
    List NamedSchema → List (NamedSchema × Except LoweringError (List Declaration))
  | [] => []
  | entry :: rest => (entry, entry.outcome document options store)
      :: outcomesFrom document options (store.afterNamed document options entry) rest

/-- The output of an outcome. -/
def output? (outcome : NamedSchema × Except LoweringError (List Declaration)) : Option TypeOutput :=
  outcome.2.toOption.map fun declarations =>
    ⟨outcome.1.name, outcome.1.pointer, Operation.select outcome.1.schema, declarations⟩

/-- The failure of an outcome. -/
def failure? (outcome : NamedSchema × Except LoweringError (List Declaration)) :
    Option TypeFailure :=
  match outcome.2 with
  | .ok _ => none
  | .error error => some ⟨outcome.1.name, outcome.1.pointer, error⟩

theorem output?_eq_some {result : Except LoweringError (List Declaration)} {output : TypeOutput} :
    output? (entry, result) = some output ↔ ∃ declarations, result = .ok declarations ∧
      ⟨entry.name, entry.pointer, Operation.select entry.schema, declarations⟩ = output := by
  cases result <;> simp [output?, Except.toOption]

theorem outputs_record (report : Report)
    (outcome : NamedSchema × Except LoweringError (List Declaration)) :
    (report.record outcome.1 outcome.2).outputs = report.outputs ++ (output? outcome).toList := by
  obtain ⟨entry, _ | _⟩ := outcome <;> simp [record, output?, Except.toOption]

theorem failures_record (report : Report)
    (outcome : NamedSchema × Except LoweringError (List Declaration)) :
    (report.record outcome.1 outcome.2).failures = report.failures ++ (failure? outcome).toList := by
  obtain ⟨entry, _ | _⟩ := outcome <;> simp [record, failure?]

theorem foldl_lowerNext (entries : List NamedSchema) (report : Report) (store : Store) :
    (entries.foldl (lowerNext document options) (report, store)).1.outputs =
        report.outputs ++ (outcomesFrom document options store entries).filterMap output? ∧
      (entries.foldl (lowerNext document options) (report, store)).1.failures =
        report.failures ++ (outcomesFrom document options store entries).filterMap failure? := by
  induction entries generalizing report store with
  | nil => simp [outcomesFrom]
  | cons entry rest ih =>
    have hnext : lowerNext document options (report, store) entry =
        (report.record entry (entry.outcome document options store),
          store.afterNamed document options entry) := rfl
    have houtputs := outputs_record report (entry, entry.outcome document options store)
    have hfailures := failures_record report (entry, entry.outcome document options store)
    rw [List.foldl_cons, hnext, (ih _ _).1, (ih _ _).2, houtputs, hfailures, outcomesFrom]
    simp only [List.filterMap_eq_flatMap_toList, List.flatMap_cons, List.append_assoc, and_self]

theorem foldl_lowerApart (entries : List NamedSchema) (report : Report) :
    (entries.foldl (lowerApart document options) report).outputs = report.outputs ++ (entries.map
        fun entry => (entry, entry.outcome document options (.fresh document))).filterMap output? ∧
      (entries.foldl (lowerApart document options) report).failures = report.failures ++ (entries.map
        fun entry => (entry, entry.outcome document options (.fresh document))).filterMap
          failure? := by
  induction entries generalizing report with
  | nil => simp
  | cons entry rest ih =>
    have houtputs := outputs_record report (entry, entry.outcome document options (.fresh document))
    have hfailures := failures_record report (entry, entry.outcome document options (.fresh document))
    have hnext : (lowerApart document options report entry).outputs =
          (report.record entry (entry.outcome document options (.fresh document))).outputs ∧
        (lowerApart document options report entry).failures =
          (report.record entry (entry.outcome document options (.fresh document))).failures :=
      ⟨rfl, rfl⟩
    rw [List.foldl_cons, (ih _).1, (ih _).2, hnext.1, hnext.2, houtputs, hfailures, List.map_cons]
    simp only [List.filterMap_eq_flatMap_toList, List.flatMap_cons, List.append_assoc, and_self]

theorem lowerSequentially_eq (document : Document) (options : Options) :
    (lowerSequentially document options).outputs =
      (outcomesFrom document options (.fresh document) document.named).filterMap output? ∧
    (lowerSequentially document options).failures =
      (outcomesFrom document options (.fresh document) document.named).filterMap failure? :=
  foldl_lowerNext document.named {} (.fresh document)

theorem lowerInParallel_eq (document : Document) (options : Options) :
    (lowerInParallel document options).outputs = (document.named.map
      fun entry => (entry, entry.outcome document options (.fresh document))).filterMap output? ∧
    (lowerInParallel document options).failures = (document.named.map
      fun entry => (entry, entry.outcome document options (.fresh document))).filterMap failure? :=
  foldl_lowerApart document.named {}

/-- Something holds at every turn if it holds at the first one, and at those after it. -/
theorem forall_turns_cons {first : NamedSchema} {rest : List NamedSchema}
    {P : Store → NamedSchema → Prop} :
    (∀ before entry after, first :: rest = before ++ entry :: after →
        P (before.foldl (Store.afterNamed document options) store) entry) ↔
      P store first ∧ ∀ before entry after, rest = before ++ entry :: after →
        P (before.foldl (Store.afterNamed document options)
          (store.afterNamed document options first)) entry := by
  constructor
  · intro h
    exact ⟨h [] first rest rfl, fun before entry after hrest =>
      h (first :: before) entry after (by rw [hrest, List.cons_append])⟩
  · rintro ⟨hfirst, hrest⟩ before entry after hentries
    cases before with
    | nil =>
      cases hentries
      exact hfirst
    | cons other before =>
      cases hentries
      exact hrest before entry after rfl

theorem mem_outcomesFrom {entries : List NamedSchema}
    {result : Except LoweringError (List Declaration)} :
    (entry, result) ∈ outcomesFrom document options store entries ↔ ∃ before after,
      entries = before ++ entry :: after ∧ result = entry.outcome document options
        (before.foldl (Store.afterNamed document options) store) := by
  induction entries generalizing store with
  | nil => simp [outcomesFrom]
  | cons first rest ih =>
    rw [outcomesFrom, List.mem_cons, ih]
    constructor
    · rintro (h | ⟨before, after, rfl, rfl⟩)
      · cases h
        exact ⟨[], rest, rfl, rfl⟩
      · exact ⟨first :: before, after, rfl, rfl⟩
    · rintro ⟨before, after, hentries, rfl⟩
      cases before with
      | nil =>
        cases hentries
        exact Or.inl rfl
      | cons other before =>
        cases hentries
        exact Or.inr ⟨before, after, rfl, rfl⟩

end Report

/-! ## Demands at a turn -/

namespace NamedSchema

/-- What lowering a named schema asks for. -/
def demands (document : Document) (options : Options) (entry : NamedSchema) : List Demand :=
  declareDemands document options [entry.pointer] 0 entry.schema

/-- Nothing stands in the way of a named schema, if some references besides its own are taken for
granted. -/
def Granted (document : Document) (options : Options) (recorded : String → Prop)
    (entry : NamedSchema) : Prop :=
  ∀ demand ∈ entry.demands document options,
    document.Grants options (fun known => known = entry.pointer ∨ recorded known) demand

/-- The named schema is granted only because something is recorded. -/
def Concealed (document : Document) (options : Options) (store : Store) (entry : NamedSchema) : Prop :=
  ¬entry.Granted document options (fun _ => False) ∧ entry.Granted document options store.Records

theorem Granted.mono {recorded recorded' : String → Prop}
    (hrecorded : ∀ reference, recorded reference → recorded' reference)
    (h : entry.Granted document options recorded) : entry.Granted document options recorded' :=
  fun demand hdemand => (h demand hdemand).mono fun reference => Or.imp_right (hrecorded reference)

/-- While a named schema is declared, its own reference is being resolved. -/
theorem runWith_lowerNamed_alone (entry : NamedSchema) (store : Store) :
    (lowerNamed entry).runWith { document, options } store =
      match (declare (Name.pascal entry.name) entry.schema).runWith
        (.within document options [] [entry.pointer] 0) store with
      | (.ok declarations, after) =>
        (.ok declarations, after.record entry.pointer (Name.pascal entry.name))
      | (.error error, after) => (.error error, after.forget entry.pointer) := by
  have hvisited : (withVisited entry.pointer (declare (Name.pascal entry.name) entry.schema)).runWith
      (.within document options [] [] 0) store =
        (declare (Name.pascal entry.name) entry.schema).runWith
          (.within document options [] [entry.pointer] 0) store :=
    runWith_withVisited_of_not_mem _ List.not_mem_nil
  have hnamed := runWith_lowerNamed entry (.within document options [] [] 0) store
  rw [hvisited] at hnamed
  refine hnamed.trans ?_
  rcases (declare (Name.pascal entry.name) entry.schema).runWith
    (.within document options [] [entry.pointer] 0) store with ⟨_ | _, _⟩ <;> rfl

theorem outcome_eq : entry.outcome document options store =
    ((declare (Name.pascal entry.name) entry.schema).runWith
      (.within document options [] [entry.pointer] 0) store).1 := by
  rw [outcome, runWith_lowerNamed_alone]
  rcases (declare (Name.pascal entry.name) entry.schema).runWith
    (.within document options [] [entry.pointer] 0) store with ⟨_ | _, _⟩ <;> rfl

theorem usedNames_afterNamed : (store.afterNamed document options entry).usedNames =
    ((declare (Name.pascal entry.name) entry.schema).runWith
      (.within document options [] [entry.pointer] 0) store).2.usedNames := by
  rw [Store.afterNamed, runWith_lowerNamed_alone]
  rcases (declare (Name.pascal entry.name) entry.schema).runWith
    (.within document options [] [entry.pointer] 0) store with ⟨_ | _, _⟩ <;> rfl

/-- A named schema lowers exactly if it is granted with what is recorded. -/
theorem succeeds_iff (hlocal : document.Local) :
    (∃ declarations, entry.outcome document options store = .ok declarations) ↔
      entry.Granted document options store.Records := by
  have hdeclare : Meets document options [entry.pointer] 0
      (declare (Name.pascal entry.name) entry.schema) (entry.demands document options) :=
    (Meets.rules hlocal).declare _ entry.schema
  have hsucceeds := hdeclare.succeeds_iff [] store
  have hknown : (fun known => known ∈ [entry.pointer] ∨ store.Records known) =
      fun known => known = entry.pointer ∨ store.Records known := by
    funext known
    simp
  rw [hknown] at hsucceeds
  rw [Granted, ← hsucceeds, outcome_eq]
  constructor
  · rintro ⟨declarations, hresult⟩
    exact ⟨declarations, _, Prod.ext hresult rfl⟩
  · rintro ⟨declarations, after, hresult⟩
    exact ⟨declarations, congrArg Prod.fst hresult⟩

theorem isOk_outcome_iff (hlocal : document.Local) :
    (entry.outcome document options store).isOk ↔ entry.Granted document options store.Records := by
  rw [← succeeds_iff hlocal]
  cases entry.outcome document options store <;> simp [Except.isOk, Except.toBool]

theorem isOk_alone_iff (hlocal : document.Local) :
    (entry.outcome document options (.fresh document)).isOk ↔
      entry.Granted document options (fun _ => False) := by
  have hfresh : (Store.fresh document).Records = fun _ => False := by
    funext reference
    simp [Store.fresh, Store.Records]
  rw [isOk_outcome_iff hlocal, hfresh]

/-- The verdict at a turn is the one alone, unless a failure is concealed. -/
theorem isOk_eq_iff (hlocal : document.Local) :
    (entry.outcome document options store).isOk =
        (entry.outcome document options (.fresh document)).isOk ↔
      ¬entry.Concealed document options store := by
  rw [Bool.eq_iff_iff, isOk_outcome_iff hlocal, isOk_alone_iff hlocal]
  have hmono : entry.Granted document options (fun _ => False) →
      entry.Granted document options store.Records := Granted.mono fun _ => False.elim
  unfold Concealed
  tauto

/-- A named schema fails exactly if it fails alone and that is not concealed. -/
theorem fails_iff (hlocal : document.Local) :
    (∃ error, entry.outcome document options store = .error error) ↔
      ¬entry.Granted document options (fun _ => False) ∧ ¬entry.Concealed document options store := by
  have hfails : (∃ error, entry.outcome document options store = .error error) ↔
      ¬entry.Granted document options store.Records := by
    rw [← succeeds_iff hlocal]
    cases entry.outcome document options store <;> simp
  rw [hfails]
  constructor
  · intro h
    exact ⟨fun halone => h (halone.mono fun _ => False.elim), fun hconcealed => h hconcealed.2⟩
  · rintro ⟨halone, hconcealed⟩ h
    exact hconcealed ⟨halone, h⟩

end NamedSchema

end SchemaTypings
