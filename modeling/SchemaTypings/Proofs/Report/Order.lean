import SchemaTypings.Proofs.Document.Reordered
import SchemaTypings.Proofs.Document.Targets
import SchemaTypings.Proofs.Report.Concealed

/-!
# Failures and the order of a document

Whether a named schema fails alone does not depend on the order of the document. In a run over the
document it fails then too, unless the failure is concealed: what was recorded before its turn stands
between it and every obstacle. That does depend on the order, and it is the only reason why other
schemas may fail in another order (`Document.failures_agree_iff`). It takes a cycle of references with an
obstacle behind it.
-/

namespace SchemaTypings

open Lowering

namespace Document

variable {raw raw' : Json} {document document' : Document} {options : Options} {pointer : String}

/-- A run over the document reports a failure at the pointer. -/
def Fails (document : Document) (options : Options) (pointer : String) : Prop :=
  ∃ failure ∈ (lowerSequentially document options).failures, failure.pointer = pointer

/-- The named schema at the pointer fails alone. -/
def Broken (document : Document) (options : Options) (pointer : String) : Prop :=
  ∃ entry ∈ document.named, entry.pointer = pointer ∧
    ¬entry.Granted document options (fun _ => False)

/-- The named schema at the pointer fails alone, which is concealed at its turn. -/
def Conceals (document : Document) (options : Options) (pointer : String) : Prop :=
  ∃ before entry after, document.named = before ++ entry :: after ∧ entry.pointer = pointer ∧
    entry.Concealed document options (.afterAll document options before)

theorem fails_iff_turn : document.Fails options pointer ↔ ∃ before entry after,
    document.named = before ++ entry :: after ∧ entry.pointer = pointer ∧ ∃ error,
      entry.outcome document options (.afterAll document options before) = .error error := by
  rw [Fails, (Report.lowerSequentially_eq document options).2]
  constructor
  · rintro ⟨failure, hfailure, rfl⟩
    obtain ⟨⟨entry, result⟩, houtcome, hresult⟩ := List.mem_filterMap.mp hfailure
    obtain ⟨before, after, hnamed, rfl⟩ := Report.mem_outcomesFrom.mp houtcome
    unfold Report.failure? at hresult
    split at hresult
    · cases hresult
    · rename_i error herror
      cases hresult
      exact ⟨before, entry, after, hnamed, rfl, error, herror⟩
  · rintro ⟨before, entry, after, hnamed, rfl, error, herror⟩
    refine ⟨⟨entry.name, entry.pointer, error⟩, List.mem_filterMap.mpr ⟨(entry, .error error), ?_, rfl⟩,
      rfl⟩
    exact Report.mem_outcomesFrom.mpr ⟨before, after, hnamed, herror.symm⟩

/-- No two named schemas have one turn in common, if no two have one pointer in common. -/
theorem before_eq_of_pointer (hpointers : (document.named.map (·.pointer)).Nodup)
    {before before' after after' : List NamedSchema} {entry entry' : NamedSchema}
    (hnamed : document.named = before ++ entry :: after)
    (hnamed' : document.named = before' ++ entry' :: after')
    (hpointer : entry.pointer = entry'.pointer) : entry = entry' ∧ before = before' := by
  have hentry : entry = entry' := List.inj_on_of_nodup_map hpointers (by simp [hnamed])
    (by simp [hnamed']) hpointer
  subst hentry
  have hnodup := hpointers.of_map
  rw [hnamed, List.nodup_append, List.nodup_cons] at hnodup
  have hbefore : entry ∉ before := fun hmem => hnodup.2.2 entry hmem entry (by simp) rfl
  have happend := hnamed.symm.trans hnamed'
  exact ⟨rfl, ((List.append_cons_inj_of_notMem hbefore hnodup.2.1.1).mp happend).1⟩

/-- A named schema fails exactly if it fails alone and that is not concealed. -/
theorem fails_iff (h : ofJson raw = .ok document)
    (hpointers : (document.named.map (·.pointer)).Nodup) :
    document.Fails options pointer ↔
      document.Broken options pointer ∧ ¬document.Conceals options pointer := by
  have hlocal := local_of_ofJson h
  rw [fails_iff_turn]
  constructor
  · rintro ⟨before, entry, after, hnamed, rfl, herror⟩
    obtain ⟨halone, hconcealed⟩ := (NamedSchema.fails_iff hlocal).mp herror
    refine ⟨⟨entry, by simp [hnamed], rfl, halone⟩, ?_⟩
    rintro ⟨before', entry', after', hnamed', hpointer, hconcealed'⟩
    obtain ⟨rfl, rfl⟩ := before_eq_of_pointer hpointers hnamed hnamed' hpointer.symm
    exact hconcealed hconcealed'
  · rintro ⟨⟨entry, hentry, rfl, halone⟩, hconceals⟩
    obtain ⟨before, after, hnamed⟩ := List.append_of_mem hentry
    refine ⟨before, entry, after, hnamed, rfl, (NamedSchema.fails_iff hlocal).mpr ⟨halone, ?_⟩⟩
    exact fun hconcealed => hconceals ⟨before, entry, after, hnamed, rfl, hconcealed⟩

theorem Agrees.granted_iff (h : document.Agrees document') {recorded : String → Prop}
    {entry : NamedSchema} :
    entry.Granted document options recorded ↔ entry.Granted document' options recorded := by
  unfold NamedSchema.Granted NamedSchema.demands
  rw [declareDemands_congr h.resolve]
  exact forall₂_congr fun demand _ => grants_congr h.resolve

theorem Agrees.broken_iff (h : document.Agrees document') :
    document.Broken options pointer ↔ document'.Broken options pointer := by
  unfold Broken
  simp only [h.named.mem_iff, h.granted_iff]

theorem Agrees.untangled (h : document.Agrees document') (huntangled : document.Untangled options) :
    document'.Untangled options := by
  intro entry hentry reference hleads hreturns
  obtain ⟨target, next, htarget, hmention, hback⟩ := hreturns
  have hsound : document.Sound options reference :=
    huntangled entry (h.named.mem_iff.mpr hentry) reference ((leads_congr h.resolve).mpr hleads)
      ⟨target, next, h.resolve ▸ htarget, hmention, (leads_congr h.resolve).mpr hback⟩
  exact (grants_congr h.resolve).mp hsound

theorem Untangled.not_conceals (h : ofJson raw = .ok document)
    (hpointers : (document.named.map (·.pointer)).Nodup) (huntangled : document.Untangled options) :
    ¬document.Conceals options pointer := by
  rintro ⟨before, entry, after, hnamed, -, hconcealed⟩
  exact NamedSchema.not_concealed h hpointers huntangled hnamed hconcealed

theorem Conceals.broken (h : document.Conceals options pointer) : document.Broken options pointer := by
  obtain ⟨before, entry, after, hnamed, hpointer, hconcealed⟩ := h
  exact ⟨entry, by simp [hnamed], hpointer, hconcealed.1⟩

/-- With the named schemas in another order, the same ones fail alone, and those of them fail in a run
over the document whose failure is not concealed. So the same ones fail in both orders exactly if the
same failures are concealed, which is so if no cycle of references has an obstacle behind it. -/
theorem failures_agree_iff (hreordered : Reordered raw raw') (h : ofJson raw = .ok document)
    (h' : ofJson raw' = .ok document') (hkeys : KeysDistinct raw) (options : Options) :
    (∀ pointer, document.Broken options pointer ↔ document'.Broken options pointer) ∧
      (∀ pointer, document.Fails options pointer ↔
        document.Broken options pointer ∧ ¬document.Conceals options pointer) ∧
      ((∀ pointer, document.Fails options pointer ↔ document'.Fails options pointer) ↔
        ∀ pointer, document.Conceals options pointer ↔ document'.Conceals options pointer) ∧
      (document.Untangled options →
        ∀ pointer, document.Fails options pointer ↔ document'.Fails options pointer) := by
  obtain ⟨found, hfound, hagrees⟩ := hreordered.exists_document h
  obtain rfl := Except.ok.inj (hfound.symm.trans h')
  have hpointers := pointers_nodup h hkeys
  have hpointers' : (found.named.map (·.pointer)).Nodup :=
    (hagrees.named.map _).nodup_iff.mp hpointers
  have hsame : (∀ pointer, document.Fails options pointer ↔ found.Fails options pointer) ↔
      ∀ pointer, document.Conceals options pointer ↔ found.Conceals options pointer := by
    refine forall_congr' fun pointer => ?_
    rw [fails_iff h hpointers, fails_iff h' hpointers', ← hagrees.broken_iff]
    have hbroken : document.Conceals options pointer → document.Broken options pointer :=
      Conceals.broken
    have hbroken' : found.Conceals options pointer → document.Broken options pointer :=
      fun hconceals => hagrees.broken_iff.mpr hconceals.broken
    tauto
  refine ⟨fun pointer => hagrees.broken_iff, fun pointer => fails_iff h hpointers, hsame,
    fun huntangled => hsame.mpr fun pointer => ?_⟩
  exact iff_of_false (huntangled.not_conceals h hpointers)
    ((hagrees.untangled huntangled).not_conceals h' hpointers')

/-! ## A cycle that is concealed -/

/-- An object whose properties are references. -/
def referrer (properties : List (String × String)) : Json :=
  .obj [("properties", .obj (properties.map fun (name, target) => (name, .obj [("$ref", .str target)])))]

/-- Two schemas that refer to each other, the first one also to nothing. -/
def cycleStart : String × Json := ("A", referrer [("b", "#/$defs/B"), ("x", "#/$defs/M")])

/-- The second one of the two. -/
def cycleEnd : String × Json := ("B", referrer [("a", "#/$defs/A")])

/-- A schema that refers to the second one. -/
def onlooker : String × Json := ("C", referrer [("b", "#/$defs/B")])

/-- After the first of two schemas that refer to each other has failed, a reference to the second one
stays recorded until that one fails, and conceals the failure of a third schema that comes in
between. -/
theorem conceals_by_order : ∃ document document',
    ofJson (.obj [("$defs", .obj [cycleStart, onlooker, cycleEnd])]) = .ok document ∧
    ofJson (.obj [("$defs", .obj [cycleStart, cycleEnd, onlooker])]) = .ok document' ∧
    ¬∀ pointer, document.Conceals {} pointer ↔ document'.Conceals {} pointer := by
  have hrun : ((ofJson (.obj [("$defs", .obj [cycleStart, onlooker, cycleEnd])])).toOption.any
      fun document => (lowerSequentially document {}).failures.map (·.pointer) =
        ["#/$defs/A", "#/$defs/B"]) = true := by decide +kernel
  have hrun' : ((ofJson (.obj [("$defs", .obj [cycleStart, cycleEnd, onlooker])])).toOption.any
      fun document => (lowerSequentially document {}).failures.map (·.pointer) =
        ["#/$defs/A", "#/$defs/B", "#/$defs/C"]) = true := by decide +kernel
  obtain ⟨document, hdocument, hrun⟩ := Decode.exists_ok_of_any hrun
  obtain ⟨document', hdocument', hrun'⟩ := Decode.exists_ok_of_any hrun'
  have hfailures := of_decide_eq_true hrun
  have hfailures' := of_decide_eq_true hrun'
  have hreordered : Reordered (.obj [("$defs", .obj [cycleStart, onlooker, cycleEnd])])
      (.obj [("$defs", .obj [cycleStart, cycleEnd, onlooker])]) := by
    refine .single ⟨"/$defs", by simp [sections], ["$defs"], by decide +kernel, ?_⟩
    have hhere : Json.Reordered [] (.obj [cycleStart, onlooker, cycleEnd])
        (.obj [cycleStart, cycleEnd, onlooker]) := .here ((List.Perm.swap _ _ _).cons _) (by decide)
    show Json.Reordered ["$defs"] (.obj ([] ++ ("$defs", _) :: [])) (.obj ([] ++ ("$defs", _) :: []))
    exact .member List.not_mem_nil hhere
  have hagree := (failures_agree_iff hreordered hdocument hdocument' (by decide +kernel) {}).2.2.1
  refine ⟨document, document', hdocument, hdocument', fun hconceals => ?_⟩
  have hfails : document.Fails {} "#/$defs/C" ↔ document'.Fails {} "#/$defs/C" :=
    hagree.mpr hconceals "#/$defs/C"
  have hmem : ∀ document : Document, document.Fails {} "#/$defs/C" ↔
      "#/$defs/C" ∈ (lowerSequentially document {}).failures.map (·.pointer) := by
    intro document
    rw [Fails, List.mem_map]
  rw [hmem, hmem, hfailures, hfailures'] at hfails
  simp at hfails

end Document

end SchemaTypings
