import Mathlib.Data.List.Induction
import SchemaTypings.Proofs.Lowering.UndisturbedReference
import SchemaTypings.Proofs.Report.Concealed

/-!
# Undisturbed turns

What others left in the store makes no difference to a named schema if the recorded references that it
meets are clear, and the names that it claims are used by none of them. The schema has the outcome then
that it has alone (`NamedSchema.Undisturbed.outcome_eq`). This is so at every turn if the schemas of the
document stand apart (`Document.Apart.undisturbed`).
-/

namespace SchemaTypings

open LowerM Lowering Relation

variable {raw : Json} {document : Document} {options : Options} {entry : NamedSchema} {store : Store}

namespace NamedSchema

/-- The named schema meets the reference without passing its own, or the reference is its own. -/
def Met (document : Document) (options : Options) (entry : NamedSchema) (reference : String) : Prop :=
  reference = entry.pointer ∨ ∃ first, .follow first ∈ entry.demands document options ∧
    document.Leads (· = entry.pointer) first reference

/-- What others left in the store makes no difference to the named schema: the recorded references
that it meets are clear, and none of the names that it claims alone is used, unless it is
reserved. -/
structure Undisturbed (document : Document) (options : Options) (store : Store) (entry : NamedSchema) :
    Prop where
  recorded : ∀ reference, entry.Met document options reference → store.Records reference →
    document.Clear options entry.pointer reference
  claimed : ∀ name ∈ ((Store.fresh document).afterNamed document options entry).usedNames,
    name ∈ store.usedNames → name ∈ document.reservedNames

theorem Met.next {reference next : String} {target : Schema}
    (hmet : entry.Met document options reference) (hne : reference ≠ entry.pointer)
    (htarget : document.resolve? reference = some target) (hmention : target.Mentions next) :
    entry.Met document options next := by
  obtain ⟨first, hfirst, hleads⟩ := hmet.resolve_left hne
  by_cases hnext : next = entry.pointer
  · exact Or.inl hnext
  · exact Or.inr ⟨first, hfirst, hleads.trans (.step hne htarget hmention (.refl hnext))⟩

/-- At a turn at which it is not disturbed, the run of a named schema goes side by side with the one that
it has alone. -/
theorem Undisturbed.endAlike (hundisturbed : entry.Undisturbed document options store)
    (h : Document.ofJson raw = .ok document) (hentry : entry ∈ document.named)
    (hchanges : ReflTransGen (Store.Change document) (.fresh document) store) :
    EndAlike (Store.Alike document options entry.pointer (entry.Met document options)
        (fun name => name ∈ store.usedNames ∧ name ∉ document.reservedNames) False)
      ((declare (Name.pascal entry.name) entry.schema).runWith
        (.within document options [] [entry.pointer] 0) store)
      ((declare (Name.pascal entry.name) entry.schema).runWith
        (.within document options [] [entry.pointer] 0) (.fresh document)) := by
  have hfixed : document.Fixed entry.pointer :=
    Or.inl (Document.isNamed_iff.mpr ⟨entry, hentry, rfl⟩)
  have halike : store.Alike document options entry.pointer (entry.Met document options)
      (fun name => name ∈ store.usedNames ∧ name ∉ document.reservedNames) False
      (.fresh document) := by
    refine ⟨fun reference hmet => ?_, False.elim, Store.names_of_changes hchanges,
      fun name hname => ?_⟩
    · by_cases hrecords : store.Records reference
      · exact Or.inr (hundisturbed.recorded reference hmet hrecords)
      · exact Or.inl (Store.not_records_iff.mp hrecords)
    · by_cases hreserved : name ∈ document.reservedNames
      · exact Or.inl hreserved
      · exact Or.inr ⟨hname, hreserved⟩
  have hdeclare : SchemaTypings.Undisturbed document options entry.pointer (entry.Met document options)
      (fun name => name ∈ store.usedNames ∧ name ∉ document.reservedNames) [entry.pointer] 0
      (declare (Name.pascal entry.name) entry.schema) (entry.demands document options) :=
    (Undisturbed.rules h (fun _ _ _ => Met.next) hfixed).declare _ entry.schema
  refine hdeclare.agrees [] store (.fresh document) (by simp) (fun reference hdemand => ?_)
    (Store.canonical_fresh.changes h hchanges) Store.canonical_fresh halike
    fun name hname hforeign => ?_
  · by_cases hreference : reference = entry.pointer
    · exact Or.inl hreference
    · exact Or.inr ⟨reference, hdemand, .refl hreference⟩
  · rw [← usedNames_afterNamed] at hname
    exact hforeign.2 (hundisturbed.claimed name hname hforeign.1)

theorem Undisturbed.outcome_eq (hundisturbed : entry.Undisturbed document options store)
    (h : Document.ofJson raw = .ok document) (hentry : entry ∈ document.named)
    (hchanges : ReflTransGen (Store.Change document) (.fresh document) store) :
    entry.outcome document options store = entry.outcome document options (.fresh document) := by
  rw [NamedSchema.outcome_eq, NamedSchema.outcome_eq, (hundisturbed.endAlike h hentry hchanges).fst_eq]

/-- Then the names that it leaves are those that it found, and those that it claims alone. -/
theorem Undisturbed.usedNames (hundisturbed : entry.Undisturbed document options store)
    (h : Document.ofJson raw = .ok document) (hentry : entry ∈ document.named)
    (hchanges : ReflTransGen (Store.Change document) (.fresh document) store) {name : String}
    (hname : name ∈ (store.afterNamed document options entry).usedNames) :
    name ∈ ((Store.fresh document).afterNamed document options entry).usedNames ∨
      name ∈ store.usedNames := by
  rw [usedNames_afterNamed] at hname ⊢
  exact ((hundisturbed.endAlike h hentry hchanges).related.others name hname).imp_right And.left

end NamedSchema

theorem Store.changes_afterAll {entries : List NamedSchema} (hentries : entries ⊆ document.named) :
    ReflTransGen (Change document) (.fresh document) (.afterAll document options entries) := by
  have hfold : ∀ store, ReflTransGen (Change document) store
      (entries.foldl (Store.afterNamed document options) store) := by
    induction entries with
    | nil => exact fun store => .refl
    | cons entry rest ih =>
      intro store
      have hfirst : ReflTransGen (Change document) store (store.afterNamed document options entry) :=
        Changes.lowerNamed (hentries (by simp)) [] store
      exact hfirst.trans (ih (fun _ h => hentries (by simp [h])) _)
  exact hfold _

/-! ## Schemas that stand apart -/

/-- The named schemas of a document stand apart: no cycle of references has an obstacle behind it, the
document fixes the names of all references that they lead to, and no two of them claim one name. -/
structure Document.Apart (document : Document) (options : Options) : Prop where
  untangled : document.Untangled options
  fixed : ∀ entry ∈ document.named, ∀ reference,
    document.Leads (fun _ => False) entry.pointer reference → document.Fixed reference
  names : document.named.Pairwise fun first second =>
    ∀ name ∈ ((Store.fresh document).afterNamed document options first).usedNames,
      name ∈ ((Store.fresh document).afterNamed document options second).usedNames →
        name ∈ document.reservedNames

theorem NamedSchema.Met.leads (hpointers : (document.named.map (·.pointer)).Nodup)
    (hentry : entry ∈ document.named) {reference : String}
    (h : entry.Met document options reference) :
    document.Leads (fun _ => False) entry.pointer reference := by
  rcases h with rfl | ⟨first, hfirst, hleads⟩
  · exact .refl id
  · exact (leads_of_mem_demands hpointers hentry hfirst).trans (hleads.mono fun _ => False.elim)

/-- A named schema is not disturbed at its turn if the names used there are reserved, or claimed by one of
the schemas before it. -/
theorem Document.Apart.undisturbed_of_names (hapart : document.Apart options)
    (h : Document.ofJson raw = .ok document) (hpointers : (document.named.map (·.pointer)).Nodup)
    {before after : List NamedSchema} (hnamed : document.named = before ++ entry :: after)
    (hnames : ∀ name ∈ (Store.afterAll document options before).usedNames,
      name ∈ document.reservedNames ∨ ∃ other ∈ before,
        name ∈ ((Store.fresh document).afterNamed document options other).usedNames) :
    entry.Undisturbed document options (.afterAll document options before) := by
  have hentry : entry ∈ document.named := by simp [hnamed]
  have hsound : (Store.afterAll document options before).Sound document options [] :=
    Store.sound_afterAll h hpointers hapart.untangled fun _ hmem => by simp [hnamed, hmem]
  refine ⟨fun reference hmet hrecords last hleads => ⟨?_, ?_⟩, fun name hname hused => ?_⟩
  · exact hsound reference hrecords (by simp) last (hleads.mono fun _ => False.elim)
  · exact hapart.fixed entry hentry last
      ((hmet.leads hpointers hentry).trans (hleads.mono fun _ => False.elim))
  · rcases hnames name hused with hreserved | ⟨other, hother, hclaimed⟩
    · exact hreserved
    · have hpairs := hapart.names
      rw [hnamed, List.pairwise_append] at hpairs
      exact hpairs.2.2 other hother entry (by simp) name hclaimed hname

/-- The names used at a turn are reserved, or claimed by one of the schemas before it. -/
theorem Document.Apart.names_afterAll (hapart : document.Apart options)
    (h : Document.ofJson raw = .ok document) (hpointers : (document.named.map (·.pointer)).Nodup)
    {before after : List NamedSchema} (hnamed : document.named = before ++ after) :
    ∀ name ∈ (Store.afterAll document options before).usedNames,
      name ∈ document.reservedNames ∨ ∃ other ∈ before,
        name ∈ ((Store.fresh document).afterNamed document options other).usedNames := by
  induction before using List.reverseRecOn generalizing after with
  | nil => exact fun name hname => Or.inl hname
  | append_singleton before entry ih =>
    rw [List.append_assoc, List.singleton_append] at hnamed
    have hbefore := ih hnamed
    have hundisturbed := hapart.undisturbed_of_names h hpointers hnamed hbefore
    have hchanges : ReflTransGen (Store.Change document) (.fresh document)
        (.afterAll document options before) :=
      Store.changes_afterAll fun _ hmem => by simp [hnamed, hmem]
    intro name hname
    rw [Store.afterAll, List.foldl_append] at hname
    rcases hundisturbed.usedNames h (by simp [hnamed]) hchanges hname with hclaimed | hused
    · exact Or.inr ⟨entry, by simp, hclaimed⟩
    · exact (hbefore name hused).imp_right fun ⟨other, hother, hclaimed⟩ =>
        ⟨other, List.mem_append_left _ hother, hclaimed⟩

/-- Where the named schemas stand apart, none is disturbed at its turn. -/
theorem Document.Apart.undisturbed (hapart : document.Apart options)
    (h : Document.ofJson raw = .ok document) (hpointers : (document.named.map (·.pointer)).Nodup)
    {before after : List NamedSchema} (hnamed : document.named = before ++ entry :: after) :
    entry.Undisturbed document options (.afterAll document options before) :=
  hapart.undisturbed_of_names h hpointers hnamed (hapart.names_afterAll h hpointers hnamed)

end SchemaTypings
