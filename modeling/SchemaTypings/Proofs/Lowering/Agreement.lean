import SchemaTypings.Proofs.Document.Aliases
import SchemaTypings.Proofs.Lowering.Calls
import SchemaTypings.Proofs.Lowering.Changes

/-!
# Types do not depend on the run

The name of a reference comes from one of four places: what is recorded for it, the alias reserved for
it, its last segment, or a fresh name. For a reference whose name is fixed by the document all of them
give that name, in every store that lowering can make (`Store.Canonical`), so a schema with no other
references has the same type wherever it is described with success (`Context.descriptions_agree`).
-/

namespace SchemaTypings

open LowerM Lowering Relation

variable {raw : Json} {document : Document} {options : Options}

/-! ## Recorded names -/

namespace Store

variable {store after : Store}

/-- What is recorded for a reference whose name is fixed is that name. -/
def Canonical (document : Document) (store : Store) : Prop :=
  ∀ reference name, document.Fixed reference → store.types.lookup reference = some name →
    name = document.fixedName reference

theorem canonical_fresh : (fresh document).Canonical document := by
  intro reference name _ h
  cases h

theorem Canonical.record (hcanonical : store.Canonical document) {reference name : String}
    (hname : document.Fixed reference → name = document.fixedName reference) :
    (store.record reference name).Canonical document := by
  intro other found hfixed hfound
  rw [lookup_record] at hfound
  split at hfound
  · rename_i heq
    subst heq
    cases hlookup : store.types.lookup other with
    | none =>
      rw [hlookup] at hfound
      exact Option.some.inj hfound ▸ hname hfixed
    | some recorded =>
      rw [hlookup] at hfound
      exact Option.some.inj hfound ▸ hcanonical other recorded hfixed hlookup
  · exact hcanonical other found hfixed hfound

theorem Canonical.change (h : Document.ofJson raw = .ok document)
    (hcanonical : store.Canonical document) (hchange : Change document store after) :
    after.Canonical document := by
  cases hchange with
  | dependencies | warnings | claim | declare => exact hcanonical
  | forget reference =>
    intro other found hfixed hfound
    rw [lookup_forget] at hfound
    split at hfound
    · cases hfound
    · exact hcanonical other found hfixed hfound
  | recordNamed hnamed =>
    exact hcanonical.record fun _ => (Document.fixedName_of_isNamed h hnamed).symm
  | @recordEntry entry hentry =>
    refine hcanonical.record fun _ => ?_
    have hnamed : document.isNamed entry.pointer := Document.isNamed_iff.mpr ⟨entry, hentry, rfl⟩
    rw [Document.fixedName_of_isNamed h hnamed, Document.ofReference_pointer h hentry]
  | @recordBelow reference name hnamed hname =>
    refine hcanonical.record fun hfixed => ?_
    obtain ⟨reserved, hreserved⟩ := Option.isSome_iff_exists.mp (hfixed.resolve_left hnamed)
    rw [hname reserved hreserved, Document.fixedName, hreserved, Option.getD_some]

theorem Canonical.changes (h : Document.ofJson raw = .ok document)
    (hcanonical : store.Canonical document) (hchanges : ReflTransGen (Change document) store after) :
    after.Canonical document := by
  induction hchanges with
  | refl => exact hcanonical
  | tail _ hchange ih => exact ih.change h hchange

end Store

/-! ## Names of references -/

namespace Lowering

variable {path visited : List String} {depth : Nat} {store after : Store} {reference : String}

theorem forwardName_eq_fixedName (hcanonical : store.Canonical document)
    (hfixed : document.Fixed reference) :
    (store.types.lookup reference <|> document.alias? reference).getD (Name.ofReference reference) =
      document.fixedName reference := by
  cases hlookup : store.types.lookup reference with
  | none => rfl
  | some recorded => exact hcanonical reference recorded hfixed hlookup

/-- In a canonical store, a reference whose name is fixed resolves to no other name, be it recorded,
being resolved, or new. -/
theorem name_eq_fixedName (h : Document.ofJson raw = .ok document)
    (hcanonical : store.Canonical document) (hfixed : document.Fixed reference) {active : Nat}
    {resolution : Resolution}
    (hrun : (resolveWithin active reference).runWith (.within document options path visited depth)
      store = (.ok resolution, after)) : resolution.name = document.fixedName reference := by
  have hforward : (Lowering.forwardReference reference).runWith
      (.within document options path visited depth) store = (.ok resolution, after) →
        resolution.name = document.fixedName reference := by
    intro hrun
    rw [runWith_forwardReference] at hrun
    cases hrun
    exact forwardName_eq_fixedName hcanonical hfixed
  cases active with
  | zero => exact hforward hrun
  | succ active =>
    by_cases hvisited : reference ∈ visited
    · rw [runWith_resolveWithin_of_mem _ hvisited] at hrun
      exact hforward hrun
    · rw [runWith_resolveWithin_of_not_mem _ hvisited, resolveNew, runWith_bind_eq_ok] at hrun
      obtain ⟨name, between, hfresh, hrest⟩ := hrun
      cases hrest
      rw [runWith_withVisited_of_not_mem _ hvisited, runWith_resolveFresh] at hfresh
      split at hfresh
      · rename_i hlookup
        cases hfresh
        exact hcanonical reference _ hfixed hlookup
      · cases hfresh
      · split at hfresh
        · rename_i hnamed
          obtain ⟨_, _, _, rfl, _⟩ := resolveNamed_eq_ok.mp hfresh
          exact (Document.fixedName_of_isNamed h hnamed).symm
        · rename_i hnamed
          obtain ⟨_, _, _, _, rfl, _⟩ := resolveBelow_eq_ok.mp hfresh
          obtain ⟨reserved, hreserved⟩ := Option.isSome_iff_exists.mp (hfixed.resolve_left hnamed)
          simp [Store.nameBelow, Document.fixedName, hreserved]

theorem resolvedName_eq_fixedName (h : Document.ofJson raw = .ok document) (scope : Scope)
    (hcanonical : store.Canonical document) (hfixed : document.Fixed reference)
    {resolution : Resolution}
    (hrun : (resolveReference reference).runWith ⟨document, options, scope⟩ store =
      (.ok resolution, after)) : resolution.name = document.fixedName reference :=
  name_eq_fixedName h hcanonical hfixed (runWith_resolveReference.symm.trans hrun)

end Lowering

/-! ## Type expressions -/

/-- The step leaves a canonical store canonical; and if the names of the references that it follows are
fixed, its successes agree, wherever and from whatever canonical stores it is run. -/
structure Settles (document : Document) (options : Options) {α : Type} (_ : List String) (_ : Nat)
    (step : LowerM α) (demands : List Demand) : Prop where
  keeps (scope : Scope) {store : Store} : store.Canonical document →
    (step.runWith ⟨document, options, scope⟩ store).2.Canonical document
  agrees : (∀ reference, .follow reference ∈ demands → document.Fixed reference) →
    ∀ {scope scope' : Scope} {store store' after after' : Store} {value value' : α},
      store.Canonical document → store'.Canonical document →
        step.runWith ⟨document, options, scope⟩ store = (.ok value, after) →
          step.runWith ⟨document, options, scope'⟩ store' = (.ok value', after') → value = value'

namespace Settles

variable {visited : List String} {depth : Nat} {α β : Type} {step : LowerM α}
  {demands others : List Demand}

theorem const (h : ∀ setting store, (step.runWith setting store).2.types = store.types)
    (hvalue : ∀ {setting setting' store store' value value'},
      (step.runWith setting store).1 = .ok value → (step.runWith setting' store').1 = .ok value' →
        value = value') :
    Settles document options visited depth step demands where
  keeps _ _ hcanonical := by
    rw [Store.Canonical, h]
    exact hcanonical
  agrees _ _ _ _ _ _ _ _ _ _ _ hrun hrun' :=
    hvalue (congrArg Prod.fst hrun) (congrArg Prod.fst hrun')

theorem bind {next : α → LowerM β} (h : Settles document options visited depth step demands)
    (hnext : ∀ value, Settles document options visited depth (next value) others) :
    Settles document options visited depth (step >>= next) (demands ++ others) where
  keeps scope store hcanonical := by
    have hstep := h.keeps scope hcanonical
    rw [runWith_bind]
    rcases hrun : step.runWith ⟨document, options, scope⟩ store with ⟨_ | value, between⟩ <;>
      rw [hrun] at hstep
    · exact hstep
    · exact (hnext value).keeps scope hstep
  agrees hfixed scope scope' store store' after after' value value' hcanonical hcanonical' hrun
      hrun' := by
    obtain ⟨first, between, hstep, hrest⟩ := runWith_bind_eq_ok.mp hrun
    obtain ⟨first', between', hstep', hrest'⟩ := runWith_bind_eq_ok.mp hrun'
    obtain rfl := h.agrees (fun reference h => hfixed reference (List.mem_append_left _ h))
      hcanonical hcanonical' hstep hstep'
    have hbetween := h.keeps scope hcanonical
    have hbetween' := h.keeps scope' hcanonical'
    rw [hstep] at hbetween
    rw [hstep'] at hbetween'
    exact (hnext first).agrees (fun reference h => hfixed reference (List.mem_append_right _ h))
      hbetween hbetween' hrest hrest'

theorem inFrame (frame : Frame) (h : Settles document options visited depth step demands)
    {visited' : List String} {depth' : Nat} :
    Settles document options visited' depth' (inFrame frame step) demands :=
  ⟨fun scope _ hcanonical => h.keeps (frame.enter scope) hcanonical, fun hfixed _ _ _ _ _ _ _ _
    hcanonical hcanonical' hrun hrun' => h.agrees hfixed hcanonical hcanonical' hrun hrun'⟩

theorem descend (segment : String)
    (h : Settles document options visited (depth + 1) step demands) :
    Settles document options visited depth (LowerM.descend segment step)
      (options.levelDemands depth ++ demands) where
  keeps scope store hcanonical := by
    rw [runWith_descend]
    split
    · exact hcanonical
    · exact h.keeps _ hcanonical
  agrees hfixed scope scope' store store' after after' value value' hcanonical hcanonical' hrun
      hrun' := by
    rw [runWith_descend] at hrun hrun'
    split at hrun
    · cases hrun
    · split at hrun'
      · cases hrun'
      · exact h.agrees (fun reference h => hfixed reference (List.mem_append_right _ h))
          hcanonical hcanonical' hrun hrun'

theorem inlineRules : InlineRules options (Settles document options) where
  congr h hsame := ⟨h.keeps, fun hfixed => h.agrees fun reference hdemand =>
    hfixed reference ((hsame _).mp hdemand)⟩
  pure value := const (fun _ _ => rfl) fun h h' => (Except.ok.inj h).symm.trans (Except.ok.inj h')
  bind := bind
  readOptions h := ⟨h.keeps, h.agrees⟩
  refuse error := const (fun _ _ => rfl) fun h _ => by cases h
  warn _ := const (fun _ _ => rfl) fun _ _ => rfl
  withSegment segment h := h.inFrame _
  descend := descend

theorem referenceName (h : Document.ofJson raw = .ok document) (reference : String) :
    Settles document options visited depth (referenceName reference) [.follow reference] where
  keeps scope store hcanonical := by
    have hchanges : Changes document options scope.visited scope.depth
        (Lowering.referenceName reference) [.follow reference] := Changes.rules.referenceName reference
    exact hcanonical.changes h (hchanges.run scope.path store)
  agrees hfixed scope scope' store store' after after' value value' hcanonical hcanonical' hrun
      hrun' := by
    have hname := hfixed reference (by simp)
    obtain ⟨resolution, between, hresolve, hvalue⟩ := runWith_bind_eq_ok.mp hrun
    obtain ⟨resolution', between', hresolve', hvalue'⟩ := runWith_bind_eq_ok.mp hrun'
    cases hvalue
    cases hvalue'
    rw [resolvedName_eq_fixedName h scope hcanonical hname hresolve,
      resolvedName_eq_fixedName h scope' hcanonical' hname hresolve']

theorem describe (h : Document.ofJson raw = .ok document) (visited : List String) (depth : Nat)
    (schema : Schema) :
    Settles document options visited depth (describe schema) (schema.demands options depth) :=
  inlineRules.map _ (inlineRules.typeOf fun reference _ _ => referenceName h reference)

end Settles

/-! ## Changes at every moment -/

namespace Store.Change

variable {visited : List String} {depth : Nat} {path : List String} {start store : Store}

/-- That a store comes from another one by changes is an invariant of lowering, and what every step
keeps. -/
theorem discipline (document : Document) (start : Store) :
    Discipline document (fun _ => ReflTransGen (Change document) start)
      fun _ => ReflTransGen (Change document) where
  refl _ _ := .refl
  trans := .trans
  dependencies _ h := h.tail (.dependencies _ _)
  depend _ store _ := .single (.dependencies store _)
  enclosed _ h := .head (.dependencies _ []) (h.tail (.dependencies _ _))
  warned {_ store} _ h := ⟨h.tail (.warnings store _), .single (.warnings store _)⟩
  claim {_ store} base h := ⟨h.tail (.claim store base), .single (.claim store base)⟩
  visit _ h := h
  named hnamed _ h hkeeps :=
    ⟨⟨h, hkeeps⟩, h.tail (.recordNamed _ hnamed), hkeeps.tail (.recordNamed _ hnamed)⟩
  enterBelow hnamed _ _ h := h.trans (changes_enterBelow hnamed _)
  leaveBelow {_ store inner reference} hnamed _ _ _ h hkeeps :=
    have hchanges := (changes_enterBelow hnamed store).trans hkeeps
    ⟨⟨h.tail (.forget inner reference), hchanges.tail (.forget inner reference)⟩,
      fun declaration _ =>
        ⟨h.tail (.declare inner declaration), hchanges.tail (.declare inner declaration)⟩⟩

/-- At every moment of a call, the store comes from the one before the call by changes. -/
theorem through_call {call : Call} (hcall : call.IsOf document)
    (hsafe : Scope.Safe options (fun _ => ReflTransGen (Change document) start)
      ⟨path, visited, depth⟩ store) :
    call.step.Through (Scope.Safe options fun _ => ReflTransGen (Change document) start)
      (.within document options path visited depth) store fun _ _ => True := by
  cases hown : call.ownPointer? with
  | none =>
    obtain ⟨demands, hcalls⟩ := Upholds.call (discipline document start) options visited depth call hown
    exact (hcalls path store hsafe).mono fun _ _ _ _ => trivial
  | some pointer =>
    obtain ⟨entry, rfl⟩ := Call.eq_lowerNamed hown
    refine Upholds.lowerNamed (discipline document start) hsafe (fun _ _ h hkeeps => ⟨h, hkeeps⟩) ?_ ?_
    · intro inner _ hleaves
      exact ⟨hleaves.1.tail (.recordEntry inner hcall), trivial⟩
    · intro inner _ hleaves
      exact ⟨hleaves.1.tail (.forget inner entry.pointer), trivial⟩

end Store.Change

/-! ## Contexts -/

/-- The operations of lowering. -/
inductive Lowering.IsOperation (document : Document) : {α : Type} → LowerM α → Prop
  | describe (schema : Schema) : IsOperation document (describe schema)
  | resolveReference (reference : String) : IsOperation document (resolveReference reference)
  | lowerAlias (name : String) (schema : Schema) : IsOperation document (lowerAlias name schema)
  | lowerInterface (name : String) (schema : Schema) :
    IsOperation document (lowerInterface name schema)
  | lowerEnum (name : String) (schema : Schema) : IsOperation document (lowerEnum name schema)
  | lowerUnion (name : String) (schema : Schema) : IsOperation document (lowerUnion name schema)
  | compose (name : String) (schema : Schema) : IsOperation document (compose true name schema)
  | lowerNamed {entry : NamedSchema} (hentry : entry ∈ document.named) :
    IsOperation document (lowerNamed entry)

theorem Lowering.IsOperation.changes {α : Type} {step : LowerM α} (h : IsOperation document step)
    (scope : Scope) (store : Store) : ReflTransGen (Store.Change document) store
      (step.runWith ⟨document, options, scope⟩ store).2 := by
  have hrules : Rules document options (Changes document options) := Changes.rules
  cases h with
  | describe schema => exact (hrules.describe schema).run scope.path store
  | resolveReference reference => exact (Changes.resolveReference reference).run scope.path store
  | lowerAlias name schema => exact (hrules.lowerAlias name schema).run scope.path store
  | lowerInterface name schema => exact (hrules.lowerInterface name schema).run scope.path store
  | lowerEnum name schema => exact (hrules.lowerEnum name schema).run scope.path store
  | lowerUnion name schema => exact (hrules.lowerUnion name schema).run scope.path store
  | compose name schema => exact (hrules.compose true name schema).run scope.path store
  | lowerNamed hentry => exact Changes.lowerNamed hentry scope.path store

namespace Context

/-- The contexts that operations reach over a document: from a fresh one, through operations that
succeed or fail, and at every point of them, where the scope is any and the store has undergone some of
the changes. All moments of calls are such points (`Reached.moment`). -/
inductive Reached (document : Document) (options : Options) : Context → Prop
  | fresh : Reached document options (.fresh document options)
  | operation {context : Context} {α : Type} {step : LowerM α} (h : Reached document options context)
    (hstep : IsOperation document step) : Reached document options (context.run step).2
  | point {context : Context} (h : Reached document options context) (scope : Scope) {store : Store}
    (hchange : Store.Change document context.store store) :
    Reached document options { context with scope, store }

/-- What operations reach is a store that was changed step by step, over the same document and
options. -/
theorem Reached.changes {context : Context} (h : Reached document options context) :
    context.document = document ∧ context.options = options ∧
      ReflTransGen (Store.Change document) (.fresh document) context.store := by
  induction h with
  | fresh => exact ⟨rfl, rfl, .refl⟩
  | @operation context α step _ hstep ih =>
    obtain ⟨_, _, scope, store⟩ := context
    obtain ⟨rfl, rfl, hstore⟩ := ih
    rw [run_eq]
    exact ⟨rfl, rfl, hstore.trans (hstep.changes scope store)⟩
  | point _ scope hchange ih => exact ⟨ih.1, ih.2.1, ih.2.2.tail hchange⟩

theorem Reached.of_changes {context : Context} (h : Reached document options context) (scope : Scope)
    {store : Store} (hchanges : ReflTransGen (Store.Change document) context.store store) :
    Reached document options { context with scope, store } := by
  induction hchanges with
  | refl => exact h.point scope (.dependencies context.store context.store.dependencies)
  | tail _ hchange ih => exact ih.point scope hchange

/-- What is reached is closed under calls: all moments of a call from it are reached as well. -/
theorem Reached.moment {context moment : Context} (h : Reached document options context)
    (hdepth : context.scope.depth ≤ options.maxDepth) {call : Call} (hcall : call.IsOf document)
    (hmoment : moment ∈ context.moments call.step) : Reached document options moment := by
  obtain ⟨rfl, rfl, -⟩ := h.changes
  obtain ⟨hmoments, -⟩ := (Store.Change.through_call hcall ⟨hdepth, .refl⟩).run context
  obtain ⟨hdocument, hoptions⟩ := document_of_mem_moments hmoment
  have hreached := h.of_changes moment.scope (hmoments moment hmoment).2
  rwa [← hdocument, ← hoptions] at hreached ⊢

theorem Reached.canonical (h : Document.ofJson raw = .ok document) {context : Context}
    (hreached : Reached document options context) : context.store.Canonical document :=
  Store.canonical_fresh.changes h hreached.changes.2.2

/-- In all contexts that operations reach, a schema in which all references have fixed names is
described in one way if at all, and a reference with a fixed name resolves to one name if at all,
whether it is new, recorded, or being resolved. -/
theorem descriptions_agree (h : Document.ofJson raw = .ok document) {first second : Context}
    (hfirst : Reached document options first) (hsecond : Reached document options second) :
    (∀ schema : Schema, (∀ reference, schema.Mentions reference → document.Fixed reference) →
      ∀ descriptor descriptor', (first.run (describe schema)).1 = .ok descriptor →
        (second.run (describe schema)).1 = .ok descriptor' → descriptor = descriptor') ∧
    ∀ reference, document.Fixed reference →
      ∀ resolution resolution', (first.run (resolveReference reference)).1 = .ok resolution →
        (second.run (resolveReference reference)).1 = .ok resolution' →
          resolution.name = resolution'.name := by
  have hcanonical := hfirst.canonical h
  have hcanonical' := hsecond.canonical h
  obtain ⟨rfl, rfl, -⟩ := hfirst.changes
  obtain ⟨hdocument, hoptions, -⟩ := hsecond.changes
  obtain ⟨_, _, scope, store⟩ := first
  obtain ⟨_, _, scope', store'⟩ := second
  subst hdocument hoptions
  constructor
  · intro schema hfixed descriptor descriptor' hrun hrun'
    rw [run_eq] at hrun hrun'
    exact (Settles.describe h [] 0 schema).agrees
      (fun reference hdemand => hfixed reference (Schema.follow_mem_demands.mp hdemand))
      hcanonical hcanonical' (Prod.ext hrun rfl) (Prod.ext hrun' rfl)
  · intro reference hfixed resolution resolution' hrun hrun'
    rw [run_eq] at hrun hrun'
    have hname := resolvedName_eq_fixedName h scope hcanonical hfixed (Prod.ext hrun rfl)
    have hname' := resolvedName_eq_fixedName h scope' hcanonical' hfixed (Prod.ext hrun' rfl)
    exact hname.trans hname'.symm

/-- A list that refers back to itself is described as before once it was described, which recorded the
reference. -/
theorem descriptions_agree_of_cycle : ∃ document,
    Document.ofJson (.obj [("definitions", .obj [("List", .obj [("items", .obj [("$ref",
      .str "#/definitions/List")])])])]) = .ok document ∧
    ∃ descriptor, ((fresh document {}).run (describe ⟨.ref "#/definitions/List", {}⟩)).1 =
        .ok descriptor ∧
      (((fresh document {}).run (describe ⟨.ref "#/definitions/List", {}⟩)).2.run
        (describe ⟨.ref "#/definitions/List", {}⟩)).1 = .ok descriptor := by
  have hrun : ((Document.ofJson (.obj [("definitions", .obj [("List", .obj [("items", .obj
      [("$ref", .str "#/definitions/List")])])])])).toOption.any fun document =>
        document.isNamed "#/definitions/List" &&
          (((fresh document {}).run (describe ⟨.ref "#/definitions/List", {}⟩)).1.isOk &&
            (((fresh document {}).run (describe ⟨.ref "#/definitions/List", {}⟩)).2.run
              (describe ⟨.ref "#/definitions/List", {}⟩)).1.isOk)) = true := by decide +kernel
  have hok : ∀ {result : Except LoweringError Typing.TypeDescriptor}, result.isOk = true →
      ∃ descriptor, result = .ok descriptor := by
    rintro (error | descriptor) h
    · cases h
    · exact ⟨descriptor, rfl⟩
  obtain ⟨document, hdocument, hrun⟩ := Decode.exists_ok_of_any hrun
  simp only [Bool.and_eq_true] at hrun
  obtain ⟨hnamed, hfirst, hsecond⟩ := hrun
  obtain ⟨descriptor, hdescriptor⟩ := hok hfirst
  obtain ⟨descriptor', hdescriptor'⟩ := hok hsecond
  have hfixed : ∀ reference, Schema.Mentions ⟨.ref "#/definitions/List", {}⟩ reference →
      document.Fixed reference := by
    intro reference hmention
    rcases Schema.mentions_iff.mp hmention with hkind | ⟨_, hchild, _⟩
    · cases hkind
      exact Or.inl hnamed
    · simp [Schema.children, Schema.childrenOfKind] at hchild
  have hagree := (descriptions_agree hdocument .fresh (.operation .fresh (.describe _))).1 _ hfixed
    descriptor descriptor' hdescriptor hdescriptor'
  exact ⟨document, hdocument, descriptor, hdescriptor, hagree ▸ hdescriptor'⟩

end Context

end SchemaTypings
