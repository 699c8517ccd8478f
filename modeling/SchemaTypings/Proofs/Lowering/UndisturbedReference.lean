import SchemaTypings.Proofs.Lowering.Undisturbed

/-!
# References that others do not disturb

A reference that is clear resolves in the same way wherever it was recorded. Any other one that is met is
recorded in both stores or in none, and its target is lowered side by side.
-/

namespace SchemaTypings

open LowerM Lowering

variable {raw : Json} {document : Document} {options : Options} {own : String}
  {met foreign : String → Prop} (h : Document.ofJson raw = .ok document)

namespace Undisturbed

variable {visited : List String} {depth : Nat} {α β : Type} {step : LowerM α}
  {demands : List Demand} {reference : String}

theorem withVisited (hvisited : reference ∉ visited)
    (hstep : Undisturbed document options own met foreign (visited ++ [reference]) depth step
      demands) :
    Undisturbed document options own met foreign visited depth
      (LowerM.withVisited reference step) demands where
  changes hallowed path store := by
    rw [runWith_withVisited_of_not_mem _ hvisited]
    exact hstep.changes hallowed path store
  agrees path _ store alone hown hmet hcanonical hcanonical' halike hforeign := by
    rw [runWith_withVisited_of_not_mem _ hvisited] at hforeign ⊢
    rw [runWith_withVisited_of_not_mem _ hvisited]
    exact hstep.agrees path store alone (List.mem_append_left _ hown) hmet hcanonical hcanonical' halike hforeign

theorem forwardReference (hfixed : document.Fixed own) :
    Undisturbed document options own met foreign visited depth (forwardReference reference)
      [.follow reference] where
  changes := Relates.forwardReference (Store.storeRelation_changes document) reference
  agrees path _ store alone _ hmet hcanonical hcanonical' halike _ := by
    have hname : (store.types.lookup reference <|> document.alias? reference).getD
          (Name.ofReference reference) =
        (alone.types.lookup reference <|> document.alias? reference).getD
          (Name.ofReference reference) := by
      rcases halike.types reference (hmet reference (by simp)) with heq | hclear
      · rw [heq]
      · have hreference : document.Fixed reference := by
          by_cases hne : reference = own
          · exact hne ▸ hfixed
          · exact hclear.fixed hne
        rw [forwardName_eq_fixedName hcanonical hreference,
          forwardName_eq_fixedName hcanonical' hreference]
    rw [runWith_forwardReference, runWith_forwardReference, hname]
    exact .ok _ halike.depend

include h

theorem asDeclaration (name : String)
    (hstep : Undisturbed document options own met foreign visited 0 step demands) :
    Undisturbed document options own met foreign visited depth (asDeclaration name step) demands := by
  have hisolated := (inlineRules h).map (·.1) (hstep.scopedDependencies fun outer _ => outer)
  exact ⟨Relates.asDeclaration (Store.storeRelation_changes document) name hstep.changes,
    fun path => hisolated.agrees (path ++ [name])⟩

theorem resolveNamed {target : LowerM String} (hnamed : document.isNamed reference)
    (htarget : Undisturbed document options own met foreign visited 0 target demands) :
    Undisturbed document options own met foreign visited depth (resolveNamed target reference)
      demands where
  changes := Changes.resolveNamed hnamed htarget.changes
  agrees path _ store alone hown hmet hcanonical hcanonical' halike hforeign := by
    rw [runWith_resolveNamed] at hforeign ⊢
    rw [runWith_resolveNamed]
    have hinner : ∀ name ∈ ((Lowering.asDeclaration (Name.ofReference reference) target).runWith
        (.within document options path visited depth) alone).2.usedNames, ¬foreign name := by
      intro name hname
      rcases hrun : (Lowering.asDeclaration (Name.ofReference reference) target).runWith
        (.within document options path visited depth) alone with ⟨_ | _, inner⟩ <;>
          rw [hrun] at hname hforeign <;> exact hforeign name hname
    have hstep : Undisturbed document options own met foreign visited depth
        (Lowering.asDeclaration (Name.ofReference reference) target) demands :=
      htarget.asDeclaration h _
    have hend := hstep.agrees path store alone hown hmet hcanonical hcanonical' halike hinner
    generalize (Lowering.asDeclaration (Name.ofReference reference) target).runWith
      (.within document options path visited depth) store = ending at hend
    generalize (Lowering.asDeclaration (Name.ofReference reference) target).runWith
      (.within document options path visited depth) alone = ending' at hend
    cases hend with
    | error error hafter => exact .error error hafter
    | ok type hafter => exact .ok _ hafter.record

theorem resolveBelow {target : LowerM String} (hnamed : ¬document.isNamed reference)
    (htarget : Undisturbed document options own met foreign visited 0 target demands) :
    Undisturbed document options own met foreign visited depth (resolveBelow target reference)
      demands where
  changes := Changes.resolveBelow hnamed htarget.changes
  agrees path _ store alone hown hmet hcanonical hcanonical' halike hforeign := by
    have hcollect : ∀ name, Undisturbed document options own met foreign visited depth
        (Lowering.asDeclaration name (collectDependencies target)) demands := fun name =>
      asDeclaration h name (htarget.scopedDependencies _)
    rw [runWith_resolveBelow] at hforeign ⊢
    rw [runWith_resolveBelow]
    have hinner : ∀ name ∈ ((Lowering.asDeclaration (alone.nameBelow document reference).1
        (collectDependencies target)).runWith (.within document options path visited depth)
          (alone.enterBelow document reference)).2.usedNames, ¬foreign name := by
      intro name hname
      rcases hrun : (Lowering.asDeclaration (alone.nameBelow document reference).1
        (collectDependencies target)).runWith (.within document options path visited depth)
          (alone.enterBelow document reference) with ⟨_ | ⟨_, _⟩, inner⟩ <;>
            rw [hrun] at hname hforeign <;> exact hforeign name hname
    obtain ⟨hname, henter⟩ := halike.enterBelow reference fun name hmem =>
      hinner name (Store.names_of_changes ((hcollect _).changes.run path _) hmem)
    have hend := (hcollect (alone.nameBelow document reference).1).agrees path _ _ hown hmet
      (hcanonical.changes h (store.changes_enterBelow hnamed))
      (hcanonical'.changes h (alone.changes_enterBelow hnamed)) henter hinner
    rw [hname]
    generalize (Lowering.asDeclaration (alone.nameBelow document reference).1
      (collectDependencies target)).runWith (.within document options path visited depth)
        (store.enterBelow document reference) = ending at hend
    generalize (Lowering.asDeclaration (alone.nameBelow document reference).1
      (collectDependencies target)).runWith (.within document options path visited depth)
        (alone.enterBelow document reference) = ending' at hend
    cases hend with
    | error error hafter => exact .error error (hafter.forget reference)
    | ok result hafter =>
      exact .ok _ ⟨hafter.types, hafter.dependencies, hafter.names, hafter.others⟩

variable (hclosed : ∀ reference target next, met reference → reference ≠ own →
  document.resolve? reference = some target → target.Mentions next → met next)

include hclosed

theorem resolveFresh {lower : Schema → LowerM String}
    (hclear : ¬document.Clear options own reference)
    (hlower : ∀ target, document.resolve? reference = some target → Undisturbed document options own
      met foreign visited 0 (lower target) (target.demands options 0)) :
    Undisturbed document options own met foreign visited depth (resolveFresh lower reference)
      [.follow reference] where
  changes := Changes.resolveFresh fun target htarget => (hlower target htarget).changes
  agrees path _ store alone hown hmet hcanonical hcanonical' halike hforeign := by
    have hreference : met reference := hmet reference (by simp)
    have hne : reference ≠ own := by
      rintro rfl
      exact hclear fun last hleads => absurd rfl hleads.not_known
    have htypes := (halike.types reference hreference).resolve_right hclear
    rw [runWith_resolveFresh] at hforeign ⊢
    rw [runWith_resolveFresh, htypes]
    cases hlookup : alone.types.lookup reference with
    | some name => exact .ok name halike
    | none =>
      cases htarget : document.resolve? reference with
      | none => exact .error _ halike
      | some target =>
        simp only [hlookup, htarget] at hforeign ⊢
        have hdemands : ∀ next, .follow next ∈ target.demands options 0 → met next :=
          fun next hdemand => hclosed reference target next hreference hne htarget
            (Schema.follow_mem_demands.mp hdemand)
        by_cases hnamed : document.isNamed reference
        · rw [if_pos hnamed] at hforeign ⊢
          exact (resolveNamed h hnamed (hlower target htarget)).agrees path store alone hown hdemands
            hcanonical hcanonical' halike hforeign
        · rw [if_neg hnamed] at hforeign ⊢
          exact (resolveBelow h hnamed (hlower target htarget)).agrees path store alone hown hdemands
            hcanonical hcanonical' halike hforeign

theorem resolveWithin (hfixed : document.Fixed own) {active : Nat}
    (hactive : reference ∈ visited ∨ document.pending (visited ++ [reference]) < active) :
    Undisturbed document options own met foreign visited depth (resolveWithin active reference)
      [.follow reference] := by
  induction active generalizing visited depth reference with
  | zero => exact forwardReference hfixed
  | succ active ih =>
    by_cases hvisited : reference ∈ visited
    · exact (forwardReference hfixed).of_runWith_eq fun path store =>
        runWith_resolveWithin_of_mem _ hvisited
    have hpending := hactive.resolve_left hvisited
    by_cases hclear : document.Clear options own reference
    · refine ⟨Changes.resolveWithin _ reference, ?_⟩
      intro path _ store alone hown _ hcanonical hcanonical' halike _
      -- the name is the fixed one, be it recorded, or found by lowering the target
      obtain ⟨after, hrun, hspares, hdependencies⟩ :=
        runWith_of_clear h hpending hclear hown hvisited path depth hcanonical
      obtain ⟨after', hrun', hspares', hdependencies'⟩ :=
        runWith_of_clear h hpending hclear hown hvisited path depth hcanonical'
      rw [hrun, hrun']
      refine .ok _ (halike.spares hspares hspares' fun hexact => ?_)
      rw [hdependencies, hdependencies']
      exact halike.depend.dependencies hexact
    · have hfresh : Undisturbed document options own met foreign (visited ++ [reference]) depth
          (Lowering.resolveFresh (typeOf fun target => Resolution.name <$>
            Lowering.resolveWithin active target) reference) [.follow reference] :=
        resolveFresh h hclosed hclear fun target htarget => (inlineRules h).typeOf
          fun next hmention _ => (inlineRules h).map Resolution.name
            (ih ((Document.local_of_ofJson h).pending_next hpending htarget hmention))
      have hnew : Undisturbed document options own met foreign visited depth
          (resolveNew active reference) [.follow reference] := by
        refine (inlineRules h).bindNone (hfresh.withVisited hvisited) fun name => ⟨?_, ?_⟩
        · exact Relates.of_runWith fun _ store => .single (.dependencies store _)
        · exact fun _ _ _ _ _ _ _ _ halike _ => .ok _ halike.depend
      exact hnew.of_runWith_eq fun path store => runWith_resolveWithin_of_not_mem active hvisited

theorem resolveReference (hfixed : document.Fixed own) :
    Undisturbed document options own met foreign visited depth (resolveReference reference)
      [.follow reference] :=
  (resolveWithin h hclosed hfixed (Or.inr (document.pending_lt_referenceBound _))).of_runWith_eq
    fun _ _ => runWith_resolveReference

/-- What is made of type expressions and references is not disturbed, nor is claiming names. -/
theorem rules (hfixed : document.Fixed own) :
    Rules document options (Undisturbed document options own met foreign) where
  toInlineRules := inlineRules h
  readDocument hstep := ⟨hstep.changes, hstep.agrees⟩
  collectDependencies := scopedDependencies _
  claimName base := by
    refine ⟨Changes.rules.claimName base, fun _ _ _ _ _ _ _ _ halike hforeign => ?_⟩
    obtain ⟨hname, hafter⟩ := halike.claim base
      (hforeign _ (List.mem_append_right _ (List.mem_singleton.mpr rfl)))
    rw [runWith_claimName, runWith_claimName, hname]
    exact .ok _ hafter
  resolveReference hnext := by
    refine (resolveReference h hclosed hfixed).bindYields h fun resolution hyields => ?_
    obtain ⟨path, store, after, hrun⟩ := hyields
    rw [circular_of_resolveReference hrun]
    exact hnext resolution.name

end Undisturbed

end SchemaTypings
