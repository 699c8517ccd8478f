import Mathlib.Data.List.Nodup
import Mathlib.Data.List.Perm.Subperm
import Mathlib.Logic.Relation
import SchemaTypings.Proofs.Typing.Groups

/-!
# The order of a module

The names of a module are ordered by a search along the dependencies. A name finishes after everything
that it refers to, but for the names that are still being visited, and those lead to it: the way of the
search runs from them to the name. So where a name stands before one that it refers to, the two lie on
a cycle (`Finished.settled`). What is said of names carries over to declarations as the declarations of
one name stay together (`orderDeclarations_split`).
-/

namespace SchemaTypings.Typing

open Relation

namespace NameGroup

variable {groups : List NameGroup} {way finished : List String}
  {name other dependency : String}

theorem mem_dependencies : dependency ∈ dependencies groups name ↔
    (∃ declaration ∈ find groups name, dependency ∈ declaration.dependencies) ∧
      dependency ∈ groups.map (·.name) := by
  simp only [dependencies, List.mem_filter, List.mem_flatMap, List.any_eq_true, beq_iff_eq,
    List.mem_map]

/-- Whether the declarations of a name refer to another name that is declared. -/
def Refers (groups : List NameGroup) (name dependency : String) : Prop :=
  dependency ∈ dependencies groups name

/-- What holds of the names that are finished, while the names of `way` are being visited. -/
structure Finished (groups : List NameGroup) (way finished : List String) : Prop where
  nodup : finished.Nodup
  declared : ∀ name ∈ finished, name ∈ groups.map (·.name)
  apart : ∀ name ∈ finished, name ∉ way
  settled : ∀ before name after, finished = before ++ name :: after →
    ∀ dependency ∈ dependencies groups name,
      dependency ∈ before ∨ ReflTransGen (Refers groups) dependency name

/-- What holds of the names that are being visited, when the search goes on with `name`. -/
structure LeadsTo (groups : List NameGroup) (way : List String) (name : String) : Prop where
  nodup : way.Nodup
  declared : ∀ other ∈ way, other ∈ groups.map (·.name)
  reaches : ∀ other ∈ way, ReflTransGen (Refers groups) other name

theorem Finished.nil (groups : List NameGroup) : Finished groups [] [] where
  nodup := List.nodup_nil
  declared := by simp
  apart := by simp
  settled := by simp

theorem LeadsTo.nil (groups : List NameGroup) (name : String) : LeadsTo groups [] name where
  nodup := List.nodup_nil
  declared := by simp
  reaches := by simp

theorem LeadsTo.cons (h : LeadsTo groups way name) (hname : name ∈ groups.map (·.name))
    (hnew : name ∉ way) (hdependency : dependency ∈ dependencies groups name) :
    LeadsTo groups (name :: way) dependency where
  nodup := List.nodup_cons.mpr ⟨hnew, h.nodup⟩
  declared := List.forall_mem_cons.mpr ⟨hname, h.declared⟩
  reaches := by
    refine List.forall_mem_cons.mpr ⟨.single hdependency, fun other hother => ?_⟩
    exact (h.reaches other hother).tail hdependency

/-- A way that has as many names as there are comes back to a name that is being visited. -/
theorem LeadsTo.mem_of_length_le (h : LeadsTo groups way name)
    (hname : name ∈ groups.map (·.name)) (hlength : groups.length ≤ way.length) : name ∈ way := by
  have hsubperm := h.nodup.subperm h.declared
  have hperm := hsubperm.perm_of_length_le (by simpa using hlength)
  exact hperm.mem_iff.mpr hname

/-- A name finishes when all that it refers to has finished or leads to it. -/
theorem Finished.append (h : Finished groups (name :: way) finished)
    (hname : name ∈ groups.map (·.name)) (hnew : name ∉ way) (hway : LeadsTo groups way name)
    (hdependencies : ∀ dependency ∈ dependencies groups name,
      dependency ∈ finished ∨ dependency ∈ name :: way) :
    Finished groups way (finished ++ [name]) where
  nodup := by
    have hnot : name ∉ finished := fun hmem => h.apart name hmem List.mem_cons_self
    exact List.nodup_append.mpr ⟨h.nodup, by simp, by grind⟩
  declared := by
    simpa [or_imp, forall_and] using ⟨by simpa using h.declared, by simpa using hname⟩
  apart := by
    intro other hother
    rcases List.mem_append.mp hother with hother | hother
    · exact fun hway => h.apart other hother (List.mem_cons_of_mem _ hway)
    · rw [List.mem_singleton.mp hother]
      exact hnew
  settled := by
    intro before last after hsplit dependency hdependency
    rcases List.eq_nil_or_concat after with rfl | ⟨after, final, rfl⟩
    · obtain ⟨rfl, hlast⟩ := List.append_inj' hsplit rfl
      obtain rfl : name = last := by simpa using hlast
      rcases hdependencies dependency hdependency with hbefore | hvisited
      · exact Or.inl hbefore
      · rcases List.mem_cons.mp hvisited with rfl | hvisited
        · exact Or.inr .refl
        · exact Or.inr (hway.reaches dependency hvisited)
    · rw [List.concat_eq_append, ← List.cons_append, ← List.append_assoc] at hsplit
      exact h.settled before last after (List.append_inj' hsplit rfl).1 dependency hdependency

/-- What a visit of a name leaves. -/
structure Visited (groups : List NameGroup) (way finished : List String) (name : String)
    (visited : List String) : Prop where
  holds : Finished groups way visited
  keeps : finished ⊆ visited
  mem : name ∈ visited ∨ name ∈ way

theorem Finished.foldl (visit : List String → String → List String) (names : List String)
    (hvisit : ∀ finished, ∀ name ∈ names, Finished groups way finished →
      Visited groups way finished name (visit finished name))
    (h : Finished groups way finished) :
    Finished groups way (names.foldl visit finished) ∧ finished ⊆ names.foldl visit finished ∧
      ∀ name ∈ names, name ∈ names.foldl visit finished ∨ name ∈ way := by
  induction names generalizing finished with
  | nil => exact ⟨h, List.Subset.refl _, by simp⟩
  | cons first rest ih =>
    have hfirst := hvisit finished first List.mem_cons_self h
    obtain ⟨hrest, hkeeps, hmem⟩ := ih
      (fun finished name hname => hvisit finished name (List.mem_cons_of_mem _ hname)) hfirst.holds
    refine ⟨hrest, List.Subset.trans hfirst.keeps hkeeps, List.forall_mem_cons.mpr ⟨?_, hmem⟩⟩
    exact hfirst.mem.imp_left (hkeeps ·)

/-- The search from a name, with a step for each name that is not being visited. -/
theorem Finished.finish {steps : Nat} (h : Finished groups way finished)
    (hway : LeadsTo groups way name) (hname : name ∈ groups.map (·.name))
    (hsteps : groups.length ≤ steps + way.length) :
    Visited groups way finished name (finish groups steps way finished name) := by
  induction steps generalizing way finished name with
  | zero =>
    have hmem := hway.mem_of_length_le hname (by simpa using hsteps)
    exact ⟨h, List.Subset.refl _, Or.inr hmem⟩
  | succ steps ih =>
    rw [NameGroup.finish]
    split
    · rename_i hdone
      simp only [Bool.or_eq_true, List.contains_iff_mem] at hdone
      exact ⟨h, List.Subset.refl _, hdone⟩
    · rename_i hdone
      simp only [Bool.or_eq_true, List.contains_iff_mem, not_or] at hdone
      obtain ⟨hunfinished, hnew⟩ := hdone
      have hbegun : Finished groups (name :: way) finished :=
        { h with
          apart := fun other hother hvisited => by
            rcases List.mem_cons.mp hvisited with rfl | hvisited
            · exact hunfinished hother
            · exact h.apart other hother hvisited }
      obtain ⟨hfolded, hkeeps, hmem⟩ := hbegun.foldl
        (NameGroup.finish groups steps (name :: way)) (dependencies groups name)
        fun finished dependency hdependency hfinished =>
          ih hfinished (hway.cons hname hnew hdependency) (mem_dependencies.mp hdependency).2
            (by simpa [Nat.add_assoc, Nat.add_comm 1] using hsteps)
      exact ⟨hfolded.append hname hnew hway hmem, List.Subset.trans hkeeps (List.subset_append_left _ _),
        Or.inl (by simp)⟩

theorem finished_orderedNames (groups : List NameGroup) : Finished groups [] (orderedNames groups) ∧
    ∀ name, name ∈ orderedNames groups ↔ name ∈ groups.map (·.name) := by
  obtain ⟨hfinished, -, hmem⟩ := (Finished.nil groups).foldl
    (finish groups groups.length []) (groups.map (·.name))
    fun finished name hname hfinished => hfinished.finish (LeadsTo.nil groups name) hname (Nat.le_refl _)
  exact ⟨hfinished, fun name => ⟨hfinished.declared name, fun hname =>
    (hmem name hname).resolve_right List.not_mem_nil⟩⟩

end NameGroup

/-! ## Declarations -/

variable {declarations : List Declaration} {declaration other : Declaration} {name : String}

/-- Whether one of the declarations of a name refers to another name. -/
def RefersAmong (declarations : List Declaration) (name dependency : String) : Prop :=
  ∃ declaration ∈ declarations, declaration.name = name ∧ dependency ∈ declaration.dependencies

theorem mem_orderDeclarations :
    declaration ∈ orderDeclarations declarations ↔ declaration ∈ firstDeclarations declarations := by
  have hordered := (NameGroup.finished_orderedNames (NameGroup.ofDeclarations declarations)).2
  simp only [orderDeclarations, List.mem_flatMap, hordered, NameGroup.mem_names,
    NameGroup.find_ofDeclarations, List.mem_filter, beq_iff_eq]
  constructor
  · rintro ⟨name, -, hmem, -⟩
    exact hmem
  · exact fun hmem =>
      ⟨_, ⟨declaration, mem_of_mem_firstDeclarations hmem, rfl⟩, hmem, rfl⟩

theorem nodup_orderDeclarations (declarations : List Declaration) :
    (orderDeclarations declarations).Nodup := by
  have hordered := (NameGroup.finished_orderedNames (NameGroup.ofDeclarations declarations)).1
  refine List.nodup_flatMap.mpr ⟨fun name _ => ?_, hordered.nodup.imp fun hne declaration => ?_⟩
  · rw [NameGroup.find_ofDeclarations]
    exact (nodup_firstDeclarations declarations).filter _
  · simp only [NameGroup.find_ofDeclarations, List.mem_filter, beq_iff_eq]
    exact fun hfirst hsecond => hne (hfirst.2.symm.trans hsecond.2)

/-- What is ordered are the declarations that repeat none before them. -/
theorem orderDeclarations_perm (declarations : List Declaration) :
    (orderDeclarations declarations).Perm (firstDeclarations declarations) :=
  (List.perm_ext_iff_of_nodup (nodup_orderDeclarations _) (nodup_firstDeclarations _)).mpr
    fun _ => mem_orderDeclarations

theorem filter_repeats_orderDeclarations (declarations : List Declaration)
    (declaration : Declaration) : (orderDeclarations declarations).filter (·.repeats declaration) =
      (declarations.find? (·.repeats declaration)).toList := by
  have hperm := (orderDeclarations_perm declarations).filter (·.repeats declaration)
  rw [filter_repeats_firstDeclarations] at hperm
  cases hfound : declarations.find? (·.repeats declaration) with
  | none => simpa [hfound] using hperm
  | some first => simpa [hfound] using hperm

theorem name_of_mem_flatMap_find {names : List String}
    (h : declaration ∈ names.flatMap (NameGroup.find (NameGroup.ofDeclarations declarations))) :
    declaration.name ∈ names := by
  obtain ⟨name, hname, hmem⟩ := List.mem_flatMap.mp h
  rw [NameGroup.find_ofDeclarations, List.mem_filter, beq_iff_eq] at hmem
  exact hmem.2 ▸ hname

/-- The declarations of a name that stand before and after it in the order of names. -/
theorem orderDeclarations_split {before after : List String}
    (h : orderedNames (NameGroup.ofDeclarations declarations) = before ++ name :: after) :
    ∃ earlier later, orderDeclarations declarations =
        earlier ++ (firstDeclarations declarations).filter (·.name == name) ++ later ∧
      (∀ declaration ∈ earlier, declaration.name ∈ before) ∧
      ∀ declaration ∈ later, declaration.name ∈ after := by
  refine ⟨before.flatMap (NameGroup.find (NameGroup.ofDeclarations declarations)),
    after.flatMap (NameGroup.find (NameGroup.ofDeclarations declarations)), ?_,
    fun _ => name_of_mem_flatMap_find, fun _ => name_of_mem_flatMap_find⟩
  rw [orderDeclarations, h, List.flatMap_append, List.flatMap_cons,
    NameGroup.find_ofDeclarations, List.append_assoc]

theorem exists_orderDeclarations_split (declarations : List Declaration) (name : String) :
    ∃ earlier later, orderDeclarations declarations =
        earlier ++ (firstDeclarations declarations).filter (·.name == name) ++ later ∧
      ∀ declaration ∈ earlier ++ later, declaration.name ≠ name := by
  have hnodup := (NameGroup.finished_orderedNames (NameGroup.ofDeclarations declarations)).1.nodup
  by_cases hname : name ∈ orderedNames (NameGroup.ofDeclarations declarations)
  · obtain ⟨before, after, hsplit⟩ := List.append_of_mem hname
    obtain ⟨earlier, later, hordered, hearlier, hlater⟩ := orderDeclarations_split hsplit
    refine ⟨earlier, later, hordered, fun declaration hmem hdeclared => ?_⟩
    rw [hsplit] at hnodup
    rcases List.mem_append.mp hmem with hmem | hmem
    · have := hearlier declaration hmem
      grind
    · have := hlater declaration hmem
      grind
  · have hother : ∀ declaration ∈ orderDeclarations declarations, declaration.name ≠ name :=
      fun declaration hmem hdeclared => hname (hdeclared ▸ name_of_mem_flatMap_find hmem)
    refine ⟨orderDeclarations declarations, [], ?_, by simpa using hother⟩
    have hnone : (firstDeclarations declarations).filter (·.name == name) = [] := by
      simpa using fun declaration hmem => hother declaration (mem_orderDeclarations.mpr hmem)
    rw [hnone, List.append_nil, List.append_nil]

theorem refersAmong_of_refers {dependency : String}
    (h : NameGroup.Refers (NameGroup.ofDeclarations declarations) name dependency) :
    RefersAmong (orderDeclarations declarations) name dependency := by
  obtain ⟨⟨declaration, hmem, hdependency⟩, -⟩ := NameGroup.mem_dependencies.mp h
  rw [NameGroup.find_ofDeclarations, List.mem_filter, beq_iff_eq] at hmem
  exact ⟨declaration, mem_orderDeclarations.mpr hmem.1, hmem.2, hdependency⟩

/-- What a declaration refers to stands before all declarations of its name, or leads back to it. -/
theorem precedes_or_cycle {dependency : String}
    (hmem : declaration ∈ orderDeclarations declarations)
    (hdependency : dependency ∈ declaration.dependencies) :
    (∃ earlier later, orderDeclarations declarations = earlier ++ later ∧
        (∀ other ∈ earlier, other.name ≠ declaration.name) ∧
        ∀ other ∈ later, other.name ≠ dependency) ∨
      TransGen (RefersAmong (orderDeclarations declarations)) dependency declaration.name := by
  by_cases hdeclared : ∃ other ∈ declarations, other.name = dependency
  · have hfirst := mem_orderDeclarations.mp hmem
    have hrefers : NameGroup.Refers (NameGroup.ofDeclarations declarations)
        declaration.name dependency := by
      refine NameGroup.mem_dependencies.mpr ⟨⟨declaration, ?_, hdependency⟩,
        NameGroup.mem_names.mpr hdeclared⟩
      rw [NameGroup.find_ofDeclarations, List.mem_filter]
      exact ⟨hfirst, by simp⟩
    have hordered := NameGroup.finished_orderedNames (NameGroup.ofDeclarations declarations)
    obtain ⟨before, after, hsplit⟩ := List.append_of_mem (name_of_mem_flatMap_find hmem)
    have hnodup := hordered.1.nodup
    rcases hordered.1.settled before declaration.name after hsplit dependency hrefers with
      hbefore | hcycle
    · obtain ⟨earlier, later, hdeclarations, hearlier, hlater⟩ := orderDeclarations_split hsplit
      rw [hsplit] at hnodup
      refine Or.inl ⟨earlier, _, by rw [hdeclarations, List.append_assoc], ?_, ?_⟩
      · intro other hother hsame
        have := hearlier other hother
        grind
      · intro other hother hsame
        have := hlater other
        grind
    · have hrefersAmong := ReflTransGen.mono (fun _ _ => refersAmong_of_refers) _ _ hcycle
      rcases reflTransGen_iff_eq_or_transGen.mp hrefersAmong with hsame | hcycle
      · -- the declaration refers to its own name
        exact Or.inr (.single ⟨declaration, hmem, hsame, hsame ▸ hdependency⟩)
      · exact Or.inr hcycle
  · refine Or.inl ⟨[], orderDeclarations declarations, rfl, by simp, fun other hother hsame => ?_⟩
    exact hdeclared ⟨other, mem_of_mem_firstDeclarations (mem_orderDeclarations.mp hother), hsame⟩

/-- A module holds the first declaration of each name and text and no other, the declarations of a name
stay together in the order in which they were given, and what a declaration refers to stands before it,
unless the two lie on a cycle. -/
theorem orderDeclarations_sound (declarations : List Declaration) :
    (∀ declaration, (orderDeclarations declarations).filter (·.repeats declaration) =
        (declarations.find? (·.repeats declaration)).toList) ∧
      (∀ name, ∃ earlier later, orderDeclarations declarations =
          earlier ++ (firstDeclarations declarations).filter (·.name == name) ++ later ∧
        ∀ declaration ∈ earlier ++ later, declaration.name ≠ name) ∧
      ∀ declaration ∈ orderDeclarations declarations, ∀ dependency ∈ declaration.dependencies,
        (∃ earlier later, orderDeclarations declarations = earlier ++ later ∧
          (∀ other ∈ earlier, other.name ≠ declaration.name) ∧
          ∀ other ∈ later, other.name ≠ dependency) ∨
        TransGen (RefersAmong (orderDeclarations declarations)) dependency declaration.name :=
  ⟨filter_repeats_orderDeclarations declarations, exists_orderDeclarations_split declarations,
    fun _ hmem _ hdependency => precedes_or_cycle hmem hdependency⟩

/-- Two names that refer to each other, and a third that refers to one of them. -/
def cycleDeclarations : List Declaration :=
  [⟨"A", .typeAlias, "type A = B;", ["B"]⟩, ⟨"B", .typeAlias, "type B = A;", ["A"]⟩,
    ⟨"C", .typeAlias, "type C = A;", ["A"]⟩]

theorem orderDeclarations_cycle :
    (orderDeclarations cycleDeclarations).map (·.name) = ["B", "A", "C"] ∧
      ((∃ earlier later, orderDeclarations cycleDeclarations = earlier ++ later ∧
          (∀ other ∈ earlier, other.name ≠ "B") ∧ ∀ other ∈ later, other.name ≠ "A") ∨
        TransGen (RefersAmong (orderDeclarations cycleDeclarations)) "A" "B") :=
  ⟨by decide, (orderDeclarations_sound cycleDeclarations).2.2
    ⟨"B", .typeAlias, "type B = A;", ["A"]⟩ (by decide) "A" (by decide)⟩

end SchemaTypings.Typing
