import SchemaTypings.Proofs.FirstOccurrences
import SchemaTypings.Proofs.Typing.Order

/-!
# Lists that are in order

A list of declarations is in order if it repeats none, the declarations of a name stand together, and what a
declaration refers to stands before it. Ordering such a list leaves it as it is
(`InOrder.orderDeclarations_eq`): a search that comes to a name finds all that the name refers to finished.
What ordering gives is itself in order, unless names lead back to each other (`inOrder_orderDeclarations`). So
to order twice is to order once, where there is no cycle.
-/

namespace SchemaTypings.Typing

open Relation

variable {declarations : List Declaration} {declaration : Declaration} {name : String}

/-- What comes early in a list stands before an element that does not. -/
theorem mem_before_of_append_eq {α : Type} {earlier later before after : List α} {element other : α}
    (h : earlier ++ later = before ++ element :: after) (helement : element ∉ earlier)
    (hother : other ∈ earlier) : other ∈ before := by
  rcases List.append_eq_append_iff.mp h with ⟨_, rfl, _⟩ | ⟨between, rfl, hrest⟩
  · exact List.mem_append_left _ hother
  cases between with
  | nil => rwa [List.append_nil] at hother
  | cons first between =>
    obtain ⟨rfl, -⟩ := List.cons.inj hrest
    exact absurd (List.mem_append_right _ List.mem_cons_self) helement

/-! ## Names that come after all they refer to -/

namespace NameGroup

variable {groups : List NameGroup} {steps : Nat} {way finished names : List String}

theorem finish_of_mem (h : name ∈ finished ∨ name ∈ way) :
    finish groups steps way finished name = finished := by
  cases steps with
  | zero => rfl
  | succ steps => rw [finish, if_pos (by simpa using h)]

theorem foldl_finish_of_mem (h : ∀ name ∈ names, name ∈ finished ∨ name ∈ way) :
    names.foldl (finish groups steps way) finished = finished := by
  induction names with
  | nil => rfl
  | cons name rest ih =>
    obtain ⟨hname, hrest⟩ := List.forall_mem_cons.mp h
    rw [List.foldl_cons, finish_of_mem hname, ih hrest]

/-- A name that refers only to itself and to names that are finished comes next. -/
theorem finish_of_settled (hnew : name ∉ finished)
    (h : ∀ dependency ∈ dependencies groups name,
      dependency ∈ finished ∨ dependency = name) :
    finish groups (steps + 1) [] finished name = finished ++ [name] := by
  have hvisit : (dependencies groups name).foldl (finish groups steps [name]) finished =
      finished :=
    foldl_finish_of_mem fun dependency hdependency =>
      (h dependency hdependency).imp_right List.mem_singleton.mpr
  rw [finish, if_neg (by simpa using hnew), hvisit]

/-- Names that come after all they refer to finish in their order. -/
theorem foldl_finish_of_settled (hnodup : names.Nodup)
    (h : ∀ before name after, names = before ++ name :: after →
      ∀ dependency ∈ dependencies groups name, dependency ∈ before ∨ dependency = name) :
    names.foldl (finish groups (steps + 1) []) [] = names := by
  induction names using List.reverseRecOn with
  | nil => rfl
  | append_singleton names last ih =>
    obtain ⟨hnames, -, hlast⟩ := List.nodup_append.mp hnodup
    have hprefix := ih hnames fun before name after hsplit =>
      h before name (after ++ [last]) (by rw [hsplit, List.append_assoc, List.cons_append])
    have hnew : last ∉ names := fun hmem => hlast last hmem last List.mem_cons_self rfl
    rw [List.foldl_append, hprefix, List.foldl_cons, List.foldl_nil]
    exact finish_of_settled hnew (h names last [] rfl)

theorem names_ofDeclarations (declarations : List Declaration) :
    (ofDeclarations declarations).map (·.name) = (declarations.map (·.name)).eraseDups := by
  rw [← foldl_addName_nil]
  induction declarations using List.reverseRecOn with
  | nil => rfl
  | append_singleton declarations last ih =>
    rw [ofDeclarations_append, names_insert, ih, List.map_append, List.foldl_append]
    rfl

end NameGroup

/-! ## Declarations of a name that stand together -/

/-- The declarations of each name stand together. -/
def NamesTogether (declarations : List Declaration) : Prop :=
  ∀ name, ∃ earlier later, declarations = earlier ++ declarations.filter (·.name == name) ++ later

namespace NamesTogether

theorem filter (h : NamesTogether declarations) (keep : Declaration → Bool) :
    NamesTogether (declarations.filter keep) := by
  intro name
  obtain ⟨earlier, later, hsplit⟩ := h name
  refine ⟨earlier.filter keep, later.filter keep, ?_⟩
  conv_lhs => rw [hsplit]
  rw [List.filter_append, List.filter_append, List.filter_filter, List.filter_filter]
  simp only [Bool.and_comm]

/-- Before and after the declarations of a name there is none of that name. -/
theorem exists_apart (h : NamesTogether declarations) (name : String) :
    ∃ earlier later, declarations = earlier ++ declarations.filter (·.name == name) ++ later ∧
      (∀ other ∈ earlier, other.name ≠ name) ∧ ∀ other ∈ later, other.name ≠ name := by
  obtain ⟨earlier, later, hsplit⟩ := h name
  have hlength := congrArg (fun list => (list.filter (·.name == name)).length) hsplit
  simp only [List.filter_append, List.filter_filter, Bool.and_self, List.length_append] at hlength
  have hearlier : earlier.filter (·.name == name) = [] := List.eq_nil_of_length_eq_zero (by omega)
  have hlater : later.filter (·.name == name) = [] := List.eq_nil_of_length_eq_zero (by omega)
  exact ⟨earlier, later, hsplit, by simpa using hearlier, by simpa using hlater⟩

/-- The declarations of the first name come first. -/
theorem cons_eq_append (h : NamesTogether (declaration :: declarations)) :
    declaration :: declarations = (declaration :: declarations).filter (·.name == declaration.name) ++
      declarations.filter (·.name != declaration.name) := by
  obtain ⟨earlier, later, hsplit, hearlier, hlater⟩ := h.exists_apart declaration.name
  cases earlier with
  | cons other rest =>
    obtain ⟨rfl, -⟩ := List.cons.inj hsplit
    exact absurd rfl (hearlier _ List.mem_cons_self)
  | nil =>
    have hothers := congrArg (fun list => list.filter (·.name != declaration.name)) hsplit
    have hsame : ((declaration :: declarations).filter (·.name == declaration.name)).filter
        (·.name != declaration.name) = [] := by
      simp [List.filter_filter]
    have hkept : later.filter (·.name != declaration.name) = later :=
      List.filter_eq_self.mpr fun other hother => by simpa using hlater other hother
    simp only [List.nil_append, List.filter_append, hsame, hkept] at hothers
    rw [List.filter_cons_of_neg (by simp)] at hothers
    rw [hothers]
    exact hsplit

/-- Declarations that stand together by name are those of the first name, those of the second, and so on. -/
theorem flatMap_filter (h : NamesTogether declarations) :
    (declarations.map (·.name)).eraseDups.flatMap
      (fun name => declarations.filter (·.name == name)) = declarations := by
  -- by induction on the number of declarations, as all those of the first name are taken at once
  induction hlength : declarations.length using Nat.strongRecOn generalizing declarations with
  | _ length ih =>
    cases declarations with
    | nil => rfl
    | cons declaration rest =>
      have hothers : NamesTogether (rest.filter (·.name != declaration.name)) := by
        have hfiltered := h.filter (·.name != declaration.name)
        rwa [List.filter_cons_of_neg (by simp)] at hfiltered
      have hshorter : (rest.filter (·.name != declaration.name)).length < length := by
        rw [← hlength, List.length_cons]
        exact Nat.lt_succ_of_le (List.length_filter_le _ _)
      have hnames : (rest.map (·.name)).filter (fun other => !other == declaration.name) =
          (rest.filter (·.name != declaration.name)).map (·.name) := by
        rw [List.filter_map]
        rfl
      have hlater : ∀ name ∈ ((rest.filter (·.name != declaration.name)).map (·.name)).eraseDups,
          (declaration :: rest).filter (·.name == name) =
            (rest.filter (·.name != declaration.name)).filter (·.name == name) := by
        intro name hname
        obtain ⟨other, hother, rfl⟩ := List.mem_map.mp (List.mem_eraseDups.mp hname)
        have hne : other.name ≠ declaration.name := by simpa using (List.mem_filter.mp hother).2
        rw [List.filter_cons_of_neg (by simpa using hne.symm), List.filter_filter]
        refine List.filter_congr fun third _ => ?_
        by_cases hthird : third.name = other.name <;> simp [hthird, hne]
      rw [List.map_cons, List.eraseDups_cons, hnames, List.flatMap_cons, List.flatMap_congr hlater,
        ih _ hshorter hothers rfl]
      exact h.cons_eq_append.symm

end NamesTogether

/-! ## Lists in order -/

/-- The declarations repeat none, those of a name stand together, and a declared name to which a
declaration of another name refers stands before it. -/
structure InOrder (declarations : List Declaration) : Prop where
  distinct : declarations.Pairwise fun first second => second.repeats first = false
  together : NamesTogether declarations
  preceded : ∀ before declaration after, declarations = before ++ declaration :: after →
    ∀ dependency ∈ declaration.dependencies, dependency ≠ declaration.name →
      dependency ∈ declarations.map (·.name) → dependency ∈ before.map (·.name)

theorem Declaration.repeats_comm (declaration other : Declaration) :
    declaration.repeats other = other.repeats declaration := by
  rw [Declaration.repeats, Declaration.repeats, Bool.beq_comm (a := declaration.name),
    Bool.beq_comm (a := declaration.content)]

theorem firstDeclarations_of_distinct
    (h : declarations.Pairwise fun first second => second.repeats first = false) :
    firstDeclarations declarations = declarations := by
  induction h with
  | nil => rfl
  | cons hfirst _ ih =>
    rw [firstDeclarations, ih]
    exact congrArg _ (List.filter_eq_self.mpr fun other hother => by simp [hfirst other hother])

/-- What stands before a declaration, but is not of its name, stands before all declarations of that name. -/
theorem NamesTogether.exists_before (h : NamesTogether declarations)
    {front back : List Declaration} (hsplit : declarations = front ++ declaration :: back) :
    ∃ earlier later, declarations = earlier ++ later ∧ (∀ other ∈ earlier, other.name ≠ declaration.name) ∧
      ∀ other ∈ front, other.name ≠ declaration.name → other ∈ earlier := by
  obtain ⟨earlier, later, happart, hearlier, hlater⟩ := h.exists_apart declaration.name
  rw [List.append_assoc] at happart
  refine ⟨earlier, _, happart, hearlier, fun other hother hne => ?_⟩
  rcases List.append_eq_append_iff.mp (hsplit.symm.trans happart) with
    ⟨_, rfl, _⟩ | ⟨between, rfl, hrest⟩
  · exact List.mem_append_left _ hother
  refine (List.mem_append.mp hother).resolve_right fun hbetween => ?_
  rcases List.append_eq_append_iff.mp hrest with ⟨_, rfl, hpast⟩ | ⟨_, hgroup, _⟩
  · exact hlater declaration (by rw [hpast]; simp) rfl
  · have hmem : other ∈ declarations.filter (·.name == declaration.name) := by
      rw [hgroup]
      exact List.mem_append_left _ hbetween
    exact hne (by simpa using (List.mem_filter.mp hmem).2)

/-- The names of a list in order come after all that they refer to. -/
theorem InOrder.settled (h : InOrder declarations) {before after : List String}
    (hsplit : (declarations.map (·.name)).eraseDups = before ++ name :: after) {dependency : String}
    (hrefers : dependency ∈ NameGroup.dependencies (NameGroup.ofDeclarations declarations) name) :
    dependency ∈ before ∨ dependency = name := by
  obtain ⟨⟨declaration, hfound, hdependency⟩, hdeclared⟩ := NameGroup.mem_dependencies.mp hrefers
  rw [NameGroup.find_ofDeclarations, firstDeclarations_of_distinct h.distinct, List.mem_filter,
    beq_iff_eq] at hfound
  obtain ⟨hmem, rfl⟩ := hfound
  rw [NameGroup.names_ofDeclarations, List.mem_eraseDups] at hdeclared
  refine or_iff_not_imp_right.mpr fun hne => ?_
  obtain ⟨front, back, hdeclarations⟩ := List.append_of_mem hmem
  obtain ⟨other, hfront, rfl⟩ := List.mem_map.mp
    (h.preceded front declaration back hdeclarations dependency hdependency hne hdeclared)
  obtain ⟨earlier, later, happart, hearlier, hbefore⟩ := h.together.exists_before hdeclarations
  rw [happart, List.map_append, List.eraseDups_append] at hsplit
  have hother : other.name ∈ (earlier.map (·.name)).eraseDups :=
    List.mem_eraseDups.mpr (List.mem_map_of_mem (hbefore other hfront hne))
  refine mem_before_of_append_eq hsplit (fun hearly => ?_) hother
  obtain ⟨early, hearly, hsame⟩ := List.mem_map.mp (List.mem_eraseDups.mp hearly)
  exact hearlier early hearly hsame

theorem InOrder.orderedNames_eq (h : InOrder declarations) :
    orderedNames (NameGroup.ofDeclarations declarations) = (declarations.map (·.name)).eraseDups := by
  rw [orderedNames, NameGroup.names_ofDeclarations]
  cases hlength : (NameGroup.ofDeclarations declarations).length with
  | zero =>
    rw [← NameGroup.names_ofDeclarations, List.eq_nil_of_length_eq_zero hlength]
    rfl
  | succ steps =>
    exact NameGroup.foldl_finish_of_settled nodup_eraseDups
      fun before name after hsplit dependency => h.settled hsplit

/-- What is in order is left as it is. -/
theorem InOrder.orderDeclarations_eq (h : InOrder declarations) :
    orderDeclarations declarations = declarations := by
  have hfind : NameGroup.find (NameGroup.ofDeclarations declarations) =
      fun name => declarations.filter (·.name == name) := by
    funext name
    rw [NameGroup.find_ofDeclarations, firstDeclarations_of_distinct h.distinct]
  rw [orderDeclarations, h.orderedNames_eq, hfind, h.together.flatMap_filter]

/-! ## Lists without cycles -/

/-- Whether one of the declarations of a name refers to another one. -/
def RefersToOther (declarations : List Declaration) (name dependency : String) : Prop :=
  dependency ≠ name ∧ RefersAmong declarations name dependency

/-- The names of the declarations that are kept do not lead back to each other. -/
def Acyclic (declarations : List Declaration) : Prop :=
  ∀ name, ¬ TransGen (RefersToOther (firstDeclarations declarations)) name name

theorem refersToOther_of_cycle {dependency : String}
    (h : TransGen (RefersAmong (orderDeclarations declarations)) name dependency) :
    ReflTransGen (RefersToOther (firstDeclarations declarations)) name dependency := by
  refine ReflTransGen.lift' id (fun first second hrefers => ?_) _ _ h.to_reflTransGen
  obtain ⟨declaration, hmem, hname, hdependency⟩ := hrefers
  by_cases hsame : second = first
  · exact hsame ▸ .refl
  · exact .single ⟨hsame, declaration, mem_orderDeclarations.mp hmem, hname, hdependency⟩

/-- Without cycles, what a declaration refers to stands before all declarations of its name. -/
theorem Acyclic.precedes (h : Acyclic declarations) {dependency : String}
    (hmem : declaration ∈ orderDeclarations declarations)
    (hdependency : dependency ∈ declaration.dependencies) (hne : dependency ≠ declaration.name) :
    ∃ earlier later, orderDeclarations declarations = earlier ++ later ∧
      (∀ other ∈ earlier, other.name ≠ declaration.name) ∧ ∀ other ∈ later, other.name ≠ dependency := by
  refine (precedes_or_cycle hmem hdependency).resolve_right fun hcycle => ?_
  have hrefers : RefersToOther (firstDeclarations declarations) declaration.name dependency :=
    ⟨hne, declaration, mem_orderDeclarations.mp hmem, rfl, hdependency⟩
  exact h _ (.head' hrefers (refersToOther_of_cycle hcycle))

theorem namesTogether_orderDeclarations (declarations : List Declaration) :
    NamesTogether (orderDeclarations declarations) := by
  intro name
  obtain ⟨earlier, later, hsplit, hother⟩ := exists_orderDeclarations_split declarations name
  obtain ⟨hearlier, hlater⟩ := List.forall_mem_append.mp hother
  have hgroup : (orderDeclarations declarations).filter (·.name == name) =
      (firstDeclarations declarations).filter (·.name == name) := by
    have hnone : earlier.filter (·.name == name) = [] := by simpa using hearlier
    have hnone' : later.filter (·.name == name) = [] := by simpa using hlater
    rw [hsplit, List.filter_append, List.filter_append, hnone, hnone', List.filter_filter]
    simp
  exact ⟨earlier, later, by rw [hgroup, hsplit]⟩

theorem inOrder_orderDeclarations (h : Acyclic declarations) :
    InOrder (orderDeclarations declarations) where
  distinct := by
    refine (orderDeclarations_perm declarations).symm.pairwise
      (pairwise_firstDeclarations declarations) fun hrepeats => ?_
    rwa [Declaration.repeats_comm]
  together := namesTogether_orderDeclarations declarations
  preceded := by
    intro before declaration after hsplit dependency hdependency hne hdeclared
    obtain ⟨earlier, later, hprecedes, hearlier, hlater⟩ :=
      h.precedes (by rw [hsplit]; simp) hdependency hne
    obtain ⟨other, hother, rfl⟩ := List.mem_map.mp hdeclared
    rw [hprecedes] at hother
    have hearly := (List.mem_append.mp hother).resolve_right fun hlate => hlater other hlate rfl
    exact List.mem_map_of_mem (mem_before_of_append_eq (hprecedes.symm.trans hsplit)
      (fun hmem => hearlier declaration hmem rfl) hearly)

/-- To order declarations twice is to order them once, unless names lead back to each other: what ordering
gives is in order then, and what is in order is left as it is. -/
theorem orderDeclarations_stable (declarations : List Declaration) :
    (Acyclic declarations → InOrder (orderDeclarations declarations) ∧
      orderDeclarations (orderDeclarations declarations) = orderDeclarations declarations) ∧
    (InOrder declarations → orderDeclarations declarations = declarations) :=
  ⟨fun h => ⟨inOrder_orderDeclarations h, (inOrder_orderDeclarations h).orderDeclarations_eq⟩,
    InOrder.orderDeclarations_eq⟩

/-- Names do not lead back to each other if each refers only to names of a lower rank. -/
theorem Acyclic.of_rank (rank : String → Nat)
    (h : ∀ declaration ∈ declarations, ∀ dependency ∈ declaration.dependencies,
      dependency ≠ declaration.name → rank dependency < rank declaration.name) :
    Acyclic declarations := by
  have hlower : ∀ name dependency, TransGen (RefersToOther (firstDeclarations declarations)) name dependency →
      rank dependency < rank name := by
    intro name dependency hrefers
    induction hrefers with
    | single hrefers =>
      obtain ⟨hne, declaration, hmem, rfl, hdependency⟩ := hrefers
      exact h declaration (mem_of_mem_firstDeclarations hmem) _ hdependency hne
    | tail _ hrefers ih =>
      obtain ⟨hne, declaration, hmem, rfl, hdependency⟩ := hrefers
      exact Nat.lt_trans (h declaration (mem_of_mem_firstDeclarations hmem) _ hdependency hne) ih
  exact fun name hcycle => Nat.lt_irrefl _ (hlower name name hcycle)

/-- A tree that refers to itself, to its leaves and to a name that is not declared; the leaves are a type
with its values. -/
def treeDeclarations : List Declaration :=
  [⟨"isTree", .function, "function isTree(value: unknown): value is Tree;", ["Tree", "Leaf"]⟩,
    ⟨"Tree", .interface, "interface Tree { left: Tree; leaf: Leaf; made: Date; }", ["Tree", "Leaf", "Date"]⟩,
    ⟨"Leaf", .typeAlias, "type Leaf = 1 | 2;", []⟩, ⟨"Leaf", .const, "const Leaf = { ONE: 1, TWO: 2 };", []⟩]

theorem orderDeclarations_stable_of_tree : Acyclic treeDeclarations ∧
    (orderDeclarations treeDeclarations).map (·.name) = ["Leaf", "Leaf", "Tree", "isTree"] ∧
    InOrder (orderDeclarations treeDeclarations) ∧
    orderDeclarations (orderDeclarations treeDeclarations) = orderDeclarations treeDeclarations := by
  have hacyclic : Acyclic treeDeclarations :=
    .of_rank (fun name => if name = "isTree" then 2 else if name = "Tree" then 1 else 0) (by decide)
  have hstable := (orderDeclarations_stable treeDeclarations).1 hacyclic
  exact ⟨hacyclic, by decide, hstable.1,
    (orderDeclarations_stable (orderDeclarations treeDeclarations)).2 hstable.1⟩

end SchemaTypings.Typing
