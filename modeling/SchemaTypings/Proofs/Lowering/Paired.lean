import SchemaTypings.Proofs.Document.Aliases
import SchemaTypings.Proofs.Lowering.Calls

/-!
# References below named schemas are declared once

A reference below a named schema is recorded under a name before its target is lowered, and declared
under that name afterwards; if the target does not lower, it is forgotten. So at every moment a recorded
one is declared or still being resolved (`Store.Paired.settled`), and when nothing is being resolved the
recorded ones and the declarations correspond by their names.

That no declaration is dropped because its name is taken needs the names to be distinct: a name is the
one reserved for the reference, or was fresh when it was claimed (`Store.Paired.nameBelow_free`). That to
forget a reference leaves no declaration behind needs that nobody else declares its name in the meantime:
what a step keeps of the store are the references above it that wait for their declaration
(`Store.Waiting`).
-/

namespace SchemaTypings

open LowerM Lowering

namespace Store

/-- The names of the declarations for references below named schemas. -/
def declared (store : Store) : List String :=
  store.declarations.map (·.name)

/-- The reference is one below a named schema, and the name is recorded for it. -/
def NamesBelow (document : Document) (store : Store) (reference name : String) : Prop :=
  ¬document.isNamed reference ∧ store.types.lookup reference = some name

/-- The recorded references below named schemas are paired with the declarations, but for those that are
being resolved. -/
structure Paired (document : Document) (visited : List String) (store : Store) : Prop where
  reserved : ∀ reference name, document.alias? reference = some name → name ∈ store.usedNames
  chosen : ∀ reference name, store.NamesBelow document reference name →
    document.alias? reference = some name ∨
      name ∈ store.usedNames ∧ ∀ other, document.alias? other ≠ some name
  distinct : ∀ reference other name, store.NamesBelow document reference name →
    store.NamesBelow document other name → reference = other
  settled : ∀ reference name, store.NamesBelow document reference name →
    reference ∈ visited ∨ name ∈ store.declared
  owned : ∀ name ∈ store.declared, ∃ reference, store.NamesBelow document reference name
  once : store.declared.Nodup

/-- The references that are being resolved and wait for their declaration still do. -/
def Waiting (document : Document) (visited : List String) (store after : Store) : Prop :=
  ∀ reference ∈ visited, ∀ name, store.NamesBelow document reference name →
    name ∉ store.declared → after.NamesBelow document reference name ∧ name ∉ after.declared

variable {document : Document} {visited : List String} {store inner after : Store}
  {reference other name : String}

/-! ## Recorded references below named schemas -/

theorem namesBelow_record_of_isNamed (hnamed : document.isNamed reference) {recorded : String} :
    (store.record reference recorded).NamesBelow document other name ↔
      store.NamesBelow document other name := by
  unfold NamesBelow
  refine and_congr_right fun hother => ?_
  have hne : other ≠ reference := by
    rintro rfl
    exact hother hnamed
  rw [lookup_record, if_neg hne]

theorem namesBelow_forget_of_isNamed (hnamed : document.isNamed reference) :
    (store.forget reference).NamesBelow document other name ↔
      store.NamesBelow document other name := by
  unfold NamesBelow
  refine and_congr_right fun hother => ?_
  have hne : other ≠ reference := by
    rintro rfl
    exact hother hnamed
  rw [lookup_forget, if_neg hne]

theorem namesBelow_forget :
    (store.forget reference).NamesBelow document other name ↔
      other ≠ reference ∧ store.NamesBelow document other name := by
  unfold NamesBelow
  rw [lookup_forget]
  by_cases h : other = reference <;> simp [h]

/-- Entering a reference records it under the name chosen for it, and nothing else. -/
theorem namesBelow_enterBelow (hbelow : ¬document.isNamed reference)
    (hrecords : ¬store.Records reference) :
    (store.enterBelow document reference).NamesBelow document other name ↔
      store.NamesBelow document other name ∨
        other = reference ∧ name = (store.nameBelow document reference).1 := by
  have hnone := not_records_iff.mp hrecords
  unfold NamesBelow
  rw [enterBelow, lookup_record, types_nameBelow, hnone, Option.getD_none]
  by_cases h : other = reference
  · subst h
    simp [hbelow, hnone, eq_comm]
  · simp [h]

theorem usedNames_enterBelow : ∀ taken ∈ store.usedNames,
    taken ∈ (store.enterBelow document reference).usedNames := by
  intro taken htaken
  show taken ∈ (store.nameBelow document reference).2.usedNames
  unfold nameBelow
  split
  · exact htaken
  · exact List.mem_append_left _ htaken

theorem declared_declare {declaration : Typing.Declaration} (h : declaration.name ∉ store.declared) :
    (store.declare declaration).declared = store.declared ++ [declaration.name] := by
  have hnone : store.declarations.any (·.name == declaration.name) = false := by
    rw [List.any_eq_false]
    intro other hother hsame
    exact h (List.mem_map.mpr ⟨other, hother, by simpa using hsame⟩)
  simp only [declared, declare, Memo.addDeclaration, hnone, Bool.false_eq_true, if_false,
    List.map_append, List.map_singleton]

theorem declared_enterBelow : (store.enterBelow document reference).declared = store.declared := by
  show (store.nameBelow document reference).2.declarations.map (·.name) = _
  unfold nameBelow
  split <;> rfl

/-! ## Changes that touch no reference below a named schema -/

theorem paired_fresh (document : Document) (visited : List String) :
    (fresh document).Paired document visited where
  reserved _ _ hname := Document.alias_mem_reservedNames hname
  chosen _ _ h := nomatch h.2
  distinct _ _ _ h := nomatch h.2
  settled _ _ h := nomatch h.2
  owned _ h := nomatch h
  once := List.nodup_nil

/-- Stores with the same declarations and the same recorded references below named schemas are paired
alike, if names have only been taken. -/
theorem Paired.congr (h : store.Paired document visited)
    (hnames : ∀ reference name, after.NamesBelow document reference name ↔
      store.NamesBelow document reference name) (hdeclared : after.declared = store.declared)
    (hused : ∀ taken ∈ store.usedNames, taken ∈ after.usedNames) : after.Paired document visited where
  reserved reference name hname := hused name (h.reserved reference name hname)
  chosen reference name hname := (h.chosen reference name ((hnames _ _).mp hname)).imp_right
    fun hclaimed => ⟨hused name hclaimed.1, hclaimed.2⟩
  distinct reference other name hname hother :=
    h.distinct reference other name ((hnames _ _).mp hname) ((hnames _ _).mp hother)
  settled reference name hname := hdeclared ▸ h.settled reference name ((hnames _ _).mp hname)
  owned name hname :=
    have ⟨reference, hreference⟩ := h.owned name (hdeclared ▸ hname)
    ⟨reference, (hnames _ _).mpr hreference⟩
  once := hdeclared ▸ h.once

theorem Paired.visit (h : store.Paired document visited) :
    store.Paired document (visited ++ [reference]) :=
  { h with settled := fun other name hname =>
      (h.settled other name hname).imp_left (List.mem_append_left _) }

/-- A reference to a named schema is left as it was entered. -/
theorem Paired.leave_of_isNamed (hnamed : document.isNamed reference)
    (h : store.Paired document (visited ++ [reference])) : store.Paired document visited where
  __ := h
  settled other name hname := by
    refine (h.settled other name hname).imp_left fun hother => ?_
    rcases List.mem_append.mp hother with hother | hother
    · exact hother
    · rw [List.mem_singleton.mp hother] at hname
      exact absurd hnamed hname.1

theorem Waiting.refl (document : Document) (visited : List String) (store : Store) :
    Waiting document visited store store :=
  fun _ _ _ hname hdeclared => ⟨hname, hdeclared⟩

theorem Waiting.trans (h : Waiting document visited store inner)
    (hafter : Waiting document visited inner after) : Waiting document visited store after := by
  intro reference hvisited name hname hdeclared
  obtain ⟨hinner, hinnerDeclared⟩ := h reference hvisited name hname hdeclared
  exact hafter reference hvisited name hinner hinnerDeclared

theorem Waiting.leave (h : Waiting document (visited ++ [reference]) store after) :
    Waiting document visited store after :=
  fun other hother => h other (List.mem_append_left _ hother)

/-- Nothing stops waiting if the same references below named schemas are recorded and declared. -/
theorem Waiting.of_same (hnames : ∀ reference name, after.NamesBelow document reference name ↔
      store.NamesBelow document reference name) (hdeclared : after.declared = store.declared) :
    Waiting document visited store after :=
  fun reference _ name hname hwaits => ⟨(hnames reference name).mpr hname, hdeclared ▸ hwaits⟩

/-- What is recorded for a named schema is in no pair. -/
theorem Paired.record_of_isNamed (hnamed : document.isNamed reference)
    (h : store.Paired document visited) :
    (store.record reference name).Paired document visited :=
  h.congr (fun _ _ => namesBelow_record_of_isNamed hnamed) rfl fun _ => id

theorem Paired.forget_of_isNamed (hnamed : document.isNamed reference)
    (h : store.Paired document visited) : (store.forget reference).Paired document visited :=
  h.congr (fun _ _ => namesBelow_forget_of_isNamed hnamed) rfl fun _ => id

/-! ## References below named schemas -/

section

variable {raw : Json} (h : Document.ofJson raw = .ok document)
  (hbelow : ¬document.isNamed reference) (hrecords : ¬store.Records reference)

include h hrecords

/-- The name chosen for a new reference is that of no recorded one. -/
theorem Paired.nameBelow_free (hpaired : store.Paired document visited)
    (hname : store.NamesBelow document other (store.nameBelow document reference).1) : False := by
  have hother : other ≠ reference := by
    rintro rfl
    rw [NamesBelow, not_records_iff.mp hrecords] at hname
    exact nomatch hname.2
  have hchosen := hpaired.chosen other _ hname
  unfold nameBelow at hchosen
  cases halias : document.alias? reference with
  | some reserved =>
    simp only [halias] at hchosen
    rcases hchosen with hreserved | ⟨-, hclaimed⟩
    · exact hother (Document.eq_of_alias?_eq h hreserved halias)
    · exact hclaimed reference halias
  | none =>
    have hfresh := Name.fresh_not_mem "" (Name.pascal (Name.ofPointer reference)) store.usedNames
    simp only [halias] at hchosen
    rcases hchosen with hreserved | ⟨htaken, -⟩
    · exact hfresh (hpaired.reserved other _ hreserved)
    · exact hfresh htaken

theorem Paired.nameBelow_not_declared (hpaired : store.Paired document visited) :
    (store.nameBelow document reference).1 ∉ store.declared := by
  intro hdeclared
  obtain ⟨other, hother⟩ := hpaired.owned _ hdeclared
  exact hpaired.nameBelow_free h hrecords hother

include hbelow

theorem Paired.enterBelow (hpaired : store.Paired document visited) :
    (store.enterBelow document reference).Paired document (visited ++ [reference]) where
  reserved other name hname := usedNames_enterBelow name (hpaired.reserved other name hname)
  chosen other name hname := by
    rcases (namesBelow_enterBelow hbelow hrecords).mp hname with hname | ⟨rfl, rfl⟩
    · exact (hpaired.chosen other name hname).imp_right fun hclaimed =>
        ⟨usedNames_enterBelow name hclaimed.1, hclaimed.2⟩
    · show _ ∨ _ ∈ (store.nameBelow document other).2.usedNames ∧ _
      unfold nameBelow
      cases halias : document.alias? other with
      | some reserved => exact Or.inl rfl
      | none =>
        refine Or.inr ⟨List.mem_append_right _ (List.mem_singleton_self _), fun another hanother => ?_⟩
        exact Name.fresh_not_mem "" (Name.pascal (Name.ofPointer other)) store.usedNames
          (hpaired.reserved another _ hanother)
  distinct first second name hfirst hsecond := by
    rw [namesBelow_enterBelow hbelow hrecords] at hfirst hsecond
    rcases hfirst with hfirst | ⟨rfl, rfl⟩ <;> rcases hsecond with hsecond | ⟨rfl, hsame⟩
    · exact hpaired.distinct first second name hfirst hsecond
    · exact absurd (hsame ▸ hfirst) (hpaired.nameBelow_free h hrecords)
    · exact absurd hsecond (hpaired.nameBelow_free h hrecords)
    · rfl
  settled other name hname := by
    rw [declared_enterBelow]
    rcases (namesBelow_enterBelow hbelow hrecords).mp hname with hname | ⟨rfl, -⟩
    · exact (hpaired.settled other name hname).imp_left (List.mem_append_left _)
    · exact Or.inl (List.mem_append_right _ (List.mem_singleton_self other))
  owned name hname := by
    rw [declared_enterBelow] at hname
    obtain ⟨other, hother⟩ := hpaired.owned name hname
    exact ⟨other, (namesBelow_enterBelow hbelow hrecords).mpr (Or.inl hother)⟩
  once := by
    rw [declared_enterBelow]
    exact hpaired.once

/-- At the end of its target, a reference that was entered is recorded under its name, and still waits
for its declaration. -/
theorem Paired.waits (hpaired : store.Paired document visited)
    (hwaiting : Waiting document (visited ++ [reference]) (store.enterBelow document reference) inner) :
    inner.NamesBelow document reference (store.nameBelow document reference).1 ∧
      (store.nameBelow document reference).1 ∉ inner.declared := by
  have hvisited : reference ∈ visited ++ [reference] :=
    List.mem_append_right _ (List.mem_singleton_self reference)
  have hentered : (store.enterBelow document reference).NamesBelow document reference
      (store.nameBelow document reference).1 :=
    (namesBelow_enterBelow hbelow hrecords).mpr (Or.inr ⟨rfl, rfl⟩)
  have hundeclared : (store.nameBelow document reference).1 ∉
      (store.enterBelow document reference).declared := by
    rw [declared_enterBelow]
    exact hpaired.nameBelow_not_declared h hrecords
  exact hwaiting reference hvisited _ hentered hundeclared

/-- A reference that is left after its target did not lower is neither recorded nor declared. -/
theorem Paired.forget (hpaired : store.Paired document visited)
    (hinner : inner.Paired document (visited ++ [reference]))
    (hwaiting : Waiting document (visited ++ [reference]) (store.enterBelow document reference) inner) :
    (inner.forget reference).Paired document visited := by
  obtain ⟨hown, hwaits⟩ := hpaired.waits h hbelow hrecords hwaiting
  refine { hinner with
    chosen := ?_, distinct := ?_, settled := ?_, owned := ?_ }
  · intro other name hname
    exact hinner.chosen other name (namesBelow_forget.mp hname).2
  · intro first second name hfirst hsecond
    exact hinner.distinct first second name (namesBelow_forget.mp hfirst).2
      (namesBelow_forget.mp hsecond).2
  · intro other name hname
    obtain ⟨hne, hname⟩ := namesBelow_forget.mp hname
    refine (hinner.settled other name hname).imp_left fun hother => ?_
    rcases List.mem_append.mp hother with hother | hother
    · exact hother
    · exact absurd (List.mem_singleton.mp hother) hne
  · intro name hname
    obtain ⟨other, hother⟩ := hinner.owned name hname
    refine ⟨other, namesBelow_forget.mpr ⟨?_, hother⟩⟩
    rintro rfl
    have hsame : name = (store.nameBelow document other).1 :=
      Option.some.inj (hother.2.symm.trans hown.2)
    exact hwaits (hsame ▸ hname)

/-- A reference that is left after its target has lowered is recorded, and declared under its name. -/
theorem Paired.declare (hpaired : store.Paired document visited)
    (hinner : inner.Paired document (visited ++ [reference]))
    (hwaiting : Waiting document (visited ++ [reference]) (store.enterBelow document reference) inner)
    {declaration : Typing.Declaration}
    (hdeclaration : declaration.name = (store.nameBelow document reference).1) :
    (inner.declare declaration).Paired document visited := by
  obtain ⟨hown, hwaits⟩ := hpaired.waits h hbelow hrecords hwaiting
  have hdeclared := declared_declare (hdeclaration ▸ hwaits)
  refine { hinner with settled := ?_, owned := ?_, once := ?_ }
  · intro other name hname
    rw [hdeclared]
    rcases hinner.settled other name hname with hother | hother
    · rcases List.mem_append.mp hother with hother | hother
      · exact Or.inl hother
      · obtain rfl := List.mem_singleton.mp hother
        have hsame : name = declaration.name := by
          rw [hdeclaration]
          exact Option.some.inj (hname.2.symm.trans hown.2)
        exact Or.inr (List.mem_append_right _ (hsame ▸ List.mem_singleton_self _))
    · exact Or.inr (List.mem_append_left _ hother)
  · intro name hname
    rw [hdeclared] at hname
    rcases List.mem_append.mp hname with hname | hname
    · exact hinner.owned name hname
    · rw [List.mem_singleton.mp hname, hdeclaration]
      exact ⟨reference, hown⟩
  · rw [hdeclared]
    refine List.nodup_append.mpr ⟨hinner.once, List.nodup_singleton _, ?_⟩
    intro name hname other hother heq
    rw [List.mem_singleton.mp hother, hdeclaration] at heq
    rw [heq] at hname
    exact hwaits hname

omit h in
/-- The references above one that was entered wait on while its target is lowered. -/
theorem Waiting.through (hnew : reference ∉ visited)
    (hwaiting : Waiting document (visited ++ [reference]) (store.enterBelow document reference) inner)
    (hother : other ∈ visited) (hname : store.NamesBelow document other name)
    (hdeclared : name ∉ store.declared) :
    other ≠ reference ∧ inner.NamesBelow document other name ∧ name ∉ inner.declared := by
  have hentered := (namesBelow_enterBelow hbelow hrecords).mpr (Or.inl hname)
  have hundeclared : name ∉ (store.enterBelow document reference).declared := by
    rw [declared_enterBelow]
    exact hdeclared
  refine ⟨?_, hwaiting other (List.mem_append_left _ hother) name hentered hundeclared⟩
  rintro rfl
  exact hnew hother

end

end Store

/-! ## The discipline -/

open Store in
/-- Steps keep what is recorded and what is declared in pairs, and leave what waits alone. -/
theorem Store.Paired.discipline {raw : Json} {document : Document}
    (h : Document.ofJson raw = .ok document) :
    Discipline document (Store.Paired document) (Store.Waiting document) where
  refl := Waiting.refl document
  trans := Waiting.trans
  dependencies _ hpaired := hpaired.congr (fun _ _ => Iff.rfl) rfl fun _ => id
  depend _ _ _ := Waiting.of_same (fun _ _ => Iff.rfl) rfl
  enclosed _ hwaiting := hwaiting
  warned _ hpaired := ⟨hpaired.congr (fun _ _ => Iff.rfl) rfl fun _ => id,
    Waiting.of_same (fun _ _ => Iff.rfl) rfl⟩
  claim _ hpaired := ⟨hpaired.congr (fun _ _ => Iff.rfl) rfl fun _ => List.mem_append_left _,
    Waiting.of_same (fun _ _ => Iff.rfl) rfl⟩
  visit _ hpaired := hpaired.visit
  named hnamed _ hinner hwaiting :=
    have hleft := hinner.leave_of_isNamed hnamed
    have hrecorded := Waiting.of_same (fun _ _ => namesBelow_record_of_isNamed hnamed) rfl
    ⟨⟨hleft, hwaiting.leave⟩, hleft.record_of_isNamed hnamed, hwaiting.leave.trans hrecorded⟩
  enterBelow hbelow _ hrecords hpaired := hpaired.enterBelow h hbelow hrecords
  leaveBelow {visited store inner reference} hbelow hnew hrecords hpaired hinner hwaiting := by
    obtain ⟨hown, hwaits⟩ := hpaired.waits h hbelow hrecords hwaiting
    refine ⟨⟨hpaired.forget h hbelow hrecords hinner hwaiting, ?_⟩, fun declaration hname =>
      ⟨hpaired.declare h hbelow hrecords hinner hwaiting hname, ?_⟩⟩
    · intro other hother name hentry hundeclared
      obtain ⟨hne, hinside, hstill⟩ :=
        Waiting.through hbelow hrecords hnew hwaiting hother hentry hundeclared
      exact ⟨namesBelow_forget.mpr ⟨hne, hinside⟩, hstill⟩
    · intro other hother name hentry hundeclared
      obtain ⟨hne, hinside, hstill⟩ :=
        Waiting.through hbelow hrecords hnew hwaiting hother hentry hundeclared
      refine ⟨hinside, ?_⟩
      rw [declared_declare (hname ▸ hwaits), List.mem_append, not_or]
      refine ⟨hstill, fun hsame => hne ?_⟩
      rw [List.mem_singleton.mp hsame, hname] at hinside
      exact hinner.distinct other reference _ hinside hown

/-! ## Calls -/

namespace Context

open Store

variable {raw : Json} {document : Document} {options : Options} {context : Context}

theorem through_call_paired (h : Document.ofJson raw = .ok document) (call : Call)
    (hcall : call.IsOf document) {store : Store} (hpaired : store.Paired document []) :
    call.step.Through (Scope.Safe options (Store.Paired document)) ⟨document, options, {}⟩ store
      fun _ _ => True := by
  have hdiscipline := Paired.discipline h
  have hsafe : Scope.Safe options (Store.Paired document) {} store := ⟨Nat.zero_le _, hpaired⟩
  cases hown : call.ownPointer? with
  | none =>
    obtain ⟨demands, hcalls⟩ := Upholds.call hdiscipline options [] 0 call hown
    exact (hcalls [] store hsafe).mono fun _ _ _ _ => trivial
  | some pointer =>
    obtain ⟨entry, rfl⟩ := Call.eq_lowerNamed hown
    have hnamed : document.isNamed entry.pointer := Document.isNamed_iff.mpr ⟨entry, hcall, rfl⟩
    refine Upholds.lowerNamed hdiscipline hsafe ?_ ?_ ?_
    · intro inner _ hinner hwaiting
      exact ⟨hinner.leave_of_isNamed hnamed, hwaiting.leave⟩
    · intro inner declarations hleaves
      exact ⟨hleaves.1.record_of_isNamed hnamed, trivial⟩
    · intro inner error hleaves
      exact ⟨hleaves.1.forget_of_isNamed hnamed, trivial⟩

/-- At every moment of a call from the root, the store is paired but for what is being resolved. -/
theorem moments_paired (h : Document.ofJson raw = .ok context.document) (hscope : context.scope = {})
    (hpaired : context.store.Paired context.document []) {call : Call}
    (hcall : call.IsOf context.document) {moment : Context}
    (hmoment : moment ∈ context.moments call.step) :
    moment.store.Paired context.document moment.scope.visited := by
  have hthrough : call.step.Through (Scope.Safe context.options (Store.Paired context.document))
      context.setting context.store fun _ _ => True := by
    rw [setting, hscope]
    exact through_call_paired h call hcall hpaired
  exact ((hthrough.run context).1 moment hmoment).2

/-- Between calls, the scope is the one at the root, and the store is paired. -/
theorem Rests.paired (h : Document.ofJson raw = .ok document) (hrests : Rests document options context) :
    context.document = document ∧ context.options = options ∧ context.scope = {} ∧
      context.store.Paired document [] := by
  induction hrests with
  | fresh => exact ⟨rfl, rfl, rfl, paired_fresh document []⟩
  | @after context _ call hcall ih =>
    obtain ⟨rfl, rfl, hscope, hpaired⟩ := ih
    have hend := moments_paired h hscope hpaired hcall (run_mem_moments call.step context)
    have hplace : (context.run call.step).2.scope = {} := by
      rw [run_eq]
      exact hscope
    rw [hplace] at hend
    rw [run_eq] at hend ⊢
    exact ⟨rfl, rfl, hscope, hend⟩

/-- Between calls, the recorded references below named schemas and the declarations made for them
correspond one to one by their names: the name of each such reference is that of exactly one declaration
and of no other such reference, and every declaration belongs to one. At every moment of a call, each
such reference is declared or being resolved. -/
theorem references_declared_once (h : Document.ofJson raw = .ok document)
    (hrests : Rests document options context) :
    context.scope.visited = [] ∧
      (∀ reference name, ¬document.isNamed reference → context.recorded? reference = some name →
        (context.store.declarations.map (·.name)).count name = 1) ∧
      (∀ reference other name, ¬document.isNamed reference → ¬document.isNamed other →
        context.recorded? reference = some name → context.recorded? other = some name →
          reference = other) ∧
      (∀ declaration ∈ context.store.declarations, ∃ reference, ¬document.isNamed reference ∧
        context.recorded? reference = some declaration.name) ∧
      ∀ call : Call, call.IsOf document → ∀ moment ∈ context.moments call.step,
        ∀ reference name, ¬document.isNamed reference → moment.recorded? reference = some name →
          (∃ declaration ∈ moment.store.declarations, declaration.name = name) ∨
            reference ∈ moment.scope.visited := by
  obtain ⟨rfl, rfl, hscope, hpaired⟩ := hrests.paired h
  refine ⟨by rw [hscope], ?_, ?_, ?_, ?_⟩
  · intro reference name hbelow hname
    have hdeclared : name ∈ context.store.declared :=
      (hpaired.settled reference name ⟨hbelow, hname⟩).resolve_left (List.not_mem_nil)
    exact List.count_eq_one_of_mem hpaired.once hdeclared
  · intro reference other name hbelow hother hname hsame
    exact hpaired.distinct reference other name ⟨hbelow, hname⟩ ⟨hother, hsame⟩
  · intro declaration hdeclaration
    exact hpaired.owned declaration.name (List.mem_map_of_mem hdeclaration)
  · intro call hcall moment hmoment reference name hbelow hname
    have hmomentPaired := moments_paired h hscope hpaired hcall hmoment
    rcases hmomentPaired.settled reference name ⟨hbelow, hname⟩ with hvisited | hdeclared
    · exact Or.inr hvisited
    · exact Or.inl (List.mem_map.mp hdeclared)

/-- A tree whose nodes refer back to the place where a node stands. -/
def tree : Json :=
  .obj [("definitions", .obj [("Tree", .obj [("properties", .obj [("node", .obj [("properties", .obj
    [("next", .obj [("$ref", .str "#/definitions/Tree/properties/node")])])])])])])]

/-- The reference to the node, which stands in the node itself, is declared once. -/
theorem references_declared_once_of_tree : ∃ document context name,
    Document.ofJson tree = .ok document ∧ Rests document {} context ∧
      context.recorded? "#/definitions/Tree/properties/node" = some name ∧
        (context.store.declarations.map (·.name)).count name = 1 := by
  have hrun : ((Document.ofJson tree).toOption.any fun document =>
      !document.isNamed "#/definitions/Tree/properties/node" &&
        (((fresh document {}).run (describe ⟨.ref "#/definitions/Tree/properties/node", {}⟩)
          ).2.recorded? "#/definitions/Tree/properties/node").isSome) = true := by decide +kernel
  obtain ⟨document, hdocument, hrun⟩ := Decode.exists_ok_of_any hrun
  rw [Bool.and_eq_true, Bool.not_eq_true', Option.isSome_iff_exists] at hrun
  obtain ⟨hbelow, name, hname⟩ := hrun
  have hrests : Rests document {} ((fresh document {}).run
      (describe ⟨.ref "#/definitions/Tree/properties/node", {}⟩)).2 :=
    .after .fresh (.describe ⟨.ref "#/definitions/Tree/properties/node", {}⟩) trivial
  have honce := (references_declared_once hdocument hrests).2.1 _ name (by simp [hbelow]) hname
  exact ⟨document, _, name, hdocument, hrests, hname, honce⟩

end Context

end SchemaTypings
