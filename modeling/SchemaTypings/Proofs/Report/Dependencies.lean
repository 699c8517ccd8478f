import SchemaTypings.Proofs.Lowering.Dependencies
import SchemaTypings.Proofs.Report.Order
import SchemaTypings.Proofs.Report.Undisturbed

/-!
# Outputs depend on what was lowered

If a declaration of an output depends on the type of a named schema, that schema was lowered as well. There
are exceptions (`Document.dependencies_lowered`): the schema may be refused where it is declared though it
is not where it is referred to; the declaration may have coined the name for itself; and in a run with one
store, the output may be of a schema whose own failure is concealed.
-/

namespace SchemaTypings

open LowerM Lowering Relation Typing

variable {raw : Json} {document : Document} {options : Options} {entry : NamedSchema} {store : Store}

/-! ## What an outcome depends on -/

/-- A store stays truthful at every turn. -/
theorem Store.Truthful.afterNamed (h : Document.ofJson raw = .ok document)
    (hentry : entry ∈ document.named) (htruthful : store.Truthful document) :
    (store.afterNamed document options entry).Truthful document := by
  have hrules : Rules document options
      (Relates document options (fun _ _ => True) (Store.StaysTruthful document)) :=
    Relates.rules storeRelation_staysTruthful (fun _ _ base hstore => hstore.claim base)
      fun visited depth reference _ path store hstore =>
        truthful_resolveReference h hstore options path visited depth reference
  have hdeclare : Relates document options (fun _ _ => True) (Store.StaysTruthful document)
      [entry.pointer] 0 (Lowering.declare (Name.pascal entry.name) entry.schema)
        (entry.demands document options) := hrules.declare _ entry.schema
  have hinner := hdeclare (fun _ _ => trivial) [] store htruthful
  rw [Store.afterNamed, NamedSchema.runWith_lowerNamed_alone]
  rcases hrun : (Lowering.declare (Name.pascal entry.name) entry.schema).runWith
    (.within document options [] [entry.pointer] 0) store with ⟨error | declarations, inner⟩ <;>
      rw [hrun] at hinner
  · exact hinner.forget entry.pointer
  · have hnamed : document.isNamed entry.pointer := Document.isNamed_iff.mpr ⟨entry, hentry, rfl⟩
    apply hinner.record
    rw [Document.denotes_of_isNamed hnamed, Document.ofReference_pointer h hentry]

theorem Store.truthful_afterAll (h : Document.ofJson raw = .ok document) {entries : List NamedSchema}
    (hentries : entries ⊆ document.named) :
    (Store.afterAll document options entries).Truthful document := by
  have hfold : ∀ store : Store, store.Truthful document →
      (entries.foldl (Store.afterNamed document options) store).Truthful document := by
    induction entries with
    | nil => exact fun store htruthful => htruthful
    | cons entry rest ih =>
      intro store htruthful
      exact ih (fun _ hmem => hentries (List.mem_cons_of_mem _ hmem)) _
        (htruthful.afterNamed h (hentries List.mem_cons_self))
  exact hfold _ truthful_fresh

namespace NamedSchema

/-- The outcome does not depend on the dependencies that others have left. -/
theorem outcome_of_dependencies (h : Document.ofJson raw = .ok document)
    (hentry : entry ∈ document.named)
    (hchanges : ReflTransGen (Store.Change document) (.fresh document) store)
    (dependencies : List String) :
    entry.outcome document options store = entry.outcome document options { store with dependencies } := by
  have hfixed : document.Fixed entry.pointer :=
    Or.inl (Document.isNamed_iff.mpr ⟨entry, hentry, rfl⟩)
  have hdeclare : SchemaTypings.Undisturbed document options entry.pointer (entry.Met document options)
      (fun _ => False) [entry.pointer] 0 (declare (Name.pascal entry.name) entry.schema)
        (entry.demands document options) :=
    (Undisturbed.rules h (fun _ _ _ => Met.next) hfixed).declare _ entry.schema
  have halike : store.Alike document options entry.pointer (entry.Met document options) (fun _ => False)
      False { store with dependencies } :=
    ⟨fun _ _ => Or.inl rfl, False.elim, List.Subset.refl _, fun _ => Or.inl⟩
  have hcanonical := Store.canonical_fresh.changes h hchanges
  have hmet : ∀ reference, .follow reference ∈ entry.demands document options →
      entry.Met document options reference := by
    intro reference hdemand
    by_cases hreference : reference = entry.pointer
    · exact Or.inl hreference
    · exact Or.inr ⟨reference, hdemand, .refl hreference⟩
  have hend := hdeclare.agrees [] store { store with dependencies } (by simp) hmet hcanonical
    hcanonical halike fun _ _ => id
  rw [outcome_eq, outcome_eq, hend.fst_eq]

/-- The named schema may depend on the name, if it is the type name of a named schema, only if that is
mentioned, or the name is its own. -/
def MayDepend (document : Document) (entry : NamedSchema) (name : String) : Prop :=
  name ∈ Document.typeNames document.named →
    (∃ target ∈ document.named, Name.pascal target.name = name ∧
      entry.schema.Mentions target.pointer) ∨ name = Name.pascal (Name.pascal entry.name)

theorem attribution (h : Document.ofJson raw = .ok document) (hentry : entry ∈ document.named) :
    Attribution raw document entry.pointer (entry.MayDepend document) where
  ofJson := h
  own := Document.isNamed_iff.mpr ⟨entry, hentry, rfl⟩
  other _ hother hmem := absurd hmem hother

theorem allowed_mayDepend (h : Document.ofJson raw = .ok document) :
    entry.schema.Allowed document (entry.MayDepend document) := by
  intro reference hmention hnamed _
  obtain ⟨target, htarget, rfl⟩ := Document.isNamed_iff.mp hnamed
  exact Or.inl ⟨target, htarget, (Document.ofReference_pointer h htarget).symm, hmention⟩

/-- The declarations of a schema that was lowered depend on what they may depend on, and on what its
operation coins. -/
theorem mayDepend_of_lowered (h : Document.ofJson raw = .ok document) (hentry : entry ∈ document.named)
    (hchanges : ReflTransGen (Store.Change document) (.fresh document) store)
    (htruthful : store.Truthful document) {declarations : List Declaration}
    (hlowered : entry.outcome document options store = .ok declarations) {declaration : Declaration}
    (hdeclaration : declaration ∈ declarations) {name : String}
    (hname : name ∈ declaration.dependencies) : entry.MayDepend document name ∨
      (Operation.select entry.schema).Coins (Name.pascal (Name.pascal entry.name)) name := by
  have hown : entry.MayDepend document (Name.pascal (Name.pascal entry.name)) := fun _ => Or.inr rfl
  have hstart : Declaring document entry.pointer (entry.MayDepend document)
      (.within document options [] [entry.pointer] 0) { store with dependencies := [] } :=
    ⟨rfl, rfl, ⟨htruthful.reserved, htruthful.denotes⟩, by simp⟩
  rw [outcome_of_dependencies h hentry hchanges [], outcome_eq] at hlowered
  obtain ⟨-, hpost⟩ := (attribution h hentry).declare hown (allowed_mayDepend h) _ _ hstart
  exact hpost declarations hlowered declaration hdeclaration name hname

end NamedSchema

/-! ## What is mentioned by a schema that was lowered -/

/-- Behind the own reference stands what is met without passing it. -/
theorem Document.Leads.departs {first last : String} (h : document.Leads (fun _ => False) first last)
    (own : String) :
    document.Leads (· = own) first last ∨ last = own ∨ ∃ target next,
      document.resolve? own = some target ∧ target.Mentions next ∧
        document.Leads (· = own) next last := by
  induction h with
  | @refl reference =>
    by_cases hown : reference = own
    · exact Or.inr (Or.inl hown)
    · exact Or.inl (.refl hown)
  | @step reference next last target _ htarget hmention _ ih =>
    rcases ih with hleads | hbehind
    · by_cases hown : reference = own
      · subst hown
        exact Or.inr (Or.inr ⟨target, next, htarget, hmention, hleads⟩)
      · exact Or.inl (.step hown htarget hmention hleads)
    · exact Or.inr hbehind

namespace NamedSchema

/-- A schema that succeeds alone stands before no obstacle. -/
theorem Granted.sound_alone (hpointers : (document.named.map (·.pointer)).Nodup)
    (hentry : entry ∈ document.named) (h : entry.Granted document options fun _ => False) :
    document.Sound options entry.pointer := by
  have htarget := Document.resolve?_pointer hpointers hentry
  have hgrants := (Refines.declare entry.schema).grants _ h
  intro last hlast
  rcases hlast.departs entry.pointer with hleads | rfl | ⟨target, next, hfound, hmention, hleads⟩
  · exact absurd rfl hleads.not_known
  · exact Document.not_obstacle_iff.mpr ⟨entry.schema, htarget, fun hrefuse => hgrants _ hrefuse⟩
  · obtain rfl := Option.some.inj (htarget.symm.trans hfound)
    have hdemand := hgrants _ (Schema.follow_mem_demands.mpr hmention)
    exact hdemand last (hleads.mono fun _ hknown => hknown.resolve_right id)

/-- A schema that is mentioned by one that succeeds alone succeeds alone as well, unless it is refused
where it is declared; where it is referred to it is not. -/
theorem Granted.of_mentioned (hpointers : (document.named.map (·.pointer)).Nodup)
    (hentry : entry ∈ document.named) (h : entry.Granted document options fun _ => False)
    {target : NamedSchema} (htarget : target ∈ document.named)
    (hmention : entry.schema.Mentions target.pointer) :
    .refuse ∉ target.schema.demands options 0 ∧
      (target.Granted document options (fun _ => False) ↔
        .refuse ∉ target.demands document options) := by
  have hsound := h.sound_alone hpointers hentry
  have hleads : document.Leads (fun _ => False) entry.pointer target.pointer :=
    .step id (Document.resolve?_pointer hpointers hentry) hmention (.refl id)
  constructor
  · obtain ⟨schema, hschema, hrefuse⟩ := Document.not_obstacle_iff.mp (hsound _ hleads)
    obtain rfl := Option.some.inj (hschema.symm.trans (Document.resolve?_pointer hpointers htarget))
    exact hrefuse
  · constructor
    · exact fun hgranted hrefuse => hgranted _ hrefuse
    · intro hrefuse demand hdemand
      cases demand with
      | refuse => exact absurd hdemand hrefuse
      | follow reference =>
        intro last hlast
        have hfollowed := leads_of_mem_demands hpointers htarget hdemand
        exact hsound last ((hleads.trans hfollowed).trans (hlast.mono fun _ => False.elim))

end NamedSchema

/-! ## Reports -/

/-- Some declaration of the output depends on the name. -/
def TypeOutput.Depends (output : TypeOutput) (name : String) : Prop :=
  ∃ declaration ∈ output.declarations, name ∈ declaration.dependencies

instance (output : TypeOutput) (name : String) : Decidable (output.Depends name) :=
  inferInstanceAs (Decidable (∃ declaration ∈ output.declarations, _))

/-- The output coins the name for itself: it is the one under which the schema is declared, but not that
by which it is referred to, or its operation coins it. -/
def TypeOutput.Coins (output : TypeOutput) (name : String) : Prop :=
  (name = Name.pascal (Name.pascal output.name) ∧ name ≠ Name.pascal output.name) ∨
    output.operation.Coins (Name.pascal (Name.pascal output.name)) name

instance (output : TypeOutput) (name : String) : Decidable (output.Coins name) :=
  inferInstanceAs (Decidable (_ ∨ _))

/-- A schema with the type name was lowered. -/
def Report.Lowers (report : Report) (name : String) : Prop :=
  ∃ output ∈ report.outputs, Name.ofReference output.pointer = name

namespace Document

/-- A schema with the type name is refused where it is declared, though not where it is referred to. -/
def Undeclarable (document : Document) (options : Options) (name : String) : Prop :=
  ∃ target ∈ document.named, Name.ofReference target.pointer = name ∧
    .refuse ∉ target.schema.demands options 0 ∧ .refuse ∈ target.demands document options

theorem mem_outputs_sequentially {output : TypeOutput} :
    output ∈ (lowerSequentially document options).outputs ↔ ∃ before entry after declarations,
      document.named = before ++ entry :: after ∧
        entry.outcome document options (.afterAll document options before) = .ok declarations ∧
          ⟨entry.name, entry.pointer, Operation.select entry.schema, declarations⟩ = output := by
  rw [(Report.lowerSequentially_eq document options).1, List.mem_filterMap]
  constructor
  · rintro ⟨⟨entry, result⟩, houtcome, hresult⟩
    obtain ⟨before, after, hnamed, rfl⟩ := Report.mem_outcomesFrom.mp houtcome
    obtain ⟨declarations, hlowered, rfl⟩ := Report.output?_eq_some.mp hresult
    exact ⟨before, entry, after, declarations, hnamed, hlowered, rfl⟩
  · rintro ⟨before, entry, after, declarations, hnamed, hlowered, rfl⟩
    refine ⟨(entry, .ok declarations), ?_, rfl⟩
    exact Report.mem_outcomesFrom.mpr ⟨before, after, hnamed, hlowered.symm⟩

theorem mem_outputs_inParallel {output : TypeOutput} :
    output ∈ (lowerInParallel document options).outputs ↔ ∃ entry ∈ document.named, ∃ declarations,
      entry.outcome document options (.fresh document) = .ok declarations ∧
        ⟨entry.name, entry.pointer, Operation.select entry.schema, declarations⟩ = output := by
  rw [(Report.lowerInParallel_eq document options).1, List.mem_filterMap]
  constructor
  · rintro ⟨outcome, houtcome, hresult⟩
    obtain ⟨entry, hentry, rfl⟩ := List.mem_map.mp houtcome
    obtain ⟨declarations, hlowered, rfl⟩ := Report.output?_eq_some.mp hresult
    exact ⟨entry, hentry, declarations, hlowered, rfl⟩
  · rintro ⟨entry, hentry, declarations, hlowered, rfl⟩
    refine ⟨(entry, .ok declarations), ?_, rfl⟩
    exact List.mem_map.mpr ⟨entry, hentry, by rw [hlowered]⟩

/-- A schema that one mentions that succeeds alone is lowered in every run, unless it is refused where it
is declared. -/
theorem lowers_of_mentioned (h : ofJson raw = .ok document)
    (hpointers : (document.named.map (·.pointer)).Nodup) (hentry : entry ∈ document.named)
    (hgranted : entry.Granted document options fun _ => False) {target : NamedSchema}
    (htarget : target ∈ document.named) (hmention : entry.schema.Mentions target.pointer) :
    ((lowerSequentially document options).Lowers (Name.ofReference target.pointer) ∧
        (lowerInParallel document options).Lowers (Name.ofReference target.pointer)) ∨
      document.Undeclarable options (Name.ofReference target.pointer) := by
  have hlocal := local_of_ofJson h
  obtain ⟨hreferred, hdeclared⟩ := hgranted.of_mentioned hpointers hentry htarget hmention
  by_cases hrefuse : .refuse ∈ target.demands document options
  · exact Or.inr ⟨target, htarget, rfl, hreferred, hrefuse⟩
  · have halone := hdeclared.mpr hrefuse
    obtain ⟨before, after, hnamed⟩ := List.append_of_mem htarget
    have hsucceeds : ∀ store, ∃ declarations, target.outcome document options store = .ok declarations :=
      fun store => (NamedSchema.succeeds_iff hlocal).mpr (halone.mono fun _ => False.elim)
    obtain ⟨declarations, hlowered⟩ := hsucceeds (.afterAll document options before)
    obtain ⟨declarations', hlowered'⟩ := hsucceeds (.fresh document)
    have hmem := mem_outputs_sequentially.mpr
      ⟨before, target, after, declarations, hnamed, hlowered, rfl⟩
    have hmem' := mem_outputs_inParallel.mpr ⟨target, htarget, declarations', hlowered', rfl⟩
    exact Or.inl ⟨⟨_, hmem, rfl⟩, ⟨_, hmem', rfl⟩⟩

/-- A name is undeclarable only if a schema of it fails, also if that is lowered alone. -/
theorem Undeclarable.fails_alone (h : ofJson raw = .ok document) {name : String}
    (hundeclarable : document.Undeclarable options name) :
    ∃ failure ∈ (lowerInParallel document options).failures, Name.ofReference failure.pointer = name := by
  obtain ⟨target, htarget, rfl, -, hrefuse⟩ := hundeclarable
  have hfails : ¬target.Granted document options (Store.fresh document).Records :=
    fun hgranted => hgranted .refuse hrefuse
  rw [← NamedSchema.succeeds_iff (local_of_ofJson h)] at hfails
  rw [(Report.lowerInParallel_eq document options).2]
  cases hresult : target.outcome document options (.fresh document) with
  | ok declarations => exact absurd ⟨declarations, hresult⟩ hfails
  | error error =>
    refine ⟨⟨target.name, target.pointer, error⟩, List.mem_filterMap.mpr ⟨(target, .error error), ?_, rfl⟩,
      rfl⟩
    exact List.mem_map.mpr ⟨target, htarget, by rw [hresult]⟩

/-- The type of a named schema on which an output depends is that of a schema that is mentioned, or its
own, or coined. -/
theorem depends_cases (h : ofJson raw = .ok document) (hentry : entry ∈ document.named)
    (hchanges : ReflTransGen (Store.Change document) (.fresh document) store)
    (htruthful : store.Truthful document) {declarations : List Declaration}
    (hlowered : entry.outcome document options store = .ok declarations) {target : NamedSchema}
    (htarget : target ∈ document.named) {output : TypeOutput}
    (houtput : ⟨entry.name, entry.pointer, Operation.select entry.schema, declarations⟩ = output)
    (hdepends : output.Depends (Name.ofReference target.pointer)) :
    (∃ other ∈ document.named, Name.ofReference other.pointer = Name.ofReference target.pointer ∧
        entry.schema.Mentions other.pointer) ∨
      Name.ofReference output.pointer = Name.ofReference target.pointer ∨
        output.Coins (Name.ofReference target.pointer) := by
  subst houtput
  obtain ⟨declaration, hdeclaration, hname⟩ := hdepends
  have htype : Name.ofReference target.pointer ∈ typeNames document.named := by
    rw [ofReference_pointer h htarget]
    exact List.mem_map_of_mem htarget
  rcases entry.mayDepend_of_lowered h hentry hchanges htruthful hlowered hdeclaration hname with
    hmay | hcoined
  · rcases hmay htype with ⟨other, hother, heq, hmention⟩ | hown
    · exact Or.inl ⟨other, hother, (ofReference_pointer h hother).trans heq, hmention⟩
    · by_cases hsame : Name.ofReference target.pointer = Name.pascal entry.name
      · exact Or.inr (Or.inl ((ofReference_pointer h hentry).trans hsame.symm))
      · exact Or.inr (Or.inr (Or.inl ⟨hown, hsame⟩))
  · exact Or.inr (Or.inr (Or.inr hcoined))

/-- If an output depends on the type of a named schema, one of that type name was lowered in the same run.
There are two exceptions: the schema is refused only where it is declared, or the output coins the name. In
a run with one store there is a third one: the output is of a schema whose own failure is concealed. -/
theorem dependencies_lowered (h : ofJson raw = .ok document) (hkeys : KeysDistinct raw)
    (options : Options) :
    (∀ output ∈ (lowerInParallel document options).outputs, ∀ entry ∈ document.named,
      output.Depends (Name.ofReference entry.pointer) →
        (lowerInParallel document options).Lowers (Name.ofReference entry.pointer) ∨
          document.Undeclarable options (Name.ofReference entry.pointer) ∨
            output.Coins (Name.ofReference entry.pointer)) ∧
    (∀ output ∈ (lowerSequentially document options).outputs, ∀ entry ∈ document.named,
      output.Depends (Name.ofReference entry.pointer) →
        (lowerSequentially document options).Lowers (Name.ofReference entry.pointer) ∨
          document.Undeclarable options (Name.ofReference entry.pointer) ∨
            output.Coins (Name.ofReference entry.pointer) ∨
              document.Conceals options output.pointer) := by
  have hlocal := local_of_ofJson h
  have hpointers := pointers_nodup h hkeys
  constructor
  · intro output hmem target htarget hdepends
    obtain ⟨entry, hentry, declarations, hlowered, houtput⟩ := mem_outputs_inParallel.mp hmem
    have hgranted : entry.Granted document options fun _ => False :=
      (NamedSchema.isOk_alone_iff hlocal).mp (by rw [hlowered]; rfl)
    rcases depends_cases h hentry .refl Store.truthful_fresh hlowered htarget houtput hdepends with
      ⟨other, hother, hname, hmention⟩ | hown | hcoined
    · rw [← hname]
      rcases lowers_of_mentioned h hpointers hentry hgranted hother hmention with ⟨-, hlowers⟩ | hrefused
      · exact Or.inl hlowers
      · exact Or.inr (Or.inl hrefused)
    · exact Or.inl ⟨output, hmem, hown⟩
    · exact Or.inr (Or.inr hcoined)
  · intro output hmem target htarget hdepends
    obtain ⟨before, entry, after, declarations, hnamed, hlowered, houtput⟩ :=
      mem_outputs_sequentially.mp hmem
    have hentry : entry ∈ document.named := by simp [hnamed]
    have hbefore : before ⊆ document.named := fun _ hmem => by simp [hnamed, hmem]
    rcases depends_cases h hentry (Store.changes_afterAll hbefore) (Store.truthful_afterAll h hbefore)
      hlowered htarget houtput hdepends with ⟨other, hother, hname, hmention⟩ | hown | hcoined
    · by_cases hgranted : entry.Granted document options fun _ => False
      · rw [← hname]
        rcases lowers_of_mentioned h hpointers hentry hgranted hother hmention with
          ⟨hlowers, -⟩ | hrefused
        · exact Or.inl hlowers
        · exact Or.inr (Or.inl hrefused)
      · have hturn := (NamedSchema.succeeds_iff hlocal).mp ⟨declarations, hlowered⟩
        subst houtput
        exact Or.inr (Or.inr (Or.inr ⟨before, entry, after, hnamed, rfl, hgranted, hturn⟩))
    · exact Or.inl ⟨output, hmem, hown⟩
    · exact Or.inr (Or.inr (Or.inl hcoined))

/-- Two schemas that refer to each other, and one that refers to one of them and to nothing. -/
def pairAndFailure : Json :=
  .obj [("$defs", .obj [("A", referrer [("b", "#/$defs/B")]), cycleEnd,
    ("C", referrer [("b", "#/$defs/B"), ("x", "#/$defs/M")])])]

/-- Of two schemas that refer to each other, one depends on the other, which was lowered. -/
theorem dependencies_lowered_of_pair : ∃ document, ofJson pairAndFailure = .ok document ∧
    KeysDistinct pairAndFailure ∧ ∃ output ∈ (lowerInParallel document {}).outputs,
      ∃ entry ∈ document.named, output.name ≠ entry.name ∧
        output.Depends (Name.ofReference entry.pointer) ∧
          (lowerInParallel document {}).Lowers (Name.ofReference entry.pointer) := by
  have hrun : ((ofJson pairAndFailure).toOption.any fun document =>
      (lowerInParallel document {}).outputs.any fun output =>
        document.named.any fun entry => decide (output.name ≠ entry.name ∧
          output.Depends (Name.ofReference entry.pointer) ∧
            (∀ failure ∈ (lowerInParallel document {}).failures,
              Name.ofReference failure.pointer ≠ Name.ofReference entry.pointer) ∧
              ¬output.Coins (Name.ofReference entry.pointer))) = true := by decide +kernel
  have hkeys : KeysDistinct pairAndFailure := by decide +kernel
  obtain ⟨document, hdocument, hrun⟩ := Decode.exists_ok_of_any hrun
  obtain ⟨output, houtput, hentries⟩ := List.any_eq_true.mp hrun
  obtain ⟨entry, hentry, hfacts⟩ := List.any_eq_true.mp hentries
  obtain ⟨hne, hdepends, hfailures, hcoins⟩ := of_decide_eq_true hfacts
  refine ⟨document, hdocument, hkeys, output, houtput, entry, hentry, hne, hdepends, ?_⟩
  rcases (dependencies_lowered hdocument hkeys {}).1 output houtput entry hentry hdepends with
    hlowers | hundeclarable | hcoined
  · exact hlowers
  · obtain ⟨failure, hfailure, hname⟩ := hundeclarable.fails_alone hdocument
    exact absurd hname (hfailures failure hfailure)
  · exact absurd hcoined hcoins

/-- A schema composed of a union and of references to itself, and one that refers to it. -/
def selfReferrer : Json :=
  .obj [("$defs", .obj [("A", .obj [("properties", .obj [("a", .obj [("$ref", .str "#/$defs/A")]),
    ("u", .obj [("oneOf", .arr [.obj [("type", .str "string")]])])])]), cycleEnd])]

/-- Options by which a composition must not refer back to what is being composed. -/
def refusingCycles : Options :=
  { composition := { circularRefs := .error } }

/-- A schema that is composed and refers to itself is refused then; one that refers to it is lowered all the
same, and depends on it. -/
theorem depends_on_failed_of_selfReferrer : ∃ document, ofJson selfReferrer = .ok document ∧
    ∃ output ∈ (lowerInParallel document refusingCycles).outputs, ∃ entry ∈ document.named,
      output.Depends (Name.ofReference entry.pointer) ∧
        (lowerInParallel document refusingCycles).failures.map (·.pointer) = [entry.pointer] := by
  have hrun : ((ofJson selfReferrer).toOption.any fun document =>
      (lowerInParallel document refusingCycles).outputs.any fun output =>
        document.named.any fun entry => decide (output.Depends (Name.ofReference entry.pointer) ∧
          (lowerInParallel document refusingCycles).failures.map (·.pointer) = [entry.pointer])) =
            true := by decide +kernel
  obtain ⟨document, hdocument, hrun⟩ := Decode.exists_ok_of_any hrun
  obtain ⟨output, houtput, hentries⟩ := List.any_eq_true.mp hrun
  obtain ⟨entry, hentry, hfacts⟩ := List.any_eq_true.mp hentries
  exact ⟨document, hdocument, output, houtput, entry, hentry, of_decide_eq_true hfacts⟩

end Document

end SchemaTypings
