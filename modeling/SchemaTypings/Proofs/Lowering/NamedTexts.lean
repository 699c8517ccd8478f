import SchemaTypings.Proofs.Lowering.Gathers
import SchemaTypings.Proofs.Lowering.InlineCongruence
import SchemaTypings.Proofs.Lowering.InlineTexts
import SchemaTypings.Proofs.Lowering.OwnName
import SchemaTypings.Proofs.Typing.Trees

/-!
# The names that texts are written with

A type expression is written over names if it is made of them, of words and of literals
(`Lowering.WrittenOver`). The type expression of a schema is the one that stands there when every reference
in the schema is replaced by the name that it has in the end (`Spelling.gives`). So it is written over the
names of these references, all of which are dependencies then (`Lowering.written_typeExpression`).
-/

namespace SchemaTypings

open LowerM Lowering Typing

namespace Lowering

/-! ## Texts over names -/

/-- What a part of a type expression is: a type, or a member of an object type. -/
inductive TextRole where
  | type
  | member

/-- The text is made of the names, of words and literals, by what joins type expressions. -/
inductive Written (names : String → Prop) : TextRole → String → Prop
  | name {text : String} (h : names text) : Written names .type text
  | top : Written names .type topType
  | bottom : Written names .type bottomType
  | primitive (options : Options) (format : Option String) (type : Primitive) :
    Written names .type (primitiveType options format type)
  | literal (value : Json) : Written names .type value.literal
  | union {parts : List String} (h : ∀ part ∈ parts, Written names .type part) :
    Written names .type (union parts)
  | intersection {parts : List String} (h : ∀ part ∈ parts, Written names .type part) :
    Written names .type (intersection parts)
  | arrayOf (options : Options) {element : String} (h : Written names .type element) :
    Written names .type (arrayOf options element)
  | mapOf (options : Options) {value : String} (h : Written names .type value) :
    Written names .type (mapOf options value)
  | signature (options : Options) (name : String) {type : String} (info : SchemaInfo)
    (required : Bool) (h : Written names .type type) :
    Written names .member (inlineSignature options name type info required)
  | index {value : String} (h : Written names .type value) :
    Written names .member (indexSignatureText value)
  | object {signatures : List String} (h : ∀ signature ∈ signatures, Written names .member signature) :
    Written names .type (objectText signatures)
  | nullable (options : Options) {base : String} (h : Written names .type base) :
    Written names .type (makeNullable options base)

/-- The type expression is written over the names. -/
abbrev WrittenOver (names : String → Prop) (text : String) : Prop :=
  Written names .type text

variable {names more : String → Prop} {role : TextRole} {text : String}

theorem Written.mono (h : Written names role text) (hnames : ∀ name, names name → more name) :
    Written more role text := by
  induction h with
  | name h => exact .name (hnames _ h)
  | top => exact .top
  | bottom => exact .bottom
  | primitive options format type => exact .primitive options format type
  | literal value => exact .literal value
  | union _ ih => exact .union ih
  | intersection _ ih => exact .intersection ih
  | arrayOf options _ ih => exact .arrayOf options ih
  | mapOf options _ ih => exact .mapOf options ih
  | signature options name info required _ ih => exact .signature options name info required ih
  | index _ ih => exact .index ih
  | object _ ih => exact .object ih
  | nullable options _ ih => exact .nullable options ih

theorem Written.closed (names : String → Prop) : Closed (Written names .type) (Written names .member) where
  top := .top
  bottom := .bottom
  primitive := .primitive
  literal := .literal
  union := .union
  intersection := .intersection
  arrayOf := .arrayOf
  mapOf := .mapOf
  signature := .signature
  index := .index
  object := .object
  nullable := .nullable

/-! ## Declarations over names -/

/-- The members of an object type, each one on a line. -/
def blockText (lines : String) : String :=
  s!"\x7b\n{lines}\x7d"

/-- The declaration of an alias, with its documentation. -/
def aliasText (options : Options) (doc : List String) (name type : String) : String :=
  let header := docComment doc "" ++ options.exportWord
  s!"{header}type {name} = {type};"

/-- The declaration of an interface, with its documentation. -/
def interfaceText (options : Options) (doc : List String) (name lines : String) : String :=
  let header := docComment doc "" ++ options.exportWord
  s!"{header}interface {name} \x7b\n{lines}\x7d"

/-- The members are written over the names. -/
structure MembersOver (names : String → Prop) (properties : List Property) (index : Option String) :
    Prop where
  properties : ∀ property ∈ properties, WrittenOver names property.descriptor.typeName
  index : ∀ value ∈ index, WrittenOver names value

/-- The text declares a type of the name, as an alias of a type expression, or of an object type that admits
null, or as an interface; and this is written over the names. -/
inductive DeclarationOver (names : String → Prop) (name : String) : String → Prop
  | alias (options : Options) (doc : List String) {type : String} (h : WrittenOver names type) :
    DeclarationOver names name (aliasText options doc name type)
  | nullable (options : Options) (doc : List String) {properties : List Property} {index : Option String}
    (h : MembersOver names properties index) : DeclarationOver names name
      (aliasText options doc name (makeNullable options (blockText (memberLines options properties index))))
  | interface (options : Options) (doc : List String) {properties : List Property} {index : Option String}
    (h : MembersOver names properties index) : DeclarationOver names name
      (interfaceText options doc name (memberLines options properties index))

end Lowering

/-! ## References under their names -/

/-- Every run of the first step that succeeds continues the store, and if the references that are recorded or
being resolved afterwards have the given names, then the second step gives the same, wherever it is run at the
same level. -/
def Spelling (document : Document) (options : Options) (visited : List String) (names : String → String)
    {α : Type} (step step' : LowerM α) : Prop :=
  ∀ depth path {store after : Store} {value : α},
    step.runWith (.within document options path visited depth) store = (.ok value, after) →
      Store.Extends document visited [] store after ∧
        ((∀ reference, reference ∈ visited ∨ after.Records reference →
            after.nameOf document reference = names reference) →
          ∀ path' store', ∃ after',
            step'.runWith (.within document options path' visited depth) store' = (.ok value, after'))

namespace Spelling

variable {document : Document} {options : Options} {visited path : List String} {names : String → String}
  {depth : Nat} {store after : Store} {α β : Type} {step step' : LowerM α}

/-- A step that does the same in every store, and leaves types and names alone. -/
theorem refl (h : ∀ setting store, (step.runWith setting store).2.types = store.types ∧
      (step.runWith setting store).2.usedNames = store.usedNames)
    (hsame : ∀ {depth path store value after}, step.runWith (.within document options path visited depth)
      store = (.ok value, after) → ∀ path' store',
        (step.runWith (.within document options path' visited depth) store').1 = .ok value) :
    Spelling document options visited names step step := by
  intro depth path store after value hrun
  have hunchanged := h (.within document options path visited depth) store
  rw [hrun] at hunchanged
  exact ⟨.of_eq hunchanged.1 hunchanged.2, fun _ path' store' =>
    ⟨_, Prod.ext (hsame hrun path' store') rfl⟩⟩

theorem bind {next next' : α → LowerM β} (h : Spelling document options visited names step step')
    (hnext : ∀ value, Spelling document options visited names (next value) (next' value)) :
    Spelling document options visited names (step >>= next) (step' >>= next') := by
  intro depth path store after result hrun
  obtain ⟨value, between, hstep, hrest⟩ := runWith_bind_eq_ok.mp hrun
  obtain ⟨hextends, hsame⟩ := h depth path hstep
  obtain ⟨hextends', hsame'⟩ := hnext value depth path hrest
  refine ⟨hextends.trans hextends', fun hnames path' store' => ?_⟩
  -- a reference that is met by the first part has its name already
  have hbetween : ∀ reference, reference ∈ visited ∨ between.Records reference →
      between.nameOf document reference = names reference := by
    intro reference hmet
    rw [← hextends'.nameOf_eq hmet]
    exact hnames reference (hmet.imp_right hextends'.records)
  obtain ⟨between', hstep'⟩ := hsame hbetween path' store'
  obtain ⟨after', hrest'⟩ := hsame' hnames path' between'
  exact ⟨after', runWith_bind_eq_ok.mpr ⟨value, between', hstep', hrest'⟩⟩

theorem congruence : InlineCongruence (Spelling document options visited names) where
  pure _ := refl (fun _ _ => ⟨rfl, rfl⟩) fun hrun _ _ => (congrArg Prod.fst hrun :)
  options := refl (fun _ _ => ⟨rfl, rfl⟩) fun hrun _ _ => (congrArg Prod.fst hrun :)
  refuse _ := refl (fun _ _ => ⟨rfl, rfl⟩) fun hrun => nomatch hrun
  warn _ := refl (fun _ _ => ⟨rfl, rfl⟩) fun hrun _ _ => (congrArg Prod.fst hrun :)
  bind h hnext := h.bind hnext
  withSegment segment h := fun depth path store after value hrun =>
    (h depth (path ++ [segment]) hrun).imp_right fun hsame hnames path' =>
      hsame hnames (path' ++ [segment])
  descend segment h := fun depth path store after value hrun => by
    obtain ⟨hdeep, hstep⟩ := runWith_descend_eq_ok.mp hrun
    obtain ⟨hextends, hsame⟩ := h (depth + 1) (path ++ [segment]) hstep
    refine ⟨hextends, fun hnames path' store' => ?_⟩
    rw [runWith_descend_of_not_lt segment _ hdeep]
    exact hsame hnames (path' ++ [segment]) store'

theorem referenceName (reference : String) :
    Spelling document options visited names (referenceName reference) (pure (names reference)) := by
  intro depth path store after name hrun
  obtain ⟨resolution, between, hresolve, hname⟩ := runWith_bind_eq_ok.mp hrun
  cases hname
  obtain ⟨hname, hgathers⟩ := gathers_resolveReference hresolve
  refine ⟨Extending.resolveReference reference path hresolve, fun hnames path' store' => ⟨store', ?_⟩⟩
  rw [runWith_pure, hname, hnames reference (hgathers.met reference (by simp))]

/-- What the second step gives when every reference stands under the name that it has in the end is what the
first one gave. -/
theorem gives {step' : (String → String) → LowerM α} {post : α → Prop} {value : α}
    (h : ∀ names, Spelling document options visited names step (step' names))
    (hrun : step.runWith (.within document options path visited depth) store = (.ok value, after))
    (hgives : (step' fun reference => after.nameOf document reference).Gives post) : post value := by
  obtain ⟨after', hrun'⟩ := (h _ depth path hrun).2 (fun _ _ => rfl) path store
  exact (hgives _ store trivial).2 value (congrArg Prod.fst hrun')

end Spelling

namespace Lowering

variable {document : Document} {options : Options} {visited path : List String} {depth : Nat}
  {store after : Store}

/-- A type expression is written over the names of the references in its schema, all of which it depends
on. -/
theorem written_typeExpression {schema : Schema} {text : String}
    (hrun : (typeExpression schema).runWith (.within document options path visited depth) store =
      (.ok text, after)) : WrittenOver (· ∈ after.dependencies) text := by
  have hgathers := Gathering.rules.typeExpression schema path hrun
  have hgives : (typeOf (fun reference => pure (after.nameOf document reference)) schema).Gives
      (WrittenOver (· ∈ after.dependencies)) := by
    refine ensures_typeOf Gives.placeless (Written.closed _) fun reference hmention => .pure (.name ?_)
    exact (hgathers.mem_dependencies _).mpr
      (Or.inr ⟨reference, Schema.follow_mem_demands.mpr hmention, rfl⟩)
  have hspelling : ∀ names, Spelling document options visited names (typeExpression schema)
      (typeOf (fun reference => pure (names reference)) schema) := fun names =>
    Spelling.congruence.typeOf fun reference _ => Spelling.referenceName reference
  exact Spelling.gives hspelling hrun hgives

/-- So is the type of the values beyond the properties of an object. -/
theorem written_indexValue {propertyless : Bool} {additional : Additional Schema} {index : Option String}
    (hrun : (indexValue referenceName propertyless additional).runWith
      (.within document options path visited depth) store = (.ok index, after)) :
    ∀ value ∈ index, WrittenOver (· ∈ after.dependencies) value := by
  have hgathers := Gathering.rules.indexValue (fun schema _ => Gathering.rules.typeExpression schema)
    path hrun
  have hgives : (indexValue (fun reference => pure (after.nameOf document reference)) propertyless
      additional).Gives fun index => ∀ value ∈ index, WrittenOver (· ∈ after.dependencies) value := by
    refine ensures_indexValue Gives.placeless (Written.closed _) fun schema hschema => ?_
    refine ensures_typeOf Gives.placeless (Written.closed _) fun reference hmention => .pure (.name ?_)
    exact (hgathers.mem_dependencies _).mpr (Or.inr ⟨reference,
      List.mem_flatMap.mpr ⟨schema, hschema, Schema.follow_mem_demands.mpr hmention⟩, rfl⟩)
  have hspelling : ∀ names, Spelling document options visited names
      (indexValue referenceName propertyless additional)
      (indexValue (fun reference => pure (names reference)) propertyless additional) := fun names =>
    Spelling.congruence.indexValue fun schema _ => Spelling.congruence.typeOf fun reference _ =>
      Spelling.referenceName reference
  exact Spelling.gives hspelling hrun hgives

end Lowering

end SchemaTypings
