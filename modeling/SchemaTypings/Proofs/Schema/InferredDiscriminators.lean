import Mathlib.Data.List.Forall2
import SchemaTypings.Schema.Discriminator

/-!
# Discriminators that are inferred

A property tells shapes apart if each of them holds it to a single value, no two of these values are equal,
and, if that is strict, each of them requires it (`Discriminator.TellsApart`). The search gives up a property
at the first shape that speaks against it, and then looks at the next one. It finds the first property of the
first shape that tells the shapes apart, and so finds one if there is one at all (`Discriminator.infers_first`):
a property that tells the shapes apart is a property of each of them.
-/

namespace SchemaTypings

namespace Discriminator

variable {document : Document} {strict : Bool} {property : String}

/-! ## What the search looks for -/

/-- The schema is an object of that shape, by itself or at the end of a chain of references. -/
def HasShape (document : Document) (schema : Schema) (shape : ObjectShape Schema) : Prop :=
  ∃ target, document.resolveDeep? schema = some target ∧ target.kind = .object shape

/-- The shape has the property, whose schema lists a single value, by itself or at the end of a chain of
references. -/
def Pins (document : Document) (property : String) (shape : ObjectShape Schema) (value : Json) : Prop :=
  ∃ schema target listed, shape.property? property = some schema ∧
    document.resolveDeep? schema = some target ∧ target.kind = .enum listed ∧ listed.values = [value]

/-- The property has a single value in each of the shapes, no two of them are equal, and each shape requires
the property if that is strict. -/
structure TellsApart (document : Document) (strict : Bool) (property : String)
    (shapes : List (ObjectShape Schema)) (values : List Json) : Prop where
  pinned : List.Forall₂ (Pins document property) shapes values
  unequal : values.Pairwise fun value other => value.equals other = false
  required : strict = true → ∀ shape ∈ shapes, property ∈ shape.required

/-! ## Shapes and values -/

theorem memberShape?_eq_some_iff {schema : Schema} {shape : ObjectShape Schema} :
    memberShape? document schema = some shape ↔ HasShape document schema shape := by
  rw [memberShape?, Option.bind_eq_some_iff]
  refine exists_congr fun target => and_congr_right fun _ => ?_
  unfold Schema.objectShape?
  split <;> simp_all

theorem singleValue?_eq_some_iff {schema : Schema} {value : Json} :
    schema.singleValue? = some value ↔ ∃ listed, schema.kind = .enum listed ∧ listed.values = [value] := by
  unfold Schema.singleValue?
  split
  · rename_i hkind
    simp [hkind]
  · rename_i hother
    refine ⟨nofun, ?_⟩
    rintro ⟨⟨values, names, descriptions, deprecated⟩, hkind, hvalues⟩
    obtain rfl : values = [value] := hvalues
    exact absurd hkind (hother _ _ _ _)

theorem pinned?_eq_some_iff {shape : ObjectShape Schema} {value : Json} :
    pinned? document shape property = some value ↔ Pins document property shape value := by
  simp only [pinned?, Pins, Option.bind_eq_some_iff, singleValue?_eq_some_iff]
  constructor
  · rintro ⟨target, ⟨schema, hschema, htarget⟩, listed, hkind, hvalues⟩
    exact ⟨schema, target, listed, hschema, htarget, hkind, hvalues⟩
  · rintro ⟨schema, target, listed, hschema, htarget, hkind, hvalues⟩
    exact ⟨target, ⟨schema, hschema, htarget⟩, listed, hkind, hvalues⟩

theorem requires_iff {shape : ObjectShape Schema} : shape.requires property = true ↔ property ∈ shape.required :=
  List.contains_iff_mem

theorem mem_properties_of_pins {shape : ObjectShape Schema} {value : Json} (h : Pins document property shape value) :
    property ∈ shape.properties.map (·.1) := by
  obtain ⟨schema, -, -, hschema, -, -, -⟩ := h
  obtain ⟨before, after, hproperties, -⟩ := List.lookup_eq_some_iff.mp hschema
  simp [hproperties]

theorem isIn_eq_false_iff {value : Json} {values : List Json} :
    value.isIn values = false ↔ ∀ other ∈ values, other.equals value = false := by
  simp [Json.isIn]

theorem mapM_eq_some_iff {α β : Type} {f : α → Option β} {items : List α} {values : List β} :
    items.mapM f = some values ↔ List.Forall₂ (fun item value => f item = some value) items values := by
  induction items generalizing values with
  | nil => simp [eq_comm]
  | cons item rest ih =>
    simp only [List.mapM_cons, List.forall₂_cons_left_iff, Option.bind_eq_bind, Option.bind_eq_some_iff,
      Option.pure_def, Option.some.injEq, ih]
    constructor
    · rintro ⟨first, hfirst, others, hothers, rfl⟩
      exact ⟨first, others, hfirst, hothers, rfl⟩
    · rintro ⟨first, others, hfirst, hothers, rfl⟩
      exact ⟨first, hfirst, others, hothers, rfl⟩

/-! ## The search -/

/-- A property tells shapes apart if it has a single value in the first one and tells the others apart, with
values that are unequal to that one. -/
theorem tellsApart_cons_iff {shape : ObjectShape Schema} {rest : List (ObjectShape Schema)} {values : List Json} :
    TellsApart document strict property (shape :: rest) values ↔ ∃ value others, values = value :: others ∧
      (strict = true → property ∈ shape.required) ∧ Pins document property shape value ∧
      (∀ other ∈ others, value.equals other = false) ∧ TellsApart document strict property rest others := by
  constructor
  · rintro ⟨hpinned, hunequal, hrequired⟩
    cases hpinned with
    | @cons _ value _ others hvalue hothers =>
      obtain ⟨hfirst, hunequal⟩ := List.pairwise_cons.mp hunequal
      refine ⟨value, others, rfl, fun hstrict => ?_, hvalue, hfirst, hothers, hunequal, fun hstrict => ?_⟩
      · exact hrequired hstrict shape List.mem_cons_self
      · exact (List.forall_mem_cons.mp (hrequired hstrict)).2
  · rintro ⟨value, others, rfl, hrequired, hvalue, hfirst, hothers⟩
    refine ⟨.cons hvalue hothers.pinned, .cons hfirst hothers.unequal, fun hstrict => ?_⟩
    exact List.forall_mem_cons.mpr ⟨hrequired hstrict, hothers.required hstrict⟩

/-- A step of the search goes on with the value of the shape if nothing speaks against it. -/
theorem distinctValues?_cons_eq_some_iff {seen values : List Json} {shape : ObjectShape Schema}
    {rest : List (ObjectShape Schema)} :
    distinctValues? document strict property seen (shape :: rest) = some values ↔
      ∃ value, (strict = true → property ∈ shape.required) ∧ Pins document property shape value ∧
        (∀ other ∈ seen, other.equals value = false) ∧
        distinctValues? document strict property (seen ++ [value]) rest = some values := by
  have hrequired : (strict && !shape.requires property) = false ↔ (strict = true → property ∈ shape.required) := by
    rw [← requires_iff]
    cases strict <;> simp
  simp only [← hrequired, ← pinned?_eq_some_iff, ← isIn_eq_false_iff]
  rw [distinctValues?]
  cases strict && !shape.requires property with
  | true => simp
  | false =>
    cases hpinned : pinned? document shape property with
    | none => simp
    | some value => cases hseen : value.isIn seen <;> simp [hseen]

/-- What is found for a property after the values that were seen: one value for each of the shapes, each unequal
to those before it. -/
theorem distinctValues?_eq_some_iff {seen values : List Json} {shapes : List (ObjectShape Schema)} :
    distinctValues? document strict property seen shapes = some values ↔ ∃ found, values = seen ++ found ∧
      TellsApart document strict property shapes found ∧
      ∀ other ∈ seen, ∀ value ∈ found, other.equals value = false := by
  induction shapes generalizing seen with
  | nil =>
    rw [distinctValues?]
    constructor
    · rintro ⟨⟩
      exact ⟨[], by simp, ⟨.nil, .nil, by simp⟩, by simp⟩
    · rintro ⟨found, rfl, ⟨hpinned, -, -⟩, -⟩
      cases hpinned
      simp
  | cons shape rest ih =>
    rw [distinctValues?_cons_eq_some_iff]
    constructor
    · rintro ⟨value, hrequired, hvalue, hnew, hrest⟩
      obtain ⟨others, rfl, hothers, hunequal⟩ := ih.mp hrest
      have hfirst : ∀ other ∈ others, value.equals other = false := hunequal value (by simp)
      refine ⟨value :: others, by simp,
        tellsApart_cons_iff.mpr ⟨value, others, rfl, hrequired, hvalue, hfirst, hothers⟩, ?_⟩
      intro other hother
      exact List.forall_mem_cons.mpr ⟨hnew other hother, hunequal other (List.mem_append_left _ hother)⟩
    · rintro ⟨found, rfl, hfound, hunequal⟩
      obtain ⟨value, others, rfl, hrequired, hvalue, hfirst, hothers⟩ := tellsApart_cons_iff.mp hfound
      refine ⟨value, hrequired, hvalue, fun other hother => hunequal other hother value List.mem_cons_self, ?_⟩
      refine ih.mpr ⟨others, by simp, hothers, fun other hother => ?_⟩
      rcases List.mem_append.mp hother with hother | hother
      · exact fun later hlater => hunequal other hother later (List.mem_cons_of_mem _ hlater)
      · rw [List.mem_singleton.mp hother]
        exact hfirst

/-- What is found for a property, from the first shape on. -/
theorem distinctValues?_nil_eq_some_iff {values : List Json} {shapes : List (ObjectShape Schema)} :
    distinctValues? document strict property [] shapes = some values ↔
      TellsApart document strict property shapes values := by
  rw [distinctValues?_eq_some_iff]
  constructor
  · rintro ⟨found, rfl, hfound, -⟩
    exact hfound
  · exact fun h => ⟨values, rfl, h, by simp⟩

theorem distinctValues?_nil_eq_none_iff {shapes : List (ObjectShape Schema)} :
    distinctValues? document strict property [] shapes = none ↔
      ∀ values, ¬TellsApart document strict property shapes values := by
  simp only [Option.eq_none_iff_forall_ne_some, ne_eq, distinctValues?_nil_eq_some_iff]

/-- The first property of the first shape that tells the shapes apart, with the values. -/
def FirstApart (document : Document) (strict : Bool) (shapes : List (ObjectShape Schema))
    (properties : List String) (found : ResolvedDiscriminator) : Prop :=
  ∃ before after values, properties = before ++ found.property :: after ∧
    TellsApart document strict found.property shapes values ∧ found.values = values.map some ∧
    ∀ earlier ∈ before, ∀ others, ¬TellsApart document strict earlier shapes others

theorem firstCandidate?_eq_some_iff {shapes : List (ObjectShape Schema)} {properties : List String}
    {found : ResolvedDiscriminator} :
    firstCandidate? document strict shapes properties = some found ↔
      FirstApart document strict shapes properties found := by
  rw [firstCandidate?, List.findSome?_eq_some_iff]
  simp only [Option.map_eq_some_iff, Option.map_eq_none_iff, distinctValues?_nil_eq_some_iff,
    distinctValues?_nil_eq_none_iff]
  constructor
  · rintro ⟨before, property, after, hproperties, ⟨values, hvalues, rfl⟩, hbefore⟩
    exact ⟨before, after, values, hproperties, hvalues, rfl, hbefore⟩
  · rintro ⟨before, after, values, hproperties, hvalues, heq, hbefore⟩
    exact ⟨before, found.property, after, hproperties, ⟨values, hvalues, by rw [← heq]⟩, hbefore⟩

/-- The search finds something if one of the properties tells the shapes apart. -/
theorem firstCandidate?_isSome_iff {shapes : List (ObjectShape Schema)} {properties : List String} :
    (firstCandidate? document strict shapes properties).isSome = true ↔
      ∃ property ∈ properties, ∃ values, TellsApart document strict property shapes values := by
  rw [firstCandidate?, List.findSome?_isSome_iff]
  simp only [Option.isSome_map, Option.isSome_iff_exists, distinctValues?_nil_eq_some_iff]

theorem infer?_eq_some_iff {members : List Schema} {found : ResolvedDiscriminator} :
    infer? document members strict = some found ↔ 2 ≤ members.length ∧ ∃ first rest,
      List.Forall₂ (HasShape document) members (first :: rest) ∧
      FirstApart document strict (first :: rest) (first.properties.map (·.1)) found := by
  unfold infer?
  split
  · refine ⟨nofun, ?_⟩
    rintro ⟨hlength, -⟩
    omega
  · rename_i hlength
    simp only [bind, Option.bind_eq_some_iff, mapM_eq_some_iff, memberShape?_eq_some_iff,
      firstCandidate?_eq_some_iff, List.head?_eq_some_iff]
    constructor
    · rintro ⟨_, hshapes, first, ⟨rest, rfl⟩, hfound⟩
      exact ⟨by omega, first, rest, hshapes, hfound⟩
    · rintro ⟨-, first, rest, hshapes, hfound⟩
      exact ⟨_, hshapes, first, ⟨rest, rfl⟩, hfound⟩

/-- A discriminator is inferred if and only if there are two members or more, all of them are objects, and some
property tells them apart. It is the first such property of the first member, with the value of each member. -/
theorem infers_first (document : Document) (members : List Schema) (strict : Bool) :
    ((infer? document members strict).isSome = true ↔ 2 ≤ members.length ∧ ∃ shapes,
      List.Forall₂ (HasShape document) members shapes ∧
      ∃ property values, TellsApart document strict property shapes values) ∧
    ∀ found, infer? document members strict = some found → ∃ first rest,
      List.Forall₂ (HasShape document) members (first :: rest) ∧
      FirstApart document strict (first :: rest) (first.properties.map (·.1)) found := by
  refine ⟨⟨fun h => ?_, ?_⟩, fun found h => (infer?_eq_some_iff.mp h).2⟩
  · obtain ⟨found, hfound⟩ := Option.isSome_iff_exists.mp h
    obtain ⟨hlength, first, rest, hshapes, -, -, values, -, hvalues, -⟩ := infer?_eq_some_iff.mp hfound
    exact ⟨hlength, first :: rest, hshapes, found.property, values, hvalues⟩
  · rintro ⟨hlength, shapes, hshapes, property, values, hvalues⟩
    cases shapes with
    | nil =>
      cases hshapes
      simp at hlength
    | cons first rest =>
      -- the first shape has the property, so the search comes to it if it finds no other one before
      obtain ⟨value, -, -, -, hpins, -⟩ := tellsApart_cons_iff.mp hvalues
      have hsome : (firstCandidate? document strict (first :: rest) (first.properties.map (·.1))).isSome = true :=
        firstCandidate?_isSome_iff.mpr ⟨property, mem_properties_of_pins hpins, values, hvalues⟩
      obtain ⟨found, hfound⟩ := Option.isSome_iff_exists.mp hsome
      rw [infer?_eq_some_iff.mpr ⟨hlength, first, rest, hshapes, firstCandidate?_eq_some_iff.mp hfound⟩]
      rfl

end Discriminator

end SchemaTypings
