import SchemaTypings.Proofs.Document.Chains
import SchemaTypings.Proofs.Document.DistinctKeys
import SchemaTypings.Proofs.FirstOccurrences
import SchemaTypings.Schema.FlatShape

/-!
# What a flat shape takes together

A schema may lead to objects through the members of `allOf` and through chains of references
(`Document.ReachesShape`). Its flat shape is what those objects have together (`FlatShape.Unites`), as far as they
are reached within the bounds on levels and on chains (`Document.flatten_unites`). So it has everything if they all
are (`Document.seesEvery_of_within`), and an object beyond the bounds is left out, whether the schema leads to others
or not (`Document.flatten_leaves_out_far_objects`).
-/

namespace SchemaTypings

/-! ## Objects that are reached -/

namespace Document

variable {document : Document} {schema : Schema}

/-- The schema leads to an object through so many levels of `allOf` members. On every level, the chain of
references that begins with the member has fewer links than the limit. -/
inductive ReachesShape (document : Document) (limit : Nat) : Nat → Schema → ObjectShape Schema → Prop
  | object {links : Nat} {schema target : Schema} {shape : ObjectShape Schema} (hlinks : links < limit)
      (htarget : document.EndsIn links schema target) (hkind : target.kind = .object shape) :
      ReachesShape document limit 0 schema shape
  | member {links levels : Nat} {schema target member : Schema} {members : List Schema}
      {shape : ObjectShape Schema} (hlinks : links < limit) (htarget : document.EndsIn links schema target)
      (hkind : target.kind = .allOf members) (hmember : member ∈ members)
      (h : ReachesShape document limit levels member shape) :
      ReachesShape document limit (levels + 1) schema shape

/-- The objects that a schema leads to through fewer levels, in the order in which they are written. -/
def objectsWithin (document : Document) (limit : Nat) : Nat → Schema → List (ObjectShape Schema)
  | 0, _ => []
  | levels + 1, schema =>
    match (document.follow? limit schema).map Schema.kind with
    | some (.object shape) => [shape]
    | some (.allOf members) => members.flatMap (document.objectsWithin limit levels)
    | _ => []

theorem mem_objectsWithin {limit bound : Nat} {shape : ObjectShape Schema} :
    shape ∈ document.objectsWithin limit bound schema ↔
      ∃ levels < bound, document.ReachesShape limit levels schema shape := by
  induction bound generalizing schema with
  | zero => simp [objectsWithin]
  | succ bound ih =>
    rw [objectsWithin]
    constructor
    · intro hmem
      split at hmem
      · rename_i found hfound
        obtain ⟨target, htarget, hkind⟩ := Option.map_eq_some_iff.mp hfound
        obtain ⟨links, hlinks, hchain⟩ := follow?_eq_some_iff.mp htarget
        obtain rfl := List.mem_singleton.mp hmem
        exact ⟨0, by omega, .object hlinks hchain hkind⟩
      · rename_i members hfound
        obtain ⟨target, htarget, hkind⟩ := Option.map_eq_some_iff.mp hfound
        obtain ⟨links, hlinks, hchain⟩ := follow?_eq_some_iff.mp htarget
        obtain ⟨member, hmember, hmem⟩ := List.mem_flatMap.mp hmem
        obtain ⟨levels, hlevels, h⟩ := ih.mp hmem
        exact ⟨levels + 1, by omega, .member hlinks hchain hkind hmember h⟩
      · simp at hmem
    · rintro ⟨levels, hlevels, h⟩
      cases h with
      | object hlinks hchain hkind =>
        rw [follow?_eq_some_iff.mpr ⟨_, hlinks, hchain⟩, Option.map_some, hkind]
        exact List.mem_singleton_self shape
      | @member _ levels _ _ member _ _ hlinks hchain hkind hmember h =>
        rw [follow?_eq_some_iff.mpr ⟨_, hlinks, hchain⟩, Option.map_some, hkind]
        exact List.mem_flatMap.mpr ⟨member, hmember, ih.mpr ⟨levels, by omega, h⟩⟩

end Document

/-! ## What objects have together -/

/-- The flat shape has what the objects have together. A property that several have stands where the first has it,
with the schema that the last gives it. -/
structure FlatShape.Unites (flat : FlatShape) (objects : List (ObjectShape Schema)) : Prop where
  names : flat.properties.map (·.1) = (objects.flatMap fun object => object.properties.map (·.1)).eraseDups
  schemas : ∀ name, flat.properties.lookup name = (objects.filterMap (·.property? name)).getLast?
  required : flat.required.eraseDups = (objects.flatMap (·.required)).eraseDups

namespace FlatShape

variable {flat first second : FlatShape} {objects others : List (ObjectShape Schema)}

theorem Unites.mem_names (h : flat.Unites objects) {name : String} :
    name ∈ flat.properties.map (·.1) ↔ ∃ object ∈ objects, name ∈ object.properties.map (·.1) := by
  rw [h.names, List.mem_eraseDups, List.mem_flatMap]

theorem Unites.mem_required (h : flat.Unites objects) {name : String} :
    name ∈ flat.required ↔ ∃ object ∈ objects, name ∈ object.required := by
  rw [← List.mem_eraseDups, h.required, List.mem_eraseDups, List.mem_flatMap]

theorem unites_nil : Unites {} [] where
  names := rfl
  schemas _ := rfl
  required := rfl

theorem unites_singleton {shape : ObjectShape Schema} (h : (shape.properties.map (·.1)).Nodup) :
    Unites ⟨shape.properties, shape.required⟩ [shape] where
  names := by rw [List.flatMap_singleton, eraseDups_of_nodup h]
  schemas name := by
    show shape.property? name = _
    cases hname : shape.property? name <;> simp [hname]
  required := by rw [List.flatMap_singleton]

theorem Unites.extend (hfirst : first.Unites objects) (hsecond : second.Unites others) :
    (first.extend second).Unites (objects ++ others) where
  names := by
    calc (first.extend second).properties.map (·.1)
        = (second.properties.map (·.1)).foldl addName (first.properties.map (·.1)) := keys_foldl_setProperty
      _ = _ := by rw [hfirst.names, hsecond.names, foldl_addName_eraseDups, List.flatMap_append]
  schemas name := by
    have hdistinct : (second.properties.map (·.1)).Nodup := hsecond.names ▸ nodup_eraseDups
    calc (first.extend second).properties.lookup name
        = (second.properties.lookup name).or (first.properties.lookup name) :=
          lookup_foldl_setProperty hdistinct
      _ = _ := by rw [hfirst.schemas, hsecond.schemas, List.filterMap_append, List.getLast?_append]
  required := by
    calc (first.extend second).required.eraseDups
        = (first.required ++ second.required).eraseDups := eraseDups_foldl_addName
      _ = second.required.eraseDups.foldl addName first.required.eraseDups := foldl_addName_eraseDups.symm
      _ = _ := by rw [hfirst.required, hsecond.required, foldl_addName_eraseDups, List.flatMap_append]

/-- There is a flat shape if there are objects, and then it is what they have together. -/
inductive Flattens : Option FlatShape → List (ObjectShape Schema) → Prop
  | none : Flattens none []
  | some {flat : FlatShape} {objects : List (ObjectShape Schema)} (hobjects : objects ≠ [])
      (h : flat.Unites objects) : Flattens (some flat) objects

theorem Flattens.eq_none_iff {found : Option FlatShape} (h : Flattens found objects) :
    found = Option.none ↔ objects = [] := by
  cases h with
  | none => simp
  | some hobjects _ => simp [hobjects]

theorem unites_foldl_extend {members : List Schema} {flatten : Schema → Option FlatShape}
    {objectsOf : Schema → List (ObjectShape Schema)} (hflat : flat.Unites objects)
    (h : ∀ member ∈ members, Flattens (flatten member) (objectsOf member)) :
    ((members.filterMap flatten).foldl extend flat).Unites (objects ++ members.flatMap objectsOf) := by
  induction members generalizing flat objects with
  | nil => rwa [List.flatMap_nil, List.append_nil]
  | cons member rest ih =>
    obtain ⟨hmember, hrest⟩ := List.forall_mem_cons.mp h
    rw [List.flatMap_cons, ← List.append_assoc]
    cases hfound : flatten member with
    | none =>
      rw [List.filterMap_cons_none hfound, hmember.eq_none_iff.mp hfound, List.append_nil]
      exact ih hflat hrest
    | some part =>
      rw [List.filterMap_cons_some hfound, List.foldl_cons]
      rw [hfound] at hmember
      cases hmember with
      | some _ hpart => exact ih (hflat.extend hpart) hrest

theorem flattens_members {members : List Schema} {flatten : Schema → Option FlatShape}
    {objectsOf : Schema → List (ObjectShape Schema)}
    (h : ∀ member ∈ members, Flattens (flatten member) (objectsOf member)) :
    Flattens (match members.filterMap flatten with
      | [] => Option.none
      | parts => Option.some (parts.foldl extend {})) (members.flatMap objectsOf) := by
  split
  · rename_i hnone
    have hobjects : members.flatMap objectsOf = [] := by
      refine List.flatMap_eq_nil_iff.mpr fun member hmember => (h member hmember).eq_none_iff.mp ?_
      exact List.filterMap_eq_nil_iff.mp hnone member hmember
    rw [hobjects]
    exact .none
  · rename_i hsome
    refine .some (fun hobjects => hsome ?_) (unites_foldl_extend unites_nil h)
    refine List.filterMap_eq_nil_iff.mpr fun member hmember => (h member hmember).eq_none_iff.mpr ?_
    exact List.flatMap_eq_nil_iff.mp hobjects member hmember

variable {raw : Json} {document : Document}

/-- By induction on the levels: the objects of a schema are those of its members one after the other. -/
theorem flattens_ofSchema? (hraw : raw.Wellformed) (h : Document.ofJson raw = .ok document) (hops : Nat)
    {schema : Schema} (hschema : schema.PropertiesDistinct) :
    Flattens (ofSchema? document hops schema) (document.objectsWithin Document.chainLimit hops schema) := by
  induction hops generalizing schema with
  | zero => exact .none
  | succ hops ih =>
    rw [ofSchema?, Document.objectsWithin, ← Document.resolveDeep?]
    cases htarget : document.resolveDeep? schema with
    | none => exact .none
    | some target =>
      have hdistinct := Document.propertiesDistinct_of_resolveDeep? hraw h hschema htarget
      rw [Option.bind_some, Option.map_some]
      cases hkind : target.kind with
      | object shape => exact .some (List.cons_ne_nil _ _) (unites_singleton (hdistinct target shape (.refl _) hkind))
      | allOf members =>
        refine flattens_members fun member hmember => ih (hdistinct.of_child ?_)
        rw [Schema.children, hkind]
        exact hmember
      | _ => exact .none

end FlatShape

/-! ## Within and beyond the bounds -/

namespace Document

variable {raw : Json} {document : Document} {schema : Schema}

theorem flattens_flatten? (hraw : raw.Wellformed) (h : ofJson raw = .ok document)
    (hschema : schema.PropertiesDistinct) :
    FlatShape.Flattens (document.flatten? schema)
      (document.objectsWithin chainLimit FlatShape.maxHops schema) :=
  FlatShape.flattens_ofSchema? hraw h FlatShape.maxHops hschema

/-- A schema has a flat shape if it leads to an object within the bounds, and the flat shape is what all the objects
that it leads to within them have together. -/
theorem flatten_unites (hraw : raw.Wellformed) (h : ofJson raw = .ok document)
    (hschema : schema.PropertiesDistinct) :
    (∀ shape, shape ∈ document.objectsWithin chainLimit FlatShape.maxHops schema ↔
      ∃ levels < FlatShape.maxHops, document.ReachesShape chainLimit levels schema shape) ∧
    ((document.flatten? schema).isSome = true ↔
      ∃ levels < FlatShape.maxHops, ∃ shape, document.ReachesShape chainLimit levels schema shape) ∧
    ∀ flat, document.flatten? schema = some flat →
      flat.Unites (document.objectsWithin chainLimit FlatShape.maxHops schema) := by
  have hflattens := flattens_flatten? hraw h hschema
  refine ⟨fun shape => mem_objectsWithin, ?_, fun flat hflat => ?_⟩
  · calc (document.flatten? schema).isSome = true
        ↔ document.objectsWithin chainLimit FlatShape.maxHops schema ≠ [] := by
          rw [Option.isSome_iff_ne_none, ne_eq, hflattens.eq_none_iff]
      _ ↔ ∃ shape, shape ∈ document.objectsWithin chainLimit FlatShape.maxHops schema :=
          ⟨List.exists_mem_of_ne_nil _, fun ⟨_, hmem⟩ => List.ne_nil_of_mem hmem⟩
      _ ↔ _ := by
          simp only [mem_objectsWithin]
          exact ⟨fun ⟨shape, levels, hlevels, h⟩ => ⟨levels, hlevels, shape, h⟩,
            fun ⟨levels, hlevels, shape, h⟩ => ⟨shape, levels, hlevels, h⟩⟩
  · rw [hflat] at hflattens
    cases hflattens with
    | some _ hunites => exact hunites

/-- A user, and a reference to it. -/
def userDefinitions : Json :=
  .obj [("$defs", .obj [("User", .obj [("properties", .obj [("id", .obj []), ("name", .obj [])]),
    ("required", .arr [.str "id"])]), ("Person", .obj [("$ref", .str "#/$defs/User")])])]

/-- A user by that reference, with a label, and with an `id` that is a number. -/
def labelledUser : Json :=
  .obj [("allOf", .arr [.obj [("$ref", .str "#/$defs/Person")],
    .obj [("properties", .obj [("label", .obj []), ("id", .obj [("type", .str "integer")])]),
      ("required", .arr [.str "label", .str "id"])]])]

theorem flatten_unites_of_labelledUser : ∃ document schema flat, userDefinitions.Wellformed ∧
    ofJson userDefinitions = .ok document ∧ Schema.ofJson labelledUser = .ok schema ∧
    schema.PropertiesDistinct ∧ document.flatten? schema = some flat ∧
    flat.properties.map (·.1) = ["id", "name", "label"] ∧ flat.required = ["id", "label"] ∧
    (∀ shape, shape ∈ document.objectsWithin chainLimit FlatShape.maxHops schema ↔
      ∃ levels < FlatShape.maxHops, document.ReachesShape chainLimit levels schema shape) ∧
    flat.Unites (document.objectsWithin chainLimit FlatShape.maxHops schema) := by
  have hraw : userDefinitions.Wellformed := by
    simp [userDefinitions, Json.wellformed_obj_iff, Json.wellformed_arr_iff, Json.Wellformed.str]
  have hvalue : labelledUser.Wellformed := by
    simp [labelledUser, Json.wellformed_obj_iff, Json.wellformed_arr_iff, Json.Wellformed.str]
  have hdistinct := Schema.propertiesDistinct_of_ofJson hvalue rfl
  obtain ⟨hobjects, -, hunites⟩ := flatten_unites hraw rfl hdistinct
  exact ⟨_, _, _, hraw, rfl, rfl, hdistinct, rfl, rfl, rfl, hobjects, hunites _ rfl⟩

/-- The schema leads to the object, however far away that is. -/
def ReachesObject (document : Document) (schema : Schema) (shape : ObjectShape Schema) : Prop :=
  ∃ limit levels, document.ReachesShape limit levels schema shape

/-- The flat shape has everything of every object that the schema leads to. -/
def SeesEvery (document : Document) (schema : Schema) : Prop :=
  ∀ shape, document.ReachesObject schema shape → ∃ flat, document.flatten? schema = some flat ∧
    (∀ property ∈ shape.properties, property.1 ∈ flat.properties.map (·.1)) ∧
    ∀ name ∈ shape.required, name ∈ flat.required

theorem seesEvery_of_within (hraw : raw.Wellformed) (h : ofJson raw = .ok document)
    (hschema : schema.PropertiesDistinct)
    (hwithin : ∀ shape, document.ReachesObject schema shape →
      ∃ levels < FlatShape.maxHops, document.ReachesShape chainLimit levels schema shape) :
    document.SeesEvery schema := by
  intro shape hreached
  have hmem := mem_objectsWithin.mpr (hwithin shape hreached)
  have hflattens := flattens_flatten? hraw h hschema
  cases hflat : document.flatten? schema with
  | none =>
    rw [hflattens.eq_none_iff.mp hflat] at hmem
    cases hmem
  | some flat =>
    rw [hflat] at hflattens
    cases hflattens with
    | some _ hunites =>
      refine ⟨flat, rfl, fun property hproperty => ?_, fun name hname => ?_⟩
      · exact hunites.mem_names.mpr ⟨shape, hmem, List.mem_map_of_mem hproperty⟩
      · exact hunites.mem_required.mpr ⟨shape, hmem, hname⟩

/-- Whether some object within the bounds requires a name that the flat shape does not. -/
def leavesOut (document : Document) (limit bound : Nat) (schema : Schema) (name : String) : Bool :=
  (document.objectsWithin limit bound schema).any (·.requires name) &&
    !(document.flatten? schema).any (·.required.contains name)

theorem not_seesEvery_of_leavesOut {limit bound : Nat} {name : String}
    (h : document.leavesOut limit bound schema name = true) : ¬document.SeesEvery schema := by
  obtain ⟨hrequired, hmissing⟩ := Bool.and_eq_true_iff.mp h
  obtain ⟨shape, hshape, hname⟩ := List.any_eq_true.mp hrequired
  obtain ⟨levels, -, hreached⟩ := mem_objectsWithin.mp hshape
  intro hsees
  obtain ⟨flat, hflat, -, hall⟩ := hsees shape ⟨limit, levels, hreached⟩
  have hmem : name ∈ flat.required := hall name (List.contains_iff_mem.mp hname)
  simp [hflat, hmem] at hmissing

/-- An object with a property that it requires. -/
def objectWith (name : String) : Json :=
  .obj [("properties", .obj [(name, .obj [("type", .str "string")])]), ("required", .arr [.str name])]

/-- The value as the only member of `allOf`, so many times over. -/
def nestedMembers (value : Json) : Nat → Json
  | 0 => value
  | levels + 1 => .obj [("allOf", .arr [nestedMembers value levels])]

/-- So many references, each to the next, and the last to an object. -/
def aliasesOf (object : Json) (links : Nat) : Json :=
  .obj [("$defs", .obj ((List.range links).map (fun index =>
    (s!"S{index}", .obj [("$ref", .str s!"#/$defs/S{index + 1}")])) ++ [(s!"S{links}", object)]))]

/-- An object is left out if it is sixteen levels deep, also if there are others besides, and if it stands at the end
of a chain of thirty-two references. -/
theorem flatten_leaves_out_far_objects : ∃ document deep beside,
    ofJson (aliasesOf (objectWith "label") 31) = .ok document ∧
    Schema.ofJson (nestedMembers (objectWith "label") 16) = .ok deep ∧
    Schema.ofJson (.obj [("allOf", .arr [objectWith "id", nestedMembers (objectWith "label") 15])]) = .ok beside ∧
    ¬document.SeesEvery deep ∧ ¬document.SeesEvery beside ∧
    ¬document.SeesEvery { kind := .ref "#/$defs/S0" } := by
  have hchecks : (ofJson (aliasesOf (objectWith "label") 31)).toOption.any (fun document =>
      (Schema.ofJson (nestedMembers (objectWith "label") 16)).toOption.any fun deep =>
        (Schema.ofJson (.obj [("allOf", .arr [objectWith "id", nestedMembers (objectWith "label") 15])])).toOption.any
          fun beside =>
            document.leavesOut chainLimit 17 deep "label" && document.leavesOut chainLimit 17 beside "label" &&
              document.leavesOut 33 1 { kind := .ref "#/$defs/S0" } "label") = true := by
    decide +kernel
  obtain ⟨document, hdocument, hchecks⟩ := Decode.exists_ok_of_any hchecks
  obtain ⟨deep, hdeep, hchecks⟩ := Decode.exists_ok_of_any hchecks
  obtain ⟨beside, hbeside, hchecks⟩ := Decode.exists_ok_of_any hchecks
  simp only [Bool.and_eq_true] at hchecks
  obtain ⟨⟨hdeep', hbeside'⟩, hchain⟩ := hchecks
  exact ⟨document, deep, beside, hdocument, hdeep, hbeside, not_seesEvery_of_leavesOut hdeep',
    not_seesEvery_of_leavesOut hbeside', not_seesEvery_of_leavesOut hchain⟩

end Document

end SchemaTypings
