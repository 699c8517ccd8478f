import Mathlib.Data.List.Forall2
import SchemaTypings.Proofs.Document.Chains
import SchemaTypings.Proofs.Document.Obstacle
import SchemaTypings.Proofs.Lowering.Demands
import SchemaTypings.Proofs.Lowering.Run

/-!
# What can be declared has a type

A schema is declared by other operations than those that give its type, and they ask for more: a
composition opens a level for each part that it declares. What they leave out, the property that a
discriminator pins, holds a single value, and nothing can stand in the way of that. So where a schema can
be declared, its type can be had (`Refines.declare`).
-/

namespace SchemaTypings

open Lowering

/-! ## Discriminators -/

namespace Discriminator

variable {document : Document} {members : List Schema} {found : ResolvedDiscriminator} {index : Nat}
  {shape : ObjectShape Schema} {info : SchemaInfo} {value : Json}

/-- Values that tell shapes apart are the single values of the property. -/
theorem forall₂_of_distinctValues? {strict : Bool} {property : String} {seen values : List Json}
    {shapes : List (ObjectShape Schema)}
    (h : distinctValues? document strict property seen shapes = some values) :
    ∃ found, values = seen ++ found ∧ List.Forall₂
      (fun shape value => pinned? document shape property = some value) shapes found := by
  induction shapes generalizing seen with
  | nil =>
    cases h
    exact ⟨[], by simp, .nil⟩
  | cons shape rest ih =>
    rw [distinctValues?] at h
    split at h
    · cases h
    · cases hpinned : pinned? document shape property with
      | none => simp [hpinned] at h
      | some value =>
        simp only [hpinned] at h
        split at h
        · cases h
        · obtain ⟨found, rfl, hfound⟩ := ih h
          exact ⟨value :: found, by simp, .cons hpinned hfound⟩

theorem getElem?_of_mapM_eq_some {α β : Type} {f : α → Option β} {items : List α} {values : List β}
    (h : items.mapM f = some values) {index : Nat} {item : α} (hitem : items[index]? = some item)
    {value : β} (hvalue : f item = some value) : values[index]? = some value := by
  induction items generalizing index values with
  | nil => cases hitem
  | cons first rest ih =>
    rw [List.mapM_cons] at h
    obtain ⟨result, hresult, h⟩ := Option.bind_eq_some_iff.mp h
    obtain ⟨others, hothers, h⟩ := Option.bind_eq_some_iff.mp h
    cases h
    cases index with
    | zero =>
      obtain rfl : first = item := by simpa using hitem
      simpa [hresult] using hvalue
    | succ index => exact ih hothers hitem

theorem memberShape?_object : memberShape? document ⟨.object shape, info⟩ = some shape := rfl

theorem pinned?_of_explicit {discriminator : Discriminator}
    (hmember : members[index]? = some ⟨.object shape, info⟩)
    (hvalue : ((explicit document discriminator members).values[index]?).join = some value) :
    pinned? document shape discriminator.propertyName = some value := by
  have hvalueOf : valueOf? document discriminator ⟨.object shape, info⟩ =
      pinned? document shape discriminator.propertyName := by
    simp [valueOf?, mappedValue?, nominalValue?, memberShape?_object]
  simpa [explicit, hmember, hvalueOf] using hvalue

theorem pinned?_of_infer? {strict : Bool} (h : infer? document members strict = some found)
    (hmember : members[index]? = some ⟨.object shape, info⟩)
    (hvalue : (found.values[index]?).join = some value) :
    pinned? document shape found.property = some value := by
  unfold infer? at h
  split at h
  · cases h
  · obtain ⟨shapes, hshapes, h⟩ := Option.bind_eq_some_iff.mp h
    obtain ⟨first, -, h⟩ := Option.bind_eq_some_iff.mp h
    obtain ⟨property, -, h⟩ := List.exists_of_findSome?_eq_some h
    obtain ⟨values, hvalues, rfl⟩ := Option.map_eq_some_iff.mp h
    obtain ⟨_, rfl, hfound⟩ := forall₂_of_distinctValues? hvalues
    have hshape : shapes[index]? = some shape :=
      getElem?_of_mapM_eq_some hshapes hmember memberShape?_object
    have hsingle : values[index]? = some value := by
      cases hat : values[index]? with
      | none => simp [hat] at hvalue
      | some single => simpa [hat] using hvalue
    obtain ⟨hlt, rfl⟩ := List.getElem?_eq_some_iff.mp hshape
    obtain ⟨hlt', rfl⟩ := List.getElem?_eq_some_iff.mp hsingle
    exact hfound.get hlt hlt'

/-- The discriminator of a union pins an object among its members to the single value of the
property. -/
theorem pinned?_of_discriminatorOf? {options : Options} {schema : Schema}
    (h : discriminatorOf? document options schema = some found)
    (hmember : (unionMembersOf schema)[index]? = some ⟨.object shape, info⟩)
    (hvalue : (found.values[index]?).join = some value) :
    pinned? document shape found.property = some value := by
  unfold discriminatorOf? at h
  dsimp only at h
  split at h
  · cases h
    exact pinned?_of_explicit hmember hvalue
  · split at h
    · exact pinned?_of_infer? h hmember hvalue
    · cases h

end Discriminator

/-! ## Refinement of demands -/

/-- What is asked for in place of other demands: no other references, and nothing less. -/
structure Refines (document : Document) (options : Options) (asked demands : List Demand) : Prop where
  follow : ∀ reference, .follow reference ∈ asked → .follow reference ∈ demands
  grants : ∀ known : String → Prop, (∀ demand ∈ asked, document.Grants options known demand) →
    ∀ demand ∈ demands, document.Grants options known demand

namespace Refines

variable {document : Document} {options : Options} {asked asked' between demands demands' : List Demand}
  {depth : Nat} {schema : Schema}

theorem refl (demands : List Demand) : Refines document options demands demands :=
  ⟨fun _ => id, fun _ => id⟩

theorem trans (h : Refines document options asked between)
    (h' : Refines document options between demands) : Refines document options asked demands :=
  ⟨fun reference hasked => h'.follow reference (h.follow reference hasked),
    fun known hgrants => h'.grants known (h.grants known hgrants)⟩

theorem append (h : Refines document options asked demands)
    (h' : Refines document options asked' demands') :
    Refines document options (asked ++ asked') (demands ++ demands') where
  follow reference hasked := by
    rcases List.mem_append.mp hasked with hasked | hasked
    · exact List.mem_append_left _ (h.follow reference hasked)
    · exact List.mem_append_right _ (h'.follow reference hasked)
  grants known hgrants demand hdemand := by
    rcases List.mem_append.mp hdemand with hdemand | hdemand
    · exact h.grants known (fun other hother => hgrants other (List.mem_append_left _ hother)) demand
        hdemand
    · exact h'.grants known (fun other hother => hgrants other (List.mem_append_right _ hother)) demand
        hdemand

theorem flatMap {α : Type} {items : List α} {f g : α → List Demand}
    (h : ∀ item ∈ items, Refines document options (f item) (g item)) :
    Refines document options (items.flatMap f) (items.flatMap g) := by
  induction items with
  | nil => exact refl []
  | cons item rest ih =>
    rw [List.flatMap_cons, List.flatMap_cons]
    exact (h item (by simp)).append (ih fun other hother => h other (by simp [hother]))

theorem level (h : Refines document options asked demands) :
    Refines document options (options.levelDemands depth ++ asked) demands where
  follow reference hasked := by
    have hlevel : .follow reference ∉ options.levelDemands depth := by
      unfold Options.levelDemands
      split <;> simp
    exact h.follow reference ((List.mem_append.mp hasked).resolve_left hlevel)
  grants known hgrants :=
    h.grants known fun other hother => hgrants other (List.mem_append_right _ hother)

theorem deeper (schema : Schema) : Refines document options (schema.demands options (depth + 1))
    (schema.demands options depth) where
  follow reference hasked := Schema.follow_mem_demands.mpr (Schema.follow_mem_demands.mp hasked)
  grants known hgrants demand hdemand := by
    cases demand with
    | refuse =>
      refine hgrants _ (Schema.refuse_mem_demands.mpr ?_)
      exact (Schema.refuse_mem_demands.mp hdemand).imp_left fun hnesting => by omega
    | follow reference =>
      exact hgrants _ (Schema.follow_mem_demands.mpr (Schema.follow_mem_demands.mp hdemand))

/-- What is refused is refused where more is asked for. -/
theorem refuse (h : Refines document options asked demands) (hrefuse : .refuse ∈ demands) :
    .refuse ∈ asked := by
  by_contra hfine
  refine h.grants (fun _ => True) (fun demand hdemand => ?_) _ hrefuse
  cases demand with
  | refuse => exact hfine hdemand
  | follow reference => exact fun last hleads => absurd trivial hleads.not_known

/-! ## Unions -/

/-- Nothing stands in the way of a schema at the end of which is a single value. -/
theorem grants_of_singleValue {steps : Nat} {reached : Schema} {value : Json}
    (hfollow : document.follow? steps schema = some reached)
    (hvalue : reached.singleValue? = some value) (known : String → Prop) (depth : Nat) :
    ∀ demand ∈ schema.demands options depth, document.Grants options known demand := by
  obtain ⟨_, -, hchain⟩ := Document.follow?_eq_some_iff.mp hfollow
  clear hfollow
  induction hchain generalizing depth with
  | @here schema hnone =>
    obtain ⟨kind, info⟩ := schema
    cases kind with
    | ref target => exact absurd rfl (hnone target)
    | enum shape =>
      obtain ⟨_ | ⟨first, rest⟩, _, _, _⟩ := shape
      · simp [Schema.singleValue?] at hvalue
      · simp [Schema.demands_enum]
    | _ => simp [Schema.singleValue?] at hvalue
  | @next _ schema _ _ _ hkind hnext _ ih =>
    obtain ⟨_, info⟩ := schema
    obtain rfl := hkind
    intro demand hdemand
    rw [Schema.demands_ref, List.mem_singleton] at hdemand
    rw [hdemand]
    exact .of_target hnext (ih hvalue 0)

/-- To set a property that is there to a single value is to ask for no less, if nothing stands in the way
of it. -/
theorem setProperty {properties : List (String × Schema)} {name : String} {old : Schema} {value : Json}
    (hlookup : properties.lookup name = some old)
    (hold : ∀ known : String → Prop, ∀ demand ∈ old.demands options depth,
      document.Grants options known demand) :
    Refines document options
      ((setProperty name (.constant value) properties).flatMap (·.2.demands options depth))
      (properties.flatMap (·.2.demands options depth)) := by
  induction properties with
  | nil => cases hlookup
  | cons property rest ih =>
    obtain ⟨key, schema⟩ := property
    by_cases hkey : key = name
    · subst hkey
      obtain rfl : schema = old := by simpa using hlookup
      have hnone : (Schema.constant value).demands options depth = [] := Schema.demands_enum
      have hfirst : Refines document options [] (schema.demands options depth) :=
        ⟨fun _ h => by simp at h, fun known _ => hold known⟩
      simpa [SchemaTypings.setProperty, hnone] using hfirst.append (refl _)
    · have hne : (name == key) = false := by simpa using Ne.symm hkey
      have hrest : rest.lookup name = some old := by simpa [List.lookup_cons, hne] using hlookup
      simpa [SchemaTypings.setProperty, hkey] using (refl _).append (ih hrest)

theorem pin {shape : ObjectShape Schema} {property : String} {value : Json}
    (h : Discriminator.pinned? document shape property = some value) (info : SchemaInfo) :
    Refines document options (Schema.demands options depth ⟨.object (shape.pin property value), info⟩)
      (Schema.demands options depth ⟨.object shape, info⟩) := by
  obtain ⟨reached, hreached, hvalue⟩ := Option.bind_eq_some_iff.mp h
  obtain ⟨old, hlookup, hfollow⟩ := Option.bind_eq_some_iff.mp hreached
  rw [Schema.demands_object, Schema.demands_object]
  refine (setProperty hlookup fun known => ?_).append (refl _)
  exact grants_of_singleValue hfollow hvalue known depth

theorem pinnedMember {index : Nat} {member : Schema}
    (hmember : (member, index) ∈ (unionMembersOf schema).zipIdx) :
    Refines document options ((pinnedMember (discriminatorOf? document options schema)
      (member, index)).demands options depth) (member.demands options depth) := by
  have hindex : (unionMembersOf schema)[index]? = some member :=
    List.mk_mem_zipIdx_iff_getElem?.mp hmember
  obtain ⟨kind, info⟩ := member
  cases hdiscriminator : discriminatorOf? document options schema with
  | none => exact refl _
  | some found =>
    cases kind with
    | object shape =>
      cases hvalue : (found.values[index]?).join with
      | none =>
        simp only [Lowering.pinnedMember, hvalue, Option.map_none, Option.getD_none]
        exact refl _
      | some value =>
        simp only [Lowering.pinnedMember, hvalue, Option.map_some, Option.getD_some]
        exact pin (Discriminator.pinned?_of_discriminatorOf? hdiscriminator hindex hvalue) info
    | _ => exact refl _

theorem congr (h : ∀ demand, demand ∈ demands ↔ demand ∈ demands')
    (hrefines : Refines document options asked demands) :
    Refines document options asked demands' :=
  ⟨fun reference hasked => (h _).mp (hrefines.follow reference hasked),
    fun known hgrants demand hdemand => hrefines.grants known hgrants demand ((h _).mpr hdemand)⟩

theorem union {members : List Schema}
    (hkind : schema.kind = .oneOf members ∨ schema.kind = .anyOf members) :
    Refines document options (unionDemands document options depth schema)
      (schema.demands options depth) := by
  have hmembers : unionMembersOf schema = members := by
    rcases hkind with h | h <;> simp [unionMembersOf, h]
  have hchildren : schema.children = members := by
    rcases hkind with h | h <;> simp [Schema.children, Schema.childrenOfKind, h]
  cases members with
  | nil =>
    have hdemands : schema.demands options depth = options.unions.emptyUnion.demands := by
      obtain ⟨kind, info⟩ := schema
      rcases hkind with rfl | rfl
      · exact Schema.demands_oneOf_nil
      · exact Schema.demands_anyOf_nil
    rw [unionDemands, hmembers, hdemands]
    exact refl _
  | cons member rest =>
    have hlevels : schema.levels ≠ 0 := by
      rcases hkind with h | h <;> simp [Schema.levels, h]
    refine congr (fun demand => (Schema.mem_demands_of_levels hlevels).symm) ?_
    rw [hchildren, ← List.zipIdx_map_fst 0 (member :: rest), List.flatMap_map, unionDemands, hmembers]
    refine flatMap fun member hmember => (refl _).append (pinnedMember ?_)
    exact hmembers.symm ▸ hmember

theorem composeReference {visited : List String} {target : String} :
    Refines document options (composeReferenceDemands options visited target) [.follow target] where
  follow reference hasked := by
    unfold composeReferenceDemands at hasked
    split at hasked <;> simpa using hasked
  grants known hgrants demand hdemand := by
    rw [List.mem_singleton] at hdemand
    exact hgrants demand (hdemand ▸ List.mem_cons_self)

theorem part {visited : List String} {part : Schema} {isDeclared : Bool} {declared : List Demand}
    (h : Refines document options declared (part.demands options depth)) :
    Refines document options
      (partDemands options visited part isDeclared declared (part.demands options depth))
      (part.demands options depth) := by
  obtain ⟨kind, info⟩ := part
  cases kind with
  | ref target =>
    rw [Schema.demands_ref]
    exact composeReference
  | _ =>
    cases isDeclared with
    | true => exact h
    | false => exact refl _

/-! ## Compositions -/

variable {visited : List String}

/-- A part that is declared on its own a level further down. -/
theorem declaredPart {isDeclared : Bool} (h : Refines document options
      (composeDemands document options visited (depth + 1) schema) (schema.demands options (depth + 1))) :
    Refines document options (partDemands options visited schema isDeclared
      (options.levelDemands depth ++ composeDemands document options visited (depth + 1) schema)
      (schema.demands options depth)) (schema.demands options depth) :=
  part (h.trans (deeper schema)).level

theorem compose (depth : Nat) (schema : Schema) :
    Refines document options (composeDemands document options visited depth schema)
      (schema.demands options depth) := by
  induction schema using composition_induction generalizing depth with
  | union hkind =>
    rw [composeDemands_union document options visited hkind]
    exact union hkind
  | @intersection members info ih =>
    cases members with
    | nil => exact Schema.demands_allOf_nil ▸ refl []
    | cons member rest =>
      refine congr (fun demand => (Schema.mem_demands_of_levels (by simp [Schema.levels])).symm) ?_
      rw [composeDemands_members, composeMembersDemands_eq_flatMap]
      exact flatMap fun member hmember => (refl _).append (part (ih member hmember _))
  | @object shape info ih =>
    rw [composeDemands_properties, composePropertiesDemands_eq_flatMap, Schema.demands_object]
    exact (flatMap fun property hproperty => declaredPart (ih property hproperty _)).append (refl _)
  | array info ih =>
    rw [Schema.demands_array]
    exact declaredPart (ih _)
  | reference target info =>
    rw [Schema.demands_ref]
    exact composeReference
  | _ => exact refl _

/-- To declare a schema is to ask for no less than its type does. -/
theorem declare (schema : Schema) :
    Refines document options (declareDemands document options visited depth schema)
      (schema.demands options depth) := by
  unfold declareDemands
  cases hselect : Operation.select schema with
  | union =>
    obtain ⟨members, hkind⟩ := Operation.kind_of_select_union hselect
    exact union hkind
  | compose => exact compose depth schema
  | _ => exact refl _

end Refines

end SchemaTypings
