import Mathlib.Data.List.Basic
import SchemaTypings.Proofs.Document.Obstacle
import SchemaTypings.Proofs.Lowering.Demands

/-!
# What depends on targets alone

Of a document, what operations ask for and what stands in the way of it depend on what references reach,
and on nothing else.
-/

namespace SchemaTypings

variable {document document' : Document} (h : document.resolve? = document'.resolve?)

include h

/-! ## Discriminators -/

namespace Document

theorem follow?_congr (steps : Nat) : document.follow? steps = document'.follow? steps := by
  induction steps with
  | zero => rfl
  | succ steps ih =>
    funext schema
    rw [follow?, follow?, h, ih]

theorem resolveDeep?_congr : document.resolveDeep? = document'.resolveDeep? :=
  follow?_congr h chainLimit

end Document

namespace Discriminator

theorem memberShape?_congr : memberShape? document = memberShape? document' := by
  funext member
  rw [memberShape?, memberShape?, Document.resolveDeep?_congr h]

theorem pinned?_congr : pinned? document = pinned? document' := by
  funext shape property
  rw [pinned?, pinned?, Document.resolveDeep?_congr h]

theorem explicit_congr : explicit document = explicit document' := by
  funext discriminator members
  unfold explicit
  have hvalue : valueOf? document discriminator = valueOf? document' discriminator := by
    funext member
    rw [valueOf?, valueOf?, memberShape?_congr h, pinned?_congr h]
  rw [hvalue]

theorem distinctValues?_congr (strict : Bool) (property : String) (seen : List Json)
    (shapes : List (ObjectShape Schema)) :
    distinctValues? document strict property seen shapes =
      distinctValues? document' strict property seen shapes := by
  induction shapes generalizing seen with
  | nil => rfl
  | cons shape rest ih => simp only [distinctValues?, pinned?_congr h, ih]

theorem infer?_congr : infer? document = infer? document' := by
  funext members strict
  have hfirst : firstCandidate? document = firstCandidate? document' := by
    funext strict shapes properties
    simp only [firstCandidate?, distinctValues?_congr h]
  rw [infer?, infer?, memberShape?_congr h, hfirst]

end Discriminator

/-! ## Demands -/

namespace Lowering

theorem unionDemands_congr : unionDemands document = unionDemands document' := by
  funext options depth schema
  have hdiscriminator : discriminatorOf? document options schema =
      discriminatorOf? document' options schema := by
    unfold discriminatorOf?
    rw [Discriminator.explicit_congr h, Discriminator.infer?_congr h]
  rw [unionDemands, unionDemands, hdiscriminator]

variable (options : Options) (visited : List String)

theorem composeDemands_congr (depth : Nat) (schema : Schema) :
    composeDemands document options visited depth schema =
      composeDemands document' options visited depth schema := by
  induction schema using composition_induction generalizing depth with
  | union hkind =>
    rw [composeDemands_union _ _ _ hkind, composeDemands_union _ _ _ hkind, unionDemands_congr h]
  | intersection info ih =>
    rw [composeDemands_members, composeDemands_members, composeMembersDemands_eq_flatMap,
      composeMembersDemands_eq_flatMap]
    exact List.flatMap_congr fun member hmember => by rw [ih member hmember]
  | object info ih =>
    rw [composeDemands_properties, composeDemands_properties, composePropertiesDemands_eq_flatMap,
      composePropertiesDemands_eq_flatMap]
    exact congrArg (· ++ _) (List.flatMap_congr fun property hproperty => by rw [ih property hproperty])
  | array info ih => simp only [composeDemands, composeBodyDemands, ih]
  | _ => rfl

theorem declareDemands_congr (depth : Nat) (schema : Schema) :
    declareDemands document options visited depth schema =
      declareDemands document' options visited depth schema := by
  unfold declareDemands
  rw [unionDemands_congr h, composeDemands_congr h]

end Lowering

/-! ## Obstacles -/

namespace Document

variable {known : String → Prop} {options : Options}

theorem Leads.congr {first last : String} (hleads : document.Leads known first last) :
    document'.Leads known first last := by
  induction hleads with
  | refl hnew => exact .refl hnew
  | step hnew htarget hnext _ ih => exact .step hnew (h ▸ htarget) hnext ih

theorem leads_congr {first last : String} :
    document.Leads known first last ↔ document'.Leads known first last :=
  ⟨Leads.congr h, Leads.congr h.symm⟩

theorem grants_congr {demand : Demand} :
    document.Grants options known demand ↔ document'.Grants options known demand := by
  cases demand with
  | refuse => rfl
  | follow reference => simp only [Grants, leads_congr h, Obstacle, h]

end Document

end SchemaTypings
