import SchemaTypings.Proofs.Lowering.Declared
import SchemaTypings.Proofs.Lowering.Upholds

/-!
# Calls

A call is a lowering operation with what it is given. The contexts that arise are those at the moments of
calls, the first of which is made from a fresh context; between calls nothing is being resolved.
-/

namespace SchemaTypings

open LowerM Lowering Typing

/-- A lowering operation with what it is given. -/
inductive Call where
  | describe (schema : Schema)
  | resolveReference (reference : String)
  | lowerAlias (name : String) (schema : Schema)
  | lowerInterface (name : String) (schema : Schema)
  | lowerEnum (name : String) (schema : Schema)
  | lowerUnion (name : String) (schema : Schema)
  | compose (name : String) (schema : Schema)
  | lowerNamed (entry : NamedSchema)

namespace Call

/-- What a call gives if it succeeds. -/
def Result : Call → Type
  | describe _ => TypeDescriptor
  | resolveReference _ => Resolution
  | lowerAlias _ _ => Declaration
  | lowerInterface _ _ => LoweredInterface
  | lowerEnum _ _ => LoweredEnum
  | lowerUnion _ _ => LoweredUnion
  | compose _ _ => Composition
  | lowerNamed _ => List Declaration

/-- The step that a call runs. -/
def step : (call : Call) → LowerM call.Result
  | describe schema => Lowering.describe schema
  | resolveReference reference => Lowering.resolveReference reference
  | lowerAlias name schema => Lowering.lowerAlias name schema
  | lowerInterface name schema => Lowering.lowerInterface name schema
  | lowerEnum name schema => Lowering.lowerEnum name schema
  | lowerUnion name schema => Lowering.lowerUnion name schema
  | compose name schema => Lowering.compose true name schema
  | lowerNamed entry => Lowering.lowerNamed entry

/-- The schema that a call lowers; for a reference, one that is only that reference. -/
def schema : Call → Schema
  | describe schema | lowerAlias _ schema | lowerInterface _ schema | lowerEnum _ schema
  | lowerUnion _ schema | compose _ schema => schema
  | resolveReference reference => ⟨.ref reference, {}⟩
  | lowerNamed entry => entry.schema

/-- The pointer of the named schema that a call lowers, if it lowers one. -/
def ownPointer? : Call → Option String
  | lowerNamed entry => some entry.pointer
  | _ => none

theorem eq_lowerNamed {call : Call} {pointer : String} (h : call.ownPointer? = some pointer) :
    ∃ entry, call = .lowerNamed entry := by
  cases call with
  | lowerNamed entry => exact ⟨entry, rfl⟩
  | _ => cases h

/-- A call that lowers a named schema lowers one of the document. -/
def IsOf (document : Document) : Call → Prop
  | lowerNamed entry => entry ∈ document.named
  | _ => True

end Call

namespace Context

/-- The contexts that arise over a document: a fresh one, those at the moments of calls, and what a caller
makes of them by frames and changes of the store of its own. A caller may go one level of composition
down as well, but not deeper than the options allow. -/
inductive Arises (document : Document) (options : Options) : Context → Prop
  | fresh : Arises document options (.fresh document options)
  | moment {context moment : Context} (h : Arises document options context) (call : Call)
    (hmoment : moment ∈ context.moments call.step) : Arises document options moment
  | frame {context : Context} (h : Arises document options context) (frame : Frame)
    (hdepth : (frame.enter context.scope).depth ≤ options.maxDepth) :
    Arises document options (context.updateScope frame.enter)
  | store {context : Context} (h : Arises document options context) (change : Store → Store) :
    Arises document options (context.updateStore change)

/-- The contexts between calls: a fresh one, and those after calls that are made one after another,
whether they succeed or fail. -/
inductive Rests (document : Document) (options : Options) : Context → Prop
  | fresh : Rests document options (.fresh document options)
  | after {context : Context} (h : Rests document options context) (call : Call)
    (hcall : call.IsOf document) : Rests document options (context.run call.step).2

variable {document : Document} {options : Options} {context : Context}

theorem Arises.place (h : Arises document options context) :
    context.document = document ∧ context.options = options := by
  induction h with
  | fresh => exact ⟨rfl, rfl⟩
  | moment _ call hmoment ih =>
    obtain ⟨hdocument, hoptions⟩ := document_of_mem_moments hmoment
    exact ⟨hdocument.trans ih.1, hoptions.trans ih.2⟩
  | frame _ _ _ ih => exact ih
  | store _ _ ih => exact ih

end Context

/-- What obeys the rules holds of every call other than those that lower named schemas, and the references
that the call asks to follow stand in what it lowers. -/
theorem Rules.call {document : Document} {options : Options}
    {P : ∀ {α : Type}, List String → Nat → LowerM α → List Demand → Prop}
    (rules : Rules document options P) {visited : List String} {depth : Nat} (call : Call)
    (hcall : call.ownPointer? = none) : ∃ demands, P visited depth call.step demands ∧
      ∀ reference, .follow reference ∈ demands → call.schema.Mentions reference := by
  cases call with
  | describe schema => exact ⟨_, rules.describe schema, fun _ => Schema.follow_mem_demands.mp⟩
  | lowerAlias name schema =>
    exact ⟨_, rules.lowerAlias name schema, fun _ => Schema.follow_mem_demands.mp⟩
  | resolveReference other =>
    have hresolve : P visited depth (Lowering.resolveReference other >>= Pure.pure)
        [.follow other] := rules.resolveReference fun name => rules.pure _
    rw [bind_pure] at hresolve
    refine ⟨_, hresolve, fun reference h => ?_⟩
    obtain rfl : reference = other := by simpa using h
    exact ⟨_, .refl _, rfl⟩
  | lowerInterface name schema =>
    refine ⟨_, rules.lowerInterface name schema, fun reference h => ?_⟩
    obtain ⟨kind, info⟩ := schema
    have hmention := Schema.follow_mem_demands.mp h
    cases kind with
    | object shape => exact hmention
    | _ =>
      rcases Schema.mentions_iff.mp hmention with hkind | ⟨child, hchild, -⟩
      · cases hkind
      · cases hchild
  | lowerEnum name schema =>
    refine ⟨_, rules.lowerEnum name schema, fun reference h => ?_⟩
    rcases Schema.mentions_iff.mp (Schema.follow_mem_demands.mp h) with hkind | ⟨child, hchild, -⟩
    · cases hkind
    · cases hchild
  | lowerUnion name schema =>
    refine ⟨_, rules.lowerUnion name schema, fun reference h => ?_⟩
    obtain ⟨kind, info⟩ := schema
    cases kind with
    | oneOf members =>
      exact Schema.follow_mem_demands.mp ((Refines.union (Or.inl rfl)).follow reference h)
    | anyOf members =>
      exact Schema.follow_mem_demands.mp ((Refines.union (Or.inr rfl)).follow reference h)
    | _ =>
      have hempty : .follow reference ∈ options.unions.emptyUnion.demands := h
      cases hpolicy : options.unions.emptyUnion <;>
        simp [hpolicy, DegeneratePolicy.demands] at hempty
  | compose name schema =>
    refine ⟨_, rules.compose true name schema, fun reference h => ?_⟩
    exact Schema.follow_mem_demands.mp ((Refines.compose depth schema).follow reference h)
  | lowerNamed entry => cases hcall

/-- A discipline is upheld by every call other than those that lower named schemas. -/
theorem Upholds.call {document : Document} {inv : List String → Store → Prop}
    {keeps : List String → Store → Store → Prop} (hdiscipline : Discipline document inv keeps)
    (options : Options) (visited : List String) (depth : Nat) (call : Call)
    (hcall : call.ownPointer? = none) :
    ∃ demands, Upholds document options inv keeps visited depth call.step demands := by
  obtain ⟨demands, hupholds, -⟩ := (rules hdiscipline).call call hcall
  exact ⟨demands, hupholds⟩

end SchemaTypings
