import SchemaTypings.Proofs.Schema.Demands
import SchemaTypings.Schema.Document

/-!
# What stands in the way of a demand

A demand that a reference be followed is also one that the references in its target be followed, and so
on. Some references are taken for granted, because they were followed before or are being followed: the
ways end there. What can stand in the way is an obstacle: a reference that reaches nothing, or whose
target has no type.

A reference is sound if no obstacle stands behind it. What is known already is passed over when a
reference is followed, and that is harmless as long as it is sound, or leads back to that reference: then
the two stand on one cycle, and in an untangled document there is no obstacle behind a cycle.
-/

namespace SchemaTypings

namespace Document

variable {document : Document} {options : Options} {known known' : String → Prop}

/-- The reference reaches no schema, or one whose type is refused. -/
def Obstacle (document : Document) (options : Options) (reference : String) : Prop :=
  ∀ target, document.resolve? reference = some target → .refuse ∈ target.demands options 0

theorem not_obstacle_iff {reference : String} :
    ¬document.Obstacle options reference ↔
      ∃ target, document.resolve? reference = some target ∧ .refuse ∉ target.demands options 0 := by
  simp [Obstacle]

/-- `document.Leads known first last`: from the first reference, the last one is met by following
references, none of which, the two included, is known. -/
inductive Leads (document : Document) (known : String → Prop) : String → String → Prop
  | refl {reference : String} (hnew : ¬known reference) : Leads document known reference reference
  | step {reference next last : String} {target : Schema} (hnew : ¬known reference)
      (htarget : document.resolve? reference = some target) (hnext : target.Mentions next)
      (h : Leads document known next last) : Leads document known reference last

theorem Leads.not_known {first last : String} (h : document.Leads known first last) :
    ¬known first := by
  cases h <;> assumption

theorem Leads.mono {first last : String} (hknown : ∀ reference, known reference → known' reference)
    (h : document.Leads known' first last) : document.Leads known first last := by
  induction h with
  | refl hnew => exact .refl fun h => hnew (hknown _ h)
  | step hnew htarget hnext _ ih => exact .step (fun h => hnew (hknown _ h)) htarget hnext ih

theorem Leads.trans {first between last : String} (h : document.Leads known first between)
    (h' : document.Leads known between last) : document.Leads known first last := by
  induction h with
  | refl _ => exact h'
  | step hnew htarget hnext _ ih => exact .step hnew htarget hnext (ih h')

/-- Nothing stands in the way of the demand, the known references being taken for granted. -/
def Grants (document : Document) (options : Options) (known : String → Prop) : Demand → Prop
  | .refuse => False
  | .follow reference => ∀ last, document.Leads known reference last →
      ¬document.Obstacle options last

theorem Grants.mono {demand : Demand} (hknown : ∀ reference, known reference → known' reference)
    (h : document.Grants options known demand) : document.Grants options known' demand := by
  cases demand with
  | refuse => exact h
  | follow reference => exact fun last hleads => h last (hleads.mono hknown)

theorem Grants.next {reference next : String} {target : Schema} (hnew : ¬known reference)
    (htarget : document.resolve? reference = some target) (hnext : target.Mentions next)
    (h : document.Grants options known (.follow reference)) :
    document.Grants options known (.follow next) :=
  fun last hleads => h last (.step hnew htarget hnext hleads)

/-- A reference may be followed if nothing stands in the way of what its target asks for. -/
theorem Grants.of_target {reference : String} {target : Schema}
    (htarget : document.resolve? reference = some target)
    (h : ∀ demand ∈ target.demands options 0, document.Grants options known demand) :
    document.Grants options known (.follow reference) := by
  intro last hleads
  cases hleads with
  | refl => exact not_obstacle_iff.mpr ⟨target, htarget, fun hrefuse => h _ hrefuse⟩
  | step _ hfound hnext hleads =>
    obtain rfl := Option.some.inj (htarget.symm.trans hfound)
    exact h _ (Schema.follow_mem_demands.mpr hnext) last hleads

theorem Grants.target {reference : String} (hnew : ¬known reference)
    (h : document.Grants options known (.follow reference)) :
    ∃ target, document.resolve? reference = some target ∧ .refuse ∉ target.demands options 0 :=
  not_obstacle_iff.mp (h reference (.refl hnew))

theorem Grants.demands {reference : String} {target : Schema} (hnew : ¬known reference)
    (htarget : document.resolve? reference = some target)
    (h : document.Grants options known (.follow reference)) :
    ∀ demand ∈ target.demands options 0, document.Grants options known demand := by
  intro demand hdemand
  cases demand with
  | refuse =>
    obtain ⟨found, hfound, hfine⟩ := h.target hnew
    obtain rfl := Option.some.inj (htarget.symm.trans hfound)
    exact hfine hdemand
  | follow next => exact h.next hnew htarget (Schema.follow_mem_demands.mp hdemand)

/-- The references in what is reached within the document stand in the document. -/
def Local (document : Document) : Prop :=
  ∀ reference target next, document.resolve? reference = some target → target.Mentions next →
    next ∈ document.raw.strings

/-! ## Cycles -/

variable {reference : String}

/-- On the way from one reference to another, nothing else is known, or what is known comes in
between. -/
theorem Leads.passes {first last : String} (h : document.Leads known first last) :
    document.Leads known' first last ∨ ∃ between, known' between ∧
      document.Leads known first between ∧ document.Leads known between last := by
  induction h with
  | @refl first hnew =>
    by_cases hknown : known' first
    · exact Or.inr ⟨first, hknown, .refl hnew, .refl hnew⟩
    · exact Or.inl (.refl hknown)
  | @step first next last target hnew htarget hnext hleads ih =>
    by_cases hknown : known' first
    · exact Or.inr ⟨first, hknown, .refl hnew, .step hnew htarget hnext hleads⟩
    · rcases ih with h | ⟨between, hbetween, hfirst, hlast⟩
      · exact Or.inl (.step hknown htarget hnext h)
      · exact Or.inr ⟨between, hbetween, .step hnew htarget hnext hfirst, hlast⟩

/-- No obstacle stands behind the reference. -/
def Sound (document : Document) (options : Options) (reference : String) : Prop :=
  document.Grants options (fun _ => False) (.follow reference)

/-- The reference leads back to itself. -/
def Returns (document : Document) (reference : String) : Prop :=
  ∃ target next, document.resolve? reference = some target ∧ target.Mentions next ∧
    document.Leads (fun _ => False) next reference

/-- No obstacle stands behind a reference that leads back to itself, if a named schema leads to it. -/
def Untangled (document : Document) (options : Options) : Prop :=
  ∀ entry ∈ document.named, ∀ reference, document.Leads (fun _ => False) entry.pointer reference →
    document.Returns reference → document.Sound options reference

/-- A reference is sound if what its target asks for is granted, where what is known is sound or leads
back to the reference, and the reference is sound if it leads back to itself. -/
theorem Sound.of_grants {target : Schema} (htarget : document.resolve? reference = some target)
    (hreturns : document.Returns reference → document.Sound options reference)
    (hknown : ∀ other, known other →
      document.Leads (fun _ => False) other reference ∨ document.Sound options other)
    (hgrants : ∀ demand ∈ target.demands options 0, document.Grants options known demand) :
    document.Sound options reference := by
  refine .of_target htarget fun demand hdemand => ?_
  cases demand with
  | refuse => exact hgrants _ hdemand
  | follow next =>
    intro last hlast
    have hmention := Schema.follow_mem_demands.mp hdemand
    rcases hlast.passes with hpast | ⟨between, hbetween, hfirst, hlast'⟩
    · exact hgrants _ hdemand last hpast
    · rcases hknown between hbetween with hback | hsound
      · have hsound := hreturns ⟨target, next, htarget, hmention, hfirst.trans hback⟩
        exact hsound last (.step id htarget hmention hlast)
      · exact hsound last hlast'

end Document

end SchemaTypings
