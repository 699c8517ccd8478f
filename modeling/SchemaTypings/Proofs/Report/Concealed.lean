import SchemaTypings.Proofs.Document.Keys
import SchemaTypings.Proofs.Lowering.Declared
import SchemaTypings.Proofs.Lowering.Untangled
import SchemaTypings.Proofs.Report.Turns

/-!
# Untangled documents conceal nothing

In a run over an untangled document, whatever is recorded at a turn is sound. So a schema that fails alone
fails at its turn: what is recorded stands before no obstacle.
-/

namespace SchemaTypings

open LowerM Lowering

variable {raw : Json} {document : Document} {options : Options} {entry : NamedSchema} {store : Store}

theorem NamedSchema.leads_of_mem_demands (hpointers : (document.named.map (·.pointer)).Nodup)
    (hentry : entry ∈ document.named) {reference : String}
    (h : .follow reference ∈ entry.demands document options) :
    document.Leads (fun _ => False) entry.pointer reference := by
  have htarget : document.resolve? entry.pointer = some entry.schema :=
    Document.resolve?_pointer hpointers hentry
  have hdemand := (Refines.declare entry.schema).follow reference h
  exact .step id htarget (Schema.follow_mem_demands.mp hdemand) (.refl id)

/-- The reference of a named schema is sound if it is granted where everything recorded is sound. -/
theorem NamedSchema.Granted.sound (hpointers : (document.named.map (·.pointer)).Nodup)
    (huntangled : document.Untangled options) (hentry : entry ∈ document.named)
    (hsound : store.Sound document options [])
    (h : entry.Granted document options store.Records) : document.Sound options entry.pointer := by
  refine .of_grants (Document.resolve?_pointer hpointers hentry)
    (huntangled entry hentry entry.pointer (.refl id)) (fun other hother => ?_)
    ((Refines.declare entry.schema).grants _ h)
  rcases hother with rfl | hrecords
  · exact Or.inl (.refl id)
  · exact Or.inr (hsound other hrecords (by simp))

/-- After a turn everything recorded is sound, if it was before. -/
theorem Store.Sound.afterNamed (h : Document.ofJson raw = .ok document)
    (hpointers : (document.named.map (·.pointer)).Nodup) (huntangled : document.Untangled options)
    (hentry : entry ∈ document.named) (hsound : store.Sound document options []) :
    (store.afterNamed document options entry).Sound document options [] := by
  have hlocal := Document.local_of_ofJson h
  have hsafe : Safe document options entry.pointer [entry.pointer] 0
      (Lowering.declare (Name.pascal entry.name) entry.schema) (entry.demands document options) :=
    (Safe.rules (huntangled entry hentry) hlocal).declare _ entry.schema
  have hled : ∀ reference, .follow reference ∈ entry.demands document options →
      LedTo document entry.pointer [entry.pointer] reference := fun reference hdemand =>
    ⟨by simp, fun other hother => by
      rw [List.mem_singleton.mp hother]
      exact NamedSchema.leads_of_mem_demands hpointers hentry hdemand⟩
  have hinner := (hsafe hled [] store).sound (hsound.enter entry.pointer)
  rw [Store.afterNamed, NamedSchema.runWith_lowerNamed_alone]
  rcases hrun : (Lowering.declare (Name.pascal entry.name) entry.schema).runWith
    (.within document options [] [entry.pointer] 0) store with ⟨error | declarations, inner⟩ <;>
      rw [hrun] at hinner
  · intro other hother _
    obtain ⟨hother, hne⟩ := records_forget.mp hother
    exact hinner other hother (by simpa using hne)
  · have hgranted : entry.Granted document options store.Records :=
      (NamedSchema.succeeds_iff hlocal).mp ⟨declarations, by rw [NamedSchema.outcome_eq, hrun]⟩
    intro other hother _
    by_cases heq : other = entry.pointer
    · rw [heq]
      exact hgranted.sound hpointers huntangled hentry hsound
    · exact hinner other ((records_record.mp hother).resolve_right heq) (by simpa using heq)

theorem Store.sound_afterAll (h : Document.ofJson raw = .ok document)
    (hpointers : (document.named.map (·.pointer)).Nodup) (huntangled : document.Untangled options)
    {entries : List NamedSchema} (hentries : entries ⊆ document.named) :
    (Store.afterAll document options entries).Sound document options [] := by
  have hfold : ∀ store : Store, store.Sound document options [] →
      (entries.foldl (Store.afterNamed document options) store).Sound document options [] := by
    induction entries with
    | nil => exact fun store hsound => hsound
    | cons entry rest ih =>
      intro store hsound
      exact ih (fun _ hmem => hentries (List.mem_cons_of_mem _ hmem)) _
        (hsound.afterNamed h hpointers huntangled (hentries List.mem_cons_self))
  exact hfold _ fun reference hrecords => by simp [Store.fresh, Store.Records] at hrecords

theorem Store.Sound.not_concealed (hsound : store.Sound document options []) :
    ¬entry.Concealed document options store := by
  rintro ⟨halone, hgranted⟩
  refine halone fun demand hdemand => ?_
  cases demand with
  | refuse => exact hgranted _ hdemand
  | follow first =>
    intro last hlast
    rcases hlast.passes with hpast | ⟨between, hbetween, -, hlast⟩
    · exact hgranted _ hdemand last hpast
    · rcases hbetween with rfl | hrecords
      · exact absurd (Or.inl rfl) hlast.not_known
      · exact hsound between hrecords (by simp) last (hlast.mono fun _ => False.elim)

/-- In a run over an untangled document, no failure is concealed. -/
theorem NamedSchema.not_concealed (h : Document.ofJson raw = .ok document)
    (hpointers : (document.named.map (·.pointer)).Nodup) (huntangled : document.Untangled options)
    {before after : List NamedSchema} (hnamed : document.named = before ++ entry :: after) :
    ¬entry.Concealed document options (.afterAll document options before) :=
  (Store.sound_afterAll h hpointers huntangled fun _ hmem => by simp [hnamed, hmem]).not_concealed

end SchemaTypings
