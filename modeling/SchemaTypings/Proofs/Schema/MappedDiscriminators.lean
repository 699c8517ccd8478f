import Mathlib.Data.List.Nodup
import SchemaTypings.Schema.Discriminator

/-!
# Discriminators that are given

The mapping of a discriminator gives a value to a reference if the target of an entry is that reference, or has
its type name. A target that is the reference has its type name as well (`Discriminator.maps_iff`), so that the
first entry with the type name decides. An entry for the very reference is followed if none for another
reference of that type name stands before it, and in every order of the entries if there is none at all
(`Discriminator.exact_entry_wins_iff`).
-/

namespace SchemaTypings

namespace Discriminator

variable {discriminator : Discriminator} {member : Schema} {reference : String}

/-- An entry is about a reference exactly if its target has the type name of the reference. -/
theorem maps_iff {target : String} :
    maps reference target = true ↔ Name.ofReference target = Name.ofReference reference := by
  simp only [maps, Bool.or_eq_true, beq_iff_eq]
  constructor
  · rintro (rfl | hname)
    · rfl
    · exact hname
  · exact Or.inr

/-- The entry is the first one of the mapping whose target has the type name of the reference. -/
def FirstNamed (reference : String) (mapping : List (String × String)) (entry : String × String) : Prop :=
  ∃ before after, mapping = before ++ entry :: after ∧
    Name.ofReference entry.2 = Name.ofReference reference ∧
    ∀ other ∈ before, Name.ofReference other.2 ≠ Name.ofReference reference

/-- The member at the position, a reference, has the key of an entry whose target is that reference. -/
def HonoursExact (document : Document) (discriminator : Discriminator) (members : List Schema) (index : Nat)
    (reference : String) : Prop :=
  ∃ key, (key, reference) ∈ discriminator.mapping ∧
    (discriminator.explicit document members).values[index]? = some (some (.str key))

theorem FirstNamed.mem {mapping : List (String × String)} {entry : String × String}
    (h : FirstNamed reference mapping entry) : entry ∈ mapping := by
  obtain ⟨before, after, rfl, -, -⟩ := h
  exact List.mem_append_right _ List.mem_cons_self

theorem FirstNamed.eq_of_cons {first entry : String × String} {rest : List (String × String)}
    (h : FirstNamed reference (first :: rest) entry)
    (hname : Name.ofReference first.2 = Name.ofReference reference) : entry = first := by
  obtain ⟨before, after, hmapping, -, hbefore⟩ := h
  cases before with
  | nil => exact (List.cons.inj hmapping).1.symm
  | cons other others =>
    rw [(List.cons.inj hmapping).1] at hname
    exact absurd hname (hbefore other List.mem_cons_self)

/-- One entry is the first one with the type name if any has it. -/
theorem exists_firstNamed {mapping : List (String × String)} (h : reference ∈ mapping.map (·.2)) :
    ∃ entry, FirstNamed reference mapping entry := by
  obtain ⟨entry, hentry, rfl⟩ := List.mem_map.mp h
  have hsome : (mapping.find? fun other => maps entry.2 other.2).isSome = true :=
    List.find?_isSome.mpr ⟨entry, hentry, maps_iff.mpr rfl⟩
  obtain ⟨first, hfirst⟩ := Option.isSome_iff_exists.mp hsome
  obtain ⟨hname, before, after, hmapping, hbefore⟩ := List.find?_eq_some_iff_append.mp hfirst
  refine ⟨first, before, after, hmapping, maps_iff.mp hname, fun other hother hsame => ?_⟩
  have hnot := hbefore other hother
  rw [maps_iff.mpr hsame] at hnot
  cases hnot

/-- The first entry with the type name of the reference gives the value. -/
theorem mappedValue?_eq_of_firstNamed {entry : String × String} (hmember : member.kind = .ref reference)
    (h : FirstNamed reference discriminator.mapping entry) :
    discriminator.mappedValue? member = some (.str entry.1) := by
  obtain ⟨before, after, hmapping, hname, hbefore⟩ := h
  have hfind : (discriminator.mapping.find? fun other => maps reference other.2) = some entry := by
    refine List.find?_eq_some_iff_append.mpr ⟨maps_iff.mpr hname, before, after, hmapping, fun other hother => ?_⟩
    rw [Bool.not_eq_true', ← Bool.not_eq_true, maps_iff]
    exact hbefore other hother
  unfold mappedValue?
  rw [hmember]
  dsimp only
  rw [hfind]
  rfl

theorem explicit_eq_of_firstNamed (document : Document) {members : List Schema} {index : Nat}
    {entry : String × String} (hindex : members[index]? = some member) (hmember : member.kind = .ref reference)
    (h : FirstNamed reference discriminator.mapping entry) :
    (discriminator.explicit document members).values[index]? = some (some (.str entry.1)) := by
  rw [explicit, List.getElem?_map, hindex, Option.map_some, valueOf?, mappedValue?_eq_of_firstNamed hmember h]
  rfl

/-- The member has the key of an entry for its very reference if the first entry with the type name is one. -/
theorem honoursExact_iff (document : Document) {members : List Schema} {index : Nat} {entry : String × String}
    (hkeys : (discriminator.mapping.map (·.1)).Nodup) (hindex : members[index]? = some member)
    (hmember : member.kind = .ref reference) (h : FirstNamed reference discriminator.mapping entry) :
    discriminator.HonoursExact document members index reference ↔ entry.2 = reference := by
  rw [HonoursExact, explicit_eq_of_firstNamed document hindex hmember h]
  constructor
  · rintro ⟨key, hkey, hvalue⟩
    -- no two entries have one key, so the first entry is the one for the reference
    have hsame : entry.1 = (key, reference).1 := by
      injection hvalue with hvalue
      injection hvalue with hvalue
      injection hvalue
    rw [List.inj_on_of_nodup_map hkeys h.mem hkey hsame]
  · rintro rfl
    exact ⟨entry.1, h.mem, rfl⟩

/-- A reference that is the target of an entry has the key of the first entry whose target has its type name.
That is an entry for the very reference exactly if no other target of that type name stands before, and so in
every order of the entries exactly if there is no other target of that type name. -/
theorem exact_entry_wins_iff (document : Document) {members : List Schema} {index : Nat}
    (hkeys : (discriminator.mapping.map (·.1)).Nodup) (hindex : members[index]? = some member)
    (hmember : member.kind = .ref reference) (hexact : reference ∈ discriminator.mapping.map (·.2)) :
    (∃ entry, FirstNamed reference discriminator.mapping entry ∧
      (discriminator.explicit document members).values[index]? = some (some (.str entry.1)) ∧
      (discriminator.HonoursExact document members index reference ↔ entry.2 = reference)) ∧
    ((∀ mapping, mapping.Perm discriminator.mapping →
        HonoursExact document { discriminator with mapping } members index reference) ↔
      ∀ entry ∈ discriminator.mapping,
        Name.ofReference entry.2 = Name.ofReference reference → entry.2 = reference) := by
  have hordered : ∀ mapping entry, mapping.Perm discriminator.mapping → FirstNamed reference mapping entry →
      (HonoursExact document { discriminator with mapping } members index reference ↔ entry.2 = reference) := by
    intro mapping entry hperm hentry
    have hreordered : (mapping.map (·.1)).Nodup := (hperm.map _).nodup_iff.mpr hkeys
    exact honoursExact_iff document hreordered hindex hmember hentry
  constructor
  · obtain ⟨entry, hentry⟩ := exists_firstNamed hexact
    exact ⟨entry, hentry, explicit_eq_of_firstNamed document hindex hmember hentry,
      honoursExact_iff document hkeys hindex hmember hentry⟩
  · constructor
    · intro h entry hentry hname
      -- an order in which the entry comes first
      have hperm : (entry :: discriminator.mapping.erase entry).Perm discriminator.mapping :=
        (List.perm_cons_erase hentry).symm
      exact (hordered _ entry hperm ⟨[], _, rfl, hname, by simp⟩).mp (h _ hperm)
    · intro h mapping hperm
      obtain ⟨entry, hentry⟩ := exists_firstNamed ((hperm.map (·.2)).mem_iff.mpr hexact)
      obtain ⟨-, -, -, hname, -⟩ := id hentry
      exact (hordered mapping entry hperm hentry).mpr (h entry (hperm.mem_iff.mp hentry.mem) hname)

/-- Two sections have a schema of one name, and the mapping an entry for each of them: the second one is not
followed. -/
theorem exact_entry_wins_of_twoSections : ∃ (discriminator : Discriminator) (members : List Schema) (member : Schema),
    discriminator.mapping = [("kitten", "#/definitions/Cat"), ("cat", "#/$defs/Cat")] ∧
    (discriminator.mapping.map (·.1)).Nodup ∧ members[1]? = some member ∧ member.kind = .ref "#/$defs/Cat" ∧
    "#/$defs/Cat" ∈ discriminator.mapping.map (·.2) ∧ ∀ document,
      (discriminator.explicit document members).values[1]? = some (some (.str "kitten")) ∧
      ¬discriminator.HonoursExact document members 1 "#/$defs/Cat" := by
  let discriminator : Discriminator :=
    ⟨"pet", [("kitten", "#/definitions/Cat"), ("cat", "#/$defs/Cat")]⟩
  let member : Schema := ⟨.ref "#/$defs/Cat", {}⟩
  have hname : Name.ofReference "#/definitions/Cat" = Name.ofReference "#/$defs/Cat" := by decide +kernel
  have hkeys : (discriminator.mapping.map (·.1)).Nodup := by decide
  have hexact : "#/$defs/Cat" ∈ discriminator.mapping.map (·.2) := by decide
  refine ⟨discriminator, [⟨.ref "#/definitions/Cat", {}⟩, member], member, rfl, hkeys, rfl, rfl, hexact, ?_⟩
  intro document
  obtain ⟨⟨entry, hentry, hvalue, hhonours⟩, -⟩ := exact_entry_wins_iff document hkeys
    (show [⟨.ref "#/definitions/Cat", {}⟩, member][1]? = some member from rfl) rfl hexact
  obtain rfl : entry = ("kitten", "#/definitions/Cat") := hentry.eq_of_cons hname
  exact ⟨hvalue, hhonours.not.mpr (by decide)⟩

end Discriminator

end SchemaTypings
