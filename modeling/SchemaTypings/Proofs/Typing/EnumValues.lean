import Mathlib.Data.List.Forall2
import SchemaTypings.Proofs.Typing.EnumCompanions

/-!
# Values of enumerations

Every listed value has an entry of its own, in the order of the list or, where values are sorted, in that of
their texts, equal texts staying in the order of the list. An entry has what is said about its value at the
position that the value has in the list. Its key is the one derived from it unless an earlier entry has that key,
and then the first numbered one that is free, so keys never repeat (`EnumValue.all_enumerates`).
-/

namespace SchemaTypings.Typing.EnumValue

variable {options : EnumOptions} {shape : EnumShape} {taken : List String} {values : List EnumValue}

/-! ## Keys -/

/-- Everything but the keys stays. -/
theorem forall₂_distinguish (taken : List String) (values : List EnumValue) :
    List.Forall₂ (fun value entry => entry = { value with key := entry.key }) values
      (distinguish taken values) := by
  induction values generalizing taken with
  | nil => exact .nil
  | cons value rest ih => exact .cons rfl (ih _)

/-- Each key is made fresh against the keys before it. -/
theorem key_distinguish {index : Nat} {value : EnumValue} (h : values[index]? = some value) :
    ((distinguish taken values).map (·.key))[index]? =
      some (Name.fresh "_" (taken ++ ((distinguish taken values).map (·.key)).take index) value.key) := by
  induction values generalizing taken index with
  | nil => simp at h
  | cons first rest ih =>
    cases index with
    | zero =>
      obtain rfl : first = value := by simpa using h
      simp [distinguish]
    | succ index =>
      rw [List.getElem?_cons_succ] at h
      rw [distinguish, List.map_cons, List.getElem?_cons_succ, ih h, List.take_succ_cons, List.append_assoc,
        List.singleton_append]

theorem nodup_keys_distinguish (htaken : taken.Nodup) :
    (taken ++ (distinguish taken values).map (·.key)).Nodup := by
  induction values generalizing taken with
  | nil => simpa [distinguish] using htaken
  | cons first rest ih =>
    have hfresh := Name.fresh_not_mem "_" first.key taken
    have hnext : (taken ++ [Name.fresh "_" taken first.key]).Nodup := by
      rw [← List.concat_eq_append, List.nodup_concat]
      exact ⟨hfresh, htaken⟩
    simpa [distinguish] using ih hnext

/-- A key is the one it is made of, or that with a number. -/
theorem eq_or_numbered_fresh (taken : List String) (base : String) :
    Name.fresh "_" taken base = base ∨
      ∃ number, 2 ≤ number ∧ Name.fresh "_" taken base = Name.numbered "_" base number := by
  obtain ⟨position, hfresh, -⟩ := Name.fresh_eq_candidate "_" base taken
  rw [hfresh, Name.candidate]
  split
  · exact Or.inl rfl
  · exact Or.inr ⟨position + 1, by omega, rfl⟩

/-! ## Places -/

/-- The value at the first place comes before that at the second: its text does, if values are sorted, and its
position where texts do not decide. -/
def Precedes (sorted : Bool) (first second : Json × Nat) : Prop :=
  if sorted then first.1.plainText < second.1.plainText ∨
    first.1.plainText = second.1.plainText ∧ first.2 < second.2
  else first.2 < second.2

/-- The entry has what is said about the value at the place. -/
structure IsAt (shape : EnumShape) (place : Json × Nat) (entry : EnumValue) : Prop where
  json : entry.json = place.1
  literal : entry.literal = place.1.literal
  description : entry.description = (shape.descriptions[place.2]?).join
  deprecated : entry.deprecated = place.1.isIn shape.deprecated

/-- The key that is derived for the value at a place. It is made of the name given at the position of the
value; without one, of the text of the value, in words of capitals unless the options preserve it. -/
def derivedKey (options : EnumOptions) (shape : EnumShape) (place : Json × Nat) : String :=
  let base :=
    if h : place.2 < shape.names.length then shape.names[place.2]
    else if options.keyCase = .preserve then place.1.plainText
    else Name.upperSnake place.1.plainText
  Name.sanitize (options.keyPrefix ++ base ++ options.keySuffix)

/-- The entry for a place before keys are told apart. -/
def ofPlace (options : EnumOptions) (shape : EnumShape) (place : Json × Nat) : EnumValue :=
  ofPosition options shape place.2 place.1

theorem key_ofPlace (place : Json × Nat) :
    (ofPlace options shape place).key = derivedKey options shape place := by
  have hbase : keyBase options (shape.names[place.2]?) place.1 =
      if h : place.2 < shape.names.length then shape.names[place.2]
      else if options.keyCase = .preserve then place.1.plainText
      else Name.upperSnake place.1.plainText := by
    split
    · rename_i hgiven
      rw [List.getElem?_eq_getElem hgiven]
      rfl
    · rename_i hgiven
      rw [List.getElem?_eq_none (Nat.le_of_not_lt hgiven)]
      cases hcase : options.keyCase <;> simp [keyBase, hcase]
  rw [ofPlace, ofPosition, hbase]
  rfl

/-- Whether the text of the first value does not come after that of the second. -/
def plainLe (first second : Json) : Bool :=
  !(second.plainText < first.plainText)

theorem plainLe_iff {first second : Json} : plainLe first second = true ↔ first.plainText ≤ second.plainText := by
  rw [plainLe, Bool.not_eq_true', decide_eq_false_iff_not, String.not_lt]

/-- The places in the order of the entries. -/
def places (options : EnumOptions) (shape : EnumShape) : List (Json × Nat) :=
  if options.sortValues then shape.values.zipIdx.mergeSort (List.zipIdxLE plainLe) else shape.values.zipIdx

theorem perm_places : (places options shape).Perm shape.values.zipIdx := by
  unfold places
  split
  · exact List.mergeSort_perm _ _
  · exact .refl _

theorem pairwise_zipIdx (values : List Json) : values.zipIdx.Pairwise fun first second => first.2 < second.2 := by
  rw [← List.pairwise_map, List.zipIdx_map_snd]
  exact List.pairwise_lt_range'

theorem pairwise_places : (places options shape).Pairwise (Precedes options.sortValues) := by
  have hpositions : (places options shape).Pairwise fun first second => first.2 ≠ second.2 :=
    (perm_places.pairwise_iff fun h => Ne.symm h).mpr ((pairwise_zipIdx shape.values).imp Nat.ne_of_lt)
  cases hsort : options.sortValues with
  | false =>
    simp only [places, hsort, Bool.false_eq_true, if_false]
    exact (pairwise_zipIdx shape.values).imp fun h => h
  | true =>
    have hsorted : (places options shape).Pairwise fun first second =>
        List.zipIdxLE plainLe first second = true := by
      simp only [places, hsort, if_true]
      refine List.pairwise_mergeSort (List.zipIdxLE_trans fun a b c => ?_) (List.zipIdxLE_total fun a b => ?_) _
      · simp only [plainLe_iff]
        exact String.le_trans
      · rw [Bool.or_eq_true, plainLe_iff, plainLe_iff]
        exact String.le_total _ _
    refine (hsorted.and hpositions).imp ?_
    rintro first second ⟨hle, hne⟩
    rw [Precedes, if_pos rfl]
    unfold List.zipIdxLE at hle
    split at hle
    · rename_i hfirst
      rw [plainLe_iff] at hfirst
      split at hle
      · rename_i hsecond
        rw [plainLe_iff] at hsecond
        exact Or.inr ⟨String.le_antisymm hfirst hsecond, Nat.lt_of_le_of_ne (of_decide_eq_true hle) hne⟩
      · rename_i hsecond
        rw [plainLe_iff, String.not_le] at hsecond
        exact Or.inl hsecond
    · cases hle

/-- The entries are those for the places, with their keys told apart. -/
theorem all_eq : all options shape = distinguish [] ((places options shape).map (ofPlace options shape)) := by
  have hvalues : shape.values.mapIdx (ofPosition options shape) =
      shape.values.zipIdx.map (ofPlace options shape) := List.mapIdx_eq_zipIdx_map
  unfold all places
  split
  · dsimp only
    congr 1
    -- sorting with the positions is sorting that is stable
    have hplaces : (shape.values.zipIdx.map (ofPlace options shape)).zipIdx =
        shape.values.zipIdx.map fun place => (ofPlace options shape place, place.2) := by
      refine List.ext_getElem? fun index => ?_
      simp only [List.getElem?_zipIdx, List.getElem?_map, Option.map_map]
      rfl
    have hsort : (shape.values.zipIdx.mergeSort (List.zipIdxLE plainLe)).map
          (fun place => (ofPlace options shape place, place.2)) =
        (shape.values.zipIdx.map fun place => (ofPlace options shape place, place.2)).mergeSort
          (List.zipIdxLE textLe) := List.map_mergeSort fun _ _ _ _ => rfl
    rw [hvalues, ← List.mergeSort_zipIdx, hplaces, ← hsort, List.map_map]
    rfl
  · rw [hvalues]

/-! ## Entries -/

theorem forall₂_isAt : List.Forall₂ (IsAt shape) (places options shape) (all options shape) := by
  have hentries := forall₂_distinguish [] ((places options shape).map (ofPlace options shape))
  rw [← all_eq, List.forall₂_map_left_iff] at hentries
  refine hentries.imp fun place entry hentry => ?_
  rw [hentry]
  exact ⟨rfl, rfl, rfl, rfl⟩

theorem length_all : (all options shape).length = shape.values.length := by
  rw [← forall₂_isAt.length_eq, perm_places.length_eq, List.length_zipIdx]

/-- The key of an entry is the one derived for its value, made fresh against the keys of the entries before it. -/
theorem key_all {index : Nat} {base : String}
    (h : ((places options shape).map (derivedKey options shape))[index]? = some base) :
    ((all options shape).map (·.key))[index]? =
      some (Name.fresh "_" (((all options shape).map (·.key)).take index) base) := by
  rw [List.getElem?_map] at h
  obtain ⟨place, hplace, rfl⟩ := Option.map_eq_some_iff.mp h
  have hvalue : ((places options shape).map (ofPlace options shape))[index]? = some (ofPlace options shape place) := by
    rw [List.getElem?_map, hplace, Option.map_some]
  rw [all_eq, ← key_ofPlace]
  exact key_distinguish hvalue

/-- Each listed value has one entry, in order or sorted stably by their texts, with what is said at its position.
The keys are identifiers that differ, each the one derived for its value or that with a number, and the first
entry that a key is derived for has it, unless it is the key of an earlier one with a number. -/
theorem all_enumerates (options : EnumOptions) (shape : EnumShape) : ∃ order : List (Json × Nat),
    order.Perm shape.values.zipIdx ∧ order.Pairwise (Precedes options.sortValues) ∧
    List.Forall₂ (IsAt shape) order (all options shape) ∧
    (∀ entry ∈ all options shape, Name.isIdentifier entry.key = true) ∧
    ((all options shape).map (·.key)).Nodup ∧
    let derived : List String := order.map (derivedKey options shape)
    let keys : List String := (all options shape).map (·.key)
    (∀ (index : Nat) (base : String), derived[index]? = some base →
      keys[index]? = some base ∨ ∃ number, 2 ≤ number ∧ keys[index]? = some (Name.numbered "_" base number)) ∧
    ∀ (index : Nat) (key : String), derived[index]? = some key → key ∉ derived.take index →
      keys[index]? = some key ∨ ∃ earlier < index, ∃ base number, derived[earlier]? = some base ∧
        2 ≤ number ∧ key = Name.numbered "_" base number ∧ keys[earlier]? = some key := by
  have hnodup : ((all options shape).map (·.key)).Nodup := by
    rw [all_eq]
    exact nodup_keys_distinguish List.nodup_nil
  refine ⟨places options shape, perm_places, pairwise_places, forall₂_isAt,
    fun entry hentry => (wellformed_all entry hentry).key, hnodup, ?_⟩
  intro derived keys
  have hnumbered : ∀ (index : Nat) (base : String), derived[index]? = some base →
      keys[index]? = some base ∨ ∃ number, 2 ≤ number ∧ keys[index]? = some (Name.numbered "_" base number) := by
    intro index base hbase
    rw [key_all hbase]
    rcases eq_or_numbered_fresh (keys.take index) base with hfresh | ⟨number, hnumber, hfresh⟩
    · exact Or.inl (congrArg some hfresh)
    · exact Or.inr ⟨number, hnumber, congrArg some hfresh⟩
  refine ⟨hnumbered, fun index key hkey hfirst => ?_⟩
  by_cases hmem : key ∈ keys.take index
  · obtain ⟨earlier, hearlier⟩ := List.mem_iff_getElem?.mp hmem
    obtain ⟨hlt, hearlier⟩ : earlier < index ∧ keys[earlier]? = some key := by
      rwa [List.getElem?_take, Option.ite_none_right_eq_some] at hearlier
    -- the earlier entry has the key of this one, which is not derived for it
    have hlength : derived.length = keys.length := by
      rw [List.length_map, List.length_map, forall₂_isAt.length_eq]
    obtain ⟨base, hbase⟩ : ∃ base, derived[earlier]? = some base :=
      ⟨_, List.getElem?_eq_getElem (hlength ▸ (List.getElem?_eq_some_iff.mp hearlier).1)⟩
    rcases hnumbered earlier base hbase with hsame | ⟨number, hnumber, hsame⟩
    · have hkey : base = key := Option.some.inj (hsame.symm.trans hearlier)
      refine absurd (List.mem_iff_getElem?.mpr ⟨earlier, ?_⟩) hfirst
      rw [List.getElem?_take, if_pos hlt, hbase, hkey]
    · exact Or.inr ⟨earlier, hlt, base, number, hbase, hnumber,
        Option.some.inj (hearlier.symm.trans hsame), hearlier⟩
  · refine Or.inl ((key_all hkey).trans (congrArg some ?_))
    rw [Name.fresh, if_neg (by simpa using hmem)]

/-- A key with a number may be the one that a later value would have. -/
example : (all {} { values := [.str "a", .str "a", .str "a_2"] }).map (·.key) = ["A", "A_2", "A_2_2"] := by
  decide +kernel

end SchemaTypings.Typing.EnumValue
