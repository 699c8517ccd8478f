import SchemaTypings.Proofs.Document.Places
import SchemaTypings.Proofs.Document.Traces
import SchemaTypings.Proofs.Json.Reading

/-!
# Keys and properties that do not repeat

No object in a well-formed value repeats a key, and so none in a value that was read from a text
(`Json.distinctKeys_of_read?`). So no section of a document that was read repeats a name
(`Document.keysDistinct_of_read?`).

The properties of an object schema are the members of an object of the value that the schema was read from. So no
object in a schema repeats a property if that value is well formed (`Schema.propertiesDistinct_of_ofJson`), and none
in a schema at the end of a chain of references does if the document is and the chain begins with such a schema
(`Document.propertiesDistinct_of_resolveDeep?`).
-/

namespace SchemaTypings

/-! ## Keys -/

namespace Json

/-- No object in the value repeats a key, wherever it stands. -/
def DistinctKeys (value : Json) : Prop :=
  ∀ way members, value.walk? way = some (.obj members) → (members.map (·.1)).Nodup

theorem Wellformed.distinctKeys {value : Json} (h : value.Wellformed) : value.DistinctKeys := by
  intro way members hway
  cases h.of_holds (holds_of_walk? hway) with
  | obj hkeys _ => exact hkeys

/-- The value that a text starts with repeats no key. -/
theorem distinctKeys_of_read? {text : String} {value : Json} (h : read? text = some value) :
    value.DistinctKeys :=
  (wellformed_of_read? h).distinctKeys

end Json

namespace Document

theorem keysDistinct_of_distinctKeys {raw : Json} (h : raw.DistinctKeys) : KeysDistinct raw := by
  intro area _
  cases hmembers : sectionMembers? raw area with
  | none => simp
  | some members =>
    obtain ⟨held, hheld, hobject⟩ := Option.bind_eq_some_iff.mp hmembers
    obtain ⟨way, -, hway⟩ := Option.bind_eq_some_iff.mp hheld
    obtain rfl : held = .obj members := by
      cases held <;> simp [Json.members?] at hobject
      rw [hobject]
    exact h way members hway

/-- No section of a value that was read from a text repeats a name. -/
theorem keysDistinct_of_read? {text : String} {raw : Json} (h : Json.read? text = some raw) :
    KeysDistinct raw :=
  keysDistinct_of_distinctKeys (Json.distinctKeys_of_read? h)

end Document

/-! ## Properties -/

/-- The kind of an object that repeats a property. -/
def SchemaKind.RepeatsProperty (kind : SchemaKind Schema) : Prop :=
  ∃ shape, kind = .object shape ∧ ¬(shape.properties.map (·.1)).Nodup

/-- No object in the schema repeats a property. -/
def Schema.PropertiesDistinct (schema : Schema) : Prop :=
  ∀ other shape, schema.Contains other → other.kind = .object shape → (shape.properties.map (·.1)).Nodup

theorem Schema.propertiesDistinct_iff {schema : Schema} :
    schema.PropertiesDistinct ↔ ¬schema.Has SchemaKind.RepeatsProperty := by
  constructor
  · rintro h ⟨other, hother, shape, hkind, hrepeats⟩
    exact hrepeats (h other shape hother hkind)
  · intro h other shape hother hkind
    by_contra hrepeats
    exact h ⟨other, hother, shape, hkind, hrepeats⟩

theorem Schema.PropertiesDistinct.of_child {schema child : Schema} (h : schema.PropertiesDistinct)
    (hchild : child ∈ schema.children) : child.PropertiesDistinct :=
  fun other shape hother => h other shape (.step hchild hother)

namespace Keywords

theorem properties_of_kind {keywords : Keywords Schema} {shape : ObjectShape Schema}
    (h : keywords.kind = .object shape) : shape.properties = keywords.properties.getD [] := by
  unfold kind at h
  split at h
  · cases h
  · cases h
  · cases h
  · cases h
  · split at h
    · cases h
    · split at h
      · cases h
        rfl
      · split at h
        · cases h
        · unfold kindByTypes at h
          split at h <;> cases h

theorem properties_of_setPlain {keywords keywords' : Keywords Schema} {name : String} {value : Json}
    (h : keywords.setPlain name value = .ok keywords') : keywords'.properties = keywords.properties := by
  unfold setPlain at h
  split at h
  all_goals first
    | obtain ⟨_, -, rfl⟩ := Decode.map_eq_ok.mp h
      rfl
    | cases h
      rfl

end Keywords

namespace Schema

theorem keys_decodeProperties {members : List (String × Json)} {properties : List (String × Schema)}
    (h : decodeProperties members = .ok properties) : properties.map (·.1) = members.map (·.1) := by
  induction members generalizing properties with
  | nil =>
    cases h
    rfl
  | cons member rest ih =>
    rw [decodeProperties] at h
    obtain ⟨schema, -, hrest⟩ := Decode.bind_eq_ok.mp h
    obtain ⟨others, hothers, h⟩ := Decode.bind_eq_ok.mp hrest
    cases h
    rw [List.map_cons, List.map_cons, ih hothers]

theorem nodup_keys_of_decodeMap {value : Json} (hvalue : value.Wellformed) {properties : List (String × Schema)}
    (h : decodeMap value = .ok properties) : (properties.map (·.1)).Nodup := by
  cases hvalue with
  | obj hkeys _ =>
    rw [decodeMap] at h
    rwa [keys_decodeProperties h]
  | _ => simp [decodeMap, Decode.failWrongKind, Decode.fail] at h

end Schema

/-- That a property repeats goes from values that are not well formed to kinds. -/
theorem traced_repeatsProperty : Traced SchemaKind.RepeatsProperty
    (fun keywords => ¬((keywords.properties.getD []).map (·.1)).Nodup) fun value => ¬value.Wellformed where
  any := by
    rintro ⟨_, ⟨⟩, -⟩
  primitive := by
    rintro _ ⟨_, ⟨⟩, -⟩
  kind := by
    rintro keywords ⟨shape, hkind, hrepeats⟩
    rwa [Keywords.properties_of_kind hkind] at hrepeats
  blank := fun hrepeats => hrepeats List.nodup_nil
  plain := fun h hrepeats => Or.inl (Keywords.properties_of_setPlain h ▸ hrepeats)
  properties := fun h hrepeats => Or.inr fun hvalue => hrepeats (Schema.nodup_keys_of_decodeMap hvalue h)
  nested := fun hproperties _ _ _ hrepeats => hproperties ▸ hrepeats
  item := fun item hitem h hvalue => h (Json.wellformed_arr_iff.mp hvalue item hitem)
  member := fun member hmember h hvalue => h ((Json.wellformed_obj_iff.mp hvalue).2 member hmember)

/-- No object in a schema repeats a property if the schema was read from a well-formed value. -/
theorem Schema.propertiesDistinct_of_ofJson {value : Json} (hvalue : value.Wellformed) {schema : Schema}
    (h : ofJson value = .ok schema) : schema.PropertiesDistinct :=
  propertiesDistinct_iff.mpr fun hrepeats => traced_repeatsProperty.of_ofJson h hrepeats hvalue

theorem Document.propertiesDistinct_of_resolveDeep? {raw : Json} {document : Document} (hraw : raw.Wellformed)
    (h : ofJson raw = .ok document) {schema target : Schema} (hschema : schema.PropertiesDistinct)
    (htarget : document.resolveDeep? schema = some target) : target.PropertiesDistinct := by
  refine Schema.propertiesDistinct_iff.mpr fun hrepeats => ?_
  rcases traced_repeatsProperty.of_resolveDeep? h htarget hrepeats with hrepeats | hvalue
  · exact Schema.propertiesDistinct_iff.mp hschema hrepeats
  · exact hvalue hraw

end SchemaTypings
