import Mathlib.Data.List.Nodup
import Mathlib.Data.List.Perm.Basic
import SchemaTypings.Proofs.Decode.Success
import SchemaTypings.Schema.Decode

/-!
# The order of keywords

Each keyword sets a field of its own, and what it sets it to does not depend on the others. So the
members of an object may come in any order if no key comes twice.
-/

namespace SchemaTypings

namespace Keywords

/-- The keywords with the field of the named keyword as in the source. -/
def take {α : Type} (name : String) (source target : Keywords α) : Keywords α where
  reference := if name = "$ref" then source.reference else target.reference
  types := if name = "type" then source.types else target.types
  format := if name = "format" then source.format else target.format
  title := if name = "title" then source.title else target.title
  description := if name = "description" then source.description else target.description
  example? := if name = "example" then source.example? else target.example?
  default? := if name = "default" then source.default? else target.default?
  nullable := if name = "nullable" then source.nullable else target.nullable
  readOnly := if name = "readOnly" then source.readOnly else target.readOnly
  deprecated := if name = "deprecated" then source.deprecated else target.deprecated
  properties := if name = "properties" then source.properties else target.properties
  required := if name = "required" then source.required else target.required
  additional := if name = "additionalProperties" then source.additional else target.additional
  items := if name = "items" then source.items else target.items
  values := if name = "enum" then source.values else target.values
  constant := if name = "const" then source.constant else target.constant
  oneOf := if name = "oneOf" then source.oneOf else target.oneOf
  anyOf := if name = "anyOf" then source.anyOf else target.anyOf
  allOf := if name = "allOf" then source.allOf else target.allOf
  discriminator := if name = "discriminator" then source.discriminator else target.discriminator
  minLength := if name = "minLength" then source.minLength else target.minLength
  maxLength := if name = "maxLength" then source.maxLength else target.maxLength
  minimum := if name = "minimum" then source.minimum else target.minimum
  maximum := if name = "maximum" then source.maximum else target.maximum
  pattern := if name = "pattern" then source.pattern else target.pattern
  valueNames := if name = "x-enum-varnames" then source.valueNames else target.valueNames
  valueDescriptions :=
    if name = "x-enum-descriptions" then source.valueDescriptions else target.valueDescriptions
  deprecatedValues :=
    if name = "x-enum-deprecated" then source.deprecatedValues else target.deprecatedValues

theorem take_comm {α : Type} {first second : String} (h : first ≠ second)
    (source source' target : Keywords α) :
    take first source (take second source' target) =
      take second source' (take first source target) := by
  have hfield : ∀ {β : Type} (key : String) (value value' held : β),
      (if first = key then value else if second = key then value' else held) =
        if second = key then value' else if first = key then value else held := by
    intro β key value value' held
    by_cases hfirst : first = key
    · rw [if_pos hfirst, if_pos hfirst, if_neg fun hsecond => h (hfirst.trans hsecond.symm)]
    · rw [if_neg hfirst, if_neg hfirst]
  unfold take
  congr 1 <;> exact hfield _ _ _ _

/-- What a keyword does to the keywords, whatever they are: it sets its own field to some value, or
nothing at all, or it fails. -/
inductive Sets (name : String) (set : Keywords Schema → Except Decode.Error (Keywords Schema)) : Prop
  | field (source : Keywords Schema) (h : ∀ keywords, set keywords = .ok (take name source keywords))
  | nothing (h : ∀ keywords, set keywords = .ok keywords)
  | failure (error : Decode.Error) (h : ∀ keywords, set keywords = .error error)

/-- What decodes the value first, and then updates the field, sets it or fails. -/
theorem Sets.of_map {β : Type} {name : String} (result : Except Decode.Error β)
    (update : β → Keywords Schema → Keywords Schema)
    (h : ∀ value keywords, update value keywords = take name (update value {}) keywords) :
    Sets name fun keywords => result.map fun value => update value keywords := by
  cases result with
  | error error => exact .failure error fun _ => rfl
  | ok value => exact .field (update value {}) fun keywords => congrArg Except.ok (h value keywords)

theorem sets_setPlain (name : String) (value : Json) :
    Sets name fun keywords => setPlain keywords name value := by
  unfold setPlain
  split
  case h_1 => exact .of_map _ (fun v k => { k with reference := v }) fun _ _ => rfl
  case h_2 => exact .of_map _ (fun v k => { k with types := Option.getD v [] }) fun _ _ => rfl
  case h_3 => exact .of_map _ (fun v k => { k with format := v }) fun _ _ => rfl
  case h_4 => exact .of_map _ (fun v k => { k with title := v }) fun _ _ => rfl
  case h_5 => exact .of_map _ (fun v k => { k with description := v }) fun _ _ => rfl
  case h_6 => exact .field { example? := present value } fun _ => rfl
  case h_7 => exact .field { default? := present value } fun _ => rfl
  case h_8 => exact .of_map _ (fun v k => { k with nullable := v }) fun _ _ => rfl
  case h_9 => exact .of_map _ (fun v k => { k with readOnly := v }) fun _ _ => rfl
  case h_10 => exact .of_map _ (fun v k => { k with deprecated := v }) fun _ _ => rfl
  case h_11 => exact .of_map _ (fun v k => { k with required := v }) fun _ _ => rfl
  case h_12 => exact .of_map _ (fun v k => { k with values := v }) fun _ _ => rfl
  case h_13 => exact .field { constant := present value } fun _ => rfl
  case h_14 => exact .of_map _ (fun v k => { k with discriminator := v }) fun _ _ => rfl
  case h_15 => exact .of_map _ (fun v k => { k with minLength := v }) fun _ _ => rfl
  case h_16 => exact .of_map _ (fun v k => { k with maxLength := v }) fun _ _ => rfl
  case h_17 => exact .of_map _ (fun v k => { k with minimum := v }) fun _ _ => rfl
  case h_18 => exact .of_map _ (fun v k => { k with maximum := v }) fun _ _ => rfl
  case h_19 => exact .of_map _ (fun v k => { k with pattern := v }) fun _ _ => rfl
  case h_20 => exact .of_map _ (fun v k => { k with valueNames := Option.getD v [] }) fun _ _ => rfl
  case h_21 => exact .of_map _ (fun v k => { k with valueDescriptions := v }) fun _ _ => rfl
  case h_22 =>
    exact .of_map _ (fun v k => { k with deprecatedValues := Option.getD v [] }) fun _ _ => rfl
  case h_23 => exact .nothing fun _ => rfl

theorem sets_setKeyword (name : String) (value : Json)
    (one : Unit → Except Decode.Error Schema) (list : Unit → Except Decode.Error (List Schema))
    (map : Unit → Except Decode.Error (List (String × Schema))) :
    Sets name fun keywords => setKeyword keywords name value one list map := by
  unfold setKeyword
  split
  case h_2 => exact .of_map _ (fun v k => { k with properties := some v }) fun _ _ => rfl
  case h_4 opened => exact .field { additional := if opened then .opened else .closed } fun _ => rfl
  case h_5 =>
    cases one () with
    | ok schema => exact .field { additional := .schema schema } fun _ => rfl
    | error => exact .failure _ fun _ => rfl
  case h_7 => exact .of_map _ (fun v k => { k with items := some v }) fun _ _ => rfl
  case h_9 => exact .of_map _ (fun v k => { k with oneOf := some v }) fun _ _ => rfl
  case h_11 => exact .of_map _ (fun v k => { k with anyOf := some v }) fun _ _ => rfl
  case h_13 => exact .of_map _ (fun v k => { k with allOf := some v }) fun _ _ => rfl
  case h_14 => exact sets_setPlain _ _
  all_goals exact .nothing fun _ => rfl

/-- Different keywords may be set in any order: both fail, or both give the same. -/
theorem Sets.comm {first second : String} {set set' : Keywords Schema →
      Except Decode.Error (Keywords Schema)} (h : first ≠ second) (hset : Sets first set)
    (hset' : Sets second set') (keywords : Keywords Schema) :
    ((set keywords).toOption.bind fun between => (set' between).toOption) =
      (set' keywords).toOption.bind fun between => (set between).toOption := by
  rcases hset with ⟨source, hset⟩ | ⟨hset⟩ | ⟨error, hset⟩ <;>
    rcases hset' with ⟨source', hset'⟩ | ⟨hset'⟩ | ⟨error', hset'⟩ <;>
      simp [hset, hset', Except.toOption, take_comm h]

theorem setKeyword_of_not_mem {name : String} (h : name ∉ order) (keywords : Keywords Schema)
    (value : Json) (one : Unit → Except Decode.Error Schema)
    (list : Unit → Except Decode.Error (List Schema))
    (map : Unit → Except Decode.Error (List (String × Schema))) :
    keywords.setKeyword name value one list map = .ok keywords := by
  unfold setKeyword
  split
  case h_14 =>
    unfold setPlain
    split
    case h_23 => rfl
    all_goals exact absurd (by simp [order]) h
  all_goals exact absurd (by simp [order]) h

end Keywords

namespace Schema

variable {members members' before after : List (String × Json)} {keywords : Keywords Schema}

/-- The keywords with those of one more member, unless something failed. -/
def addMember (keywords : Option (Keywords Schema)) (member : String × Json) :
    Option (Keywords Schema) :=
  keywords.bind fun keywords => (keywords.setKeyword member.1 member.2 (fun _ => decode member.2)
    (fun _ => decodeList member.2) (fun _ => decodeMap member.2)).toOption

theorem toOption_decodeMembers :
    (decodeMembers keywords members).toOption = members.foldl addMember (some keywords) := by
  have hnone : ∀ members : List (String × Json), members.foldl addMember none = none := by
    intro members
    induction members with
    | nil => rfl
    | cons member rest ih => exact ih
  induction members generalizing keywords with
  | nil => rfl
  | cons member rest ih =>
    obtain ⟨name, value⟩ := member
    rw [decodeMembers, List.foldl_cons, addMember, Option.bind_some]
    cases keywords.setKeyword name value (fun _ => decode value) (fun _ => decodeList value)
      (fun _ => decodeMap value) with
    | error error => exact (hnone rest).symm
    | ok between => exact ih

/-- The order of the members does not matter to the schema that an object holds. -/
theorem toOption_ofJson_perm (h : members.Perm members') (hkeys : (members.map (·.1)).Nodup) :
    (ofJson (.obj members)).toOption = (ofJson (.obj members')).toOption := by
  have hcomm : ∀ first ∈ members, ∀ second ∈ members, ∀ keywords,
      addMember (addMember keywords first) second = addMember (addMember keywords second) first := by
    intro first hfirst second hsecond keywords
    cases keywords with
    | none => rfl
    | some keywords =>
      by_cases hsame : first = second
      · rw [hsame]
      · have hname : first.1 ≠ second.1 := fun heq =>
          hsame (List.inj_on_of_nodup_map hkeys hfirst hsecond heq)
        exact (Keywords.sets_setKeyword first.1 first.2 _ _ _).comm hname
          (Keywords.sets_setKeyword second.1 second.2 _ _ _) keywords
  have hdecode : ∀ members, (ofJson (.obj members)).toOption =
      (decodeMembers {} members).toOption.map ofKeywords := by
    intro members
    show (decode (.obj members)).toOption = _
    rw [decode]
    cases decodeMembers {} members <;> rfl
  rw [hdecode, hdecode, toOption_decodeMembers, toOption_decodeMembers, h.foldl_eq' hcomm]

/-- The value of what is no keyword does not matter to the schema that an object holds. -/
theorem ofJson_replace {name : String} (h : name ∉ Keywords.order) (value value' : Json) :
    ofJson (.obj (before ++ (name, value) :: after)) =
      ofJson (.obj (before ++ (name, value') :: after)) := by
  have hmembers : ∀ keywords, decodeMembers keywords (before ++ (name, value) :: after) =
      decodeMembers keywords (before ++ (name, value') :: after) := by
    induction before with
    | nil =>
      intro keywords
      rw [List.nil_append, List.nil_append, decodeMembers, decodeMembers,
        Keywords.setKeyword_of_not_mem h, Keywords.setKeyword_of_not_mem h]
    | cons member rest ih =>
      intro keywords
      rw [List.cons_append, List.cons_append, decodeMembers, decodeMembers]
      exact congrArg _ (funext ih)
  show decode _ = decode _
  rw [decode, decode, hmembers]

end Schema

end SchemaTypings
