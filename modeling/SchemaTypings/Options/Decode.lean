import SchemaTypings.Decode.Record
import SchemaTypings.Json.Reader
import SchemaTypings.Options.Basic

/-!
# Options from JSON

Options are a record of records. They are decoded from a JSON value, or from a text; in a text,
values that belong to no field need only be JSON in form.
-/

namespace SchemaTypings

open Decode (Origin boolean size text spelling record)

/-- A field that is read with `read` and put into its record with `put`. -/
def optionField {ρ α : Type} (name : String) (read : Origin → Located → Except Decode.Error α)
    (put : ρ → α → ρ) : Decode.Field ρ :=
  ⟨name, fun origin value record => (read origin value).map (put record)⟩

def EnumOptions.fields : List (Decode.Field EnumOptions) :=
  [optionField "generateHelpers" boolean fun o v => { o with generateHelpers := v },
    optionField "generateValidation" boolean fun o v => { o with generateValidation := v },
    optionField "generateMapping" boolean fun o v => { o with generateMapping := v },
    optionField "sortValues" boolean fun o v => { o with sortValues := v },
    optionField "keyCase" (spelling KeyCase.spellings) fun o v => { o with keyCase := v },
    optionField "keyPrefix" text fun o v => { o with keyPrefix := v },
    optionField "keySuffix" text fun o v => { o with keySuffix := v },
    optionField "emptyEnum" (spelling DegeneratePolicy.spellings)
      fun o v => { o with emptyEnum := v }]

def UnionOptions.fields : List (Decode.Field UnionOptions) :=
  [optionField "generateHelpers" boolean fun o v => { o with generateHelpers := v },
    optionField "generateValidation" boolean fun o v => { o with generateValidation := v },
    optionField "preferDiscriminatedUnions" boolean
      fun o v => { o with preferDiscriminatedUnions := v },
    optionField "strictDiscrimination" boolean fun o v => { o with strictDiscrimination := v },
    optionField "emptyUnion" (spelling DegeneratePolicy.spellings)
      fun o v => { o with emptyUnion := v }]

def CompositionOptions.fields : List (Decode.Field CompositionOptions) :=
  [optionField "generateUtilityTypes" boolean fun o v => { o with generateUtilityTypes := v },
    optionField "generateHelpers" boolean fun o v => { o with generateHelpers := v },
    optionField "circularRefs" (spelling CircularPolicy.spellings)
      fun o v => { o with circularRefs := v }]

def InterfaceOptions.fields : List (Decode.Field InterfaceOptions) :=
  [optionField "generateValidation" boolean fun o v => { o with generateValidation := v }]

def Options.fields : List (Decode.Field Options) :=
  [optionField "enumType" (spelling EnumStrategy.spellings) fun o v => { o with enumType := v },
    optionField "dateType" (spelling DateType.spellings) fun o v => { o with dateType := v },
    optionField "strictNullChecks" boolean fun o v => { o with strictNullChecks := v },
    optionField "generateComments" boolean fun o v => { o with generateComments := v },
    optionField "useReadonly" boolean fun o v => { o with useReadonly := v },
    optionField "arrayType" (spelling ArrayStyle.spellings) fun o v => { o with arrayType := v },
    optionField "objectType" (spelling ObjectStyle.spellings) fun o v => { o with objectType := v },
    optionField "nullableType" (spelling NullableStyle.spellings)
      fun o v => { o with nullableType := v },
    optionField "discriminatedUnions" boolean fun o v => { o with discriminatedUnions := v },
    optionField "maxDepth" size fun o v => { o with maxDepth := v },
    optionField "inlineUnions" boolean fun o v => { o with inlineUnions := v },
    optionField "maxInlineComplexity" size fun o v => { o with maxInlineComplexity := v },
    optionField "export" boolean fun o v => { o with exported := v },
    optionField "optionalMarkers" boolean fun o v => { o with optionalMarkers := v },
    optionField "enums" (record "EnumOptions" EnumOptions.fields {})
      fun o v => { o with enums := v },
    optionField "unions" (record "UnionOptions" UnionOptions.fields {})
      fun o v => { o with unions := v },
    optionField "composition" (record "CompositionOptions" CompositionOptions.fields {})
      fun o v => { o with composition := v },
    optionField "interfaces" (record "InterfaceOptions" InterfaceOptions.fields {})
      fun o v => { o with interfaces := v }]

namespace Options

def ofLocated (origin : Origin) (value : Located) : Except Decode.Error Options :=
  record "Options" fields {} origin value

def ofJson (value : Json) : Except Decode.Error Options :=
  ofLocated .value value.located

/-- Why a text holds no options. -/
inductive TextError where
  /-- The text does not begin with a JSON value. -/
  | notJson
  /-- The value does not decode. -/
  | undecodable (error : Decode.Error)

/-- Options from the value at the start of a text. -/
def ofText (source : String) : Except TextError Options :=
  match Located.read? source with
  | none => .error .notJson
  | some located =>
    match ofLocated .text located, located.toJson? with
    | .ok options, _ => .ok options
    | .error error, some _ => .error (.undecodable error)
    | .error _, none => .error .notJson

end Options

end SchemaTypings
