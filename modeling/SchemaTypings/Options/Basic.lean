/-!
# Options

Everything that can be chosen for a run. Each choice is enumerated, and its spellings stand beside
it: the first spelling of a value is the one it is written with.
-/

namespace SchemaTypings

/-- How an enumeration is declared. -/
inductive EnumStrategy where
  /-- A union of literals, with a map of the values beside it. -/
  | union
  /-- An `enum` declaration. -/
  | enum
  /-- A constant tuple, from whose elements the type is derived. -/
  | const
  /-- A union of literals marked with a unique brand. -/
  | branded
  deriving DecidableEq, Repr

/-- What a text with a date format is. -/
inductive DateType where
  | string
  | date
  deriving DecidableEq, Repr

/-- How an array type is written: `Array<T>` or `T[]`. -/
inductive ArrayStyle where
  | generic
  | bracket
  deriving DecidableEq, Repr

/-- How a type with arbitrary keys is written: `Record<string, T>` or as an index signature. -/
inductive ObjectStyle where
  | genericMap
  | indexSignature
  deriving DecidableEq, Repr

/-- What a nullable type admits besides its base. -/
inductive NullableStyle where
  | null
  | undefined
  | nullAndUndefined
  deriving DecidableEq, Repr

/-- What becomes of an enumeration or a union with nothing in it. -/
inductive DegeneratePolicy where
  /-- It is the bottom type, with a warning. -/
  | never
  /-- It fails. -/
  | error
  deriving DecidableEq, Repr

/-- What becomes of a reference back to a type under composition. -/
inductive CircularPolicy where
  /-- It stays a forward reference, with a marker in the documentation. -/
  | marker
  /-- It fails. -/
  | error
  deriving DecidableEq, Repr

/-- How the keys of an enumeration are made of its values. -/
inductive KeyCase where
  | upperSnake
  | preserve
  deriving DecidableEq, Repr

def EnumStrategy.spellings : List (String × EnumStrategy) :=
  [("union", .union), ("enum", .enum), ("const", .const), ("branded", .branded)]

def DateType.spellings : List (String × DateType) :=
  [("string", .string), ("date", .date)]

def ArrayStyle.spellings : List (String × ArrayStyle) :=
  [("generic", .generic), ("bracket", .bracket)]

def ObjectStyle.spellings : List (String × ObjectStyle) :=
  [("generic-map", .genericMap), ("index-signature", .indexSignature)]

def NullableStyle.spellings : List (String × NullableStyle) :=
  [("T|null", .null), ("null", .null), ("T|undefined", .undefined), ("undefined", .undefined),
    ("T|null|undefined", .nullAndUndefined), ("null-undefined", .nullAndUndefined)]

def DegeneratePolicy.spellings : List (String × DegeneratePolicy) :=
  [("never", .never), ("error", .error)]

def CircularPolicy.spellings : List (String × CircularPolicy) :=
  [("marker", .marker), ("error", .error)]

def KeyCase.spellings : List (String × KeyCase) :=
  [("upperSnake", .upperSnake), ("preserve", .preserve)]

/-- The first spelling of a value. -/
def spellingOf {α : Type} [BEq α] (spellings : List (String × α)) (value : α) : String :=
  ((spellings.find? (·.2 == value)).map (·.1)).getD ""

structure EnumOptions where
  generateHelpers : Bool := true
  generateValidation : Bool := false
  generateMapping : Bool := false
  sortValues : Bool := false
  keyCase : KeyCase := .upperSnake
  keyPrefix : String := ""
  keySuffix : String := ""
  emptyEnum : DegeneratePolicy := .never
  deriving DecidableEq, Repr

structure UnionOptions where
  generateHelpers : Bool := true
  generateValidation : Bool := false
  /-- Discriminators are inferred for `anyOf` too. -/
  preferDiscriminatedUnions : Bool := true
  /-- An inferred discriminator must be required in every member. -/
  strictDiscrimination : Bool := false
  emptyUnion : DegeneratePolicy := .never
  deriving DecidableEq, Repr

structure CompositionOptions where
  generateUtilityTypes : Bool := true
  generateHelpers : Bool := false
  circularRefs : CircularPolicy := .marker
  deriving DecidableEq, Repr

structure InterfaceOptions where
  generateValidation : Bool := false
  deriving DecidableEq, Repr

/-- All choices for a run. -/
structure Options where
  enumType : EnumStrategy := .union
  dateType : DateType := .string
  strictNullChecks : Bool := true
  generateComments : Bool := true
  useReadonly : Bool := false
  arrayType : ArrayStyle := .bracket
  objectType : ObjectStyle := .genericMap
  nullableType : NullableStyle := .null
  discriminatedUnions : Bool := true
  maxDepth : Nat := 10
  inlineUnions : Bool := true
  maxInlineComplexity : Nat := 3
  /-- Declarations are exported. -/
  exported : Bool := true
  /-- An optional property is marked after its key, not in its type. -/
  optionalMarkers : Bool := true
  enums : EnumOptions := {}
  unions : UnionOptions := {}
  composition : CompositionOptions := {}
  interfaces : InterfaceOptions := {}
  deriving DecidableEq, Repr

/-- What stands before every declaration. -/
def Options.exportWord (options : Options) : String :=
  if options.exported then "export " else ""

end SchemaTypings
