import SchemaTypings.Options.Basic

/-!
# Command line arguments

The arguments name a task, the inputs and choices for the run. Flags have a long name and some have a
letter; letters may be joined, and a value may be attached to its flag.
-/

namespace SchemaTypings.Command

/-- What is done with the inputs. -/
inductive Task where
  /-- Modules are made. -/
  | generate
  /-- It is only reported what can be lowered. -/
  | check
  deriving DecidableEq, Repr

/-- What the arguments of a run say. -/
structure Arguments where
  task : Task
  inputs : List String := []
  pointer : Option String := none
  selector : Option String := none
  optionsFile : Option String := none
  enumType : Option EnumStrategy := none
  dateType : Option DateType := none
  nullable : Option NullableStyle := none
  arrayType : Option ArrayStyle := none
  parallel : Bool := false
  verbose : Bool := false
  banner : Bool := true
  out : Option String := none
  deriving DecidableEq, Repr

def Arguments.refine (arguments : Arguments) (options : Options) : Options :=
  { options with
    enumType := arguments.enumType.getD options.enumType
    dateType := arguments.dateType.getD options.dateType
    nullableType := arguments.nullable.getD options.nullableType
    arrayType := arguments.arrayType.getD options.arrayType }

/-- What a program is called to do. -/
inductive Invocation where
  /-- To tell its version. -/
  | version
  | run (arguments : Arguments)
  deriving DecidableEq, Repr

/-- What is wrong with arguments. -/
inductive UsageError where
  | unexpected (argument : String)
  | missingValue (flag : String)
  | badValue (flag value : String)
  | repeated (flag : String)
  | noInput
  | noTask
  deriving DecidableEq, Repr

def UsageError.message : UsageError → String
  | unexpected argument => s!"unexpected argument '{argument}' found"
  | missingValue flag => s!"a value is required for '--{flag}' but none was supplied"
  | badValue flag value => s!"invalid value '{value}' for '--{flag}'"
  | repeated flag => s!"the argument '--{flag}' cannot be used multiple times"
  | noInput => "the following required arguments were not provided: --input"
  | noTask => "'schema-lower' requires a subcommand but one was not provided"

/-! ## Flags -/

/-- What follows a flag, and what it changes. -/
inductive FlagEffect where
  | switch (set : Arguments → Arguments)
  | value (put? : Arguments → String → Option Arguments)
  | values (add : Arguments → List String → Arguments)

/-- A flag. -/
structure Flag where
  name : String
  letter : Option Char := none
  effect : FlagEffect

namespace Flag

/-- A flag whose value is one of the spellings. -/
def spelled {α : Type} (name : String) (spellings : List (String × α))
    (put : Arguments → α → Arguments) : Flag where
  name
  effect := .value fun arguments text => (spellings.lookup text).map (put arguments)

/-- A flag whose value is a text. -/
def text (name : String) (put : Arguments → String → Arguments) : Flag where
  name
  effect := .value fun arguments value => some (put arguments value)

/-- A flag whose value is a path, which is not empty. -/
def path (name : String) (letter : Option Char) (put : Arguments → String → Arguments) : Flag where
  name
  letter
  effect := .value fun arguments value => if value.isEmpty then none else some (put arguments value)

/-- The flags of both tasks. -/
def shared : List Flag :=
  [⟨"verbose", some 'v', .switch fun a => { a with verbose := true }⟩,
    ⟨"input", some 'i', .values fun a values => { a with inputs := a.inputs ++ values }⟩,
    text "json-pointer" fun a value => { a with pointer := some value },
    text "jq-expr" fun a value => { a with selector := some value },
    path "config" none fun a value => { a with optionsFile := some value },
    spelled "enum-type" EnumStrategy.spellings fun a value => { a with enumType := some value },
    spelled "date-type" DateType.spellings fun a value => { a with dateType := some value },
    spelled "nullable"
      [("null", .null), ("undefined", .undefined), ("null-undefined", .nullAndUndefined)]
      fun a value => { a with nullable := some value },
    spelled "array-type" ArrayStyle.spellings fun a value => { a with arrayType := some value },
    ⟨"parallel", none, .switch fun a => { a with parallel := true }⟩]

def ofTask : Task → List Flag
  | .check => shared
  | .generate => shared ++
      [⟨"no-banner", none, .switch fun a => { a with banner := false }⟩,
        path "out" (some 'o') fun a value => { a with out := some value }]

end Flag

/-! ## Reading -/

/-- The arguments so far, and the flags among them. -/
structure Reading where
  arguments : Arguments
  seen : List String := []

namespace Reading

/-- Whether an argument is a value, and no flag. -/
def isValue (argument : String) : Bool :=
  !argument.startsWith "-" || argument == "-"

/-- The reading with one more flag, which takes a value from `attached` or else from the arguments
after it, and those that are left. -/
def take (reading : Reading) (flag : Flag) (attached : Option String) (rest : List String) :
    Except UsageError (Reading × List String) := do
  let again := reading.seen.contains flag.name
  let seen := flag.name :: reading.seen
  match flag.effect, attached with
  | .switch _, some value => throw (.badValue flag.name value)
  | .switch set, none =>
    if again then throw (.repeated flag.name)
    return (⟨set reading.arguments, seen⟩, rest)
  | .values add, some value => return (⟨add reading.arguments [value], seen⟩, rest)
  | .values add, none =>
    let found := rest.takeWhile isValue
    if found.isEmpty then throw (.missingValue flag.name)
    return (⟨add reading.arguments found, seen⟩, rest.dropWhile isValue)
  | .value put?, attached =>
    let (value, rest) ← match attached, rest with
      | some value, rest => pure (value, rest)
      | none, value :: rest =>
        if isValue value then pure (value, rest) else throw (.missingValue flag.name)
      | none, [] => throw (.missingValue flag.name)
    if again then throw (.repeated flag.name)
    match put? reading.arguments value with
    | some arguments => return (⟨arguments, seen⟩, rest)
    | none => throw (.badValue flag.name value)

/-- The reading with the flags of joined letters. What follows the letter of a flag that takes a value
is that value. -/
def takeLetters (flags : List Flag) (reading : Reading) (argument : String) (rest : List String) :
    List Char → Except UsageError (Reading × List String)
  | [] => return (reading, rest)
  | letter :: more => do
    match flags.find? (·.letter == some letter), more with
    | none, _ => throw (.unexpected argument)
    | some flag, [] => reading.take flag none rest
    | some flag, more =>
      match flag.effect with
      | .switch _ =>
        let (reading, rest) ← reading.take flag none rest
        reading.takeLetters flags argument rest more
      | _ =>
        let value := if more.head? == some '=' then more.drop 1 else more
        reading.take flag (some (String.ofList value)) rest

/-- The reading with a flag by its name, which a value may follow after an equals sign. -/
def takeNamed (flags : List Flag) (reading : Reading) (argument : String) (rest : List String)
    (cs : List Char) : Except UsageError (Reading × List String) :=
  let name := String.ofList (cs.takeWhile (· != '='))
  let attached := ((cs.dropWhile (· != '=')).tail?).map String.ofList
  match flags.find? (·.name == name) with
  | some flag => reading.take flag attached rest
  | none => throw (.unexpected argument)

/-- The reading with one more argument, and those that are left. -/
def takeNext (flags : List Flag) (reading : Reading) (argument : String) (rest : List String) :
    Except UsageError (Reading × List String) :=
  match argument.toList with
  | ['-', '-'] =>
    match rest with
    | [] => return (reading, [])
    | extra :: _ => throw (.unexpected extra)
  | '-' :: '-' :: name => reading.takeNamed flags argument rest name
  | '-' :: letter :: letters => reading.takeLetters flags argument rest (letter :: letters)
  | _ => throw (.unexpected argument)

/-- The reading with all arguments, of which there are at most `steps`. -/
def takeAll (flags : List Flag) : Nat → Reading → List String → Except UsageError Reading
  | _, reading, [] => return reading
  | 0, reading, _ => return reading
  | steps + 1, reading, argument :: rest => do
    let (reading, rest) ← reading.takeNext flags argument rest
    reading.takeAll flags steps rest

end Reading

/-- What the arguments after the name of a task say. -/
def Arguments.ofTask (task : Task) (verbose : Bool) (rest : List String) :
    Except UsageError Arguments := do
  let reading ← Reading.takeAll (Flag.ofTask task) rest.length ⟨{ task, verbose }, []⟩ rest
  if reading.arguments.inputs.isEmpty then throw .noInput
  return reading.arguments

/-- What the program is called to do by the arguments, after the flags that stand before a task. -/
def Invocation.ofArgumentsAfter (verbose : Bool) : List String → Except UsageError Invocation
  | [] => throw .noTask
  | argument :: rest =>
    if argument == "--version" || argument == "-V" then return .version
    else if argument == "--verbose" || argument == "-v" then
      if verbose then throw (.repeated "verbose") else ofArgumentsAfter true rest
    else if argument == "generate" then return .run (← Arguments.ofTask .generate verbose rest)
    else if argument == "check" then return .run (← Arguments.ofTask .check verbose rest)
    else throw (.unexpected argument)

/-- What the program is called to do. -/
def Invocation.ofArguments (arguments : List String) : Except UsageError Invocation :=
  ofArgumentsAfter false arguments

end SchemaTypings.Command
