import Mathlib.Data.List.Nodup
import Mathlib.Data.List.TakeWhile
import SchemaTypings.Command.Steps
import SchemaTypings.Files.Tree
import SchemaTypings.Proofs.Decode.Success
import SchemaTypings.Proofs.Name.Pascal

/-!
# Names of modules

The module of a document is named after the file that the document comes from, without the directory and the
ending, and, among several documents of one file, after its position there. Documents of one file have modules of
their own; documents of two files may not (`Command.moduleNames_apart_iff`). They share a name if the files are
called the same in two directories or but for their endings, or if one is called like the other one with a position.
-/

namespace SchemaTypings.Command

/-! ## Steps that work on files -/

section

variable {σ α β : Type} {state after : σ}

/-- What a step gives from a state, and the state that it leaves. -/
def runOn (step : ExceptT Failure (StateM σ) α) (state : σ) : Except Failure α × σ :=
  StateT.run (ExceptT.run step) state

/-- The step gives the value, from one state to another. -/
def Yields (step : ExceptT Failure (StateM σ) α) (state : σ) (value : α) (after : σ) : Prop :=
  runOn step state = (.ok value, after)

theorem yields_pure {value found : α} : Yields (pure value) state found after ↔ value = found ∧ state = after := by
  have hpure : runOn (pure value) state = (.ok value, state) := rfl
  rw [Yields, hpure, Prod.mk.injEq, Except.ok.injEq]

theorem yields_bind {step : ExceptT Failure (StateM σ) α} {next : α → ExceptT Failure (StateM σ) β} {value : β} :
    Yields (step >>= next) state value after ↔
      ∃ first between, Yields step state first between ∧ Yields (next first) between value after := by
  have hbind : runOn (step >>= next) state = match runOn step state with
      | (.ok first, between) => runOn (next first) between
      | (.error failure, between) => (.error failure, between) := by
    unfold runOn
    rw [ExceptT.run_bind, StateT.run_bind]
    show (match StateT.run (ExceptT.run step) state with | (result, between) => _) = _
    rcases StateT.run (ExceptT.run step) state with ⟨_ | _, _⟩ <;> rfl
  unfold Yields
  rw [hbind]
  rcases runOn step state with ⟨_ | first, between⟩
  · simp
  · simp

/-- Each item of a list gives its value. -/
theorem forall₂_of_yields_mapM {f : α → ExceptT Failure (StateM σ) β} {items : List α} {values : List β}
    (h : Yields (items.mapM f) state values after) :
    List.Forall₂ (fun item value => ∃ state after, Yields (f item) state value after) items values := by
  induction items generalizing state values with
  | nil =>
    rw [List.mapM_nil] at h
    obtain ⟨rfl, -⟩ := yields_pure.mp h
    exact .nil
  | cons item rest ih =>
    rw [List.mapM_cons] at h
    obtain ⟨first, between, hfirst, h⟩ := yields_bind.mp h
    obtain ⟨others, last, hothers, h⟩ := yields_bind.mp h
    obtain ⟨rfl, rfl⟩ := yields_pure.mp h
    exact .cons ⟨state, between, hfirst⟩ (ih hothers)

end

/-! ## Names -/

/-- What follows the last number sign of a text, if it has one. -/
def afterSign? (text : String) : Option String :=
  if '#' ∈ text.toList then some (String.ofList (text.toList.reverse.takeWhile (· != '#')).reverse) else none

/-- What tells the module of the document at a position from others of its file, or what follows the last number
sign of the path of a single one. -/
def mark? (path : String) (count position : Nat) : Option String :=
  if count > 1 then some position.repr else afterSign? path

/-- What a file is called without its ending. -/
def stemOf (path : String) : String :=
  (Path.stem? path).getD "schema"

/-- The name of the module of a document, without its ending. -/
def title (path : String) (count position : Nat) : String :=
  match mark? path count position with
  | none => stemOf path
  | some mark => s!"{stemOf path}.{mark}"

theorem not_mem_repr {sign : Char} (hsign : sign.isDigit = false) (number : Nat) : sign ∉ number.repr.toList :=
  fun hmem => Bool.false_ne_true (hsign.symm.trans (Name.isDigit_of_mem_repr hmem))

theorem afterSign?_labelOf (path : String) (count position : Nat) :
    afterSign? (labelOf path count position) = mark? path count position := by
  unfold labelOf mark?
  split
  · have hlabel : (s!"{path}#{position}").toList.reverse =
        position.repr.toList.reverse ++ '#' :: path.toList.reverse := by
      simp [toString]
    have hmem : '#' ∈ (s!"{path}#{position}").toList := by
      rw [← List.mem_reverse, hlabel]
      exact List.mem_append_right _ List.mem_cons_self
    have hdigits : ∀ c ∈ position.repr.toList.reverse, (c != '#') = true := by
      intro c hc
      rw [bne_iff_ne]
      rintro rfl
      exact not_mem_repr rfl position (List.mem_reverse.mp hc)
    rw [afterSign?, if_pos hmem, hlabel, List.takeWhile_append_of_pos hdigits, List.takeWhile_cons,
      if_neg (by simp), List.append_nil, List.reverse_reverse, String.ofList_toList]
  · rfl

theorem moduleFileName_eq (source : Source) : moduleFileName source = match afterSign? source.label with
    | none => s!"{stemOf source.path}.ts"
    | some index => s!"{stemOf source.path}.{index}.ts" := by
  unfold moduleFileName afterSign?
  by_cases hmem : '#' ∈ source.label.toList
  · have hrest : source.label.toList.reverse.dropWhile (· != '#') ≠ [] := by
      rw [Ne, List.dropWhile_eq_nil_iff]
      intro hall
      exact absurd (hall '#' (List.mem_reverse.mpr hmem)) (by decide)
    rw [if_pos hmem]
    split
    · exact absurd ‹_› hrest
    · rfl
  · have hnone : source.label.toList.reverse.dropWhile (· != '#') = [] := by
      rw [List.dropWhile_eq_nil_iff]
      intro c hc
      rw [bne_iff_ne]
      rintro rfl
      exact hmem (List.mem_reverse.mp hc)
    rw [if_neg hmem, hnone]
    rfl

/-- The source is the document at a position among `count` of the file. -/
structure Source.IsAt (source : Source) (file : String) (count position : Nat) : Prop where
  path : source.path = file
  label : source.label = labelOf file count position

theorem Source.IsAt.moduleFileName {source : Source} {path : String} {count position : Nat}
    (h : source.IsAt path count position) : moduleFileName source = title path count position ++ ".ts" := by
  rw [moduleFileName_eq, h.label, afterSign?_labelOf, h.path, title]
  cases mark? path count position with
  | none => rfl
  | some mark => simp [toString, String.append_assoc]

/-- Texts that end with a number behind a point are made of one text and one number. -/
theorem numbered_inj {stem other : String} {number position : Nat} :
    s!"{stem}.{number.repr}" = s!"{other}.{position.repr}" ↔ stem = other ∧ number = position := by
  refine ⟨fun h => ?_, fun ⟨hstem, hnumber⟩ => by rw [hstem, hnumber]⟩
  have hpoint : ∀ number : Nat, '.' ∉ number.repr.toList := not_mem_repr rfl
  have hchars : stem.toList ++ '.' :: number.repr.toList = other.toList ++ '.' :: position.repr.toList := by
    simpa [toString] using congrArg String.toList h
  have hends : ∀ {between : List Char} {number number' : Nat},
      '.' :: number.repr.toList = between ++ '.' :: number'.repr.toList → between = [] ∧ number = number' := by
    intro between number number' heq
    cases between with
    | nil => exact ⟨rfl, Nat.repr_injective (String.toList_inj.mp (List.cons.inj heq).2)⟩
    | cons c rest =>
      refine absurd ?_ (hpoint number)
      rw [(List.cons.inj heq).2]
      exact List.mem_append_right _ List.mem_cons_self
  rcases List.append_eq_append_iff.mp hchars with ⟨between, hstem, hrest⟩ | ⟨between, hstem, hrest⟩
  · obtain ⟨rfl, hnumber⟩ := hends hrest
    exact ⟨String.toList_inj.mp (by rw [hstem, List.append_nil]), hnumber⟩
  · obtain ⟨rfl, hnumber⟩ := hends hrest
    exact ⟨String.toList_inj.mp (by rw [hstem, List.append_nil]), hnumber.symm⟩

/-! ## Inputs -/

/-- A file, and how many documents are selected in it. -/
structure Input where
  path : String
  count : Nat

namespace Input

variable {input other : Input}

/-- The names of the modules of the documents, without their ending. -/
def titles (input : Input) : List String :=
  (List.range input.count).map (title input.path input.count)

/-- A document of the one file has a module of the same name as a document of the other one. -/
def Clashes (input other : Input) : Prop :=
  ∃ name ∈ input.titles, name ∈ other.titles

instance (input other : Input) : Decidable (input.Clashes other) :=
  inferInstanceAs (Decidable (∃ name ∈ input.titles, name ∈ other.titles))

/-- The other file is called like this one, which has several documents, with the position of one of them. -/
def Numbers (input other : Input) : Prop :=
  1 < input.count ∧ ∃ position < input.count, s!"{stemOf input.path}.{position.repr}" = stemOf other.path

/-- The sources are the documents of the file, in order. -/
def Gives (input : Input) (found : List Source) : Prop :=
  List.Forall₂ (fun position (source : Source) => source.IsAt input.path input.count position)
    (List.range input.count) found

theorem Gives.names {found : List Source} (h : input.Gives found) :
    found.map moduleFileName = input.titles.map (· ++ ".ts") := by
  rw [titles, List.map_map, ← List.forall₂_eq_eq_eq, List.forall₂_map_left_iff, List.forall₂_map_right_iff]
  exact h.flip.imp fun _ _ hat => hat.moduleFileName

/-- Documents of one file have modules of their own. -/
theorem nodup_titles (input : Input) : input.titles.Nodup := by
  obtain ⟨path, count⟩ := input
  refine List.Nodup.map_on (fun position hposition position' hposition' h => ?_) List.nodup_range
  replace hposition : position < count := List.mem_range.mp hposition
  replace hposition' : position' < count := List.mem_range.mp hposition'
  by_cases hmany : count > 1
  · simp only [title, mark?, if_pos hmany] at h
    exact (numbered_inj.mp h).2
  · omega

theorem clashes_iff : input.Clashes other ↔ ∃ position < input.count, ∃ position' < other.count,
    title input.path input.count position = title other.path other.count position' := by
  simp only [Clashes, titles, List.mem_map, List.mem_range]
  constructor
  · rintro ⟨_, ⟨position, hposition, rfl⟩, position', hposition', heq⟩
    exact ⟨position, hposition, position', hposition', heq.symm⟩
  · rintro ⟨position, hposition, position', hposition', heq⟩
    exact ⟨_, ⟨position, hposition, rfl⟩, position', hposition', heq.symm⟩

theorem clashes_comm : input.Clashes other ↔ other.Clashes input := by
  simp only [Clashes, and_comm]

theorem title_single {path : String} (hsign : '#' ∉ path.toList) (position : Nat) :
    title path 1 position = stemOf path := by
  simp [title, mark?, afterSign?, hsign]

theorem title_several {count : Nat} (hcount : 1 < count) (path : String) (position : Nat) :
    title path count position = s!"{stemOf path}.{position.repr}" := by
  simp [title, mark?, hcount]

theorem clashes_single_iff (hsign : '#' ∉ other.path.toList) (hcount : 1 < input.count) (hsingle : other.count = 1) :
    input.Clashes other ↔ input.Numbers other := by
  simp [clashes_iff, Numbers, title_several hcount, hsingle, title_single hsign, hcount]

/-- Files whose paths have no number sign clash if they are called the same and either each has one document or each
has several, or if one of them has a single document and is called like the other one with a position. -/
theorem clashes_plain_iff (hsign : '#' ∉ input.path.toList) (hsign' : '#' ∉ other.path.toList)
    (hcount : 0 < input.count) (hcount' : 0 < other.count) : input.Clashes other ↔
      stemOf input.path = stemOf other.path ∧ (input.count = 1 ↔ other.count = 1) ∨
      other.count = 1 ∧ input.Numbers other ∨ input.count = 1 ∧ other.Numbers input := by
  by_cases hmany : 1 < input.count <;> by_cases hmany' : 1 < other.count
  · have hclash : input.Clashes other ↔ stemOf input.path = stemOf other.path := by
      simp only [clashes_iff, title_several hmany, title_several hmany', numbered_inj]
      exact ⟨fun ⟨_, _, _, _, hstem, _⟩ => hstem, fun hstem => ⟨0, hcount, 0, hcount', hstem, rfl⟩⟩
    have hne : input.count ≠ 1 := by omega
    have hne' : other.count ≠ 1 := by omega
    simp [hclash, hne, hne']
  · have hone : other.count = 1 := by omega
    have hne : input.count ≠ 1 := by omega
    rw [clashes_single_iff hsign' hmany hone]
    simp [hone, hne]
  · have hone : input.count = 1 := by omega
    have hne : other.count ≠ 1 := by omega
    rw [clashes_comm, clashes_single_iff hsign hmany' hone]
    simp [hone, hne]
  · have hone : input.count = 1 := by omega
    have hone' : other.count = 1 := by omega
    simp [clashes_iff, hone, hone', title_single hsign, title_single hsign', Numbers]

end Input

/-! ## Runs -/

theorem isAt_of_sourceOf {arguments : Arguments} {path : String} {count : Nat} {value : Json × Nat} {source : Source}
    (h : sourceOf arguments path count value = .ok source) : source.IsAt path count value.2 := by
  obtain ⟨part, -, h⟩ := Decode.bind_eq_ok.mp h
  split at h
  · cases h
    exact ⟨rfl, rfl⟩
  · cases h

theorem exists_gives_of_sourcesIn {m : Type → Type} {tools : Tools m} {arguments : Arguments}
    {path text : String} {found : List Source} (h : sourcesIn tools arguments path text = .ok found) : ∃ count, (Input.mk path count).Gives found := by
  unfold sourcesIn at h
  split at h
  · cases h
  · obtain ⟨values, -, h⟩ := Decode.bind_eq_ok.mp h
    refine ⟨values.length, ?_⟩
    have hpositions : values.zipIdx.map (·.2) = List.range values.length := by
      rw [List.zipIdx_map_snd, List.range_eq_range']
    rw [Input.Gives, ← hpositions, List.forall₂_map_left_iff]
    exact (Decode.forall₂_of_mapM_eq_ok h).imp fun _ _ => isAt_of_sourceOf

variable {σ : Type} {tools : Tools (StateM σ)} {files : FileAccess (StateM σ)} {arguments : Arguments} {state after : σ}

theorem exists_gives_of_readSources {path : String} {found : List Source}
    (h : Yields (readSources tools files arguments path) state found after) :
    ∃ count, (Input.mk path count).Gives found := by
  obtain ⟨text, between, -, h⟩ := yields_bind.mp h
  exact exists_gives_of_sourcesIn (congrArg Prod.fst h)

/-- The sources of a run are the documents of the files that its inputs stand for, file by file. -/
theorem exists_inputs_of_sources {found : List Source} (h : Yields (sources tools files arguments) state found after) :
    ∃ (inputs : List Input) (documents : List (List Source)) (paths : List (List String)) (between : σ),
      Yields (arguments.inputs.mapM (inputPaths tools)) state paths between ∧
      inputs.map (·.path) = paths.flatten ∧ List.Forall₂ Input.Gives inputs documents ∧
      documents.flatten = found := by
  obtain ⟨paths, between, hpaths, h⟩ := yields_bind.mp h
  obtain ⟨documents, _, hdocuments, h⟩ := yields_bind.mp h
  obtain ⟨hfound, -⟩ := yields_pure.mp h
  have hread := (forall₂_of_yields_mapM hdocuments).imp fun _ _ ⟨_, _, hyields⟩ => exists_gives_of_readSources hyields
  obtain ⟨inputs, hinputs, hgives⟩ : ∃ inputs : List Input, inputs.map (·.path) = paths.flatten ∧
      List.Forall₂ Input.Gives inputs documents := by
    clear hdocuments hfound h hpaths
    generalize paths.flatten = resolved at hread
    induction hread with
    | nil => exact ⟨[], rfl, .nil⟩
    | cons hfirst _ ih =>
      obtain ⟨count, hgives⟩ := hfirst
      obtain ⟨inputs, hinputs, hrest⟩ := ih
      exact ⟨⟨_, count⟩ :: inputs, by rw [List.map_cons, hinputs], .cons hgives hrest⟩
  exact ⟨inputs, documents, paths, between, hpaths, hinputs, hgives, hfound⟩

theorem names_of_gives {inputs : List Input} {documents : List (List Source)}
    (h : List.Forall₂ Input.Gives inputs documents) :
    documents.flatten.map moduleFileName = (inputs.flatMap Input.titles).map (· ++ ".ts") := by
  induction h with
  | nil => rfl
  | cons hfirst _ ih =>
    rw [List.flatten_cons, List.flatMap_cons, List.map_append, List.map_append, hfirst.names, ih]

theorem nodup_titles_iff (inputs : List Input) :
    (inputs.flatMap Input.titles).Nodup ↔ inputs.Pairwise fun input other => ¬input.Clashes other := by
  rw [List.nodup_flatMap, and_iff_right fun input _ => input.nodup_titles]
  refine List.Pairwise.iff fun input other => ?_
  simp only [Function.onFun, List.Disjoint, Input.Clashes, not_exists, not_and]

/-- The modules of a run have names of their own if and only if no two of the files that are read clash, whatever
paths match the patterns and whatever values the filter selects. -/
theorem moduleNames_apart_iff {found : List Source} (hrun : Yields (sources tools files arguments) state found after) :
    ∃ (inputs : List Input) (documents : List (List Source)) (paths : List (List String)) (between : σ),
      Yields (arguments.inputs.mapM (inputPaths tools)) state paths between ∧
      inputs.map (·.path) = paths.flatten ∧ List.Forall₂ Input.Gives inputs documents ∧
      documents.flatten = found ∧
      found.map moduleFileName = (inputs.flatMap Input.titles).map (· ++ ".ts") ∧
      ((found.map moduleFileName).Nodup ↔ inputs.Pairwise fun input other => ¬input.Clashes other) ∧
      ∀ input ∈ inputs, ∀ other ∈ inputs, '#' ∉ input.path.toList → '#' ∉ other.path.toList →
        0 < input.count → 0 < other.count → (input.Clashes other ↔
          stemOf input.path = stemOf other.path ∧ (input.count = 1 ↔ other.count = 1) ∨
          other.count = 1 ∧ input.Numbers other ∨ input.count = 1 ∧ other.Numbers input) := by
  obtain ⟨inputs, documents, paths, between, hpaths, hinputs, hgives, rfl⟩ := exists_inputs_of_sources hrun
  have hending : Function.Injective fun name : String => name ++ ".ts" := fun _ _ => (String.append_left_inj _).mp
  refine ⟨inputs, documents, paths, between, hpaths, hinputs, hgives, rfl, names_of_gives hgives, ?_, ?_⟩
  · rw [names_of_gives hgives, List.nodup_map_iff hending, nodup_titles_iff]
  · intro input _ other _ hsign hsign' hcount hcount'
    exact Input.clashes_plain_iff hsign hsign' hcount hcount'

/-- Two files of one name in two directories. -/
def twoApis : FileTree :=
  ⟨[(["a", "api.json"], "\x7b\"$defs\":\x7b\"A\":\x7b\"type\":\"string\"\x7d\x7d\x7d"),
    (["b", "api.json"], "\x7b\"$defs\":\x7b\"B\":\x7b\"type\":\"number\"\x7d\x7d\x7d")]⟩

/-- To make modules of both in a directory, the filter selecting the value of a file itself. -/
def modulesOfTwo : Arguments :=
  { task := .generate, inputs := ["a/api.json", "b/api.json"], selector := some ".", out := some "out",
    banner := false }

/-- Tools for inputs that are no patterns and for the filter that selects the value itself. -/
def plainTools : Tools (StateM FileTree) where
  search _ := return .ok []
  select? filter value := if filter == "." then some [value] else none

/-- The modules of such files have one name, and the second one takes the place of the first. -/
theorem moduleNames_meet_of_twoApis : ∃ (found : List Source) (inputs : List Input),
    Yields (sources plainTools FileTree.access modulesOfTwo) twoApis found twoApis ∧
    inputs.map (·.path) = ["a/api.json", "b/api.json"] ∧ found.map moduleFileName = ["api.ts", "api.ts"] ∧
    ¬inputs.Pairwise (fun input other => ¬input.Clashes other) ∧
    (StateT.run (run plainTools FileTree.access "" modulesOfTwo) twoApis).2.files =
      twoApis.files ++ [(["out", "api.ts"], "export type B = number;\n")] := by
  have hsources : ((runOn (sources plainTools FileTree.access modulesOfTwo) twoApis).1.toOption.any fun found =>
      found.map moduleFileName == ["api.ts", "api.ts"]) = true := by decide +kernel
  have hstay : (runOn (sources plainTools FileTree.access modulesOfTwo) twoApis).2.files = twoApis.files := by
    decide +kernel
  have hpaths : (runOn (modulesOfTwo.inputs.mapM (inputPaths plainTools)) twoApis).1.toOption =
      some [["a/api.json"], ["b/api.json"]] := by decide +kernel
  have hwritten : (StateT.run (run plainTools FileTree.access "" modulesOfTwo) twoApis).2.files =
      twoApis.files ++ [(["out", "api.ts"], "export type B = number;\n")] := by decide +kernel
  obtain ⟨found, hfound, hnames⟩ := Decode.exists_ok_of_any hsources
  rw [beq_iff_eq] at hnames
  have hyields : Yields (sources plainTools FileTree.access modulesOfTwo) twoApis found twoApis :=
    Prod.ext hfound (congrArg FileTree.mk hstay)
  obtain ⟨inputs, documents, paths, between, hresolved, hinputs, -, -, -, hapart, -⟩ :=
    moduleNames_apart_iff hyields
  have hresolved : paths = [["a/api.json"], ["b/api.json"]] := by
    rw [congrArg Prod.fst hresolved] at hpaths
    exact Option.some.inj hpaths
  refine ⟨found, inputs, hyields, by rw [hinputs, hresolved]; rfl, hnames, mt hapart.mpr ?_, hwritten⟩
  rw [hnames]
  decide

end SchemaTypings.Command
