import SchemaTypings.Schema.Document

/-!
# Keys and references

A key that is escaped into the last segment of a reference is read back from it. So the reference to a
schema of a section gives the type name that the name of the schema gives.
-/

namespace SchemaTypings

namespace Text

theorem fields_eq_singleton {separator : Char} {text : List Char} (h : separator ∉ text) :
    fields separator text = [text] := by
  induction text with
  | nil => rfl
  | cons c rest ih =>
    rw [List.mem_cons, not_or] at h
    have hc : (c == separator) = false := by simpa using Ne.symm h.1
    rw [fields, hc, if_neg (by simp), ih h.2]

theorem fields_append {separator : Char} (first second : List Char) :
    fields separator (first ++ separator :: second) =
      fields separator first ++ fields separator second := by
  induction first with
  | nil => simp [fields]
  | cons c rest ih =>
    rw [List.cons_append, fields, fields, ih]
    split
    · rfl
    · cases hfields : fields separator rest with
      | nil => exact absurd hfields (fields_ne_nil _ _)
      | cons field others => rfl

theorem replacePair_cons_of_ne {a b c : Char} {new rest : List Char} (h : c ≠ a) :
    replacePair a b new (c :: rest) = c :: replacePair a b new rest := by
  cases rest with
  | nil => rfl
  | cons d rest => simp [replacePair, h]

end Text

namespace Pointer

theorem slash_not_mem_escape (key : List Char) : '/' ∉ escape key := by
  intro h
  obtain ⟨c, -, hc⟩ := List.mem_flatMap.mp h
  unfold escapeChar at hc
  split at hc
  · simp at hc
  · split at hc
    · simp at hc
    · rename_i hslash
      simp [← List.mem_singleton.mp hc] at hslash

/-- The characters of a key with the tildes still written as `~0`. -/
def tildesEscaped (key : List Char) : List Char :=
  key.flatMap fun c => if c == '~' then ['~', '0'] else [c]

theorem replacePair_escape (key : List Char) :
    Text.replacePair '~' '1' ['/'] (escape key) = tildesEscaped key := by
  induction key with
  | nil => rfl
  | cons c rest ih =>
    rw [escape, List.flatMap_cons, tildesEscaped, List.flatMap_cons, ← escape, ← tildesEscaped, ← ih]
    by_cases htilde : c = '~'
    · subst htilde
      simp [escapeChar, Text.replacePair, Text.replacePair_cons_of_ne]
    · by_cases hslash : c = '/'
      · subst hslash
        simp [escapeChar, Text.replacePair]
      · simp [escapeChar, htilde, hslash, Text.replacePair_cons_of_ne]

theorem replacePair_tildesEscaped (key : List Char) :
    Text.replacePair '~' '0' ['~'] (tildesEscaped key) = key := by
  induction key with
  | nil => rfl
  | cons c rest ih =>
    rw [tildesEscaped, List.flatMap_cons, ← tildesEscaped]
    by_cases htilde : c = '~'
    · subst htilde
      simp [Text.replacePair, ih]
    · simp [htilde, Text.replacePair_cons_of_ne, ih]

theorem unescape_escape (key : List Char) : unescape (escape key) = key := by
  rw [unescape, replacePair_escape, replacePair_tildesEscaped]

theorem lastKey_append_escape (way key : String) :
    lastKey (way ++ "/" ++ String.ofList (escape key.toList)) = key := by
  have htext : (way ++ "/" ++ String.ofList (escape key.toList)).toList =
      way.toList ++ '/' :: escape key.toList := by simp
  have hsegments : Text.fields '/' (way.toList ++ '/' :: escape key.toList) =
      Text.fields '/' way.toList ++ [escape key.toList] := by
    rw [Text.fields_append, Text.fields_eq_singleton (slash_not_mem_escape _)]
  simp only [lastKey, lastSegment, htext, hsegments, List.getLast_append, List.isEmpty_cons,
    Bool.false_eq_true, dite_false, List.getLast_singleton, unescape_escape, String.ofList_toList]

end Pointer

/-- The reference to a schema of a section gives its type name. -/
theorem Name.ofReference_referenceTo (area name : String) :
    ofReference (Document.referenceTo area name) = pascal name := by
  rw [ofReference, Document.referenceTo, Pointer.lastKey_append_escape]

end SchemaTypings
