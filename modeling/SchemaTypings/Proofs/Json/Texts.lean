import Mathlib.Data.List.Nodup
import SchemaTypings.Json.Writer
import SchemaTypings.Proofs.Json.Quoted
import SchemaTypings.Proofs.Json.Wellformed
import SchemaTypings.Proofs.Number.Spellings

/-!
# Values and their texts

The text of a value can be read in one way only (`Json.compact_injective`): the first character says what kind of
value it is, and where the value ends. So two well-formed values with one text are equal as data. Of two values
that are not equal, only a string can have the plain text of the other (`Json.plainText_eq_iff`).
-/

namespace SchemaTypings

open NumberSpelling

namespace Json

/-! ## Numbers -/

/-- The spelling of a whole number. -/
def wholeSpelling (n : Int) : NumberSpelling :=
  ⟨decide (n < 0), n.natAbs.repr.toList, none, none⟩

theorem digital_wholeSpelling (n : Int) : (wholeSpelling n).Digital :=
  ⟨repr_toList_ne_nil _, allDigits_repr _, nofun, nofun⟩

theorem chars_wholeSpelling (n : Int) : (wholeSpelling n).chars = n.repr.toList := by
  cases n with
  | ofNat n => simp [wholeSpelling, chars, fractionChars, exponentChars, behindMark, Int.repr]
  | negSucc n => simp [wholeSpelling, chars, fractionChars, exponentChars, behindMark, Int.repr, Int.negSucc_lt_zero]

theorem wholeSpelling_injective {n m : Int} (h : wholeSpelling n = wholeSpelling m) : n = m := by
  simp only [wholeSpelling, NumberSpelling.mk.injEq, decide_eq_decide, String.toList_inj, and_true] at h
  have habs : n.natAbs = m.natAbs := Nat.repr_injective h.2
  omega

/-- The characters that may follow a value. -/
def Stops (rest : List Char) : Prop :=
  ∀ c, rest.head? = some c → c = ',' ∨ c = ']' ∨ c = '\x7d'

theorem stops_nil : Stops [] := by
  intro c hc
  cases hc

theorem Stops.beginsWithout {rest : List Char} (h : Stops rest) : BeginsWithout goesOn rest := by
  intro c hc
  rcases h c hc with rfl | rfl | rfl <;> decide

theorem int_append_inj {n m : Int} {rest after : List Char} (hrest : Stops rest) (hafter : Stops after)
    (h : n.repr.toList ++ rest = m.repr.toList ++ after) : n = m ∧ rest = after := by
  rw [← chars_wholeSpelling, ← chars_wholeSpelling] at h
  obtain ⟨hspelling, htail⟩ := chars_append_inj (digital_wholeSpelling n) (digital_wholeSpelling m)
    hrest.beginsWithout hafter.beginsWithout h
  exact ⟨wholeSpelling_injective hspelling, htail⟩

theorem float_append_inj {x y : Binary64} {rest after : List Char} (hx : x.Canonical) (hy : y.Canonical)
    (hrest : Stops rest) (hafter : Stops after)
    (h : (DecimalLayout.jsonText.format x).toList ++ rest = (DecimalLayout.jsonText.format y).toList ++ after) :
    x = y ∧ rest = after := by
  obtain ⟨spelling, hdigital, -, hchars, -⟩ := DecimalLayout.jsonText.exists_spelling x
  obtain ⟨spelling', hdigital', -, hchars', -⟩ := DecimalLayout.jsonText.exists_spelling y
  rw [← hchars, ← hchars'] at h
  obtain ⟨rfl, htail⟩ := chars_append_inj hdigital hdigital' hrest.beginsWithout hafter.beginsWithout h
  have hformat := String.toList_inj.mp (hchars.symm.trans hchars')
  exact ⟨DecimalLayout.format_injective hx hy hformat, htail⟩

/-- A double is written with a point or an exponent, a whole number is not. -/
theorem int_append_ne_float {n : Int} {x : Binary64} {rest after : List Char} (hrest : Stops rest)
    (hafter : Stops after) :
    n.repr.toList ++ rest ≠ (DecimalLayout.jsonText.format x).toList ++ after := by
  intro h
  obtain ⟨spelling, hdigital, -, hchars, -, hpoint⟩ := DecimalLayout.jsonText.exists_spelling x
  rw [← chars_wholeSpelling, ← hchars] at h
  obtain ⟨rfl, -⟩ := chars_append_inj (digital_wholeSpelling n) hdigital hrest.beginsWithout
    hafter.beginsWithout h
  rcases hpoint rfl with hsome | hsome <;> cases hsome

/-! ## How values begin -/

/-- The kinds of values that are told by their first character. -/
def kind : Json → Nat
  | .null => 0
  | .bool true => 1
  | .bool false => 2
  | .int _ | .float _ => 3
  | .str _ => 4
  | .arr _ => 5
  | .obj _ => 6

/-- The kind of a value that begins with the character. -/
def leadKind (c : Char) : Nat :=
  if c == 'n' then 0
  else if c == 't' then 1
  else if c == 'f' then 2
  else if c == Quoted.mark then 4
  else if c == '[' then 5
  else if c == '\x7b' then 6
  else 3

/-- The text begins with the character, which is that of the kind and does not follow values. -/
structure LeadsWith (text : List Char) (c : Char) (kind : Nat) : Prop where
  head : text.head? = some c
  kind : leadKind c = kind
  unstopped : c ≠ ',' ∧ c ≠ ']' ∧ c ≠ '\x7d'

theorem leadsWith_digit {c : Char} (h : c.isDigit = true) (rest : List Char) : LeadsWith (c :: rest) c 3 := by
  have hne : ∀ d : Char, d.isDigit = false → c ≠ d := by
    rintro d hd rfl
    rw [h] at hd
    cases hd
  refine ⟨rfl, ?_, hne _ rfl, hne _ rfl, hne _ rfl⟩
  simp only [leadKind, beq_iff_eq, hne _ (show 'n'.isDigit = false from rfl),
    hne _ (show 't'.isDigit = false from rfl), hne _ (show 'f'.isDigit = false from rfl),
    hne _ (show Quoted.mark.isDigit = false from rfl), hne _ (show '['.isDigit = false from rfl),
    hne _ (show '\x7b'.isDigit = false from rfl), if_false]

theorem exists_leadsWith_number {spelling : NumberSpelling} (h : spelling.Digital) :
    ∃ c, LeadsWith spelling.chars c 3 := by
  cases hwhole : spelling.whole with
  | nil => exact absurd hwhole h.nonempty
  | cons digit others =>
    have hdigit := h.whole digit (by simp [hwhole])
    rw [chars, hwhole]
    cases spelling.negative with
    | true => exact ⟨'-', rfl, by decide, by decide⟩
    | false => exact ⟨digit, leadsWith_digit hdigit _⟩

theorem exists_leadsWith (value : Json) : ∃ c, LeadsWith value.compact.toList c value.kind := by
  cases value with
  | null =>
    rw [compact]
    exact ⟨'n', rfl, by decide, by decide⟩
  | bool value =>
    rw [compact]
    cases value with
    | true => exact ⟨'t', rfl, by decide, by decide⟩
    | false => exact ⟨'f', rfl, by decide, by decide⟩
  | int n =>
    rw [compact, ← chars_wholeSpelling]
    exact exists_leadsWith_number (digital_wholeSpelling n)
  | float x =>
    obtain ⟨spelling, hdigital, -, hchars, -⟩ := DecimalLayout.jsonText.exists_spelling x
    rw [compact, ← hchars]
    exact exists_leadsWith_number hdigital
  | str s =>
    rw [compact, Quoted.toList_quoted]
    exact ⟨Quoted.mark, rfl, rfl, by decide⟩
  | arr items =>
    rw [compact, String.append_assoc, String.toList_append]
    exact ⟨'[', rfl, rfl, by decide⟩
  | obj members =>
    rw [compact, String.append_assoc, String.toList_append]
    exact ⟨'\x7b', rfl, rfl, by decide⟩

theorem LeadsWith.head?_append {text : List Char} {c : Char} {kind : Nat} (h : LeadsWith text c kind)
    (rest : List Char) : (text ++ rest).head? = some c := by
  cases text with
  | nil => cases h.head
  | cons first others => exact h.head

/-- Texts that begin with values of two kinds differ. -/
theorem kind_eq_of_append {value other : Json} {rest after : List Char}
    (h : value.compact.toList ++ rest = other.compact.toList ++ after) : value.kind = other.kind := by
  obtain ⟨c, hc⟩ := exists_leadsWith value
  obtain ⟨d, hd⟩ := exists_leadsWith other
  have hhead := hc.head?_append rest
  rw [h, hd.head?_append] at hhead
  rw [← hc.kind, ← hd.kind, Option.some.inj hhead]

/-- A value is not taken for what follows one. -/
theorem compact_append_ne {value : Json} {rest after : List Char} (hafter : Stops after) (hne : after ≠ []) :
    value.compact.toList ++ rest ≠ after := by
  rintro rfl
  obtain ⟨c, hc⟩ := exists_leadsWith value
  obtain ⟨hcomma, hbracket, hbrace⟩ := hc.unstopped
  rcases hafter c (hc.head?_append rest) with h | h | h
  · exact hcomma h
  · exact hbracket h
  · exact hbrace h

/-! ## Lists and objects -/

section

variable {α : Type} {text : α → List Char} {items others : List α} {close : Char} {rest after : List Char}

/-- The text of one part ends where a comma or the end stands. -/
def PartsEnd (text : α → List Char) (items others : List α) : Prop :=
  ∀ item ∈ items, ∀ other ∈ others, ∀ rest after, Stops rest → Stops after →
    text item ++ rest = text other ++ after → item = other ∧ rest = after

theorem PartsEnd.tail {item other : α} (h : PartsEnd text (item :: items) (other :: others)) :
    PartsEnd text items others :=
  fun first hfirst second hsecond =>
    h first (List.mem_cons_of_mem _ hfirst) second (List.mem_cons_of_mem _ hsecond)

theorem behindCommas_append_inj (hclose : close = ']' ∨ close = '\x7d') (hparts : PartsEnd text items others)
    (h : (items.flatMap fun item => ',' :: text item) ++ close :: rest =
      (others.flatMap fun item => ',' :: text item) ++ close :: after) : items = others ∧ rest = after := by
  have hcomma : close ≠ ',' := by
    rintro rfl
    simp at hclose
  have hstops : ∀ (parts : List α) (tail : List Char),
      Stops ((parts.flatMap fun item => ',' :: text item) ++ close :: tail) := by
    intro parts tail c hc
    cases parts with
    | nil =>
      obtain rfl : close = c := Option.some.inj hc
      exact Or.inr hclose
    | cons part parts => exact Or.inl (Option.some.inj hc).symm
  induction items generalizing others with
  | nil =>
    cases others with
    | nil => exact ⟨rfl, (List.cons.inj h).2⟩
    | cons other others => exact absurd (List.cons.inj h).1 hcomma
  | cons item items ih =>
    cases others with
    | nil => exact absurd (List.cons.inj h).1.symm hcomma
    | cons other others =>
      simp only [List.flatMap_cons, List.cons_append, List.append_assoc, List.cons.injEq, true_and] at h
      obtain ⟨rfl, htail⟩ :=
        hparts item (by simp) other (by simp) _ _ (hstops items rest) (hstops others after) h
      obtain ⟨rfl, hend⟩ := ih hparts.tail htail
      exact ⟨rfl, hend⟩

theorem intercalate_cons_eq (item : α) (items : List α) :
    [','].intercalate ((item :: items).map text) = text item ++ items.flatMap fun item => ',' :: text item := by
  induction items generalizing item with
  | nil => simp
  | cons next items ih =>
    rw [List.map_cons, List.map_cons, List.intercalate_cons_cons, ← List.map_cons, ih]
    simp

/-- Parts with commas between them are told apart up to the end. -/
theorem intercalate_append_inj (hclose : close = ']' ∨ close = '\x7d') (hparts : PartsEnd text items others)
    (hbegin : ∀ item rest after, text item ++ rest ≠ close :: after)
    (h : [','].intercalate (items.map text) ++ close :: rest =
      [','].intercalate (others.map text) ++ close :: after) : items = others ∧ rest = after := by
  cases items with
  | nil =>
    cases others with
    | nil => exact ⟨rfl, (List.cons.inj h).2⟩
    | cons other others =>
      rw [intercalate_cons_eq, List.append_assoc] at h
      exact absurd h.symm (hbegin other _ _)
  | cons item items =>
    cases others with
    | nil =>
      rw [intercalate_cons_eq, List.append_assoc] at h
      exact absurd h (hbegin item _ _)
    | cons other others =>
      have hbehind : ((item :: items).flatMap fun item => ',' :: text item) ++ close :: rest =
          ((other :: others).flatMap fun item => ',' :: text item) ++ close :: after := by
        rw [intercalate_cons_eq, intercalate_cons_eq] at h
        simpa using h
      exact behindCommas_append_inj hclose hparts hbehind

end

/-- The text of a member of an object. -/
def memberChars (member : String × Json) : List Char :=
  (quoted member.1).toList ++ ':' :: member.2.compact.toList

theorem compactItems_eq (items : List Json) : (compactItems items).map String.toList =
    items.map fun item => item.compact.toList := by
  induction items with
  | nil => rfl
  | cons item rest ih => rw [compactItems, List.map_cons, ih, List.map_cons]

theorem compactMembers_eq (members : List (String × Json)) :
    (compactMembers members).map String.toList = members.map memberChars := by
  induction members with
  | nil => rfl
  | cons member rest ih =>
    obtain ⟨key, value⟩ := member
    rw [compactMembers, List.map_cons, ih, List.map_cons, String.toList_append, String.toList_append,
      List.append_assoc]
    rfl

theorem toList_compact_arr (items : List Json) : (arr items).compact.toList =
    '[' :: ([','].intercalate (items.map fun item => item.compact.toList) ++ [']']) := by
  rw [compact, String.toList_append, String.toList_append, String.toList_intercalate, compactItems_eq]
  rfl

theorem toList_compact_obj (members : List (String × Json)) : (obj members).compact.toList =
    '\x7b' :: ([','].intercalate (members.map memberChars) ++ ['\x7d']) := by
  rw [compact, String.toList_append, String.toList_append, String.toList_intercalate, compactMembers_eq]
  rfl

/-! ## One reading -/

/-- A text begins with the text of the value in one way, if nothing follows that goes on with it. -/
def OneReading (value : Json) : Prop :=
  ∀ {other : Json} {rest after : List Char}, other.Wellformed → Stops rest → Stops after →
    value.compact.toList ++ rest = other.compact.toList ++ after → value = other ∧ rest = after

theorem arr_append_inj {items others : List Json} {rest after : List Char}
    (hitems : ∀ item ∈ items, item.OneReading) (hothers : ∀ other ∈ others, other.Wellformed)
    (h : (arr items).compact.toList ++ rest = (arr others).compact.toList ++ after) :
    items = others ∧ rest = after := by
  rw [toList_compact_arr, toList_compact_arr] at h
  simp only [List.cons_append, List.append_assoc, List.nil_append, List.cons.injEq, true_and] at h
  have hparts : PartsEnd (fun item => item.compact.toList) items others :=
    fun item hitem other hother _ _ => hitems item hitem (hothers other hother)
  have hbegin : ∀ (item : Json) (rest after : List Char), item.compact.toList ++ rest ≠ ']' :: after :=
    fun item rest after =>
      compact_append_ne (fun c hc => Or.inr (Or.inl (Option.some.inj hc).symm)) (by simp)
  exact intercalate_append_inj (Or.inl rfl) hparts hbegin h

theorem obj_append_inj {members others : List (String × Json)} {rest after : List Char}
    (hmembers : ∀ member ∈ members, member.2.OneReading) (hothers : ∀ other ∈ others, other.2.Wellformed)
    (h : (obj members).compact.toList ++ rest = (obj others).compact.toList ++ after) :
    members = others ∧ rest = after := by
  rw [toList_compact_obj, toList_compact_obj] at h
  simp only [List.cons_append, List.append_assoc, List.nil_append, List.cons.injEq, true_and] at h
  have hparts : PartsEnd memberChars members others := by
    rintro ⟨key, value⟩ hmember ⟨key', value'⟩ hother rest after hrest hafter heq
    simp only [memberChars, List.append_assoc, List.cons_append] at heq
    obtain ⟨rfl, hvalue⟩ := Quoted.quoted_append_inj heq
    obtain ⟨rfl, htail⟩ := hmembers _ hmember (hothers _ hother) hrest hafter (List.cons.inj hvalue).2
    exact ⟨rfl, htail⟩
  have hbegin : ∀ (member : String × Json) (rest after : List Char),
      memberChars member ++ rest ≠ '\x7d' :: after := by
    intro member rest after heq
    rw [memberChars, Quoted.toList_quoted] at heq
    exact absurd (List.cons.inj heq).1 (by decide)
  exact intercalate_append_inj (Or.inr rfl) hparts hbegin h

theorem Wellformed.oneReading {value : Json} (h : value.Wellformed) : value.OneReading := by
  intro other rest after hother hrest hafter htext
  induction h generalizing other rest after with
  | null =>
    cases other with
    | null => exact ⟨rfl, List.append_cancel_left htext⟩
    | bool b => cases b <;> cases kind_eq_of_append htext
    | _ => cases kind_eq_of_append htext
  | bool b =>
    cases other with
    | bool b' =>
      obtain rfl : b = b' := by
        have hkind := kind_eq_of_append htext
        cases b <;> cases b' <;> first | rfl | cases hkind
      exact ⟨rfl, List.append_cancel_left htext⟩
    | _ => cases b <;> cases kind_eq_of_append htext
  | int n =>
    cases hother with
    | int m =>
      rw [compact, compact] at htext
      obtain ⟨rfl, htail⟩ := int_append_inj hrest hafter htext
      exact ⟨rfl, htail⟩
    | float hy =>
      rw [compact, compact] at htext
      exact absurd htext (int_append_ne_float hrest hafter)
    | bool b => cases b <;> cases kind_eq_of_append htext
    | _ => cases kind_eq_of_append htext
  | float hx =>
    cases hother with
    | int m =>
      rw [compact, compact] at htext
      exact absurd htext.symm (int_append_ne_float hafter hrest)
    | float hy =>
      rw [compact, compact] at htext
      obtain ⟨rfl, htail⟩ := float_append_inj hx hy hrest hafter htext
      exact ⟨rfl, htail⟩
    | bool b => cases b <;> cases kind_eq_of_append htext
    | _ => cases kind_eq_of_append htext
  | str s =>
    cases other with
    | str s' =>
      rw [compact, compact] at htext
      obtain ⟨rfl, htail⟩ := Quoted.quoted_append_inj htext
      exact ⟨rfl, htail⟩
    | bool b => cases b <;> cases kind_eq_of_append htext
    | _ => cases kind_eq_of_append htext
  | arr _ ih =>
    cases hother with
    | arr hothers =>
      obtain ⟨rfl, htail⟩ := arr_append_inj (fun item hitem => ih item hitem) hothers htext
      exact ⟨rfl, htail⟩
    | bool b => cases b <;> cases kind_eq_of_append htext
    | _ => cases kind_eq_of_append htext
  | obj _ _ ih =>
    cases hother with
    | obj _ hothers =>
      obtain ⟨rfl, htail⟩ := obj_append_inj (fun member hmember => ih member hmember) hothers htext
      exact ⟨rfl, htail⟩
    | bool b => cases b <;> cases kind_eq_of_append htext
    | _ => cases kind_eq_of_append htext

/-- Well-formed values that are written the same are the same. -/
theorem compact_injective {value other : Json} (hvalue : value.Wellformed) (hother : other.Wellformed)
    (h : value.compact = other.compact) : value = other := by
  have htext : value.compact.toList ++ [] = other.compact.toList ++ [] := by rw [h]
  exact (hvalue.oneReading hother stops_nil stops_nil htext).1

/-! ## Plain texts -/

/-- The plain text of a value that is no string is its compact one. -/
theorem plainText_of_not_isString {value : Json} (h : value.isString = false) :
    value.plainText = value.compact := by
  cases value with
  | str s => cases h
  | _ => rfl

/-- One of the values is a string that spells the other one, which is none. -/
def SpelledBy (value other : Json) : Prop :=
  other.isString = false ∧ value = .str other.compact

/-- Two values that are not equal have one plain text only if one of them is a string that spells the other. -/
theorem plainText_eq_iff {value other : Json} (hvalue : value.Wellformed) (hother : other.Wellformed)
    (hunequal : value.equals other = false) :
    value.plainText = other.plainText ↔ SpelledBy value other ∨ SpelledBy other value := by
  have hne : value ≠ other := by
    rintro rfl
    rw [hvalue.equals_self] at hunequal
    cases hunequal
  constructor
  · intro h
    cases hstring : value.isString with
    | true =>
      cases hstring' : other.isString with
      | true =>
        cases value <;> cases hstring
        cases other <;> cases hstring'
        exact absurd (congrArg str h) hne
      | false =>
        rw [plainText_of_not_isString hstring'] at h
        cases value <;> cases hstring
        exact Or.inl ⟨hstring', congrArg str h⟩
    | false =>
      rw [plainText_of_not_isString hstring] at h
      cases hstring' : other.isString with
      | true =>
        cases other <;> cases hstring'
        exact Or.inr ⟨hstring, congrArg str h.symm⟩
      | false =>
        rw [plainText_of_not_isString hstring'] at h
        exact absurd (compact_injective hvalue hother h) hne
  · rintro (⟨hstring, rfl⟩ | ⟨hstring, rfl⟩)
    · rw [plainText_of_not_isString hstring]
      rfl
    · rw [plainText_of_not_isString hstring]
      rfl

end Json

end SchemaTypings
