import Mathlib.Tactic.SplitIfs
import SchemaTypings.Json.Quoted

/-!
# Characters between quotes

How a character is written in a quoted text: nothing of it ends the text, and it ends in a backslash only if it
is a backslash itself, which is written as two. So a quoted text ends where it is closed, and is that of one text
only (`Quoted.quoted_append_inj`).
-/

namespace SchemaTypings.Quoted

theorem toList_quoted (text : String) :
    (quoted text).toList = mark :: (text.toList.flatMap escape ++ [mark]) := by
  rw [quoted, String.toList_ofList, encode, List.cons_append]

theorem digitChar_ne {n : Nat} (h : n < 16) : n.digitChar ≠ mark ∧ n.digitChar ≠ '\\' := by
  revert n
  decide

/-- A character stands for itself, or is escaped by a backslash, a character and plain ones. The escape ends
in a backslash if it is that of the backslash. -/
theorem escape_cases (c : Char) : (escape c = [c] ∧ c ≠ mark ∧ c ≠ '\\') ∨
    ∃ second others, escape c = '\\' :: second :: others ∧ (∀ d ∈ others, d ≠ mark ∧ d ≠ '\\') ∧
      (others.getLastD second == '\\') = (c == '\\') := by
  unfold escape
  by_cases hmark : c = mark
  · exact .inr ⟨mark, [], by simp [hmark], by simp, by rw [hmark]; rfl⟩
  by_cases hescape : c = '\\'
  · exact .inr ⟨'\\', [], by simp [hescape, mark], by simp, by rw [hescape]; rfl⟩
  have hc : (c == '\\') = false := beq_eq_false_iff_ne.mpr hescape
  rw [if_neg (by simpa using hmark), if_neg (by simpa using hescape), hc]
  split_ifs with hb ht hn hf hr hcontrol
  · exact .inr ⟨'b', [], rfl, by simp, rfl⟩
  · exact .inr ⟨'t', [], rfl, by simp, rfl⟩
  · exact .inr ⟨'n', [], rfl, by simp, rfl⟩
  · exact .inr ⟨'f', [], rfl, by simp, rfl⟩
  · exact .inr ⟨'r', [], rfl, by simp, rfl⟩
  · have hhigh := digitChar_ne (n := c.toNat / 16) (by omega)
    have hlow := digitChar_ne (n := c.toNat % 16) (by omega)
    refine .inr ⟨'u', ['0', '0', (c.toNat / 16).digitChar, (c.toNat % 16).digitChar], rfl, ?_, ?_⟩
    · simp only [List.forall_mem_cons]
      exact ⟨by decide, by decide, hhigh, hlow, by simp⟩
    · exact beq_eq_false_iff_ne.mpr hlow.2
  · exact .inl ⟨rfl, hmark, hescape⟩

/-! ## One reading -/

/-- The character that a short escape stands for. -/
def named (letter : Char) : Char :=
  if letter == 'b' then '\x08'
  else if letter == 't' then '\t'
  else if letter == 'n' then '\n'
  else if letter == 'f' then '\x0c'
  else if letter == 'r' then '\x0d'
  else letter

/-- A character stands for itself, has a short escape, or is a control character with its code. -/
theorem escape_forms (c : Char) : (escape c = [c] ∧ c ≠ mark ∧ c ≠ '\\') ∨
    (∃ letter, escape c = ['\\', letter] ∧ letter ≠ 'u' ∧ named letter = c) ∨
    (escape c = hexEscape c ∧ c.toNat < 32) := by
  unfold escape
  by_cases hmark : c = mark
  · exact .inr (.inl ⟨mark, by simp [hmark], by decide, by rw [hmark]; rfl⟩)
  by_cases hescape : c = '\\'
  · exact .inr (.inl ⟨'\\', by simp [hescape, mark], by decide, by rw [hescape]; rfl⟩)
  rw [if_neg (by simpa using hmark), if_neg (by simpa using hescape)]
  split_ifs with hb ht hn hf hr hcontrol
  · exact .inr (.inl ⟨'b', rfl, by decide, (beq_iff_eq.mp hb).symm⟩)
  · exact .inr (.inl ⟨'t', rfl, by decide, (beq_iff_eq.mp ht).symm⟩)
  · exact .inr (.inl ⟨'n', rfl, by decide, (beq_iff_eq.mp hn).symm⟩)
  · exact .inr (.inl ⟨'f', rfl, by decide, (beq_iff_eq.mp hf).symm⟩)
  · exact .inr (.inl ⟨'r', rfl, by decide, (beq_iff_eq.mp hr).symm⟩)
  · exact .inr (.inr ⟨rfl, hcontrol⟩)
  · exact .inl ⟨rfl, hmark, hescape⟩

theorem digitChar_inj {n m : Nat} (hn : n < 16) (hm : m < 16) (h : n.digitChar = m.digitChar) : n = m := by
  have hall : ∀ n < 16, ∀ m < 16, n.digitChar = m.digitChar → n = m := by decide
  exact hall n hn m hm h

/-- The code of a control character tells it from the others. -/
theorem hexEscape_append_inj {c d : Char} {rest after : List Char} (hc : c.toNat < 32) (hd : d.toNat < 32)
    (h : hexEscape c ++ rest = hexEscape d ++ after) : c = d ∧ rest = after := by
  simp only [hexEscape, List.cons_append, List.nil_append, List.cons.injEq, true_and] at h
  obtain ⟨hhigh, hlow, hrest⟩ := h
  have hquotient := digitChar_inj (by omega) (by omega) hhigh
  have hremainder := digitChar_inj (by omega) (by omega) hlow
  exact ⟨Char.toNat_inj.mp (by omega), hrest⟩

theorem escape_append_inj {c d : Char} {rest after : List Char} (h : escape c ++ rest = escape d ++ after) :
    c = d ∧ rest = after := by
  rcases escape_forms c with ⟨hc, -, hc'⟩ | ⟨letter, hc, hletter, hnamed⟩ | ⟨hc, hcontrol⟩ <;>
    rcases escape_forms d with ⟨hd, -, hd'⟩ | ⟨letter', hd, hletter', hnamed'⟩ | ⟨hd, hcontrol'⟩ <;>
      rw [hc, hd] at h
  · exact List.cons.inj h
  · exact absurd (List.cons.inj h).1 hc'
  · exact absurd (List.cons.inj h).1 hc'
  · exact absurd (List.cons.inj h).1.symm hd'
  · obtain ⟨rfl, hrest⟩ := List.cons.inj (List.cons.inj h).2
    exact ⟨hnamed.symm.trans hnamed', hrest⟩
  · exact absurd (List.cons.inj (List.cons.inj h).2).1 hletter
  · exact absurd (List.cons.inj h).1.symm hd'
  · exact absurd (List.cons.inj (List.cons.inj h).2).1.symm hletter'
  · exact hexEscape_append_inj hcontrol hcontrol' h

/-- What begins a character between quotes does not end the text. -/
theorem escape_append_ne (c : Char) (rest after : List Char) : escape c ++ rest ≠ mark :: after := by
  rcases escape_cases c with ⟨hc, hmark, -⟩ | ⟨second, others, hc, -⟩ <;> rw [hc]
  · exact fun h => hmark (List.cons.inj h).1
  · exact fun h => absurd (List.cons.inj h).1 (by decide)

theorem flatMap_escape_append_inj {cs ds rest after : List Char}
    (h : cs.flatMap escape ++ mark :: rest = ds.flatMap escape ++ mark :: after) : cs = ds ∧ rest = after := by
  induction cs generalizing ds with
  | nil =>
    cases ds with
    | nil => exact ⟨rfl, (List.cons.inj h).2⟩
    | cons d ds =>
      rw [List.flatMap_cons, List.append_assoc] at h
      exact absurd h.symm (escape_append_ne d _ _)
  | cons c cs ih =>
    rw [List.flatMap_cons, List.append_assoc] at h
    cases ds with
    | nil => exact absurd h (escape_append_ne c _ _)
    | cons d ds =>
      rw [List.flatMap_cons, List.append_assoc] at h
      obtain ⟨rfl, hrest⟩ := escape_append_inj h
      obtain ⟨rfl, hafter⟩ := ih hrest
      exact ⟨rfl, hafter⟩

/-- A text that begins with a quoted one does so in one way. -/
theorem quoted_append_inj {text other : String} {rest after : List Char}
    (h : (quoted text).toList ++ rest = (quoted other).toList ++ after) : text = other ∧ rest = after := by
  rw [toList_quoted, toList_quoted] at h
  simp only [List.cons_append, List.append_assoc, List.nil_append, List.cons.injEq, true_and] at h
  obtain ⟨htext, hrest⟩ := flatMap_escape_append_inj h
  exact ⟨String.toList_inj.mp htext, hrest⟩

end SchemaTypings.Quoted
