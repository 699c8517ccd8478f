import Mathlib.Data.List.TakeWhile
import Std.Data.String.ToNat
import SchemaTypings.Number.Spelling
import SchemaTypings.Proofs.Number.Shortest

/-!
# Numbers and their texts

A number that is written can be read in one way only: its parts are those between the marks, and what follows
it is what no number goes on with (`NumberSpelling.chars_append_inj`). The text of a double is made of the
digits of its shortest decimal, with a point or an exponent (`DecimalLayout.exists_spelling`), and so tells
doubles apart (`DecimalLayout.format_injective`).
-/

namespace SchemaTypings

/-! ## Digits -/

def AllDigits (cs : List Char) : Prop :=
  ∀ c ∈ cs, c.isDigit = true

/-- The text does not begin with any of these characters. -/
def BeginsWithout (p : Char → Bool) (cs : List Char) : Prop :=
  ∀ c, cs.head? = some c → p c = false

theorem beginsWithout_nil {p : Char → Bool} : BeginsWithout p [] :=
  nofun

theorem beginsWithout_cons {p : Char → Bool} {c : Char} {rest : List Char} (h : p c = false) :
    BeginsWithout p (c :: rest) := by
  rintro _ ⟨⟩
  exact h

theorem BeginsWithout.mono {p q : Char → Bool} {cs : List Char} (h : BeginsWithout p cs)
    (himp : ∀ c, p c = false → q c = false) : BeginsWithout q cs :=
  fun c hc => himp c (h c hc)

theorem allDigits_repr (n : Nat) : AllDigits n.repr.toList := by
  intro c hc
  rw [Nat.toList_repr] at hc
  exact Nat.isDigit_of_mem_toDigits (by decide) (by decide) hc

theorem repr_toList_ne_nil (n : Nat) : n.repr.toList ≠ [] :=
  fun h => Nat.repr_ne_empty (String.toList_eq_nil_iff.mp h)

/-- Digits end where something else begins. -/
theorem digits_append_inj {digits others rest after : List Char} (hdigits : AllDigits digits)
    (hothers : AllDigits others) (hrest : BeginsWithout Char.isDigit rest)
    (hafter : BeginsWithout Char.isDigit after) (h : digits ++ rest = others ++ after) :
    digits = others ∧ rest = after := by
  have htake : ∀ {ds tail : List Char}, AllDigits ds → BeginsWithout Char.isDigit tail →
      (ds ++ tail).takeWhile Char.isDigit = ds := by
    intro ds tail hds htail
    have hnone : tail.takeWhile Char.isDigit = [] := by
      cases tail with
      | nil => rfl
      | cons c tail => rw [List.takeWhile_cons_of_neg (by simp [htail c rfl])]
    rw [List.takeWhile_append_of_pos hds, hnone, List.append_nil]
  have hsame : digits = others := by
    rw [← htake hdigits hrest, h, htake hothers hafter]
  subst hsame
  exact ⟨rfl, List.append_cancel_left h⟩

namespace NumberSpelling

theorem natOfDigits_eq (digits : List Char) : natOfDigits digits = Nat.ofDigitChars 10 digits 0 := by
  simp only [natOfDigits, Nat.ofDigitChars, mul_comm]

@[simp]
theorem natOfDigits_repr (n : Nat) : natOfDigits n.repr.toList = n := by
  rw [natOfDigits_eq, Nat.toList_repr, Nat.ofDigitChars_ten_toDigits]

/-! ## Texts of numbers -/

/-- A part that may be missing, as it is written behind its mark. -/
def behindMark {α : Type} (mark : Char) (write : α → List Char) : Option α → List Char
  | none => []
  | some part => mark :: write part

/-- The exponent, as it is written. -/
def exponentChars : Option (Bool × List Char) → List Char :=
  behindMark 'e' fun (negative, digits) => (if negative then '-' else '+') :: digits

/-- The digits after the point, as they are written. -/
def fractionChars : Option (List Char) → List Char :=
  behindMark '.' id

/-- The text of a number. -/
def chars (spelling : NumberSpelling) : List Char :=
  (if spelling.negative then ['-'] else []) ++ (spelling.whole ++
    (fractionChars spelling.fraction ++ exponentChars spelling.exponent))

/-- The parts are made of digits, and there is one before the point. -/
structure Digital (spelling : NumberSpelling) : Prop where
  nonempty : spelling.whole ≠ []
  whole : AllDigits spelling.whole
  fraction : ∀ digits, spelling.fraction = some digits → AllDigits digits
  exponent : ∀ negative digits, spelling.exponent = some (negative, digits) → AllDigits digits

/-- The characters that a number may go on with. -/
def goesOn (c : Char) : Bool :=
  c.isDigit || c == '.' || c == 'e'

variable {spelling other : NumberSpelling} {rest after : List Char}

theorem beginsWithout_exponentChars (exponent : Option (Bool × List Char))
    (hrest : BeginsWithout goesOn rest) :
    BeginsWithout (fun c => c.isDigit || c == '.') (exponentChars exponent ++ rest) := by
  cases exponent with
  | none => exact hrest.mono fun c hc => by simp_all [goesOn]
  | some exponent => exact beginsWithout_cons (by decide)

theorem beginsWithout_fractionChars (fraction : Option (List Char)) (exponent : Option (Bool × List Char))
    (hrest : BeginsWithout goesOn rest) :
    BeginsWithout Char.isDigit (fractionChars fraction ++ (exponentChars exponent ++ rest)) := by
  cases fraction with
  | none => exact (beginsWithout_exponentChars exponent hrest).mono fun c hc => by simp_all
  | some fraction => exact beginsWithout_cons (by decide)

/-- Whether a part is there is told by the mark, if what follows does not begin with it. -/
theorem behindMark_append_inj {α : Type} {mark : Char} {write : α → List Char} {first second : Option α}
    (hparts : ∀ part part', first = some part → second = some part' →
      write part ++ rest = write part' ++ after → part = part' ∧ rest = after)
    (hrest : BeginsWithout (· == mark) rest) (hafter : BeginsWithout (· == mark) after)
    (h : behindMark mark write first ++ rest = behindMark mark write second ++ after) :
    first = second ∧ rest = after := by
  have hnot : ∀ {tail more : List Char}, BeginsWithout (· == mark) tail → tail ≠ mark :: more := by
    rintro _ more htail rfl
    exact absurd (htail mark rfl) (by simp)
  cases first with
  | none =>
    cases second with
    | none => exact ⟨rfl, h⟩
    | some part => exact absurd h (hnot hrest)
  | some part =>
    cases second with
    | none => exact absurd h.symm (hnot hafter)
    | some part' =>
      obtain ⟨rfl, htail⟩ := hparts part part' rfl rfl (List.cons.inj h).2
      exact ⟨rfl, htail⟩

theorem exponentChars_append_inj {first second : Option (Bool × List Char)}
    (hfirst : ∀ negative digits, first = some (negative, digits) → AllDigits digits)
    (hsecond : ∀ negative digits, second = some (negative, digits) → AllDigits digits)
    (hrest : BeginsWithout goesOn rest) (hafter : BeginsWithout goesOn after)
    (h : exponentChars first ++ rest = exponentChars second ++ after) : first = second ∧ rest = after := by
  refine behindMark_append_inj ?_ (hrest.mono fun c hc => by simp_all [goesOn])
    (hafter.mono fun c hc => by simp_all [goesOn]) h
  rintro ⟨negative, digits⟩ ⟨negative', digits'⟩ rfl rfl h
  obtain ⟨hsign, h⟩ := List.cons.inj h
  have hnegative : negative = negative' := by
    cases negative <;> cases negative' <;> simp at hsign ⊢
  obtain ⟨hdigits, htail⟩ := digits_append_inj (hfirst _ _ rfl) (hsecond _ _ rfl)
    (hrest.mono fun c hc => by simp_all [goesOn]) (hafter.mono fun c hc => by simp_all [goesOn]) h
  exact ⟨by rw [hnegative, hdigits], htail⟩

theorem fractionChars_append_inj {first second : Option (List Char)}
    (hfirst : ∀ digits, first = some digits → AllDigits digits)
    (hsecond : ∀ digits, second = some digits → AllDigits digits)
    (hrest : BeginsWithout (fun c => c.isDigit || c == '.') rest)
    (hafter : BeginsWithout (fun c => c.isDigit || c == '.') after)
    (h : fractionChars first ++ rest = fractionChars second ++ after) : first = second ∧ rest = after := by
  refine behindMark_append_inj ?_ (hrest.mono fun c hc => by simp_all)
    (hafter.mono fun c hc => by simp_all) h
  rintro digits digits' rfl rfl h
  exact digits_append_inj (hfirst _ rfl) (hsecond _ rfl) (hrest.mono fun c hc => by simp_all)
    (hafter.mono fun c hc => by simp_all) h

theorem signChars_append_inj {negative negative' : Bool} {digits digits' : List Char}
    (hdigits : BeginsWithout (· == '-') digits) (hothers : BeginsWithout (· == '-') digits')
    (h : (if negative then ['-'] else []) ++ digits = (if negative' then ['-'] else []) ++ digits') :
    negative = negative' ∧ digits = digits' := by
  cases negative <;> cases negative' <;> simp at h ⊢
  · exact h
  · subst h
    exact absurd (hdigits '-' rfl) (by decide)
  · subst h
    exact absurd (hothers '-' rfl) (by decide)
  · exact h

theorem Digital.beginsWithout_sign (h : spelling.Digital) (rest : List Char) :
    BeginsWithout (· == '-') (spelling.whole ++ rest) := by
  cases hwhole : spelling.whole with
  | nil => exact absurd hwhole h.nonempty
  | cons c others =>
    refine beginsWithout_cons (beq_eq_false_iff_ne.mpr ?_)
    rintro rfl
    exact absurd (h.whole '-' (by simp [hwhole])) (by decide)

/-- A text that begins with a number which does not go on does so in one way. -/
theorem chars_append_inj (hspelling : spelling.Digital) (hother : other.Digital)
    (hrest : BeginsWithout goesOn rest) (hafter : BeginsWithout goesOn after)
    (h : spelling.chars ++ rest = other.chars ++ after) : spelling = other ∧ rest = after := by
  simp only [chars, List.append_assoc] at h
  obtain ⟨hnegative, h⟩ :=
    signChars_append_inj (hspelling.beginsWithout_sign _) (hother.beginsWithout_sign _) h
  obtain ⟨hwhole, h⟩ := digits_append_inj hspelling.whole hother.whole
    (beginsWithout_fractionChars _ _ hrest) (beginsWithout_fractionChars _ _ hafter) h
  obtain ⟨hfraction, h⟩ := fractionChars_append_inj hspelling.fraction hother.fraction
    (beginsWithout_exponentChars _ hrest) (beginsWithout_exponentChars _ hafter) h
  obtain ⟨hexponent, h⟩ := exponentChars_append_inj hspelling.exponent hother.exponent hrest hafter h
  refine ⟨?_, h⟩
  cases spelling
  cases other
  simp_all

/-! ## Values -/

/-- The magnitude that the parts denote, exactly. -/
def magnitude (spelling : NumberSpelling) : ℚ :=
  natOfDigits (spelling.whole ++ spelling.fraction.getD []) *
    10 ^ (spelling.writtenExponent - (spelling.fraction.getD []).length)

theorem natOfDigits_append (digits others : List Char) :
    natOfDigits (digits ++ others) = natOfDigits digits * 10 ^ others.length + natOfDigits others := by
  have hfrom : ∀ start, others.foldl (fun n digit => n * 10 + (digit.toNat - '0'.toNat)) start =
      start * 10 ^ others.length + natOfDigits others := by
    unfold natOfDigits
    induction others with
    | nil => simp
    | cons digit rest ih =>
      intro start
      rw [List.foldl_cons, List.foldl_cons, ih, ih (0 * 10 + _), List.length_cons, pow_succ]
      ring
  rw [natOfDigits, List.foldl_append, hfrom]
  rfl

theorem natOfDigits_zeros (count : Nat) : natOfDigits (List.replicate count '0') = 0 := by
  induction count with
  | zero => rfl
  | succ count ih =>
    rw [List.replicate_succ, ← List.singleton_append, natOfDigits_append, ih]
    simp [natOfDigits]

theorem natOfDigits_zeros_append (count : Nat) (digits : List Char) :
    natOfDigits (List.replicate count '0' ++ digits) = natOfDigits digits := by
  rw [natOfDigits_append, natOfDigits_zeros]
  ring

theorem allDigits_zeros (count : Nat) : AllDigits (List.replicate count '0') := by
  intro c hc
  rw [(List.mem_replicate.mp hc).2]
  decide

end NumberSpelling

theorem AllDigits.append {digits others : List Char} (h : AllDigits digits) (hothers : AllDigits others) :
    AllDigits (digits ++ others) := by
  intro c hc
  rcases List.mem_append.mp hc with hc | hc
  · exact h c hc
  · exact hothers c hc

namespace DecimalLayout

open NumberSpelling

/-- The text is that of a number of this magnitude, without a sign. -/
structure Spells (text : List Char) (value : ℚ) (spelling : NumberSpelling) : Prop where
  digital : spelling.Digital
  unsigned : spelling.negative = false
  chars : spelling.chars = text
  magnitude : spelling.magnitude = value

variable {digits : List Char} {layout : DecimalLayout}

/-- Digits after the point and some zeros. -/
theorem spells_small (hdigits : AllDigits digits) (zeros : ℕ) :
    Spells ('0' :: '.' :: List.replicate zeros '0' ++ digits)
      (natOfDigits digits * 10 ^ (-(zeros : ℤ) - digits.length))
      ⟨false, ['0'], some (List.replicate zeros '0' ++ digits), none⟩ := by
  refine ⟨⟨by simp, allDigits_zeros 1, ?_, nofun⟩, rfl, ?_, ?_⟩
  · rintro _ ⟨⟩
    exact (allDigits_zeros zeros).append hdigits
  · simp [chars, fractionChars, exponentChars, behindMark]
  · have hwhole : natOfDigits (['0'] ++ (List.replicate zeros '0' ++ digits)) = natOfDigits digits := by
      rw [← List.append_assoc]
      exact natOfDigits_zeros_append (zeros + 1) digits
    rw [NumberSpelling.magnitude, Option.getD_some, hwhole, List.length_append, List.length_replicate]
    congr 2
    simp only [writtenExponent]
    push_cast
    ring

/-- Digits and some zeros before the point. -/
theorem spells_whole (hdigits : AllDigits digits) (hne : digits ≠ []) (zeros : ℕ) (point : Bool) :
    Spells (digits ++ List.replicate zeros '0' ++ (if point then ['.', '0'] else []))
      (natOfDigits digits * 10 ^ (zeros : ℤ))
      ⟨false, digits ++ List.replicate zeros '0', if point then some ['0'] else none, none⟩ := by
  refine ⟨⟨by simp [hne], hdigits.append (allDigits_zeros zeros), ?_, nofun⟩, rfl, ?_, ?_⟩
  · intro fraction hfraction
    cases point <;> cases hfraction
    exact allDigits_zeros 1
  · cases point <;> simp [chars, fractionChars, exponentChars, behindMark]
  · cases point with
    | false =>
      simp [NumberSpelling.magnitude, writtenExponent, natOfDigits_append, natOfDigits_zeros]
    | true =>
      have hzeros : natOfDigits (digits ++ List.replicate zeros '0' ++ ['0']) =
          natOfDigits digits * 10 ^ zeros * 10 := by
        rw [natOfDigits_append, natOfDigits_append, natOfDigits_zeros]
        simp [natOfDigits]
      rw [NumberSpelling.magnitude, if_pos rfl, Option.getD_some, hzeros]
      simp [writtenExponent]

/-- Digits on both sides of the point. -/
theorem spells_fraction {whole fraction : List Char} (hwhole : AllDigits whole) (hne : whole ≠ [])
    (hfraction : AllDigits fraction) :
    Spells (whole ++ '.' :: fraction) (natOfDigits (whole ++ fraction) * 10 ^ (-(fraction.length : ℤ)))
      ⟨false, whole, some fraction, none⟩ := by
  refine ⟨⟨hne, hwhole, ?_, nofun⟩, rfl, ?_, ?_⟩
  · rintro _ ⟨⟩
    exact hfraction
  · simp [chars, fractionChars, exponentChars, behindMark]
  · simp [NumberSpelling.magnitude, writtenExponent]

theorem exists_spells_positional (layout : DecimalLayout) (hdigits : AllDigits digits) (hne : digits ≠ [])
    (exponent : ℤ) : ∃ spelling : NumberSpelling, Spells (layout.positional digits exponent)
      (natOfDigits digits * 10 ^ (exponent + 1 - digits.length)) spelling ∧
      (layout.keepPoint = true → spelling.fraction.isSome = true) := by
  unfold positional
  split
  · obtain ⟨zeros, hzeros⟩ : ∃ zeros : ℕ, -exponent - 1 = zeros := ⟨(-exponent - 1).toNat, by omega⟩
    rw [hzeros, Int.toNat_natCast, show exponent + 1 - digits.length = -(zeros : ℤ) - digits.length by omega]
    exact ⟨_, spells_small hdigits zeros, fun _ => rfl⟩
  · obtain ⟨whole, hwhole⟩ : ∃ whole : ℕ, exponent + 1 = whole := ⟨(exponent + 1).toNat, by omega⟩
    simp only [show exponent.toNat + 1 = whole by omega, hwhole]
    by_cases hlength : digits.length ≤ whole
    · rw [List.drop_eq_nil_of_le hlength, List.take_of_length_le hlength, List.isEmpty_nil, if_pos rfl,
        show (whole : ℤ) - digits.length = (whole - digits.length : ℕ) by omega]
      exact ⟨_, spells_whole hdigits hne _ layout.keepPoint, fun h => by rw [h]; rfl⟩
    · have htail : (digits.drop whole).isEmpty = false := by
        rw [List.isEmpty_eq_false_iff, ne_eq, List.drop_eq_nil_iff]
        omega
      have htake : digits.take whole ≠ [] := by
        rw [ne_eq, List.take_eq_nil_iff]
        rintro (h | h)
        · omega
        · exact hne h
      have hlengthTail : (whole : ℤ) - digits.length = -((digits.drop whole).length : ℤ) := by
        rw [List.length_drop]
        omega
      have hwhole : AllDigits (digits.take whole) := fun c hc => hdigits c (List.mem_of_mem_take hc)
      have hfraction : AllDigits (digits.drop whole) := fun c hc => hdigits c (List.mem_of_mem_drop hc)
      have hspells := spells_fraction hwhole htake hfraction
      rw [List.take_append_drop] at hspells
      rw [htail, if_neg Bool.false_ne_true, show whole - digits.length = 0 by omega, List.replicate_zero,
        List.append_nil, hlengthTail]
      exact ⟨_, hspells, fun _ => rfl⟩

theorem allDigits_exponent (exponent : ℤ) : ∀ negative digits,
    some (decide (exponent < 0), exponent.natAbs.repr.toList) = some (negative, digits) → AllDigits digits := by
  rintro _ _ ⟨⟩
  exact allDigits_repr _

theorem writtenExponent_eq (negative : Bool) (whole : List Char) (fraction : Option (List Char)) (exponent : ℤ) :
    writtenExponent ⟨negative, whole, fraction, some (decide (exponent < 0), exponent.natAbs.repr.toList)⟩ =
      exponent := by
  simp only [writtenExponent, natOfDigits_repr, decide_eq_true_eq]
  split <;> omega

theorem exists_spells_scientific (hdigits : AllDigits digits) (hne : digits ≠ []) (exponent : ℤ) :
    ∃ spelling : NumberSpelling, Spells (scientific digits exponent)
      (natOfDigits digits * 10 ^ (exponent + 1 - digits.length)) spelling ∧
      spelling.exponent.isSome = true := by
  have hsign : (if exponent < 0 then '-' else '+') = if decide (exponent < 0) then '-' else '+' := by simp
  match digits, hne with
  | [digit], _ =>
    refine ⟨⟨false, [digit], none, some (decide (exponent < 0), exponent.natAbs.repr.toList)⟩,
      ⟨⟨by simp, hdigits, nofun, allDigits_exponent exponent⟩, rfl, ?_, ?_⟩, rfl⟩
    · unfold scientific
      rw [hsign]
      rfl
    · rw [NumberSpelling.magnitude, writtenExponent_eq]
      simp
  | first :: second :: rest, _ =>
    refine ⟨⟨false, [first], some (second :: rest), some (decide (exponent < 0), exponent.natAbs.repr.toList)⟩,
      ⟨⟨by simp, ?_, ?_, allDigits_exponent exponent⟩, rfl, ?_, ?_⟩, rfl⟩
    · exact fun c hc => hdigits c (by simp_all)
    · rintro _ ⟨⟩
      exact fun c hc => hdigits c (List.mem_cons_of_mem _ hc)
    · rw [scientific, hsign]
      rfl
    · rw [NumberSpelling.magnitude, writtenExponent_eq]
      simp only [Option.getD_some, List.length_cons, List.singleton_append]
      congr 2
      push_cast
      ring

/-- A decimal is spelled with its digits, and the layout decides where the point stands. -/
theorem exists_spells (layout : DecimalLayout) (decimal : Decimal) {exponent : ℤ}
    (hexponent : (decimal.digits.repr.toList.length : ℤ) - 1 + decimal.exponent = exponent) :
    ∃ spelling : NumberSpelling, Spells (if layout.isPositional exponent then
        layout.positional decimal.digits.repr.toList exponent
      else scientific decimal.digits.repr.toList exponent) decimal.value spelling ∧
      (layout.keepPoint = true → spelling.fraction.isSome = true ∨ spelling.exponent.isSome = true) := by
  have hdigits : AllDigits decimal.digits.repr.toList := allDigits_repr _
  have hne : decimal.digits.repr.toList ≠ [] := repr_toList_ne_nil _
  have hvalue : decimal.value = natOfDigits decimal.digits.repr.toList *
      10 ^ (exponent + 1 - decimal.digits.repr.toList.length) := by
    rw [Decimal.value, natOfDigits_repr]
    congr 2
    omega
  rw [hvalue]
  split
  · obtain ⟨spelling, hspelling, hpoint⟩ := exists_spells_positional layout hdigits hne exponent
    exact ⟨spelling, hspelling, fun h => Or.inl (hpoint h)⟩
  · obtain ⟨spelling, hspelling, hsome⟩ := exists_spells_scientific hdigits hne exponent
    exact ⟨spelling, hspelling, fun _ => Or.inr hsome⟩

/-- The text of a double is that of its shortest decimal, with its sign, and has a point or an exponent where the
layout keeps the point. -/
theorem exists_spelling (layout : DecimalLayout) (x : Binary64) : ∃ spelling : NumberSpelling,
    spelling.Digital ∧ spelling.negative = x.negative ∧ spelling.chars = (layout.format x).toList ∧
      spelling.magnitude = (x.shortest layout.tie).value ∧
      (layout.keepPoint = true → spelling.fraction.isSome = true ∨ spelling.exponent.isSome = true) := by
  obtain ⟨spelling, hspelling, hpoint⟩ := exists_spells layout (x.shortest layout.tie) rfl
  refine ⟨{ spelling with negative := x.negative }, ⟨hspelling.digital.nonempty, hspelling.digital.whole,
    hspelling.digital.fraction, hspelling.digital.exponent⟩, rfl, ?_, hspelling.magnitude, hpoint⟩
  have hchars := hspelling.chars
  rw [NumberSpelling.chars, hspelling.unsigned, if_neg Bool.false_ne_true, List.nil_append] at hchars
  rw [NumberSpelling.chars, format, String.toList_ofList]
  dsimp only
  rw [hchars]
  cases x.negative <;> rfl

/-- Doubles that are spelled the same are the same. -/
theorem format_injective {x y : Binary64} (hx : x.Canonical) (hy : y.Canonical)
    (h : layout.format x = layout.format y) : x = y := by
  obtain ⟨spelling, hdigital, hnegative, hchars, hmagnitude, -⟩ := exists_spelling layout x
  obtain ⟨spelling', hdigital', hnegative', hchars', hmagnitude', -⟩ := exists_spelling layout y
  have htext : spelling.chars ++ [] = spelling'.chars ++ [] := by
    rw [hchars, hchars', h]
  obtain ⟨rfl, -⟩ := chars_append_inj hdigital hdigital' beginsWithout_nil beginsWithout_nil htext
  obtain ⟨hsignificand, hexponent⟩ := Binary64.eq_of_shortest_eq hx hy (hmagnitude.symm.trans hmagnitude')
  have hsign := hnegative.symm.trans hnegative'
  cases x
  cases y
  simp_all

end DecimalLayout

end SchemaTypings
