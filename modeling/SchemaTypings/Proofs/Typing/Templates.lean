import SchemaTypings.Proofs.Json.Quoted
import SchemaTypings.Proofs.Typing.Tokens

/-!
# Templates of declarations

The text of a declaration is made of literal pieces and of pieces that depend on what is declared: names,
quoted texts, and texts that are themselves made so. Which companions it refers to can be computed from the
literal pieces (`Template.eval`): where a name is called or read, it is used. What the other texts refer to is
allowed on the way (`Rests`). Each piece is read as `eval` says (`Template.steps`), and so are all of them, one
after the other (`Template.readsTo_render`).
-/

namespace SchemaTypings.Typing

/-- From the lexer, after the token before it, the characters lead to the next one, and all companions that
they refer to are allowed. -/
def Reads (allowed : List Char → Prop) (before : Token) (lexer : Lexer) (cs : List Char) (last : Token)
    (next : Lexer) : Prop :=
  ∃ tokens, lexer.run cs = (next, tokens) ∧ tokens.getLastD before = last ∧
    ∀ name ∈ companionsOf (before :: tokens), allowed name

namespace Reads

variable {allowed : List Char → Prop} {before middle last : Token} {lexer next final : Lexer}
  {first second : List Char}

theorem nil : Reads allowed before lexer [] before lexer :=
  ⟨[], rfl, rfl, by rintro _ ⟨⟩⟩

theorem append (h : Reads allowed before lexer first middle next)
    (h' : Reads allowed middle next second last final) :
    Reads allowed before lexer (first ++ second) last final := by
  obtain ⟨tokens, hrun, hmiddle, hallowed⟩ := h
  obtain ⟨tokens', hrun', hlast, hallowed'⟩ := h'
  refine ⟨tokens ++ tokens', ?_, ?_, ?_⟩
  · rw [Lexer.run_append, hrun, hrun']
  · rw [← hlast, ← hmiddle]
    cases tokens' with
    | nil => simp
    | cons token rest => simp [List.getLastD_eq_getLast?, List.getLast?_append]
  · intro name hname
    rw [companionsOf_append, hmiddle] at hname
    rcases List.mem_append.mp hname with hname | hname
    · exact hallowed name hname
    · exact hallowed' name hname

end Reads

/-! ## Texts at rest -/

/-- How a text ends: outside all words; with a word that refers to nothing, whatever follows; or with any
word, which a sign other than that of a call must follow. -/
inductive Ending where
  | closed
  | plain
  | word
  deriving DecidableEq

/-- What a text with the ending leaves behind. The token that is complete and the pending word refer to
allowed companions only. -/
def Ending.Leaves (allowed : List Char → Prop) (last : Token) (mode : Lexer.Mode) : Ending → Prop
  | closed => mode = .code ∧ last.Plain
  | plain => (mode = .code ∧ last.Plain) ∨ ∃ cs, mode = .word cs ∧ Token.Plain (.word cs) ∧
      ∀ name ∈ last.companions (.word cs), allowed name
  | word => mode = .code ∨ ∃ cs, mode = .word cs ∧ ∀ name ∈ last.companions (.word cs), allowed name

theorem Ending.Leaves.toWord {allowed : List Char → Prop} {last : Token} {mode : Lexer.Mode}
    {ending : Ending} (h : ending.Leaves allowed last mode) : Ending.word.Leaves allowed last mode := by
  cases ending with
  | closed => exact Or.inl h.1
  | plain =>
    rcases h with h | ⟨cs, hmode, -, hallowed⟩
    · exact Or.inl h.1
    · exact Or.inr ⟨cs, hmode, hallowed⟩
  | word => exact h

/-- The text can be read wherever nothing is pending. It ends as the ending says, and refers to allowed
companions only. -/
def Rests (allowed : List Char → Prop) (ending : Ending) (text : String) : Prop :=
  ∀ before, before.Plain → ∃ last mode, Reads allowed before {} text.toList last ⟨mode, []⟩ ∧
    ending.Leaves allowed last mode

namespace Rests

variable {allowed weaker : List Char → Prop} {ending : Ending} {text : String}

theorem toWord (h : Rests allowed ending text) : Rests allowed .word text := by
  intro before hbefore
  obtain ⟨last, mode, hreads, hleaves⟩ := h before hbefore
  exact ⟨last, mode, hreads, hleaves.toWord⟩

theorem mono (h : Rests allowed ending text) (himp : ∀ name, allowed name → weaker name) :
    Rests weaker ending text := by
  intro before hbefore
  obtain ⟨last, mode, ⟨tokens, hrun, hlast, hallowed⟩, hleaves⟩ := h before hbefore
  refine ⟨last, mode, ⟨tokens, hrun, hlast, fun name hname => himp name (hallowed name hname)⟩, ?_⟩
  cases ending with
  | closed => exact hleaves
  | plain =>
    rcases hleaves with hleaves | ⟨cs, hmode, hplain, hpending⟩
    · exact Or.inl hleaves
    · exact Or.inr ⟨cs, hmode, hplain, fun name hname => himp name (hpending name hname)⟩
  | word =>
    rcases hleaves with hleaves | ⟨cs, hmode, hpending⟩
    · exact Or.inl hleaves
    · exact Or.inr ⟨cs, hmode, fun name hname => himp name (hpending name hname)⟩

/-- A text at rest refers to allowed companions only. -/
theorem companions (h : Rests allowed ending text) :
    ∀ name ∈ companionsOf (Lexer.tokens text.toList), allowed name := by
  obtain ⟨last, mode, ⟨tokens, hrun, hlast, hallowed⟩, hleaves⟩ := h .text Token.plain_text
  have htokens : Lexer.tokens text.toList = tokens ++ (Lexer.mk mode []).pending := by
    rw [Lexer.tokens, hrun]
  intro name hname
  rw [htokens, ← companionsOf_plain Token.plain_text, companionsOf_append, hlast] at hname
  rcases List.mem_append.mp hname with hname | hname
  · exact hallowed name hname
  · rcases hleaves.toWord with rfl | ⟨cs, rfl, hpending⟩
    · cases hname
    · exact hpending name (by simpa [Lexer.pending, companionsOf] using hname)

end Rests

/-! ## Templates -/

/-- A piece of a text. -/
inductive Piece where
  /-- A text with complete tokens, as it stands in the definition. -/
  | literal (text : String)
  /-- A complete word. -/
  | word (text : String)
  /-- A quoted text. -/
  | quoted (text : String)
  /-- A text that ends as is said. -/
  | part (text : String) (ending : Ending)

/-- The text is a word. -/
def IsWord (text : String) : Prop :=
  text.toList ≠ [] ∧ text.toList.all Lexer.isWordChar = true

namespace Piece

@[simp]
def text : Piece → String
  | literal text | word text | part text _ => text
  | quoted text => SchemaTypings.quoted text

/-- The piece is what it should be. -/
@[simp]
def Fits (allowed : List Char → Prop) : Piece → Prop
  | word text => IsWord text
  | part text ending => Rests allowed ending text
  | literal _ | quoted _ => True

end Piece

/-- How a word is used: it is called, or read as a value. -/
inductive Use where
  | call (name : String)
  | read (name : String)
  deriving DecidableEq

/-- The name may be used so: it is allowed, or it is that of no companion. -/
def Use.Met (allowed : List Char → Prop) : Use → Prop
  | call name => namesGuard name.toList = true → allowed name.toList
  | read name => namesValues name.toList = true → allowed name.toList

/-- A function whose name does not begin like that of a guard may be called. -/
theorem Use.met_of_head {allowed : List Char → Prop} {name : String} (first : Char)
    (hname : name.toList.head? = some first) (hfirst : first ∉ ['i', 'p', 'm']) :
    (Use.call name).Met allowed := by
  intro hguard
  obtain ⟨lead, hlead, hstart⟩ := List.any_eq_true.mp hguard
  rw [Bool.and_eq_true, List.isPrefixOf_iff_prefix] at hstart
  obtain ⟨⟨tail, htail⟩, -⟩ := hstart
  rw [← htail] at hname
  simp only [List.mem_cons, List.not_mem_nil, or_false] at hlead
  rcases hlead with rfl | rfl | rfl <;> cases hname <;> exact absurd (by decide) hfirst

/-- What is known of the last token when a piece is read. -/
inductive Edge where
  /-- It refers to nothing, and nothing is pending. -/
  | plain
  /-- It is the word `typeof`. -/
  | typeof
  /-- It is this word, which is pending. -/
  | word (text : String)
  /-- It is what a part has left behind. -/
  | part (ending : Ending)
  /-- It is a word within a quoted text. -/
  | quoted
  deriving DecidableEq

namespace Template

@[simp]
theorem toString_text (text : String) : toString text = text := rfl

/-- The characters of the pieces. -/
def render (pieces : List Piece) : List Char :=
  pieces.flatMap fun piece => piece.text.toList

@[simp]
theorem render_nil : render [] = [] := rfl

@[simp]
theorem render_cons (piece : Piece) (rest : List Piece) :
    render (piece :: rest) = piece.text.toList ++ render rest := rfl

@[simp]
theorem render_append (pieces rest : List Piece) : render (pieces ++ rest) = render pieces ++ render rest :=
  List.flatMap_append

/-- The characters begin with one that ends a word. -/
def endsWord : List Char → Bool
  | [] => false
  | c :: _ => !Lexer.isWordChar c

/-- The tokens refer to nothing, and hold no name of a companion. -/
def isInert (tokens : List Token) : Bool :=
  (companionsOf tokens).isEmpty && tokens.all fun
    | .word cs => !namesValues cs && !namesGuard cs
    | _ => true

/-- What is known of the last one of inert tokens. -/
def edgeOf (tokens : List Token) : Edge :=
  if tokens.getLast? == some (.word "typeof".toList) then .typeof else .plain

/-- How a word is used by what follows it. -/
def usesBefore (name : String) : Token → List Use
  | .sign c => if c == '(' || c == '<' then [.call name] else []
  | .word next => if next == "as".toList then [.read name] else []
  | .text => []

/-- The token is none that could call or read what stands before it. -/
def isStop : Token → Bool
  | .sign c => c != '(' && c != '<'
  | .word next => next != "as".toList
  | .text => true

/-- How inert tokens that are read from the characters use what stands before them, unless they must not
stand there. -/
def usesAt (edge : Edge) (cs : List Char) (tokens : List Token) : Option (List Use) :=
  match edge, tokens with
  | .plain, _ => some []
  | .typeof, _ :: _ => some []
  | .quoted, _ => if cs.isEmpty || cs.head? == some '\x7b' then none else some []
  | .word name, token :: _ => if endsWord cs then some (usesBefore name token) else none
  | .part .plain, _ :: _ => if endsWord cs then some [] else none
  | .part .word, token :: _ => if endsWord cs && isStop token then some [] else none
  | _, _ => none

/-- What comes of reading the pieces: what is known of the last token, the lexer, and how names are used.
There is no result if the pieces must not stand so. -/
def eval : Edge → Lexer → List Piece → Option (Edge × Lexer × List Use)
  | edge, lexer, [] => some (edge, lexer, [])
  | edge, lexer, .literal text :: rest =>
    match lexer.run text.toList with
    | (next, tokens) =>
      if isInert tokens then
        match usesAt edge text.toList tokens, eval (edgeOf tokens) next rest with
        | some here, some (last, final, later) => some (last, final, here ++ later)
        | _, _ => none
      else none
  | edge, lexer, .word text :: rest =>
    match lexer.mode, edge with
    | .text mark, .plain => if Lexer.isMark mark then eval .quoted lexer rest else none
    | .code, .plain => eval (.word text) lexer rest
    | .code, .typeof =>
      match eval (.word text) lexer rest with
      | some (last, final, later) => some (last, final, .read text :: later)
      | none => none
    | _, _ => none
  | edge, lexer, .quoted _ :: rest =>
    if lexer.mode == .code && edge == .plain then eval .plain lexer rest else none
  | edge, lexer, .part _ ending :: rest =>
    if lexer == {} && edge == .plain then
      eval (if ending = .closed then .plain else .part ending) lexer rest
    else none

/-! The equations of `eval`, one for each piece. -/

theorem eval_literal (edge : Edge) (lexer : Lexer) (text : String) (rest : List Piece) :
    eval edge lexer (.literal text :: rest) =
      match lexer.run text.toList with
      | (next, tokens) =>
        if isInert tokens then
          match usesAt edge text.toList tokens, eval (edgeOf tokens) next rest with
          | some here, some (last, final, later) => some (last, final, here ++ later)
          | _, _ => none
        else none :=
  rfl

theorem eval_word (edge : Edge) (lexer : Lexer) (text : String) (rest : List Piece) :
    eval edge lexer (.word text :: rest) =
      match lexer.mode, edge with
      | .text mark, .plain => if Lexer.isMark mark then eval .quoted lexer rest else none
      | .code, .plain => eval (.word text) lexer rest
      | .code, .typeof =>
        match eval (.word text) lexer rest with
        | some (last, final, later) => some (last, final, .read text :: later)
        | none => none
      | _, _ => none :=
  rfl

theorem eval_quoted (edge : Edge) (lexer : Lexer) (text : String) (rest : List Piece) :
    eval edge lexer (.quoted text :: rest) =
      if lexer.mode == .code && edge == .plain then eval .plain lexer rest else none :=
  rfl

theorem eval_part (edge : Edge) (lexer : Lexer) (text : String) (ending : Ending) (rest : List Piece) :
    eval edge lexer (.part text ending :: rest) =
      if lexer == {} && edge == .plain then
        eval (if ending = .closed then .plain else .part ending) lexer rest
      else none :=
  rfl

end Template

/-! ## What reading a template comes to -/

/-- Within a text with the mark, or after a dollar sign in a template. -/
def Lexer.WithinText (mark : Char) (holes : List Nat) (lexer : Lexer) : Prop :=
  lexer = ⟨.text mark, holes⟩ ∨ mark = Lexer.backtick ∧ lexer = ⟨.dollar, holes⟩

/-- The last token and the lexer are as the edge says, where the lexer is otherwise known. -/
def Edge.Matches (allowed : List Char → Prop) (known : Lexer) (last : Token) (lexer : Lexer) : Edge → Prop
  | plain => lexer = known ∧ last.Plain
  | typeof => lexer = known ∧ last = .word "typeof".toList
  | word text => known.mode = .code ∧ lexer = ⟨.word text.toList, known.holes⟩ ∧
      ∀ name ∈ last.companions (.word text.toList), allowed name
  | part ending => known.mode = .code ∧ lexer.holes = known.holes ∧ ending.Leaves allowed last lexer.mode
  | quoted => last.Plain ∧ ∃ mark, known = ⟨.text mark, known.holes⟩ ∧ Lexer.WithinText mark known.holes lexer

/-- From the lexer, after the token before it, the characters lead to where all is as the edge says. -/
def ReadsTo (allowed : List Char → Prop) (before : Token) (real : Lexer) (cs : List Char) (edge : Edge)
    (known : Lexer) : Prop :=
  ∃ last next, Reads allowed before real cs last next ∧ edge.Matches allowed known last next

namespace Lexer

/-- A word ends where a character follows that is none of a word. -/
theorem run_word_of_endsWord {cs word : List Char} (h : Template.endsWord cs = true) (holes : List Nat) :
    run ⟨.word word, holes⟩ cs = after (.word word) (run ⟨.code, holes⟩ cs) := by
  cases cs with
  | nil => cases h
  | cons c rest =>
    have hc : isWordChar c = false := by simpa [Template.endsWord] using h
    simp only [run_cons, step, hc, Bool.false_eq_true, if_false, after, List.cons_append]

/-- A dollar sign is one of the text unless a brace follows. -/
theorem run_dollar {c : Char} (h : c ≠ '\x7b') (holes : List Nat) (cs : List Char) :
    run ⟨.dollar, holes⟩ (c :: cs) = run ⟨.text backtick, holes⟩ (c :: cs) := by
  have hc : (c == '\x7b') = false := beq_eq_false_iff_ne.mpr h
  simp only [run_cons, step, hc, Bool.false_eq_true, if_false]

/-- The characters of a word are read as that word. -/
theorem run_wordChars {cs : List Char} (h : cs.all isWordChar = true) (word : List Char)
    (holes : List Nat) : run ⟨.word word, holes⟩ cs = (⟨.word (word ++ cs), holes⟩, []) := by
  induction cs generalizing word with
  | nil => rw [List.append_nil]; rfl
  | cons c rest ih =>
    rw [List.all_cons, Bool.and_eq_true] at h
    simp only [run_cons, step, h.1, if_true, ih h.2, List.append_assoc, List.singleton_append,
      List.nil_append]

theorem run_word {cs : List Char} (hne : cs ≠ []) (h : cs.all isWordChar = true) (holes : List Nat) :
    run ⟨.code, holes⟩ cs = (⟨.word cs, holes⟩, []) := by
  cases cs with
  | nil => exact absurd rfl hne
  | cons c rest =>
    rw [List.all_cons, Bool.and_eq_true] at h
    simp only [run_cons, step, readCode, h.1, if_true, run_wordChars h.2, List.singleton_append,
      List.nil_append]

theorem readText_wordChar {mark c : Char} (hmark : isMark mark = true) (hc : isWordChar c = true)
    (holes : List Nat) : WithinText mark holes (readText mark holes c) := by
  have hne : c ≠ mark := by
    rintro rfl
    have hno : isMark c = true → isWordChar c = false := by
      simp only [isMark, Bool.or_eq_true, beq_iff_eq]
      rintro ((rfl | rfl) | rfl) <;> decide
    rw [hno hmark] at hc
    cases hc
  have hescape : c ≠ '\\' := by
    rintro rfl
    cases hc
  unfold readText
  rw [if_neg (by simpa using hne), if_neg (by simpa using hescape)]
  split
  · rename_i hdollar
    rw [Bool.and_eq_true, beq_iff_eq, beq_iff_eq] at hdollar
    exact Or.inr ⟨hdollar.2, rfl⟩
  · exact Or.inl rfl

/-- The characters of a word do not end a text. -/
theorem run_withinText {mark : Char} (hmark : isMark mark = true) {cs : List Char}
    (h : cs.all isWordChar = true) {holes : List Nat} {lexer : Lexer}
    (hlexer : WithinText mark holes lexer) :
    ∃ next, lexer.run cs = (next, []) ∧ WithinText mark holes next := by
  induction cs generalizing lexer with
  | nil => exact ⟨lexer, rfl, hlexer⟩
  | cons c rest ih =>
    rw [List.all_cons, Bool.and_eq_true] at h
    have hnext : lexer.step c = (readText mark holes c, []) := by
      rcases hlexer with rfl | ⟨rfl, rfl⟩
      · rfl
      · have hc : (c == '\x7b') = false := by
          refine beq_eq_false_iff_ne.mpr ?_
          rintro rfl
          exact absurd h.1 (by decide)
        simp [step, hc]
    obtain ⟨next, hrun, hwithin⟩ := ih h.2 (readText_wordChar hmark h.1 holes)
    refine ⟨next, ?_, hwithin⟩
    rw [run_cons, hnext, hrun, List.nil_append]

end Lexer

/-! ### Quoted texts -/

namespace Lexer

/-- A character other than the mark and the backslash stands for itself. -/
theorem step_quoted {c : Char} (hmark : c ≠ Quoted.mark) (hescape : c ≠ '\\') (holes : List Nat) :
    step ⟨.text Quoted.mark, holes⟩ c = (⟨.text Quoted.mark, holes⟩, []) := by
  have hdollar : (c == '$' && Quoted.mark == backtick) = false := by
    rw [show (Quoted.mark == backtick) = false by decide, Bool.and_false]
  simp [step, readText, hmark, hescape, hdollar]

theorem run_plain {plain : List Char} (h : ∀ c ∈ plain, c ≠ Quoted.mark ∧ c ≠ '\\') (holes : List Nat) :
    run ⟨.text Quoted.mark, holes⟩ plain = (⟨.text Quoted.mark, holes⟩, []) := by
  induction plain with
  | nil => rfl
  | cons c rest ih =>
    rw [List.forall_mem_cons] at h
    rw [run_cons, step_quoted h.1.1 h.1.2, ih h.2]
    rfl

/-- No character of a quoted text ends it. -/
theorem run_escape (c : Char) (holes : List Nat) :
    run ⟨.text Quoted.mark, holes⟩ (Quoted.escape c) = (⟨.text Quoted.mark, holes⟩, []) := by
  rcases Quoted.escape_cases c with ⟨hescape, hc⟩ | ⟨second, others, hescape, hothers, -⟩
  · rw [hescape]
    exact run_plain (by simpa using hc) holes
  · have hlead : run ⟨.text Quoted.mark, holes⟩ ['\\', second] = (⟨.text Quoted.mark, holes⟩, []) := rfl
    have hsplit : '\\' :: second :: others = ['\\', second] ++ others := rfl
    rw [hescape, hsplit, run_append, hlead, run_plain hothers]
    rfl

theorem run_encode (cs : List Char) (holes : List Nat) :
    run ⟨.code, holes⟩ (Quoted.encode cs) = (⟨.code, holes⟩, [.text]) := by
  have hescaped : run ⟨.text Quoted.mark, holes⟩ (cs.flatMap Quoted.escape) =
      (⟨.text Quoted.mark, holes⟩, []) := by
    induction cs with
    | nil => rfl
    | cons c rest ih => rw [List.flatMap_cons, run_append, run_escape, ih, List.append_nil]
  have hopen : run ⟨.code, holes⟩ [Quoted.mark] = (⟨.text Quoted.mark, holes⟩, [.text]) := rfl
  have hclose : run ⟨.text Quoted.mark, holes⟩ [Quoted.mark] = (⟨.code, holes⟩, []) := rfl
  rw [Quoted.encode, List.cons_append, ← List.singleton_append, run_append, hopen, run_append,
    hescaped, hclose]
  rfl

end Lexer

/-! ### Pieces -/

namespace Template

variable {allowed : List Char → Prop} {edge : Edge} {known next real : Lexer} {before : Token}
  {cs : List Char} {tokens : List Token} {uses : List Use}

theorem companionsOf_inert (h : isInert tokens = true) : companionsOf tokens = [] := by
  rw [isInert, Bool.and_eq_true] at h
  exact List.isEmpty_iff.mp h.1

theorem of_inert (h : isInert tokens = true) {word : List Char} (hword : .word word ∈ tokens) :
    namesValues word = false ∧ namesGuard word = false := by
  rw [isInert, Bool.and_eq_true] at h
  have hthis := List.all_eq_true.mp h.2 _ hword
  simpa using hthis

/-- The last one of inert tokens is as its edge says. -/
theorem matches_edgeOf (h : isInert tokens = true) (hbefore : tokens = [] → before.Plain) :
    (edgeOf tokens).Matches allowed next (tokens.getLastD before) next := by
  unfold edgeOf
  split
  · rename_i hlast
    rw [beq_iff_eq] at hlast
    refine ⟨rfl, ?_⟩
    rw [List.getLastD_eq_getLast?, hlast, Option.getD_some]
  · rename_i hlast
    rw [beq_iff_eq] at hlast
    refine ⟨rfl, ?_⟩
    cases hend : tokens.getLast? with
    | none =>
      rw [List.getLast?_eq_none_iff] at hend
      rw [hend]
      exact hbefore hend
    | some last =>
      rw [List.getLastD_eq_getLast?, hend, Option.getD_some]
      have hmem : last ∈ tokens := List.mem_of_getLast? hend
      cases last with
      | word word =>
        obtain ⟨hvalues, hguard⟩ := of_inert h hmem
        refine Token.plain_word hguard hvalues ?_
        rintro rfl
        exact hlast hend
      | sign c => exact Token.plain_sign c
      | text => exact Token.plain_text

/-- A token that is no stop uses a word before it as is said. -/
theorem allowed_of_usesBefore {name : String} {token : Token}
    (hinert : ∀ word, token = .word word → namesValues word = false)
    (huses : ∀ use ∈ usesBefore name token, use.Met allowed) :
    ∀ other ∈ (Token.word name.toList).companions token, allowed other := by
  cases token with
  | word next =>
    have hnext := hinert next rfl
    intro other hother
    rw [Token.companions, hnext, Bool.and_false, if_neg Bool.false_ne_true, List.append_nil] at hother
    split at hother
    · rename_i hread
      rw [Bool.and_eq_true] at hread
      rw [List.mem_singleton.mp hother]
      refine huses (.read name) ?_ hread.2
      rw [usesBefore, if_pos hread.1]
      exact List.mem_singleton_self _
    · cases hother
  | sign c =>
    intro other hother
    rw [Token.companions] at hother
    split at hother
    · rename_i hcall
      rw [Bool.and_eq_true] at hcall
      rw [List.mem_singleton.mp hother]
      refine huses (.call name) ?_ hcall.2
      rw [usesBefore, if_pos hcall.1]
      exact List.mem_singleton_self _
    · cases hother
  | text => rintro _ ⟨⟩

theorem companions_of_isStop {token : Token} (h : isStop token = true)
    (hinert : ∀ word, token = .word word → namesValues word = false) (last : Token) :
    last.companions token = [] := by
  cases last with
  | word word =>
    cases token with
    | word next =>
      rw [isStop, bne, Bool.not_eq_true'] at h
      rw [Token.companions, hinert next rfl, h]
      simp
    | sign c =>
      have hcall : (c == '(' || c == '<') = false := by
        rw [isStop, bne, bne, ← Bool.not_or, Bool.not_eq_true'] at h
        exact h
      rw [Token.companions, hcall, Bool.false_and, if_neg Bool.false_ne_true]
    | text => rfl
  | sign c => rfl
  | text => rfl

theorem companions_typeof {token : Token}
    (hinert : ∀ word, token = .word word → namesValues word = false) :
    (Token.word "typeof".toList).companions token = [] := by
  cases token with
  | word next =>
    rw [Token.companions, hinert next rfl, show namesValues "typeof".toList = false by decide]
    simp
  | sign c =>
    rw [Token.companions, show namesGuard "typeof".toList = false by decide, Bool.and_false]
    rfl
  | text => rfl

theorem eq_code {lexer : Lexer} (h : lexer.mode = .code) : lexer = ⟨.code, lexer.holes⟩ := by
  rw [← h]

theorem eq_word {lexer : Lexer} {word : List Char} (h : lexer.mode = .word word) :
    lexer = ⟨.word word, lexer.holes⟩ := by
  rw [← h]

/-! #### Literal pieces -/

/-- Inert tokens refer to companions only with the token before them. -/
theorem companionsOf_cons_inert {token : Token} {rest : List Token} (h : isInert (token :: rest) = true)
    (last : Token) : companionsOf (last :: token :: rest) = last.companions token := by
  rw [companionsOf, companionsOf_inert h, List.append_nil]

theorem readsTo_of_run (hinert : isInert tokens = true) (hrun : real.run cs = (next, tokens))
    (hallowed : ∀ name ∈ companionsOf (before :: tokens), allowed name) (hplain : tokens = [] → before.Plain) :
    ReadsTo allowed before real cs (edgeOf tokens) next :=
  ⟨tokens.getLastD before, next, ⟨tokens, hrun, rfl, hallowed⟩, matches_edgeOf hinert hplain⟩

theorem readsTo_of_plain (hinert : isInert tokens = true) (hrun : real.run cs = (next, tokens))
    (hplain : before.Plain) : ReadsTo allowed before real cs (edgeOf tokens) next := by
  refine readsTo_of_run hinert hrun ?_ fun _ => hplain
  rw [companionsOf_plain hplain, companionsOf_inert hinert]
  rintro _ ⟨⟩

theorem readsTo_of_cons {token : Token} {rest : List Token} (hinert : isInert (token :: rest) = true)
    (hrun : real.run cs = (next, token :: rest)) (hnone : before.companions token = []) :
    ReadsTo allowed before real cs (edgeOf (token :: rest)) next := by
  refine readsTo_of_run hinert hrun ?_ (by rintro ⟨⟩)
  rw [companionsOf_cons_inert hinert, hnone]
  rintro _ ⟨⟩

/-- A pending word is complete where inert tokens begin, and may refer to what stands on both sides of it. -/
theorem readsTo_after_word {word : List Char} {token : Token} {rest : List Token}
    (hinert : isInert (token :: rest) = true) (hends : endsWord cs = true) (hmode : known.mode = .code)
    (hrun : known.run cs = (next, token :: rest))
    (hpending : ∀ name ∈ before.companions (.word word), allowed name)
    (hthen : ∀ name ∈ (Token.word word).companions token, allowed name) :
    ReadsTo allowed before ⟨.word word, known.holes⟩ cs (edgeOf (token :: rest)) next := by
  refine ⟨(token :: rest).getLastD (.word word), next, ⟨.word word :: token :: rest, ?_, ?_, ?_⟩,
    matches_edgeOf hinert (by rintro ⟨⟩)⟩
  · rw [Lexer.run_word_of_endsWord hends, ← eq_code hmode, hrun]
    rfl
  · rw [List.getLastD_cons]
  · intro name hname
    rw [companionsOf, companionsOf_cons_inert hinert] at hname
    rcases List.mem_append.mp hname with hname | hname
    · exact hpending name hname
    · exact hthen name hname

/-- What a part leaves behind refers to nothing with the inert tokens after it. -/
theorem readsTo_after_part {token : Token} {rest : List Token} (hinert : isInert (token :: rest) = true)
    (hends : endsWord cs = true) (hmode : known.mode = .code) (hholes : real.holes = known.holes)
    (hrun : known.run cs = (next, token :: rest))
    (hleaves : (real.mode = .code ∧ before.companions token = []) ∨ ∃ word, real.mode = .word word ∧
      (∀ name ∈ before.companions (.word word), allowed name) ∧ (Token.word word).companions token = []) :
    ReadsTo allowed before real cs (edgeOf (token :: rest)) next := by
  rcases hleaves with ⟨hreal, hnone⟩ | ⟨word, hreal, hpending, hnone⟩
  · have hsame : real = known := by rw [eq_code hreal, hholes, ← eq_code hmode]
    exact readsTo_of_cons hinert (hsame ▸ hrun) hnone
  · rw [eq_word hreal, hholes]
    refine readsTo_after_word hinert hends hmode hrun hpending ?_
    rw [hnone]
    rintro _ ⟨⟩

/-- A literal piece is read from where the edge says, if what it uses is allowed. -/
theorem readsTo_literal (hmatches : edge.Matches allowed known before real)
    (hrun : known.run cs = (next, tokens)) (hinert : isInert tokens = true)
    (huses : usesAt edge cs tokens = some uses) (hmet : ∀ use ∈ uses, use.Met allowed) :
    ReadsTo allowed before real cs (edgeOf tokens) next := by
  have hvalues : ∀ {token word}, token ∈ tokens → token = .word word → namesValues word = false := by
    rintro _ word hmem rfl
    exact (of_inert hinert hmem).1
  cases edge with
  | plain =>
    obtain ⟨rfl, hplain⟩ := hmatches
    exact readsTo_of_plain hinert hrun hplain
  | typeof =>
    obtain ⟨rfl, rfl⟩ := hmatches
    cases tokens with
    | nil => cases huses
    | cons token rest =>
      exact readsTo_of_cons hinert hrun (companions_typeof fun word => hvalues List.mem_cons_self)
  | word name =>
    obtain ⟨hmode, rfl, hpending⟩ := hmatches
    cases tokens with
    | nil => cases huses
    | cons token rest =>
      obtain ⟨hends, huses⟩ := Option.ite_none_right_eq_some.mp huses
      cases huses
      exact readsTo_after_word hinert hends hmode hrun hpending
        (allowed_of_usesBefore (fun word => hvalues List.mem_cons_self) hmet)
  | part ending =>
    obtain ⟨hmode, hholes, hleaves⟩ := hmatches
    cases tokens with
    | nil => cases ending <;> cases huses
    | cons token rest =>
      cases ending with
      | closed => cases huses
      | plain =>
        obtain ⟨hends, -⟩ := Option.ite_none_right_eq_some.mp huses
        refine readsTo_after_part hinert hends hmode hholes hrun ?_
        rcases hleaves with ⟨hreal, hplain⟩ | ⟨word, hreal, hplain, hpending⟩
        · exact Or.inl ⟨hreal, hplain token⟩
        · exact Or.inr ⟨word, hreal, hpending, hplain token⟩
      | word =>
        obtain ⟨hends, -⟩ := Option.ite_none_right_eq_some.mp huses
        rw [Bool.and_eq_true] at hends
        have hstop := companions_of_isStop hends.2 fun word => hvalues List.mem_cons_self
        refine readsTo_after_part hinert hends.1 hmode hholes hrun ?_
        rcases hleaves with hreal | ⟨word, hreal, hpending⟩
        · exact Or.inl ⟨hreal, hstop before⟩
        · exact Or.inr ⟨word, hreal, hpending, hstop (.word word)⟩
  | quoted =>
    obtain ⟨hplain, mark, hknown, hwithin⟩ := hmatches
    cases cs with
    | nil => cases huses
    | cons c rest =>
      have hc : c ≠ '\x7b' := by
        rintro rfl
        cases huses
      have hreal : real.run (c :: rest) = (next, tokens) := by
        rw [← hrun, hknown]
        rcases hwithin with rfl | ⟨rfl, rfl⟩
        · rfl
        · exact Lexer.run_dollar hc known.holes rest
      exact readsTo_of_plain hinert hreal hplain

/-! #### Words -/

theorem allowed_after_typeof {name : String} (hmet : (Use.read name).Met allowed) :
    ∀ other ∈ (Token.word "typeof".toList).companions (.word name.toList), allowed other := by
  intro other hother
  rw [Token.companions, show namesValues "typeof".toList = false by decide, Bool.and_false,
    if_neg Bool.false_ne_true, List.nil_append, beq_self_eq_true, Bool.true_and] at hother
  split at hother
  · rename_i hvalues
    rw [List.mem_singleton.mp hother]
    exact hmet hvalues
  · cases hother

theorem readsTo_word {name : String} (hfits : (Piece.word name).Fits allowed) (hmode : known.mode = .code)
    (hbefore : ∀ other ∈ before.companions (.word name.toList), allowed other) :
    ReadsTo allowed before known name.toList (.word name) known := by
  obtain ⟨hne, hall⟩ := hfits
  refine ⟨before, ⟨.word name.toList, known.holes⟩, ⟨[], ?_, rfl, by rintro _ ⟨⟩⟩, hmode, rfl, hbefore⟩
  rw [eq_code hmode]
  exact Lexer.run_word hne hall known.holes

theorem readsTo_word_withinText {name : String} {mark : Char} (hfits : (Piece.word name).Fits allowed)
    (hmode : known.mode = .text mark) (hmark : Lexer.isMark mark = true) (hplain : before.Plain) :
    ReadsTo allowed before known name.toList .quoted known := by
  have hknown : known = ⟨.text mark, known.holes⟩ := by rw [← hmode]
  obtain ⟨lexer, hrun, hwithin⟩ := Lexer.run_withinText hmark hfits.2 (Or.inl hknown)
  exact ⟨before, lexer, ⟨[], hrun, rfl, by rintro _ ⟨⟩⟩, hplain, mark, hknown, hwithin⟩

/-! #### One piece after the other -/

variable {rest : List Piece} {last : Edge} {final : Lexer}

/-- The characters are read up to where the rest is evaluated from, which uses no more names. -/
def Steps (allowed : List Char → Prop) (before : Token) (real : Lexer) (cs : List Char) (rest : List Piece)
    (last : Edge) (final : Lexer) (uses : List Use) : Prop :=
  ∃ next lexer later, ReadsTo allowed before real cs next lexer ∧
    eval next lexer rest = some (last, final, later) ∧ later ⊆ uses

theorem steps_literal {text : String} (heval : eval edge known (.literal text :: rest) = some (last, final, uses))
    (hmet : ∀ use ∈ uses, use.Met allowed) (hmatches : edge.Matches allowed known before real) :
    Steps allowed before real text.toList rest last final uses := by
  rw [eval_literal] at heval
  rcases hrun : known.run text.toList with ⟨next, tokens⟩
  rw [hrun] at heval
  obtain ⟨hinert, heval⟩ := Option.ite_none_right_eq_some.mp heval
  split at heval
  · rename_i here _ _ later huses hlater
    cases heval
    have hreads := readsTo_literal hmatches hrun hinert huses fun use huse => hmet use (List.mem_append_left _ huse)
    exact ⟨_, next, later, hreads, hlater, List.subset_append_right here later⟩
  · cases heval

theorem steps_word {text : String} (hfits : (Piece.word text).Fits allowed)
    (heval : eval edge known (.word text :: rest) = some (last, final, uses))
    (hmet : ∀ use ∈ uses, use.Met allowed) (hmatches : edge.Matches allowed known before real) :
    Steps allowed before real text.toList rest last final uses := by
  rw [eval_word] at heval
  cases edge with
  | plain =>
    obtain ⟨rfl, hplain⟩ := hmatches
    cases hmode : real.mode with
    | text mark =>
      rw [hmode] at heval
      obtain ⟨hmark, hrest⟩ := Option.ite_none_right_eq_some.mp heval
      exact ⟨_, _, _, readsTo_word_withinText hfits hmode hmark hplain, hrest, List.Subset.refl _⟩
    | code =>
      rw [hmode] at heval
      refine ⟨_, _, _, readsTo_word hfits hmode ?_, heval, List.Subset.refl _⟩
      rw [hplain]
      rintro _ ⟨⟩
    | _ =>
      rw [hmode] at heval
      cases heval
  | typeof =>
    obtain ⟨rfl, rfl⟩ := hmatches
    cases hmode : real.mode with
    | code =>
      rw [hmode] at heval
      dsimp only at heval
      split at heval
      · rename_i later hlater
        cases heval
        have hallowed := allowed_after_typeof (hmet (.read text) List.mem_cons_self)
        exact ⟨_, _, later, readsTo_word hfits hmode hallowed, hlater, List.subset_cons_self _ later⟩
      · cases heval
    | _ =>
      rw [hmode] at heval
      cases heval
  | _ => cases hmode : known.mode <;> rw [hmode] at heval <;> cases heval

theorem steps_quoted {text : String} (heval : eval edge known (.quoted text :: rest) = some (last, final, uses))
    (hmatches : edge.Matches allowed known before real) :
    Steps allowed before real (quoted text).toList rest last final uses := by
  rw [eval_quoted] at heval
  obtain ⟨hwhere, hrest⟩ := Option.ite_none_right_eq_some.mp heval
  rw [Bool.and_eq_true, beq_iff_eq, beq_iff_eq] at hwhere
  obtain ⟨hmode, rfl⟩ := hwhere
  obtain ⟨rfl, hplain⟩ := hmatches
  refine ⟨.plain, _, _, ⟨.text, real, ⟨[.text], ?_, rfl, ?_⟩, rfl, Token.plain_text⟩, hrest, List.Subset.refl _⟩
  · rw [SchemaTypings.quoted, String.toList_ofList, eq_code hmode]
    exact Lexer.run_encode text.toList real.holes
  · rw [companionsOf_plain hplain]
    rintro _ ⟨⟩

theorem steps_part {text : String} {ending : Ending} (hfits : (Piece.part text ending).Fits allowed)
    (heval : eval edge known (.part text ending :: rest) = some (last, final, uses))
    (hmatches : edge.Matches allowed known before real) :
    Steps allowed before real text.toList rest last final uses := by
  rw [eval_part] at heval
  obtain ⟨hwhere, hrest⟩ := Option.ite_none_right_eq_some.mp heval
  rw [Bool.and_eq_true, beq_iff_eq, beq_iff_eq] at hwhere
  obtain ⟨rfl, rfl⟩ := hwhere
  obtain ⟨rfl, hplain⟩ := hmatches
  obtain ⟨middle, mode, hreads, hleaves⟩ := hfits before hplain
  refine ⟨_, _, _, ⟨middle, _, hreads, ?_⟩, hrest, List.Subset.refl _⟩
  split
  · rename_i hclosed
    rw [hclosed] at hleaves
    exact ⟨by rw [hleaves.1], hleaves.2⟩
  · exact ⟨rfl, rfl, hleaves⟩

/-- A piece is read as `eval` says, if it is what it should be and what it uses is allowed. -/
theorem steps {piece : Piece} (hfits : piece.Fits allowed)
    (heval : eval edge known (piece :: rest) = some (last, final, uses)) (hmet : ∀ use ∈ uses, use.Met allowed)
    (hmatches : edge.Matches allowed known before real) :
    Steps allowed before real piece.text.toList rest last final uses := by
  cases piece with
  | literal text => exact steps_literal heval hmet hmatches
  | word text => exact steps_word hfits heval hmet hmatches
  | quoted text => exact steps_quoted heval hmatches
  | part text ending => exact steps_part hfits heval hmatches

/-- The pieces are read as `eval` says, if the pieces are what they should be and what they use is allowed. -/
theorem readsTo_render {pieces : List Piece} (hfits : ∀ piece ∈ pieces, piece.Fits allowed)
    (heval : eval edge known pieces = some (last, final, uses)) (hmet : ∀ use ∈ uses, use.Met allowed)
    (hmatches : edge.Matches allowed known before real) :
    ReadsTo allowed before real (render pieces) last final := by
  induction pieces generalizing edge known before real uses with
  | nil =>
    cases heval
    exact ⟨before, real, .nil, hmatches⟩
  | cons piece rest ih =>
    rw [List.forall_mem_cons] at hfits
    obtain ⟨next, lexer, later, ⟨middle, reached, hreads, hnext⟩, hlater, hsubset⟩ :=
      steps hfits.1 heval hmet hmatches
    obtain ⟨token, ended, hreads', hlast⟩ := ih hfits.2 hlater (fun use huse => hmet use (hsubset huse)) hnext
    exact ⟨token, ended, hreads.append hreads', hlast⟩

end Template

/-- How a text ends that is read up to an edge, unless that is within a quoted text or after `typeof`. -/
def Edge.ending? : Edge → Option Ending
  | plain => some .closed
  | word _ => some .word
  | part ending => some ending
  | typeof | quoted => none

/-- A text that is made as a template says is at rest, if its pieces are what they should be and what they use is
allowed. -/
theorem Rests.of_template {allowed : List Char → Prop} {text : String} (pieces : List Piece)
    (uses : List Use) {edge : Edge} {ending : Ending} (htext : text.toList = Template.render pieces)
    (heval : Template.eval .plain {} pieces = some (edge, {}, uses)) (hending : edge.ending? = some ending)
    (hfits : ∀ piece ∈ pieces, piece.Fits allowed) (hmet : ∀ use ∈ uses, use.Met allowed) :
    Rests allowed ending text := by
  intro before hbefore
  have hplain : Edge.plain.Matches allowed {} before {} := ⟨rfl, hbefore⟩
  obtain ⟨last, lexer, hreads, hmatches⟩ := Template.readsTo_render hfits heval hmet hplain
  rw [← htext] at hreads
  cases edge with
  | plain =>
    cases hending
    obtain ⟨rfl, hlast⟩ := hmatches
    exact ⟨last, .code, hreads, rfl, hlast⟩
  | word name =>
    cases hending
    obtain ⟨-, rfl, hlast⟩ := hmatches
    exact ⟨last, _, hreads, Or.inr ⟨name.toList, rfl, hlast⟩⟩
  | part ending =>
    cases hending
    obtain ⟨-, hholes, hleaves⟩ := hmatches
    refine ⟨last, lexer.mode, ?_, hleaves⟩
    obtain ⟨mode, holes⟩ := lexer
    cases hholes
    exact hreads
  | typeof | quoted => cases hending

end SchemaTypings.Typing
