import TagScript.Document
import TagScript.Lexeme

/-!
# The language of documents

    name     := letter (letter | digit | "." | "_" | "-")*
    element  := "<" name "/>"  |  "<" name ">" (blanks element)* blanks "</" name ">"
    top      := element  |  "<" name "/>" blanks "</" name ">"
    document := (blanks top)* blanks

The two names of a tag pair must be equal. The grammar is stated on lists of characters and without
the parsers; every production says which element its text stands for.

* `Legal` says that characters form a name, `Blanks` that they are blanks.
* `Spaced R` is a sequence of texts of the class `R` with blanks around them.
* `Derives`, `DerivesTop` and `DerivesDocument` are the productions.
-/

namespace TagScript.Markup

/-! ### Characters, names and blanks -/

/-- A letter of the Latin alphabet. -/
def Letter (c : Char) : Prop := ('A' ≤ c ∧ c ≤ 'Z') ∨ ('a' ≤ c ∧ c ≤ 'z')

/-- A character of a name. -/
def NameChar (c : Char) : Prop :=
  Letter c ∨ ('0' ≤ c ∧ c ≤ '9') ∨ c = '.' ∨ c = '_' ∨ c = '-'

/-- A space, a tab or a line feed. -/
def Blank (c : Char) : Prop := c = ' ' ∨ c = '\t' ∨ c = '\n'

/-- The characters form a name: a letter, then name characters. -/
def Legal : List Char → Prop
  | [] => False
  | c :: cs => Letter c ∧ ∀ d ∈ cs, NameChar d

/-- The characters are all blanks. -/
def Blanks (cs : List Char) : Prop := ∀ c ∈ cs, Blank c

/-- The text `<n/>`. -/
def selfClosingText (n : List Char) : List Char := '<' :: n ++ ['/', '>']

/-- The text `<n>`. -/
def openingText (n : List Char) : List Char := '<' :: n ++ ['>']

/-- The text `</n>`. -/
def closingText (n : List Char) : List Char := '<' :: '/' :: n ++ ['>']

/-! ### The grammar -/

/-- Texts of the class `R` one after another, with blanks before, between and behind them. -/
inductive Spaced (R : List Char → Element → Prop) : List Char → List Element → Prop
  | nil {bs : List Char} : Blanks bs → Spaced R bs []
  | cons {bs cs ds : List Char} {e : Element} {es : List Element} :
      Blanks bs → R cs e → Spaced R ds es → Spaced R (bs ++ cs ++ ds) (e :: es)

/-- The characters are a written form of the element. -/
inductive Derives : List Char → Element → Prop
  | selfClosing {n : Name} :
      Legal n.text.toList → Derives (selfClosingText n.text.toList) (.selfClosing n)
  | container {n : Name} {cs : List Char} {es : List Element} :
      Legal n.text.toList → Spaced Derives cs es →
      Derives (openingText n.text.toList ++ cs ++ closingText n.text.toList) (.container n es)

/-- The characters are a written form of the element at top level, where an empty container may
also be written as a self-closing tag and a closing one. -/
inductive DerivesTop : List Char → Element → Prop
  | element {cs : List Char} {e : Element} : Derives cs e → DerivesTop cs e
  | closed {n : Name} {bs : List Char} :
      Legal n.text.toList → Blanks bs →
      DerivesTop (selfClosingText n.text.toList ++ bs ++ closingText n.text.toList)
        (.container n [])

/-- The characters are a written form of the document. -/
def DerivesDocument (cs : List Char) (d : Document) : Prop := Spaced DerivesTop cs d.elements

/-! ### The character classes of the parsers -/

theorem isNameStart_iff {c : Char} : Lexeme.isNameStart c = true ↔ Letter c := by
  show (decide (c.val ≥ 'A'.val ∧ c.val ≤ 'Z'.val) ||
    (decide (c.val ≥ 'a'.val) && decide (c.val ≤ 'z'.val))) = true ↔ Letter c
  simp only [Letter, Char.le_def, Bool.or_eq_true, decide_eq_true_eq, Bool.and_eq_true]

theorem isNameChar_iff {c : Char} : Lexeme.isNameChar c = true ↔ NameChar c := by
  have hletter : c.isAlpha = true ↔ Letter c := isNameStart_iff
  simp only [Lexeme.isNameChar, Char.isAlphanum, Bool.or_eq_true, hletter, Char.isDigit,
    Bool.and_eq_true, decide_eq_true_eq, NameChar, Char.le_def, or_assoc]

theorem isBlank_iff {c : Char} : Lexeme.isBlank c = true ↔ Blank c := by
  simp [Lexeme.isBlank, Blank, or_assoc]

instance (c : Char) : Decidable (Letter c) := decidable_of_decidable_of_iff isNameStart_iff

instance (c : Char) : Decidable (NameChar c) := decidable_of_decidable_of_iff isNameChar_iff

instance (c : Char) : Decidable (Blank c) := decidable_of_decidable_of_iff isBlank_iff

instance : DecidablePred Legal
  | [] => inferInstanceAs (Decidable False)
  | c :: cs =>
    have : Decidable (∀ d ∈ cs, NameChar d) := List.decidableBAll NameChar cs
    inferInstanceAs (Decidable (Letter c ∧ ∀ d ∈ cs, NameChar d))

theorem nameChar_of_letter {c : Char} (h : Letter c) : NameChar c := .inl h

/-! ### How a text begins -/

/-- The first character is one of the class `P`. -/
def Starts (P : Char → Prop) (cs : List Char) : Prop := ∃ c ∈ cs.head?, P c

@[simp] theorem not_starts_nil (P : Char → Prop) : ¬ Starts P [] := by
  simp [Starts]

@[simp] theorem starts_cons {P : Char → Prop} {c : Char} {cs : List Char} :
    Starts P (c :: cs) ↔ P c := by
  simp [Starts]

/-- The text begins like a tag that opens an element: `<` and a letter. -/
def TagBegins (cs : List Char) : Prop := ∃ rest, cs = '<' :: rest ∧ Starts Letter rest

/-- The name `m` is as long as it can be before `rest`. -/
structure LongestName (m rest : List Char) : Prop where
  legal : Legal m
  stops : ¬ Starts NameChar rest

theorem Legal.starts {m : List Char} (h : Legal m) (rest : List Char) :
    Starts Letter (m ++ rest) := by
  cases m with
  | nil => exact h.elim
  | cons c cs => exact starts_cons.2 h.1

theorem Legal.nameChar {m : List Char} (h : Legal m) : ∀ c ∈ m, NameChar c := by
  cases m with
  | nil => exact h.elim
  | cons c cs =>
    intro d hd
    rcases List.mem_cons.1 hd with rfl | hd
    · exact nameChar_of_letter h.1
    · exact h.2 d hd

theorem Legal.not_mem {m : List Char} (h : Legal m) {c : Char} (hc : ¬ NameChar c) : c ∉ m :=
  fun hmem => hc (h.nameChar c hmem)

theorem Legal.ne_nil {m : List Char} (h : Legal m) : m ≠ [] := by
  rintro rfl
  exact h

/-- Legal characters are the text of a name. -/
theorem Legal.exists_name {m : List Char} (h : Legal m) : ∃ n : Name, n.text.toList = m := by
  refine ⟨⟨String.ofList m, ?_⟩, String.toList_ofList⟩
  intro hempty
  have htoList := congrArg String.toList hempty
  rw [String.toList_ofList] at htoList
  exact h.ne_nil htoList

/-- Characters of one class in front of a text that does not begin with one are found by
`takeWhile`. -/
theorem takeWhile_of_stops {P : Char → Prop} {test : Char → Bool}
    (htest : ∀ {c}, test c = true ↔ P c) {cs rest : List Char} (hcs : ∀ c ∈ cs, P c)
    (hrest : ¬ Starts P rest) : (cs ++ rest).takeWhile test = cs := by
  have hstop : rest.takeWhile test = [] := by
    cases rest with
    | nil => rfl
    | cons c rest =>
      have hc : ¬ test c = true := fun h => hrest (starts_cons.2 (htest.1 h))
      simp [hc]
  rw [List.takeWhile_append_of_pos fun c hc => htest.2 (hcs c hc), hstop, List.append_nil]

/-- Every text begins with a longest run of characters of a class. -/
theorem exists_run {P : Char → Prop} {test : Char → Bool} (htest : ∀ {c}, test c = true ↔ P c)
    (cs : List Char) : ∃ run rest, cs = run ++ rest ∧ (∀ c ∈ run, P c) ∧ ¬ Starts P rest := by
  refine ⟨cs.takeWhile test, cs.dropWhile test, List.takeWhile_append_dropWhile.symm, ?_, ?_⟩
  · intro c hc
    exact htest.1 (List.all_eq_true.1 List.all_takeWhile c hc)
  · rintro ⟨c, hc, hP⟩
    have hnot := List.head?_dropWhile_not test cs
    rw [Option.mem_def.1 hc] at hnot
    simp [htest.2 hP] at hnot

/-- Where a text stops being of a class, no characters of that class reach further. -/
theorem length_le_of_stops {P : Char → Prop} {cs rest other : List Char} (hother : ∀ c ∈ other, P c)
    (hbegins : other <+: cs ++ rest) (hstops : ¬ Starts P rest) : other.length ≤ cs.length := by
  refine Nat.le_of_not_lt fun hlonger => ?_
  -- Longer ones would go on with the first character of the rest.
  have hwithin : cs <+: other :=
    List.prefix_of_prefix_length_le (List.prefix_append cs rest) hbegins (by omega)
  obtain ⟨more, rfl⟩ := hwithin
  cases more with
  | nil => simp at hlonger
  | cons c more =>
    obtain ⟨tail, rfl⟩ := (List.prefix_append_right_inj cs).1 hbegins
    exact hstops (starts_cons.2 (hother c (by simp)))

/-- Where a text begins with a letter, a longest name begins. -/
theorem exists_longestName {cs : List Char} (h : Starts Letter cs) :
    ∃ m rest, cs = m ++ rest ∧ LongestName m rest := by
  obtain ⟨m, rest, rfl, hm, hstops⟩ := exists_run (P := NameChar) isNameChar_iff cs
  refine ⟨m, rest, rfl, ?_, hstops⟩
  cases m with
  | nil =>
    obtain ⟨c, hc, hletter⟩ := h
    exact hstops ⟨c, hc, nameChar_of_letter hletter⟩
  | cons c m => exact ⟨starts_cons.1 h, fun d hd => hm d (List.mem_cons_of_mem c hd)⟩

/-- Only one name is the longest. -/
theorem LongestName.unique {m m' rest rest' : List Char} (h : LongestName m rest)
    (h' : LongestName m' rest') (heq : m ++ rest = m' ++ rest') : m = m' ∧ rest = rest' := by
  have hm := takeWhile_of_stops isNameChar_iff h.legal.nameChar h.stops
  have hm' := takeWhile_of_stops isNameChar_iff h'.legal.nameChar h'.stops
  have hmm' : m = m' := by rw [← hm, heq, hm']
  subst hmm'
  exact ⟨rfl, List.append_cancel_left heq⟩

theorem Legal.longestName {m rest : List Char} (h : Legal m) {c : Char} (hc : ¬ NameChar c) :
    LongestName m (c :: rest) :=
  ⟨h, fun hstarts => hc (starts_cons.1 hstarts)⟩

/-! ### Derivations -/

variable {R : List Char → Element → Prop} {cs ds : List Char} {e : Element} {es fs : List Element}

theorem tagBegins_selfClosingText {n : List Char} (h : Legal n) (rest : List Char) :
    TagBegins (selfClosingText n ++ rest) :=
  ⟨n ++ ('/' :: '>' :: rest), by simp [selfClosingText], h.starts _⟩

theorem tagBegins_openingText {n : List Char} (h : Legal n) (rest : List Char) :
    TagBegins (openingText n ++ rest) :=
  ⟨n ++ ('>' :: rest), by simp [openingText], h.starts _⟩

/-- An element begins with `<` and a letter. -/
theorem Derives.tagBegins (h : Derives cs e) (rest : List Char) : TagBegins (cs ++ rest) := by
  cases h with
  | selfClosing hn => exact tagBegins_selfClosingText hn rest
  | container hn _ =>
    rw [List.append_assoc, List.append_assoc]
    exact tagBegins_openingText hn _

theorem DerivesTop.tagBegins (h : DerivesTop cs e) (rest : List Char) : TagBegins (cs ++ rest) := by
  cases h with
  | element he => exact he.tagBegins rest
  | closed hn _ =>
    rw [List.append_assoc, List.append_assoc]
    exact tagBegins_selfClosingText hn _

theorem TagBegins.not_blank (h : TagBegins cs) : ¬ Starts Blank cs := by
  obtain ⟨rest, rfl, -⟩ := h
  rw [starts_cons]
  decide

theorem not_blank_closingText (n rest : List Char) : ¬ Starts Blank (closingText n ++ rest) := by
  simp only [closingText, List.cons_append, starts_cons]
  decide

theorem TagBegins.ne_nil (h : TagBegins cs) : cs ≠ [] := by
  obtain ⟨rest, rfl, -⟩ := h
  exact List.cons_ne_nil _ _

/-- A tag that opens an element is no closing tag. -/
theorem TagBegins.not_closing (h : TagBegins cs) : ¬ ['<', '/'] <+: cs := by
  obtain ⟨rest, rfl, c, hc, hletter⟩ := h
  rintro ⟨rest', hrest'⟩
  have hrest : '/' :: rest' = rest := by simpa using hrest'
  subst hrest
  obtain rfl : '/' = c := by simpa using hc
  revert hletter
  decide

theorem Blanks.append (h : Blanks cs) (h' : Blanks ds) : Blanks (cs ++ ds) := by
  intro c hc
  rcases List.mem_append.1 hc with hc | hc
  · exact h c hc
  · exact h' c hc

theorem blanks_nil : Blanks [] := by
  intro c hc
  cases hc

/-- Blanks may be put in front. -/
theorem Spaced.blanks_append (hbs : Blanks cs) (h : Spaced R ds es) : Spaced R (cs ++ ds) es := by
  cases h with
  | nil hds => exact .nil (hbs.append hds)
  | cons hbs' he hes =>
    rw [← List.append_assoc, ← List.append_assoc]
    exact .cons (hbs.append hbs') he hes

/-- Two sequences in a row are one. -/
theorem Spaced.append (h : Spaced R cs es) (h' : Spaced R ds fs) :
    Spaced R (cs ++ ds) (es ++ fs) := by
  induction h with
  | nil hbs => exact h'.blanks_append hbs
  | cons hbs he _ ih =>
    rw [List.append_assoc]
    exact .cons hbs he ih

theorem Spaced.single (h : R cs e) : Spaced R cs [e] := by
  have hspaced := Spaced.cons blanks_nil h (.nil blanks_nil)
  simpa using hspaced

theorem Spaced.imp {R' : List Char → Element → Prop} (h : Spaced R cs es)
    (hR : ∀ {cs e}, R cs e → R' cs e) : Spaced R' cs es := by
  induction h with
  | nil hbs => exact .nil hbs
  | cons hbs he _ ih => exact .cons hbs (hR he) ih

/-- Every element of a sequence has its text in it. -/
theorem Spaced.exists_of_mem (h : Spaced R cs es) (he : e ∈ es) : ∃ ds, R ds e := by
  induction h with
  | nil => cases he
  | cons _ hf _ ih =>
    rcases List.mem_cons.1 he with rfl | he
    · exact ⟨_, hf⟩
    · exact ih he

end TagScript.Markup

namespace TagScript.Element

@[simp] theorem depthAll_append (es fs : List Element) :
    depthAll (es ++ fs) = max (depthAll es) (depthAll fs) := by
  induction es with
  | nil => simp [depthAll]
  | cons e es ih => simp [depthAll, ih, Nat.max_assoc]

end TagScript.Element
