import TagScript.Grammar
import TagScript.Proofs.Derivation
import TagScript.Proofs.Passage

/-!
# How blanks, names and tags are read

* `skipBlanks` passes over the longest run of blanks and `name` over the longest name.
* `Marked` sorts texts by how far they go towards a name between two marks, and `tag` has one outcome
  for each sort.
* `ClosingReading` lists the five outcomes of reading a closing tag.
* `Beginning` sorts texts by how they begin as an element; `element_ends` says what `element` comes
  to for each sort.
-/

namespace TagScript

open TagScript.Parser Lexeme Markup

namespace Parser

variable {p q : Position} {s : String}

theorem literal_of_passes (h : p.Passes s.toList q) : literal s p = .ok (.success q s) := by
  have hprefix : s.toList <+: p.after := ⟨q.after, h.after.symm⟩
  rw [literal_of_prefixed hprefix, ← String.length_toList, h.eq_advance]

/-- Reading characters of a class passes over them up to where the text stops being of it. -/
theorem chain_of_stops {P : Char → Prop} {test : Char → Bool} (htest : ∀ {c}, test c = true ↔ P c)
    (expected : Option String) {cs : List Char} (hcs : ∀ c ∈ cs, P c) (h : p.Passes cs q)
    (hstops : ¬ Starts P q.after) : chain (anyChar.filter test expected) p = .ok (q, cs) := by
  have htake : p.after.takeWhile test = cs := by
    rw [h.after]
    exact takeWhile_of_stops htest hcs hstops
  rw [chain_filter_anyChar, htake, h.eq_advance]

theorem filter_anyChar_of_not_starts {P : Char → Prop} {test : Char → Bool}
    (htest : ∀ {c}, test c = true ↔ P c) (expected : Option String) (h : ¬ Starts P p.after) :
    ∃ failed, anyChar.filter test expected p = .ok (.failure p failed) := by
  refine filter_anyChar_of_stops test expected fun c hc => ?_
  rw [Bool.eq_false_iff, Ne, htest]
  exact fun hP => h ⟨c, hc, hP⟩

end Parser

namespace Lexeme

variable {p q : Position}

/-! ### Blanks and names -/

theorem chain_blank {bs : List Char} (hbs : Blanks bs) (h : p.Passes bs q)
    (hstops : ¬ Starts Blank q.after) : chain blank p = .ok (q, bs) :=
  chain_of_stops isBlank_iff _ hbs h hstops

theorem skipBlanks_of_passes {bs : List Char} (hbs : Blanks bs) (h : p.Passes bs q)
    (hstops : ¬ Starts Blank q.after) : skipBlanks p = q := by
  simp only [skipBlanks, blanks, zeroOrMore, chain_blank hbs h hstops, Outcome.position]

/-- Skipping blanks passes over blanks and stops before anything else. -/
theorem passes_skipBlanks (p : Position) :
    ∃ bs, Blanks bs ∧ p.Passes bs (skipBlanks p) ∧ ¬ Starts Blank (skipBlanks p).after := by
  obtain ⟨bs, rest, hafter, hbs, hstops⟩ := exists_run (P := Blank) isBlank_iff p.after
  obtain ⟨q, hq, rfl⟩ := Position.exists_passes hafter
  rw [skipBlanks_of_passes hbs hq hstops]
  exact ⟨bs, hbs, hq, hstops⟩

theorem name_of_passes {m : List Char} (hm : LongestName m q.after) (h : p.Passes m q) :
    name p = .ok (.success q (String.ofList m)) := by
  cases m with
  | nil => exact hm.legal.elim
  | cons c cs =>
    have hafter : p.after = c :: (cs ++ q.after) := h.after
    have hfirst := filter_anyChar_of_cons (some "letter") hafter (isNameStart_iff.2 hm.legal.1)
    -- The repetition takes the remaining name characters, as many as there are.
    obtain ⟨r, hr, hrest⟩ : ∃ r, p.Passes [c] r ∧ r.Passes cs q := h.split
    obtain rfl : p.advance 1 = r := hr.eq_advance
    have hmany : chain (anyChar.filter isNameChar (some "name character")) (p.advance 1) =
        .ok (q, cs) :=
      chain_of_stops isNameChar_iff _ hm.legal.2 hrest hm.stops
    simp [name, label, Parser.map, Parser.mapM, pair, hfirst, zeroOrMore, hmany]

theorem name_of_not_starts (h : ¬ Starts Letter p.after) :
    ∃ cause, name p =
      .ok (.failure p (failureAt p .expectedIdentifier (some "identifier") (some cause))) := by
  obtain ⟨failed, hfailed⟩ : ∃ failed,
      anyChar.filter isNameStart (some "letter") p = .ok (.failure p failed) :=
    filter_anyChar_of_not_starts isNameStart_iff _ h
  refine ⟨failed, ?_⟩
  simp [name, label, Parser.map, Parser.mapM, pair, hfailed]

end Lexeme

namespace Grammar

variable {p q : Position}

/-! ### Tags -/

section Marks

variable (opening closing : String) {n : Name}

theorem tag_complete {r s : Position} (hr : p.Passes (opening.toList ++ n.text.toList) r)
    (hn : LongestName n.text.toList r.after) (hs : r.Passes closing.toList s) :
    tag opening closing p = .ok (.success s n.text) := by
  obtain ⟨q, hq, hqr⟩ := hr.split
  have hname := name_of_passes hn hqr
  rw [String.ofList_toList] at hname
  simp [tag, right, left, Parser.map, Parser.mapM, pair, literal_of_passes hq, hname,
    literal_of_passes hs]

theorem tag_unfinished {r : Position} (hr : p.Passes (opening.toList ++ n.text.toList) r)
    (hn : LongestName n.text.toList r.after) (hclosing : ¬ closing.toList <+: r.after) :
    tag opening closing p =
      .ok (.failure p (.plain .expectedLiteral r.offset (some closing)
        (some (r.peek closing.length)))) := by
  obtain ⟨q, hq, hqr⟩ := hr.split
  have hname := name_of_passes hn hqr
  rw [String.ofList_toList] at hname
  simp [tag, right, left, Parser.map, Parser.mapM, pair, literal_of_passes hq, hname,
    literal_of_not_prefixed hclosing]

theorem tag_nameless (hq : p.Passes opening.toList q) (hstarts : ¬ Starts Letter q.after) :
    ∃ cause, tag opening closing p =
      .ok (.failure p (failureAt q .expectedIdentifier (some "identifier") (some cause))) := by
  obtain ⟨cause, hname⟩ := name_of_not_starts hstarts
  refine ⟨cause, ?_⟩
  simp [tag, right, left, Parser.map, Parser.mapM, pair, literal_of_passes hq, hname]

theorem tag_unopened (hopening : ¬ opening.toList <+: p.after) :
    tag opening closing p =
      .ok (.failure p (.plain .expectedLiteral p.offset (some opening)
        (some (p.peek opening.length)))) := by
  simp [tag, right, Parser.map, Parser.mapM, pair, literal_of_not_prefixed hopening]

end Marks

/-- How a text goes on with an opening mark: there is none, no name stands behind it, or a longest
name does and a closing mark follows it or not. -/
inductive Marked (opening closing : String) (p : Position) : Prop
  | unopened : ¬ opening.toList <+: p.after → Marked opening closing p
  | nameless {q : Position} :
      p.Passes opening.toList q → ¬ Starts Letter q.after → Marked opening closing p
  | unfinished {r : Position} {n : Name} :
      p.Passes (opening.toList ++ n.text.toList) r → LongestName n.text.toList r.after →
      ¬ closing.toList <+: r.after → Marked opening closing p
  | complete {r s : Position} {n : Name} :
      p.Passes (opening.toList ++ n.text.toList) r → LongestName n.text.toList r.after →
      r.Passes closing.toList s → Marked opening closing p

theorem marked (opening closing : String) (p : Position) : Marked opening closing p := by
  by_cases hopening : opening.toList <+: p.after
  · obtain ⟨rest, hrest⟩ := hopening
    obtain ⟨q, hq, -⟩ := Position.exists_passes hrest.symm
    by_cases hstarts : Starts Letter q.after
    · obtain ⟨m, rest', hafter, hm⟩ := exists_longestName hstarts
      obtain ⟨n, rfl⟩ := hm.legal.exists_name
      obtain ⟨r, hr, rfl⟩ := Position.exists_passes hafter
      by_cases hclosing : closing.toList <+: r.after
      · obtain ⟨rest'', hrest''⟩ := hclosing
        obtain ⟨s, hs, -⟩ := Position.exists_passes hrest''.symm
        exact .complete (hq.trans hr) hm hs
      · exact .unfinished (hq.trans hr) hm hclosing
    · exact .nameless hq hstarts
  · exact .unopened hopening

/-! ### Closing tags -/

/-- The outcomes of reading the closing tag of a name at `p`. -/
inductive ClosingReading (name : String) (p : Position) : Outcome String → Prop
  | complete {q : Position} {n : Name} :
      n.text = name → Legal n.text.toList → p.Passes (closingText n.text.toList) q →
      ClosingReading name p (.success q name)
  | mismatch {q : Position} {n : Name} :
      n.text ≠ name → Legal n.text.toList → p.Passes (closingText n.text.toList) q →
      ClosingReading name p
        (.failure p (.plain .tagMismatch p.offset (some name) (some n.text)))
  | unopened :
      ¬ ['<', '/'] <+: p.after →
      ClosingReading name p
        (.failure p (.plain .expectedLiteral p.offset (some "</") (some (p.peek 2))))
  | nameless {q : Position} (cause : Failure) :
      p.Passes ['<', '/'] q → ¬ Starts Letter q.after →
      ClosingReading name p
        (.failure p (failureAt q .expectedIdentifier (some "identifier") (some cause)))
  | unfinished {r : Position} {n : Name} :
      p.Passes ('<' :: '/' :: n.text.toList) r → LongestName n.text.toList r.after →
      ¬ ['>'] <+: r.after →
      ClosingReading name p
        (.failure p (.plain .expectedLiteral r.offset (some ">") (some (r.peek 1))))

theorem ClosingReading.position_eq {name : String} {origin : Position} {failed : Failure}
    (h : ClosingReading name p (.failure origin failed)) : origin = p := by
  cases h <;> rfl

/-- Reading a closing tag has one of the five outcomes. -/
theorem closeTag_reading (name : String) (p : Position) :
    ∃ outcome, closeTag name p = .ok outcome ∧ ClosingReading name p outcome := by
  rcases marked "</" ">" p with hopening | ⟨hq, hstarts⟩ | ⟨hr, hn, hclosing⟩ | ⟨hr, hn, hs⟩
  · refine ⟨_, ?_, .unopened hopening⟩
    simp only [closeTag, closingName, tag_unopened "</" ">" hopening]
    rfl
  · obtain ⟨cause, htag⟩ := tag_nameless "</" ">" hq hstarts
    refine ⟨_, ?_, .nameless cause hq hstarts⟩
    simp only [closeTag, closingName, htag]
  · refine ⟨_, ?_, .unfinished hr hn hclosing⟩
    simp only [closeTag, closingName, tag_unfinished "</" ">" hr hn hclosing]
    rfl
  · rename_i r s n
    have hpasses : p.Passes (closingText n.text.toList) s := hr.trans hs
    simp only [closeTag, closingName, tag_complete "</" ">" hr hn hs]
    by_cases hname : n.text = name
    · subst hname
      exact ⟨_, if_pos rfl, .complete rfl hn.legal hpasses⟩
    · exact ⟨_, if_neg hname, .mismatch hname hn.legal hpasses⟩

/-! ### Elements by how they begin -/

/-- How a text begins as an element: with a self-closing tag, with an opening one, with a tag that
breaks off behind the name, or not like a tag. -/
inductive Beginning (p : Position) : Prop
  | selfClosing {q : Position} {n : Name} :
      Legal n.text.toList → p.Passes (selfClosingText n.text.toList) q → Beginning p
  | opening {q : Position} {n : Name} :
      Legal n.text.toList → p.Passes (openingText n.text.toList) q → Beginning p
  | broken {r : Position} {n : Name} :
      p.Passes ('<' :: n.text.toList) r → LongestName n.text.toList r.after →
      ¬ ['/', '>'] <+: r.after → ¬ ['>'] <+: r.after → Beginning p
  | other : ¬ TagBegins p.after → Beginning p

theorem not_tagBegins_of_unopened (h : ¬ "<".toList <+: p.after) : ¬ TagBegins p.after := by
  rintro ⟨rest, hrest, -⟩
  exact h ⟨rest, hrest.symm⟩

theorem not_tagBegins_of_nameless (hq : p.Passes "<".toList q) (h : ¬ Starts Letter q.after) :
    ¬ TagBegins p.after := by
  rintro ⟨rest, hrest, hstarts⟩
  rw [hq.after_eq hrest] at h
  exact h hstarts

theorem beginning (p : Position) : Beginning p := by
  rcases marked "<" "/>" p with hopening | ⟨hq, hstarts⟩ | ⟨hr, hn, hclosing⟩ | ⟨hr, hn, hs⟩
  · exact .other (not_tagBegins_of_unopened hopening)
  · exact .other (not_tagBegins_of_nameless hq hstarts)
  · rename_i r n
    -- The tag is not self-closing, which leaves `>` or nothing that ends it.
    by_cases hgt : ['>'] <+: r.after
    · obtain ⟨rest, hrest⟩ := hgt
      obtain ⟨s, hs, -⟩ := Position.exists_passes hrest.symm
      exact .opening hn.legal (hr.trans hs)
    · exact .broken hr hn hclosing hgt
  · exact .selfClosing hn.legal (hr.trans hs)

/-- A tag begins where `<` and a name can be read. -/
theorem accepts_tagStart_iff : tagStart.accepts p = true ↔ TagBegins p.after := by
  rcases marked "<" ">" p with hopening | ⟨hq, hstarts⟩ | ⟨hr, hn, -⟩ | ⟨hr, hn, -⟩
  · have hstart : tagStart.accepts p = false := by
      simp [accepts, tagStart, pair, literal_of_not_prefixed hopening]
    simp [hstart, not_tagBegins_of_unopened hopening]
  · obtain ⟨cause, hname⟩ := name_of_not_starts hstarts
    have hstart : tagStart.accepts p = false := by
      simp [accepts, tagStart, pair, literal_of_passes hq, hname]
    simp [hstart, not_tagBegins_of_nameless hq hstarts]
  all_goals
    obtain ⟨q, hq, hqr⟩ := hr.split
    have hstart : tagStart.accepts p = true := by
      simp [accepts, tagStart, pair, literal_of_passes hq, name_of_passes hn hqr]
    have hbegins : TagBegins p.after := ⟨q.after, hq.after, hqr.after ▸ hn.legal.starts _⟩
    simp [hstart, hbegins]

theorem accepts_tagStart_eq_false_iff : tagStart.accepts p = false ↔ ¬ TagBegins p.after := by
  rw [← accepts_tagStart_iff, Bool.not_eq_true]

/-- The failure at `r` for a tag that does not go on with `/>`. -/
def unslashed (r : Position) : Failure :=
  .plain .expectedLiteral r.offset (some "/>") (some (r.peek 2))

/-- The failure at `r` for a tag that does not end with `>`. -/
def unended (r : Position) : Failure :=
  .plain .expectedLiteral r.offset (some ">") (some (r.peek 1))

theorem selfClosing?_name (n : Name) : Element.selfClosing? n.text = .ok (.selfClosing n) := by
  simp [Element.selfClosing?, Name.ofText?, n.text_ne, Except.map]

theorem container?_name (n : Name) (es : List Element) :
    Element.container? n.text es = .ok (.container n es) := by
  simp [Element.container?, Name.ofText?, n.text_ne, Except.map]

section Dispatch

variable {r : Position} {n : Name}

/-- Behind `<` and a name, the mark `>` or `/` ends the name. -/
theorem longestName_of_passes {c : Char} {cs : List Char} (hn : Legal n.text.toList)
    (hc : ¬ NameChar c) (h : r.Passes (c :: cs) q) : LongestName n.text.toList r.after := by
  rw [h.after]
  exact hn.longestName hc

theorem selfClosingTag_unslashed (hr : p.Passes ('<' :: n.text.toList) r)
    (hn : LongestName n.text.toList r.after) (h : ¬ ['/', '>'] <+: r.after) :
    selfClosingTag p = .ok (.failure p (unslashed r)) := by
  simp only [selfClosingTag, Parser.mapM, tag_unfinished "<" "/>" hr hn h]
  rfl

theorem element_of_selfClosing (limit : Nat) (hn : Legal n.text.toList)
    (h : p.Passes (selfClosingText n.text.toList) q) :
    element limit p = .ok (.success q (.selfClosing n)) := by
  obtain ⟨r, hr, hs⟩ := h.split
  have hlongest := longestName_of_passes hn (by decide) hs
  simp only [element, either, selfClosingTag, Parser.mapM, tag_complete "<" "/>" hr hlongest hs,
    selfClosing?_name]

/-- At an opening tag the self-closing one fails behind the name. -/
theorem tags_of_opening (hn : Legal n.text.toList) (h : p.Passes (openingText n.text.toList) q) :
    ∃ r, p.Passes ('<' :: n.text.toList) r ∧
      selfClosingTag p = .ok (.failure p (unslashed r)) ∧ openTag p = .ok (.success q n.text) := by
  obtain ⟨r, hr, hs⟩ := h.split
  have hlongest := longestName_of_passes hn (by decide) hs
  have hslash : ¬ ['/', '>'] <+: r.after := by
    rw [hs.after]
    simp
  exact ⟨r, hr, selfClosingTag_unslashed hr hlongest hslash, tag_complete "<" ">" hr hlongest hs⟩

/-- An opening tag leads to the children; the failure to find `/>` stays the first alternative. -/
theorem element_of_opening (limit : Nat) (hn : Legal n.text.toList)
    (h : p.Passes (openingText n.text.toList) q) :
    ∃ r, p.Passes ('<' :: n.text.toList) r ∧
      element (limit + 1) p =
        match childrenOf (element limit) n.text q with
        | .error fault => .error fault
        | .ok (.success last es) => .ok (.success last (.container n es))
        | .ok (.failure _ failed) =>
          .ok (.failure p { failed with alternatives := [unslashed r, failed] }) := by
  obtain ⟨r, hr, hslash, hopen⟩ := tags_of_opening hn h
  refine ⟨r, hr, ?_⟩
  show either selfClosingTag (containerTag (limit + 1)) p = _
  simp only [either, hslash, containerTag_succ, andThen, hopen, containerBody]
  rcases childrenOf (element limit) n.text q with fault | ⟨last, es⟩ | ⟨origin, failed⟩
  · rfl
  · simp only [container?_name, Outcome.startingAt]
  · rfl

theorem element_zero_of_opening (hn : Legal n.text.toList)
    (h : p.Passes (openingText n.text.toList) q) : element 0 p = .error .nestingExhausted := by
  obtain ⟨r, -, hslash, hopen⟩ := tags_of_opening hn h
  simp only [element, either, hslash, containerTag, andThen, hopen, abort_apply]

theorem element_of_broken (limit : Nat) (hr : p.Passes ('<' :: n.text.toList) r)
    (hn : LongestName n.text.toList r.after) (hslash : ¬ ['/', '>'] <+: r.after)
    (hgt : ¬ ['>'] <+: r.after) :
    element limit p =
      .ok (.failure p { unended r with alternatives := [unslashed r, unended r] }) := by
  have hopen : openTag p = .ok (.failure p (unended r)) := tag_unfinished "<" ">" hr hn hgt
  have hcontainer : containerTag limit p = .ok (.failure p (unended r)) := by
    cases limit <;> simp only [containerTag, andThen, hopen]
  simp only [element, either, selfClosingTag_unslashed hr hn hslash, hcontainer]

theorem element_of_other (limit : Nat) (h : ¬ TagBegins p.after) :
    ∃ failed, element limit p = .ok (.failure p failed) := by
  have htag : ∀ closing, ∃ failed, tag "<" closing p = .ok (.failure p failed) := by
    intro closing
    rcases marked "<" closing p with hopening | ⟨hq, hstarts⟩ | ⟨hr, hn, -⟩ | ⟨hr, hn, -⟩
    · exact ⟨_, tag_unopened "<" closing hopening⟩
    · obtain ⟨cause, hq⟩ := tag_nameless "<" closing hq hstarts
      exact ⟨_, hq⟩
    -- A name behind `<` would make it the beginning of a tag.
    all_goals
      obtain ⟨q, hq, hqr⟩ := hr.split
      exact absurd ⟨q.after, hq.after, hqr.after ▸ hn.legal.starts _⟩ h
  obtain ⟨first, hfirst⟩ := htag "/>"
  obtain ⟨second, hsecond⟩ := htag ">"
  have hcontainer : containerTag limit p = .ok (.failure p second) := by
    cases limit <;> simp only [containerTag, andThen, openTag, hsecond]
  refine ⟨{ second with alternatives := [first, second] }, ?_⟩
  simp only [element, either, selfClosingTag, Parser.mapM, hfirst, hcontainer]

end Dispatch

/-- What reading an element at `p` comes to, by how the text begins there. -/
inductive ElementEnd (p : Position) : Nat → Except Fault (Outcome Element) → Prop
  | selfClosing {limit : Nat} {q : Position} {n : Name} :
      Legal n.text.toList → p.Passes (selfClosingText n.text.toList) q →
      ElementEnd p limit (.ok (.success q (.selfClosing n)))
  | container {limit : Nat} {q last : Position} {n : Name} {es : List Element} :
      Legal n.text.toList → p.Passes (openingText n.text.toList) q →
      childrenOf (element limit) n.text q = .ok (.success last es) →
      ElementEnd p (limit + 1) (.ok (.success last (.container n es)))
  | inside {limit : Nat} {q r origin : Position} {n : Name} {failed : Failure} :
      Legal n.text.toList → p.Passes (openingText n.text.toList) q →
      p.Passes ('<' :: n.text.toList) r →
      childrenOf (element limit) n.text q = .ok (.failure origin failed) →
      ElementEnd p (limit + 1)
        (.ok (.failure p { failed with alternatives := [unslashed r, failed] }))
  | fault {limit : Nat} {q : Position} {n : Name} {fault : Fault} :
      Legal n.text.toList → p.Passes (openingText n.text.toList) q →
      childrenOf (element limit) n.text q = .error fault →
      ElementEnd p (limit + 1) (.error fault)
  | tooDeep {q : Position} {n : Name} :
      Legal n.text.toList → p.Passes (openingText n.text.toList) q →
      ElementEnd p 0 (.error .nestingExhausted)
  | broken {limit : Nat} {r : Position} {n : Name} :
      p.Passes ('<' :: n.text.toList) r → LongestName n.text.toList r.after →
      ¬ ['/', '>'] <+: r.after → ¬ ['>'] <+: r.after →
      ElementEnd p limit
        (.ok (.failure p { unended r with alternatives := [unslashed r, unended r] }))
  | other {limit : Nat} (failed : Failure) :
      ¬ TagBegins p.after → ElementEnd p limit (.ok (.failure p failed))

theorem element_ends (limit : Nat) (p : Position) : ElementEnd p limit (element limit p) := by
  rcases beginning p with ⟨hn, h⟩ | ⟨hn, h⟩ | ⟨hr, hn, hslash, hgt⟩ | hother
  · rw [element_of_selfClosing limit hn h]
    exact .selfClosing hn h
  · rename_i q n
    cases limit with
    | zero =>
      rw [element_zero_of_opening hn h]
      exact .tooDeep hn h
    | succ limit =>
      obtain ⟨r, hr, helement⟩ := element_of_opening limit hn h
      rw [helement]
      rcases hc : childrenOf (element limit) n.text q with fault | ⟨last, es⟩ | ⟨origin, failed⟩
      · exact .fault hn h hc
      · exact .container hn h hc
      · exact .inside hn h hr hc
  · rw [element_of_broken limit hr hn hslash hgt]
    exact .broken hr hn hslash hgt
  · obtain ⟨failed, hfailed⟩ := element_of_other limit hother
    rw [hfailed]
    exact .other failed hother

end Grammar

end TagScript
