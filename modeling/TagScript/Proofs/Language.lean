import TagScript.Proofs.Rounds
import TagScript.Proofs.Tags

/-!
# Reading is deriving

The parsers of elements and documents read exactly what the grammar derives, as far as containers
stand no deeper than the limit.

* `ReadsOnly child R limit` says that `child` reads texts of the class `R` and no others;
  `readsOnly_element` and `readsOnly_topLevelElement` go by induction on the limit.
* `childrenOf_of_spaced` and `topLevelElements_of_spaced` say that reading a text and then what
  follows is reading what follows, with the elements of the text in front.
* `ReadsTop limit` is the class of texts that are read as one top-level element wherever they stand;
  `spaced_readsTop` says that it holds what is derived within the limit.
* `Document.derives_of_read` and `Document.read_of_derives` are the two directions for whole texts.
-/

namespace TagScript.Grammar

open TagScript.Parser Lexeme Markup

/-! ### What is read is derived -/

/-- The parser reads nothing but texts of the class `R`, no deeper than `limit`. -/
def ReadsOnly (child : Parser Element) (R : List Char → Element → Prop) (limit : Nat) : Prop :=
  ∀ p q e, child p = .ok (.success q e) → ∃ cs, R cs e ∧ p.Passes cs q ∧ e.depth ≤ limit

variable {child : Parser Element} {R : List Char → Element → Prop} {limit : Nat}
  {p q r : Position} {n : Name} {e : Element} {es : List Element}

/-- Rounds of reading derive a sequence, with the blanks behind the last round taken along. -/
theorem Rounds.spaced (hchild : ReadsOnly child R limit) (h : Rounds child p es q)
    {bs : List Char} (hbs : Blanks bs) (hr : q.Passes bs r) :
    ∃ cs, Spaced R cs es ∧ p.Passes cs r ∧ Element.depthAll es ≤ limit := by
  induction h with
  | nil p => exact ⟨bs, .nil hbs, hr, Nat.zero_le _⟩
  | @cons p _ _ e es he _ _ ih =>
    obtain ⟨ds, hds, hpasses, hdepth⟩ := ih hr
    obtain ⟨front, hfront, hskip, -⟩ := passes_skipBlanks p
    obtain ⟨cs, hcs, hcspasses, hcsdepth⟩ := hchild _ _ _ he
    refine ⟨front ++ cs ++ ds, .cons hfront hcs hds, (hskip.trans hcspasses).trans hpasses, ?_⟩
    simp only [Element.depthAll]
    omega

theorem closeTag_success {name found : String} (h : closeTag name p = .ok (.success q found)) :
    ∃ n : Name, n.text = name ∧ Legal n.text.toList ∧ p.Passes (closingText n.text.toList) q := by
  obtain ⟨outcome, hclose, hreading⟩ := closeTag_reading name p
  rw [hclose] at h
  cases h
  cases hreading with
  | complete hname hn hpasses => exact ⟨_, hname, hn, hpasses⟩

theorem childrenOf_success (hchild : ReadsOnly child Derives limit)
    (h : childrenOf child n.text p = .ok (.success q es)) :
    ∃ cs, Spaced Derives cs es ∧ p.Passes (cs ++ closingText n.text.toList) q ∧
      Element.depthAll es ≤ limit := by
  obtain ⟨es', last, hrounds, hend⟩ := childrenOf_ends child n.text p
  rw [h] at hend
  cases hend with
  | closed hclose =>
    obtain ⟨bs, hbs, hskip, -⟩ := passes_skipBlanks last
    obtain ⟨cs, hcs, hpasses, hdepth⟩ := hrounds.spaced hchild hbs hskip
    obtain ⟨m, hm, -, hclosing⟩ := closeTag_success hclose
    rw [hm] at hclosing
    exact ⟨cs, hcs, hpasses.trans hclosing, hdepth⟩

/-- An element that is read is derived: the children of a container are read one level further in. -/
theorem readsOnly_element (limit : Nat) : ReadsOnly (element limit) Derives limit := by
  induction limit using Nat.strongRecOn with
  | ind limit ih =>
    intro p q e h
    have hend := element_ends limit p
    rw [h] at hend
    cases hend with
    | selfClosing hn hpasses => exact ⟨_, .selfClosing hn, hpasses, Nat.zero_le _⟩
    | container hn hpasses hc =>
      obtain ⟨cs, hcs, hchildren, hdepth⟩ := childrenOf_success (ih _ (Nat.lt_succ_self _)) hc
      refine ⟨_, .container hn hcs, ?_, Nat.succ_le_succ hdepth⟩
      rw [List.append_assoc]
      exact hpasses.trans hchildren

/-- Reading children meets no faults but those of reading a child. -/
theorem exists_of_childrenOf_fault {name : String} {fault : Fault}
    (h : childrenOf child name p = .error fault) : ∃ q, child q = .error fault := by
  obtain ⟨es, last, -, hend⟩ := childrenOf_ends child name p
  rw [h] at hend
  cases hend with
  | closingFault hclose =>
    obtain ⟨outcome, hread, -⟩ := closeTag_reading name (skipBlanks last)
    rw [hclose] at hread
    cases hread
  | childFault hchild => exact ⟨_, hchild⟩

/-- The only fault that reading an element meets is a container too deep. -/
theorem element_fault {fault : Fault} (h : element limit p = .error fault) :
    fault = .nestingExhausted := by
  induction limit using Nat.strongRecOn generalizing p with
  | ind limit ih =>
    have hend := element_ends limit p
    rw [h] at hend
    cases hend with
    | fault hn hpasses hc =>
      obtain ⟨q, hchild⟩ := exists_of_childrenOf_fault hc
      exact ih _ (Nat.lt_succ_self _) hchild
    | tooDeep => rfl

/-! ### Top level -/

/-- Behind a self-closing element only its own closing tag counts; anything else is left alone. -/
theorem closeTopLevel_selfClosing (n : Name) (p : Position) :
    closeTopLevel (.selfClosing n) p =
      match closeTag n.text (skipBlanks p) with
      | .ok (.success q _) => .ok (.success q (.container n []))
      | _ => .ok (.success p (.selfClosing n)) := by
  have hblanks : blanks p = .ok (.success (skipBlanks p) (p.after.takeWhile isBlank)) := by
    rw [blanks_eq, skipBlanks_eq]
  obtain ⟨outcome, hclose, hreading⟩ := closeTag_reading n.text (skipBlanks p)
  simp only [closeTopLevel, either, Parser.mapM, right, Parser.map, pair, hblanks, hclose]
  cases hreading with
  | complete => simp only [container?_name]
  | mismatch => rfl
  | unopened => rfl
  | nameless => rfl
  | unfinished => rfl

/-- What reading a top-level element comes to: the closing tag behind a self-closing one is taken
with it, and nothing but the element itself can fail. -/
inductive TopLevelElementEnd (limit : Nat) (p : Position) :
    Except Fault (Outcome Element) → Prop
  | plain {q : Position} {e : Element} :
      element limit p = .ok (.success q e) →
      TopLevelElementEnd limit p (.ok (.success q e))
  | closed {q r : Position} {n : Name} {found : String} :
      element limit p = .ok (.success q (.selfClosing n)) →
      closeTag n.text (skipBlanks q) = .ok (.success r found) →
      TopLevelElementEnd limit p (.ok (.success r (.container n [])))
  | failed {failed : Failure} :
      element limit p = .ok (.failure p failed) →
      TopLevelElementEnd limit p (.ok (.failure p failed))
  | fault {fault : Fault} :
      element limit p = .error fault → TopLevelElementEnd limit p (.error fault)

theorem topLevelElement_ends (limit : Nat) (p : Position) :
    TopLevelElementEnd limit p (topLevelElement limit p) := by
  rcases he : element limit p with fault | ⟨q, e⟩ | ⟨origin, failed⟩
  · simp only [topLevelElement, andThen, he]
    exact .fault he
  · cases e with
    | selfClosing n =>
      obtain ⟨outcome, hclose, -⟩ := closeTag_reading n.text (skipBlanks q)
      simp only [topLevelElement, andThen, he, closeTopLevel_selfClosing, hclose]
      cases outcome with
      | success r found => exact .closed he hclose
      | failure => exact .plain he
    | container n es =>
      simp only [topLevelElement, andThen, he]
      exact .plain he
  · have horigin : origin = p := by
      have hend := element_ends limit p
      rw [he] at hend
      cases hend <;> rfl
    subst horigin
    simp only [topLevelElement, andThen, he]
    exact .failed he

/-- A top-level element that is read is derived. The closing tag behind a self-closing one makes a
container of it, so the limit has to leave room for one. -/
theorem readsOnly_topLevelElement (hlimit : 0 < limit) :
    ReadsOnly (topLevelElement limit) DerivesTop limit := by
  intro p q e h
  have hend := topLevelElement_ends limit p
  rw [h] at hend
  cases hend with
  | plain he =>
    obtain ⟨cs, hcs, hpasses, hdepth⟩ := readsOnly_element limit p q e he
    exact ⟨cs, .element hcs, hpasses, hdepth⟩
  | @closed middle _ n _ he hclose =>
    obtain ⟨cs, hcs, hpasses, -⟩ := readsOnly_element limit p middle _ he
    obtain ⟨bs, hbs, hskip, -⟩ := passes_skipBlanks middle
    obtain ⟨m, hm, -, hclosing⟩ := closeTag_success hclose
    rw [hm] at hclosing
    cases hcs with
    | selfClosing hn =>
      exact ⟨_, .closed hn hbs, (hpasses.trans hskip).trans hclosing, hlimit⟩

/-! ### What is derived is read -/

/-- The parser makes progress whenever it succeeds. -/
theorem ReadsOnly.left_lt (hchild : ReadsOnly child R limit)
    (hR : ∀ {cs e}, R cs e → ∀ rest, TagBegins (cs ++ rest)) {q : Position}
    (h : child p = .ok (.success q e)) : q.left < p.left := by
  obtain ⟨cs, hcs, hpasses, -⟩ := hchild p q e h
  refine hpasses.left_lt ?_
  have hbegins := hR hcs []
  rw [List.append_nil] at hbegins
  exact hbegins.ne_nil

theorem skipBlanks_of_tagBegins {bs : List Char} (hbs : Blanks bs) (h : p.Passes bs q)
    (hbegins : TagBegins q.after) : skipBlanks p = q :=
  skipBlanks_of_passes hbs h hbegins.not_blank

/-- Blanks in front do not change where skipping them ends. -/
theorem skipBlanks_eq_skipBlanks {bs : List Char} (hbs : Blanks bs) (h : p.Passes bs q) :
    skipBlanks p = skipBlanks q := by
  obtain ⟨bs', hbs', hskip, hstops⟩ := passes_skipBlanks q
  exact skipBlanks_of_passes (hbs.append hbs') (h.trans hskip) hstops

theorem closeTag_of_passes (hn : Legal n.text.toList) (h : p.Passes (closingText n.text.toList) q) :
    closeTag n.text p = .ok (.success q n.text) := by
  obtain ⟨r, hr, hs⟩ := h.split
  have hlongest := longestName_of_passes hn (by decide) hs
  simp only [closeTag, closingName, tag_complete "</" ">" hr hlongest hs, if_true]

/-- Where the text does not go on with `</`, no closing tag can be read. -/
theorem closeTag_of_not_prefixed (name : String) (h : ¬ ['<', '/'] <+: p.after) :
    ∃ failed, closeTag name p = .ok (.failure p failed) := by
  simp only [closeTag, closingName, tag_unopened "</" ">" h]
  exact ⟨_, rfl⟩

/-- The result with `front` before the elements read, and with a failure handed back at `start`. -/
def behind (start : Position) (front : List Element) :
    Except Fault (Outcome (List Element)) → Except Fault (Outcome (List Element)) :=
  Except.map fun outcome => (outcome.map (front ++ ·)).startingAt start

theorem behind_cons (start : Position) (front : List Element) (e : Element)
    (result : Except Fault (Outcome (List Element))) :
    behind start (e :: front) result = (behind start front result).map (Outcome.map (e :: ·)) := by
  rcases result with fault | ⟨q, es⟩ | ⟨q, failed⟩ <;> rfl

theorem behind_nil_map (start : Position) (e : Element)
    (result : Except Fault (Outcome (List Element))) :
    behind start [] (result.map (Outcome.map (e :: ·))) =
      (behind start [] result).map (Outcome.map (e :: ·)) := by
  rcases result with fault | ⟨q, es⟩ | ⟨q, failed⟩ <;> rfl

/-- Blanks in front of the children change nothing but where a failure is handed back. -/
theorem childrenOf_of_blanks (hprogress : ∀ p q e, child p = .ok (.success q e) → q.left < p.left)
    {bs : List Char} (hbs : Blanks bs) (h : p.Passes bs q) (name : String) (start : Position) :
    behind start [] (childrenOf child name p) = behind start [] (childrenOf child name q) := by
  have hskip := skipBlanks_eq_skipBlanks hbs h
  obtain ⟨bs', -, hskip', -⟩ := passes_skipBlanks q
  conv =>
    lhs
    rw [childrenOf]
  conv =>
    rhs
    rw [childrenOf]
  simp only [hskip]
  rcases closeTag name (skipBlanks q) with fault | ⟨next, found⟩ | ⟨origin, unclosed⟩
  · rfl
  · rfl
  · rcases hc : child (skipBlanks q) with fault | ⟨next, e⟩ | ⟨origin', broken⟩
    · rfl
    · -- Both loops go on from `next`, which lies behind the blanks.
      have hlt := hprogress _ _ _ hc
      have hleft := h.left
      have hleft' := hskip'.left
      have hp : next.left < p.left := by omega
      have hq : next.left < q.left := by omega
      simp only [hp, hq, if_true]
    · rfl

/-- The parser reads every text of the class `R` that is no deeper than `limit`. -/
def ReadsAll (child : Parser Element) (R : List Char → Element → Prop) (limit : Nat) : Prop :=
  ∀ p q cs e, R cs e → e.depth ≤ limit → p.Passes cs q → child p = .ok (.success q e)

/-- Reading derived children and what follows is reading what follows, with the children in front. -/
theorem childrenOf_of_spaced (hall : ReadsAll child Derives limit)
    (honly : ReadsOnly child Derives limit) {cs : List Char} (hcs : Spaced Derives cs es)
    (hdepth : Element.depthAll es ≤ limit) (h : p.Passes cs q) (name : String) (start : Position) :
    behind start [] (childrenOf child name p) = behind start es (childrenOf child name q) := by
  have hprogress : ∀ p q e, child p = .ok (.success q e) → q.left < p.left :=
    fun _ _ _ he => honly.left_lt Derives.tagBegins he
  induction hcs generalizing p with
  | nil hbs => exact childrenOf_of_blanks hprogress hbs h name start
  | @cons bs cs ds e es hbs he hes ih =>
    rw [List.append_assoc] at h
    obtain ⟨here, hhere, hnext⟩ := h.split
    obtain ⟨next, hcs, hds⟩ := hnext.split
    simp only [Element.depthAll] at hdepth
    have hbegins : TagBegins here.after := by
      rw [hcs.after]
      exact he.tagBegins _
    have hskip := skipBlanks_of_tagBegins hbs hhere hbegins
    obtain ⟨failed, hclose⟩ := closeTag_of_not_prefixed name hbegins.not_closing
    have hchild := hall here next cs e he (by omega) hcs
    have hlt : next.left < p.left := by
      have hlt := hprogress _ _ _ hchild
      have hleft := hhere.left
      omega
    -- One round takes the first child; the others are taken behind it.
    subst hskip
    rw [childrenOf_round hclose hchild hlt, behind_nil_map, ih (by omega) hds, behind_cons]

/-- Children and their closing tag are read to the end of it. -/
theorem childrenOf_of_derived (hall : ReadsAll child Derives limit)
    (honly : ReadsOnly child Derives limit) {cs : List Char} (hcs : Spaced Derives cs es)
    (hdepth : Element.depthAll es ≤ limit) (hn : Legal n.text.toList)
    (h : p.Passes (cs ++ closingText n.text.toList) q) :
    childrenOf child n.text p = .ok (.success q es) := by
  obtain ⟨middle, hmiddle, hclosing⟩ := h.split
  have hstops : ¬ Starts Blank middle.after := by
    rw [hclosing.after]
    exact not_blank_closingText _ _
  have hskip := skipBlanks_of_passes blanks_nil (Position.passes_nil middle) hstops
  have hlast : childrenOf child n.text middle = .ok (.success q []) := by
    rw [childrenOf]
    simp only [hskip, closeTag_of_passes hn hclosing]
  have hread := childrenOf_of_spaced hall honly hcs hdepth hmiddle n.text p
  rw [hlast] at hread
  rcases hc : childrenOf child n.text p with fault | ⟨last, fs⟩ | ⟨origin, failed⟩ <;>
    rw [hc] at hread <;> cases hread
  simp

/-- An element that is derived is read, whatever follows it. -/
theorem readsAll_element (limit : Nat) : ReadsAll (element limit) Derives limit := by
  induction limit using Nat.strongRecOn with
  | ind limit ih =>
    intro p q cs e hcs hdepth h
    cases hcs with
    | selfClosing hn => exact element_of_selfClosing limit hn h
    | @container n cs es hn hes =>
      cases limit with
      | zero => simp [Element.depth] at hdepth
      | succ limit =>
        rw [List.append_assoc] at h
        obtain ⟨start, hstart, hrest⟩ := h.split
        obtain ⟨r, -, helement⟩ := element_of_opening limit hn hstart
        -- The children stand one level further in, where the limit is one less.
        have hall := ih limit (Nat.lt_succ_self limit)
        have hdepth : Element.depthAll es ≤ limit := Nat.le_of_succ_le_succ hdepth
        rw [helement, childrenOf_of_derived hall (readsOnly_element limit) hes hdepth hn hrest]

/-- Behind its blanks, the text does not go on with a closing tag. -/
def NoClosing (p : Position) : Prop := ¬ ['<', '/'] <+: (skipBlanks p).after

theorem noClosing_of_spaced {cs : List Char} (hcs : Spaced DerivesTop cs es) (h : p.Passes cs q)
    (hq : NoClosing q) : NoClosing p := by
  cases hcs with
  | nil hbs =>
    unfold NoClosing
    rw [skipBlanks_eq_skipBlanks hbs h]
    exact hq
  | @cons bs cs ds e es hbs he _ =>
    rw [List.append_assoc] at h
    obtain ⟨here, hhere, hnext⟩ := h.split
    have hbegins : TagBegins here.after := by
      rw [hnext.after, List.append_assoc]
      exact he.tagBegins _
    unfold NoClosing
    rw [skipBlanks_of_tagBegins hbs hhere hbegins]
    exact hbegins.not_closing

/-- An element is read at top level, unless a closing tag follows that might be its own. -/
theorem topLevelElement_of_element {cs : List Char} (hcs : Derives cs e) (hdepth : e.depth ≤ limit)
    (h : p.Passes cs q) (hq : NoClosing q) : topLevelElement limit p = .ok (.success q e) := by
  have helement := readsAll_element limit p q cs e hcs hdepth h
  cases e with
  | selfClosing n =>
    -- Nothing that follows can be taken for the closing tag of this element.
    obtain ⟨failed, hclose⟩ := closeTag_of_not_prefixed n.text hq
    simp only [topLevelElement, andThen, helement, closeTopLevel_selfClosing, hclose]
    rfl
  | container n es =>
    simp only [topLevelElement, andThen, helement]
    rfl

/-- A self-closing tag and its closing tag are read at top level, whatever the limit is. -/
theorem topLevelElement_of_closed (limit : Nat) {bs : List Char} (hn : Legal n.text.toList)
    (hbs : Blanks bs)
    (h : p.Passes (selfClosingText n.text.toList ++ bs ++ closingText n.text.toList) q) :
    topLevelElement limit p = .ok (.success q (.container n [])) := by
  rw [List.append_assoc] at h
  obtain ⟨middle, hmiddle, hrest⟩ := h.split
  obtain ⟨last, hlast, hclosing⟩ := hrest.split
  have hstops : ¬ Starts Blank last.after := by
    rw [hclosing.after]
    exact not_blank_closingText _ _
  have hskip := skipBlanks_of_passes hbs hlast hstops
  simp only [topLevelElement, andThen, element_of_selfClosing limit hn hmiddle,
    closeTopLevel_selfClosing, hskip, closeTag_of_passes hn hclosing]
  rfl

/-- Wherever the characters stand, they are read as the element at top level, unless a closing tag
follows that might be its own. -/
structure ReadsTop (limit : Nat) (cs : List Char) (e : Element) : Prop where
  derives : DerivesTop cs e
  read : ∀ {p q}, p.Passes cs q → NoClosing q → topLevelElement limit p = .ok (.success q e)

theorem readsTop_of_element {cs : List Char} (hcs : Derives cs e) (hdepth : e.depth ≤ limit) :
    ReadsTop limit cs e :=
  ⟨.element hcs, fun h hq => topLevelElement_of_element hcs hdepth h hq⟩

theorem readsTop_of_closed (limit : Nat) {bs : List Char} (hn : Legal n.text.toList)
    (hbs : Blanks bs) :
    ReadsTop limit (selfClosingText n.text.toList ++ bs ++ closingText n.text.toList)
      (.container n []) :=
  ⟨.closed hn hbs, fun h _ => topLevelElement_of_closed limit hn hbs h⟩

theorem readsTop_of_derived {cs : List Char} (hcs : DerivesTop cs e) (hdepth : e.depth ≤ limit) :
    ReadsTop limit cs e := by
  cases hcs with
  | element hcs => exact readsTop_of_element hcs hdepth
  | closed hn hbs => exact readsTop_of_closed limit hn hbs

/-- Blanks in front of a document change nothing but where a failure is handed back. -/
theorem topLevelElements_of_blanks
    (hprogress : ∀ p q e, topLevelElement limit p = .ok (.success q e) → q.left < p.left)
    {bs : List Char} (hbs : Blanks bs) (h : p.Passes bs q) (start : Position) :
    behind start [] (topLevelElements limit p) = behind start [] (topLevelElements limit q) := by
  have hskip := skipBlanks_eq_skipBlanks hbs h
  obtain ⟨bs', -, hskip', -⟩ := passes_skipBlanks q
  conv =>
    lhs
    rw [topLevelElements]
  conv =>
    rhs
    rw [topLevelElements]
  simp only [hskip]
  split
  · rfl
  · rcases hc : topLevelElement limit (skipBlanks q) with fault | ⟨next, e⟩ | ⟨origin, failed⟩
    · cases fault <;> rfl
    · have hlt := hprogress _ _ _ hc
      have hleft := h.left
      have hleft' := hskip'.left
      have hp : next.left < p.left := by omega
      have hq : next.left < q.left := by omega
      simp only [hp, hq, if_true]
    · rfl

/-- Reading elements and what follows is reading what follows, with the elements in front, unless
what follows might close the last of them. -/
theorem topLevelElements_of_readsTop
    (hprogress : ∀ p q e, topLevelElement limit p = .ok (.success q e) → q.left < p.left)
    {cs : List Char} (hcs : Spaced (ReadsTop limit) cs es) (h : p.Passes cs q) (hq : NoClosing q)
    (start : Position) :
    behind start [] (topLevelElements limit p) = behind start es (topLevelElements limit q) := by
  induction hcs generalizing p with
  | nil hbs => exact topLevelElements_of_blanks hprogress hbs h start
  | @cons bs cs ds e es hbs he hes ih =>
    rw [List.append_assoc] at h
    obtain ⟨here, hhere, hnext⟩ := h.split
    obtain ⟨next, hcs, hds⟩ := hnext.split
    have hbegins : TagBegins here.after := by
      rw [hcs.after]
      exact he.derives.tagBegins _
    have hskip := skipBlanks_of_tagBegins hbs hhere hbegins
    have hmore : here.atEnd = false := by
      simpa [Position.atEnd] using hbegins.ne_nil
    have hrest : Spaced DerivesTop ds es := hes.imp fun h => h.derives
    have helement : topLevelElement limit here = .ok (.success next e) :=
      he.read hcs (noClosing_of_spaced hrest hds hq)
    have hlt : next.left < p.left := by
      have hlt := hprogress _ _ _ helement
      have hleft := hhere.left
      omega
    subst hskip
    rw [topLevelElements_round hmore helement hlt, behind_nil_map, ih hds, behind_cons]

theorem spaced_readsTop {cs : List Char} (hcs : Spaced DerivesTop cs es)
    (hdepth : Element.depthAll es ≤ limit) : Spaced (ReadsTop limit) cs es := by
  induction hcs with
  | nil hbs => exact .nil hbs
  | cons hbs he _ ih =>
    simp only [Element.depthAll] at hdepth
    exact .cons hbs (readsTop_of_derived he (by omega)) (ih (by omega))

/-- Reading derived elements and what follows is reading what follows, with the elements in front,
unless what follows might close the last of them. -/
theorem topLevelElements_of_spaced (hlimit : 0 < limit) {cs : List Char}
    (hcs : Spaced DerivesTop cs es) (hdepth : Element.depthAll es ≤ limit) (h : p.Passes cs q)
    (hq : NoClosing q) (start : Position) :
    behind start [] (topLevelElements limit p) = behind start es (topLevelElements limit q) :=
  topLevelElements_of_readsTop
    (fun _ _ _ he => (readsOnly_topLevelElement hlimit).left_lt DerivesTop.tagBegins he)
    (spaced_readsTop hcs hdepth) h hq start

theorem skipBlanks_of_end (h : p.after = []) : skipBlanks p = p :=
  skipBlanks_of_passes blanks_nil (Position.passes_nil p) (by simp [h])

theorem noClosing_of_end (h : p.after = []) : NoClosing p := by
  unfold NoClosing
  rw [skipBlanks_of_end h, h]
  simp

/-- A document is read to the end, and nothing is read at the end. -/
theorem topLevelElements_of_end (limit : Nat) (h : p.after = []) :
    topLevelElements limit p = .ok (.success p []) := by
  rw [topLevelElements]
  simp [skipBlanks_of_end h, Position.atEnd, h]

theorem topLevelElements_success (hlimit : 0 < limit)
    (h : topLevelElements limit p = .ok (.success q es)) :
    Spaced DerivesTop p.after es ∧ p.Passes p.after q ∧ Element.depthAll es ≤ limit := by
  obtain ⟨es', last, hrounds, hend⟩ := topLevelElements_ends limit p
  rw [h] at hend
  cases hend with
  | finished hatEnd =>
    obtain ⟨bs, hbs, hskip, -⟩ := passes_skipBlanks last
    obtain ⟨cs, hcs, hpasses, hdepth⟩ :=
      hrounds.spaced (readsOnly_topLevelElement hlimit) hbs hskip
    have hafter : (skipBlanks last).after = [] := by simpa [Position.atEnd] using hatEnd
    have hcs' : p.after = cs := by rw [hpasses.after, hafter, List.append_nil]
    subst hcs'
    exact ⟨hcs, hpasses, hdepth⟩

/-- The assembler meets no fault: a container too deep is a failure, and no other fault arises. -/
theorem topLevelElements_total (limit : Nat) (p : Position) :
    ∃ outcome, topLevelElements limit p = .ok outcome := by
  obtain ⟨es, last, -, hend⟩ := topLevelElements_ends limit p
  generalize topLevelElements limit p = result at hend ⊢
  cases hend with
  | fault h hne =>
    -- The assembler lets other faults through, but an element meets none.
    have hend := topLevelElement_ends limit (skipBlanks last)
    rw [h] at hend
    cases hend with
    | fault h => exact absurd (element_fault h) hne
  | finished => exact ⟨_, rfl⟩
  | tooDeep => exact ⟨_, rfl⟩
  | failed => exact ⟨_, rfl⟩
  | idle => exact ⟨_, rfl⟩

end TagScript.Grammar

namespace TagScript.Document

open Grammar Markup

variable {limit : Nat} {text : String} {p : Position} {d : Document}

/-! ### Whole texts -/

theorem passes_end (text : String) :
    ∃ q, (Position.start text).Passes text.toList q ∧ q.after = [] :=
  Position.exists_passes (List.append_nil text.toList).symm

theorem read_eq (limit : Nat) (text : String) :
    read limit text =
      (behind (.start text) [] (topLevelElements limit (.start text))).map
        (Outcome.map Document.mk) := by
  simp only [read]
  rcases topLevelElements limit (.start text) with fault | ⟨q, es⟩ | ⟨q, failed⟩ <;> rfl

/-- A reading that succeeds gives the elements read. -/
theorem topLevelElements_of_success (h : read limit text = .ok (.success p d)) :
    topLevelElements limit (.start text) = .ok (.success p d.elements) := by
  rw [read_eq] at h
  rcases hr : topLevelElements limit (.start text) with fault | ⟨q, es⟩ | ⟨q, failed⟩ <;>
    rw [hr] at h <;> cases h
  rfl

/-- A reading that fails reports the failure met and is handed back at the start of the text. -/
theorem topLevelElements_of_failure {failed : Failure}
    (h : read limit text = .ok (.failure p failed)) :
    p = .start text ∧
      ∃ origin, topLevelElements limit (.start text) = .ok (.failure origin failed) := by
  rw [read_eq] at h
  rcases hr : topLevelElements limit (.start text) with fault | ⟨q, es⟩ | ⟨q, failed⟩ <;>
    rw [hr] at h <;> cases h
  exact ⟨rfl, q, rfl⟩

theorem read_of_failure {origin : Position} {failed : Failure}
    (h : topLevelElements limit (.start text) = .ok (.failure origin failed)) :
    read limit text = .ok (.failure (.start text) failed) := by
  rw [read_eq, h]
  rfl

/-- A reading that succeeds has derived the text and stands at its end. -/
theorem derives_of_read (hlimit : 0 < limit) (h : read limit text = .ok (.success p d)) :
    DerivesDocument text.toList d ∧ Element.depthAll d.elements ≤ limit ∧
      (Position.start text).Passes text.toList p := by
  obtain ⟨hspaced, hpasses, hdepth⟩ :=
    topLevelElements_success hlimit (topLevelElements_of_success h)
  exact ⟨hspaced, hdepth, hpasses⟩

/-- A text that is derived is read to its end. -/
theorem read_of_derives (hlimit : 0 < limit) (h : DerivesDocument text.toList d)
    (hdepth : Element.depthAll d.elements ≤ limit) :
    ∃ p, read limit text = .ok (.success p d) := by
  obtain ⟨q, hq, hend⟩ := passes_end text
  have hread := topLevelElements_of_spaced hlimit h hdepth hq (noClosing_of_end hend) (.start text)
  rw [topLevelElements_of_end limit hend] at hread
  refine ⟨q, ?_⟩
  rw [read_eq, hread]
  simp [behind, Except.map, Outcome.startingAt, Outcome.map]

theorem read_total (limit : Nat) (text : String) : ∃ outcome, read limit text = .ok outcome := by
  obtain ⟨outcome, houtcome⟩ := topLevelElements_total limit (.start text)
  rw [read_eq, houtcome]
  exact ⟨_, rfl⟩

/-- No text has two derivations to different documents: both would be what a reading with room for
them gives. -/
theorem derivesDocument_unique {cs : List Char} {d d' : Document} (h : DerivesDocument cs d)
    (h' : DerivesDocument cs d') : d = d' := by
  obtain ⟨text, rfl⟩ : ∃ text : String, cs = text.toList := ⟨String.ofList cs, by simp⟩
  let limit := max (Element.depthAll d.elements) (Element.depthAll d'.elements) + 1
  have hlimit : 0 < limit := Nat.succ_pos _
  obtain ⟨p, hp⟩ := read_of_derives hlimit h (by omega)
  obtain ⟨p', hp'⟩ := read_of_derives hlimit h' (by omega)
  rw [hp] at hp'
  cases hp'
  rfl

/-- **The language of documents.** Every text is read, as a success or a failure. It is read as the
document `d` exactly when the grammar derives `d` from it and no container stands deeper than the
limit, and then reading ends at the end of the text; in every other case the failure is handed back
at its start. No text derives two documents. -/
theorem tryParse_reads_exactly_the_derived (text : String) :
    (∃ outcome, tryParse text = .ok outcome ∧
      (∀ d, (∃ p, outcome = .success p d) ↔
        DerivesDocument text.toList d ∧ Element.depthAll d.elements ≤ nestingLimit) ∧
      (∀ p d, outcome = .success p d → p.text = text ∧ p.offset = text.length) ∧
      ∀ p failed, outcome = .failure p failed → p = .start text) ∧
    ∀ d d', DerivesDocument text.toList d → DerivesDocument text.toList d' → d = d' := by
  have hlimit : 0 < nestingLimit := by decide
  refine ⟨?_, fun d d' => derivesDocument_unique⟩
  obtain ⟨outcome, houtcome⟩ := read_total nestingLimit text
  refine ⟨outcome, houtcome, fun d => ⟨?_, ?_⟩, ?_, ?_⟩
  · rintro ⟨p, rfl⟩
    obtain ⟨hderives, hdepth, -⟩ := derives_of_read hlimit houtcome
    exact ⟨hderives, hdepth⟩
  · rintro ⟨hderives, hdepth⟩
    obtain ⟨p, hp⟩ := read_of_derives hlimit hderives hdepth
    rw [houtcome] at hp
    cases hp
    exact ⟨p, rfl⟩
  · rintro p d rfl
    obtain ⟨-, -, hpasses⟩ := derives_of_read hlimit houtcome
    constructor
    · rw [Position.text, hpasses.chars, Position.chars_start, String.ofList_toList]
    · rw [hpasses.offset, Position.offset_start, Nat.zero_add, String.length_toList]
  · rintro p failed rfl
    exact (topLevelElements_of_failure houtcome).1

end TagScript.Document
