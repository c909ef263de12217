import TagScript.Proofs.NestingLimit

/-!
# Progress of the two loops

Children of a container and top-level elements are read by loops that go on as long as an element
can be read. No round looks at how much text it has taken; the loops end because every element has
taken some.

* `Derives.four_mul_nodes_le`: a text has at least four characters for each element of the tree it
  derives.
* `childrenRound` and `topLevelRound` are single rounds of the two loops, and `Loops` says that a
  loop of such rounds is left after some number of them.
* `loops_of_progress`: a loop whose rounds take four characters each is left, and with the result of
  any function that does what a round says.
* `childrenOf_eq_resume` and `topLevelElements_eq_resume` say that the two readers do.
-/

namespace TagScript

open TagScript.Parser Lexeme Markup

theorem Element.nodes_pos (e : Element) : 0 < e.nodes := by
  cases e with
  | selfClosing n => exact Nat.one_pos
  | container n es => exact Nat.succ_pos _

/-! ### Four characters for each element -/

namespace Markup

variable {R : List Char → Element → Prop} {cs : List Char} {e : Element} {es : List Element}

theorem Spaced.four_mul_nodesAll_le (h : Spaced R cs es)
    (hR : ∀ e ∈ es, ∀ cs, R cs e → 4 * e.nodes ≤ cs.length) :
    4 * Element.nodesAll es ≤ cs.length := by
  induction h with
  | nil => exact Nat.zero_le _
  | cons _ he _ ih =>
    have hfirst := hR _ List.mem_cons_self _ he
    have hrest := ih fun e' he' => hR e' (List.mem_cons_of_mem _ he')
    simp only [Element.nodesAll, List.length_append]
    omega

/-- The shortest element is `<a/>`, and a container adds at least seven characters to its children. -/
theorem Derives.four_mul_nodes_le {cs : List Char} {e : Element} (h : Derives cs e) :
    4 * e.nodes ≤ cs.length := by
  cases h with
  | selfClosing hn =>
    have hpos := List.length_pos_iff.2 hn.ne_nil
    simp only [Element.nodes, selfClosingText, List.length_append, List.length_cons,
      List.length_nil]
    omega
  | container hn hes =>
    have hchildren := hes.four_mul_nodesAll_le fun child hchild ds hds =>
      Derives.four_mul_nodes_le hds
    have hpos := List.length_pos_iff.2 hn.ne_nil
    simp only [Element.nodes, openingText, closingText, List.length_append, List.length_cons,
      List.length_nil]
    omega
termination_by sizeOf e
decreasing_by
  subst_vars
  have hlt := List.sizeOf_lt_of_mem hchild
  simp only [Element.container.sizeOf_spec]
  omega

theorem DerivesTop.four_mul_nodes_le (h : DerivesTop cs e) : 4 * e.nodes ≤ cs.length := by
  cases h with
  | element h => exact h.four_mul_nodes_le
  | closed hn _ =>
    simp only [Element.nodes, Element.nodesAll, selfClosingText, closingText, List.length_append,
      List.length_cons, List.length_nil]
    omega

end Markup

namespace Grammar

variable {limit : Nat} {child : Parser Element} {name : String} {p q : Position} {e : Element}
  {es : List Element}

/-- The parser takes at least four characters for each element of the tree it reads. -/
def TakesFour (child : Parser Element) : Prop :=
  ∀ p q e, child p = .ok (.success q e) → ∃ cs, p.Passes cs q ∧ 4 * e.nodes ≤ cs.length

theorem TakesFour.offset_le (h : TakesFour child) (hchild : child p = .ok (.success q e)) :
    p.offset + 4 * e.nodes ≤ q.offset := by
  obtain ⟨cs, hpasses, hnodes⟩ := h p q e hchild
  have hoffset := hpasses.offset
  omega

theorem takesFour_element (limit : Nat) : TakesFour (element limit) := by
  intro p q e h
  obtain ⟨cs, hcs, hpasses, -⟩ := readsOnly_element limit p q e h
  exact ⟨cs, hpasses, hcs.four_mul_nodes_le⟩

theorem takesFour_topLevelElement (limit : Nat) : TakesFour (topLevelElement limit) := by
  intro p q e h
  obtain ⟨cs, hcs, hpasses, -⟩ := readsOnly_readsTop limit p q e h
  exact ⟨cs, hpasses, hcs.derives.four_mul_nodes_le⟩

theorem opening_of_openTag (h : openTag p = .ok (.success q name)) :
    ∃ n : Name, Legal n.text.toList ∧ p.Passes (openingText n.text.toList) q := by
  unfold openTag at h
  rcases marked "<" ">" p with hopening | ⟨hq, hstarts⟩ | ⟨hr, hn, hclosing⟩ | ⟨hr, hn, hs⟩
  · rw [tag_unopened "<" ">" hopening] at h
    cases h
  · obtain ⟨cause, htag⟩ := tag_nameless "<" ">" hq hstarts
    rw [htag] at h
    cases h
  · rw [tag_unfinished "<" ">" hr hn hclosing] at h
    cases h
  · rw [tag_complete "<" ">" hr hn hs] at h
    cases h
    exact ⟨_, hn.legal, hr.trans hs⟩

/-- A container is an element: where one can be read, there is no self-closing tag. -/
theorem element_of_containerTag (h : containerTag limit p = .ok (.success q e)) :
    element limit p = .ok (.success q e) := by
  obtain ⟨next, name, hopen⟩ : ∃ next name, openTag p = .ok (.success next name) := by
    rcases hopen : openTag p with fault | ⟨next, name⟩ | ⟨origin, failed⟩
    · cases limit <;> simp [containerTag, andThen, hopen] at h
    · exact ⟨next, name, rfl⟩
    · cases limit <;> simp [containerTag, andThen, hopen] at h
  obtain ⟨n, hn, hpasses⟩ := opening_of_openTag hopen
  obtain ⟨r, -, hslash, -⟩ := tags_of_opening hn hpasses
  simp only [element, either, hslash, h]

/-! ### Rounds of a loop -/

/-- What one round of a loop comes to: the loop is left with a result, or it goes on behind an
element. -/
inductive Round where
  | leave (result : Except Fault (Outcome (List Element)))
  | goOn (next : Position) (e : Element)

/-- The result of a round, if `loop` gives the result of the rounds behind it. -/
def Round.resume (loop : Position → Except Fault (Outcome (List Element))) :
    Round → Except Fault (Outcome (List Element))
  | leave result => result
  | goOn next e => (loop next).map (Outcome.map (e :: ·))

/-- The loop from `p` on is left with a result, after `count` rounds that go on. -/
inductive Loops (round : Position → Round) :
    Position → Nat → Except Fault (Outcome (List Element)) → Prop
  | leave {p : Position} {result : Except Fault (Outcome (List Element))} :
      round p = .leave result → Loops round p 0 result
  | goOn {p next : Position} {e : Element} {count : Nat}
      {result : Except Fault (Outcome (List Element))} :
      round p = .goOn next e → Loops round next count result →
      Loops round p (count + 1) (result.map (Outcome.map (e :: ·)))

/-- A loop whose rounds take at least four characters each is left, after no more rounds than there
is text for. -/
theorem loops_of_progress {round : Position → Round}
    {loop : Position → Except Fault (Outcome (List Element))}
    (hloop : ∀ p, loop p = (round p).resume loop)
    (hprogress : ∀ p q e, round p = .goOn q e → q.left + 4 ≤ p.left) (p : Position) :
    ∃ count, 4 * count ≤ p.left ∧ Loops round p count (loop p) := by
  -- The characters left are fewer in every round that goes on.
  induction hleft : p.left using Nat.strongRecOn generalizing p with
  | ind left ih =>
    subst hleft
    rw [hloop p]
    cases hround : round p with
    | leave result => exact ⟨0, Nat.zero_le _, .leave hround⟩
    | goOn next e =>
      have hnext := hprogress p next e hround
      obtain ⟨count, hcount, hrest⟩ := ih next.left (by omega) next rfl
      exact ⟨count + 1, by omega, .goOn hround hrest⟩

/-! ### The two loops -/

/-- One round of reading children: blanks, then the closing tag or a child. -/
def childrenRound (child : Parser Element) (name : String) (current : Position) : Round :=
  let here := skipBlanks current
  match closeTag name here with
  | .error fault => .leave (.error fault)
  | .ok (.success next _) => .leave (.ok (.success next []))
  | .ok (.failure _ unclosed) =>
    match child here with
    | .error fault => .leave (.error fault)
    | .ok (.failure _ broken) =>
      .leave (.ok (.failure current (if tagStart.accepts here then broken else unclosed)))
    | .ok (.success next e) => .goOn next e

/-- One round of reading a document: blanks, then the end of the text or an element. -/
def topLevelRound (limit : Nat) (current : Position) : Round :=
  let here := skipBlanks current
  if here.atEnd then .leave (.ok (.success here []))
  else
    match topLevelElement limit here with
    | .error .nestingExhausted => .leave (.ok (.failure current (tooDeep here)))
    | .error fault => .leave (.error fault)
    | .ok (.failure _ failed) => .leave (.ok (.failure current (leftOver here failed)))
    | .ok (.success next e) => .goOn next e

theorem child_of_childrenRound (h : childrenRound child name p = .goOn q e) :
    child (skipBlanks p) = .ok (.success q e) := by
  unfold childrenRound at h
  rcases hclose : closeTag name (skipBlanks p) with fault | ⟨next, found⟩ | ⟨origin, unclosed⟩ <;>
    simp only [hclose] at h
  · cases h
  · cases h
  · rcases hchild : child (skipBlanks p) with fault | ⟨next, e'⟩ | ⟨origin', broken⟩ <;>
      simp only [hchild] at h <;> cases h
    rfl

theorem element_of_topLevelRound (h : topLevelRound limit p = .goOn q e) :
    topLevelElement limit (skipBlanks p) = .ok (.success q e) := by
  unfold topLevelRound at h
  simp only at h
  split at h
  · cases h
  · rcases helement : topLevelElement limit (skipBlanks p) with
      fault | ⟨next, e'⟩ | ⟨origin, failed⟩
    · cases fault <;> simp [helement] at h
    · simp only [helement] at h
      cases h
      rfl
    · simp only [helement] at h
      cases h

/-- An element read behind blanks lies at least four characters further on. -/
theorem TakesFour.behind_blanks (h : TakesFour child)
    (hchild : child (skipBlanks p) = .ok (.success q e)) : ∃ cs, p.Passes cs q ∧ 4 ≤ cs.length := by
  obtain ⟨bs, -, hskip, -⟩ := passes_skipBlanks p
  obtain ⟨cs, hpasses, hnodes⟩ := h _ q e hchild
  have hpos := e.nodes_pos
  refine ⟨bs ++ cs, hskip.trans hpasses, ?_⟩
  rw [List.length_append]
  omega

theorem TakesFour.left_le (h : TakesFour child)
    (hchild : child (skipBlanks p) = .ok (.success q e)) : q.left + 4 ≤ p.left := by
  obtain ⟨cs, hpasses, hfour⟩ := h.behind_blanks hchild
  have hleft := hpasses.left
  omega

theorem TakesFour.offset_lt (h : TakesFour child)
    (hchild : child (skipBlanks p) = .ok (.success q e)) : p.offset < q.offset := by
  obtain ⟨cs, hpasses, hfour⟩ := h.behind_blanks hchild
  have hoffset := hpasses.offset
  omega

/-- Reading children does what its rounds say: a child always takes some text. -/
theorem childrenOf_eq_resume (h : TakesFour child) (name : String) (p : Position) :
    childrenOf child name p = (childrenRound child name p).resume (childrenOf child name) := by
  rw [childrenOf]
  unfold childrenRound
  dsimp only
  rcases closeTag name (skipBlanks p) with fault | ⟨next, found⟩ | ⟨origin, unclosed⟩
  · rfl
  · rfl
  · rcases hchild : child (skipBlanks p) with fault | ⟨next, e⟩ | ⟨origin', broken⟩
    · rfl
    · have hlt : next.left < p.left := by
        have hle := h.left_le hchild
        omega
      simp only [hlt, if_true, Round.resume]
      rcases childrenOf child name next with fault | outcome <;> rfl
    · rfl

/-- Reading a document does what its rounds say: an element always takes some text. -/
theorem topLevelElements_eq_resume (limit : Nat) (p : Position) :
    topLevelElements limit p = (topLevelRound limit p).resume (topLevelElements limit) := by
  rw [topLevelElements]
  unfold topLevelRound
  dsimp only
  split
  · rfl
  · rcases helement : topLevelElement limit (skipBlanks p) with fault | ⟨next, e⟩ | ⟨origin, failed⟩
    · cases fault <;> rfl
    · have hlt : next.left < p.left := by
        have hle := (takesFour_topLevelElement limit).left_le helement
        omega
      simp only [hlt, if_true, Round.resume]
      rcases topLevelElements limit next with fault | outcome <;> rfl
    · rfl

end Grammar

namespace Document

open Grammar

variable {limit : Nat} {text : String} {p : Position} {d : Document}

/-- A text that is read has at least four characters for each element of the document. -/
theorem four_mul_nodesAll_le (h : read limit text = .ok (.success p d)) :
    4 * Element.nodesAll d.elements ≤ text.length := by
  obtain ⟨es, last, hrounds, hend⟩ := topLevelElements_ends limit (.start text)
  rw [topLevelElements_of_success h] at hend
  cases hend with
  | finished =>
    obtain ⟨bs, hbs, hskip, -⟩ := passes_skipBlanks last
    obtain ⟨cs, hcs, hpasses, -⟩ := hrounds.spaced (readsOnly_readsTop limit) hbs hskip
    have hnodes := hcs.four_mul_nodesAll_le fun e _ cs he => he.derives.four_mul_nodes_le
    have hlength := congrArg List.length hpasses.after
    have htext : (Position.start text).after.length = text.length := String.length_toList
    rw [htext, List.length_append] at hlength
    omega

/-- **The loops make progress and end.** Reading an element, a container or a top-level element with
a tree of `n` elements takes at least `4 * n` characters. Every round of the two loops that goes on
therefore moves forward, and from every position, whatever the text is, the loops are left after at
most a quarter as many rounds as there are characters, with the results of the readers. A document
has at most a quarter as many elements, at all levels together, as its text has characters. -/
theorem loops_advance_and_end (limit : Nat) :
    (∀ (p q : Position) (e : Element),
      (element limit p = .ok (.success q e) ∨ containerTag limit p = .ok (.success q e) ∨
        topLevelElement limit p = .ok (.success q e)) →
      p.offset + 4 * e.nodes ≤ q.offset) ∧
    (∀ (name : String) (p q : Position) (e : Element),
      childrenRound (element limit) name p = .goOn q e → p.offset < q.offset) ∧
    (∀ (p q : Position) (e : Element), topLevelRound limit p = .goOn q e → p.offset < q.offset) ∧
    (∀ (name : String) (p : Position), ∃ count, 4 * count ≤ p.left ∧
      Loops (childrenRound (element limit) name) p count (childrenOf (element limit) name p)) ∧
    (∀ p : Position, ∃ count, 4 * count ≤ p.left ∧
      Loops (topLevelRound limit) p count (topLevelElements limit p)) ∧
    ∀ (text : String) (p : Position) (d : Document), read limit text = .ok (.success p d) →
      4 * Element.nodesAll d.elements ≤ text.length := by
  have helement := takesFour_element limit
  have htop := takesFour_topLevelElement limit
  refine ⟨?_, ?_, ?_, ?_, ?_, fun _ _ _ => four_mul_nodesAll_le⟩
  · rintro p q e (h | h | h)
    · exact helement.offset_le h
    · exact helement.offset_le (element_of_containerTag h)
    · exact htop.offset_le h
  · intro name p q e h
    exact helement.offset_lt (child_of_childrenRound h)
  · intro p q e h
    exact htop.offset_lt (element_of_topLevelRound h)
  · intro name p
    exact loops_of_progress (childrenOf_eq_resume helement name)
      (fun p q e h => helement.left_le (child_of_childrenRound h)) p
  · intro p
    exact loops_of_progress (topLevelElements_eq_resume limit)
      (fun p q e h => htop.left_le (element_of_topLevelRound h)) p

/-- The three elements of `<a/><b><c/></b>` fit into its fifteen characters, and reading
`<a/> <b><c/>`, where a container is left open, is left after at most three rounds. -/
theorem loops_end_on_read_and_on_broken_text :
    (∃ p d, read nestingLimit "<a/><b><c/></b>" = .ok (.success p d) ∧
      Element.nodesAll d.elements = 3 ∧ 4 * 3 ≤ "<a/><b><c/></b>".length) ∧
    ∃ count, 4 * count ≤ 12 ∧
      Loops (topLevelRound nestingLimit) (.start "<a/> <b><c/>") count
        (topLevelElements nestingLimit (.start "<a/> <b><c/>")) := by
  constructor
  · have hview : ((read nestingLimit "<a/><b><c/></b>").toOption.bind Outcome.value?).map
        (fun d => Element.nodesAll d.elements) = some 3 := by decide +kernel
    obtain ⟨p, d, hread, hnodes⟩ := Outcome.exists_of_value? hview
    have hlength := (loops_advance_and_end nestingLimit).2.2.2.2.2 _ p d hread
    rw [hnodes] at hlength
    exact ⟨p, d, hread, hnodes, hlength⟩
  · exact (loops_advance_and_end nestingLimit).2.2.2.2.1 (.start "<a/> <b><c/>")

end Document

end TagScript
