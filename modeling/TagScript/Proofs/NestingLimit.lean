import TagScript.Proofs.Diagnosis

/-!
# The limit on nesting

Reading gives up where a container would stand deeper than the limit, and the whole top-level
element is then reported. Nothing else depends on the limit.

* `q.Extends p` says that `q` does what `p` does wherever `p` does not give up; raising the limit
  extends the parsers of elements, level by level.
* `read_eq_of_le`: a reading that does not give up is the same under every greater limit.
* `exists_of_tooDeep` says where a reading gave up, and `lt_depth_of_exhausted` that only depth is a
  reason to.
* `read_gives_up_only_on_depth` puts these together for whole texts.
-/

namespace TagScript

open TagScript.Parser Lexeme Markup Grammar

variable {α β : Type}

/-- The result is a failure that says that containers stand too deep. -/
def Outcome.TooDeep (result : Except Fault (Outcome α)) : Prop :=
  ∃ p failed, result = .ok (.failure p failed) ∧ failed.kind = .nestingTooDeep

/-! ### Raising the limit -/

namespace Parser

/-- Wherever `p` does not give up on nesting, `q` does the same. -/
def Extends (q p : Parser α) : Prop :=
  ∀ start, p start = .error .nestingExhausted ∨ q start = p start

theorem Extends.refl (p : Parser α) : p.Extends p := fun _ => .inr rfl

theorem extends_abort (q : Parser α) : q.Extends (abort .nestingExhausted) := fun _ => .inl rfl

theorem Extends.eq_of_ok {p q : Parser α} (h : q.Extends p) {start : Position} {outcome : Outcome α}
    (hp : p start = .ok outcome) : q start = .ok outcome := by
  rcases h start with hgave | heq
  · rw [hp] at hgave
    cases hgave
  · rw [heq, hp]

theorem Extends.either {p q q' : Parser α} (hq : q'.Extends q) :
    (Parser.either p q').Extends (Parser.either p q) := by
  intro start
  unfold Parser.either
  rcases p start with fault | ⟨next, v⟩ | ⟨origin, first⟩
  · exact .inr rfl
  · exact .inr rfl
  · rcases hq start with hgave | heq
    · exact .inl (by rw [hgave])
    · exact .inr (by rw [heq])

theorem Extends.andThen {p p' : Parser α} {f f' : α → Parser β} (hp : p'.Extends p)
    (hf : ∀ v, (f' v).Extends (f v)) : (p'.andThen f').Extends (p.andThen f) := by
  intro start
  unfold Parser.andThen
  rcases hp start with hgave | heq
  · exact .inl (by rw [hgave])
  · rw [heq]
    rcases p start with fault | ⟨next, v⟩ | ⟨origin, failed⟩
    · exact .inr rfl
    · rcases hf v next with hgave | heq
      · exact .inl (by simp only [hgave])
      · exact .inr (by simp only [heq])
    · exact .inr rfl

end Parser

namespace Grammar

variable {child child' : Parser Element} {limit limit' : Nat} {p q here origin : Position}
  {e : Element} {es : List Element} {failed : Failure}

/-- Children are read the same with an extended parser, unless the first one gives up on one. -/
theorem childrenOf_of_extends (hchild : child'.Extends child) (name : String) (p : Position) :
    childrenOf child name p = .error .nestingExhausted ∨
      childrenOf child' name p = childrenOf child name p := by
  induction hleft : p.left using Nat.strongRecOn generalizing p with
  | ind left ih =>
    subst hleft
    rw [childrenOf.eq_def child name p, childrenOf.eq_def child' name p]
    dsimp only
    rcases closeTag name (skipBlanks p) with fault | ⟨next, found⟩ | ⟨origin, unclosed⟩
    · exact .inr rfl
    · exact .inr rfl
    · rcases hchild (skipBlanks p) with hgave | heq
      · exact .inl (by simp only [hgave])
      · rw [heq]
        rcases child (skipBlanks p) with fault | ⟨next, e⟩ | ⟨origin', broken⟩
        · exact .inr rfl
        · by_cases hlt : next.left < p.left
          · simp only [hlt, if_true]
            rcases ih next.left hlt next rfl with hgave | heq
            · exact .inl (by rw [hgave])
            · exact .inr (by rw [heq])
          · exact .inr (by simp only [hlt, if_false])
        · exact .inr rfl

theorem extends_containerBody (hchild : child'.Extends child) (name : String) :
    (containerBody child' name).Extends (containerBody child name) := by
  intro start
  unfold containerBody
  rcases childrenOf_of_extends hchild name start with hgave | heq
  · exact .inl (by rw [hgave])
  · exact .inr (by rw [heq])

/-- A greater limit extends the parser of containers: at limit 0 that one gives up behind every
opening tag, and further out the level inside is extended. -/
theorem extends_containerTag (hle : limit ≤ limit') :
    (containerTag limit').Extends (containerTag limit) := by
  induction limit generalizing limit' with
  | zero => cases limit' <;> exact (Extends.refl openTag).andThen fun _ => extends_abort _
  | succ limit ih =>
    cases limit' with
    | zero => omega
    | succ limit' =>
      have hchild := (ih (Nat.le_of_succ_le_succ hle)).either (p := selfClosingTag)
      exact (Extends.refl openTag).andThen (extends_containerBody hchild)

theorem extends_topLevelElement (hle : limit ≤ limit') :
    (topLevelElement limit').Extends (topLevelElement limit) :=
  (extends_containerTag hle).either.andThen fun e => .refl (closeTopLevel e)

theorem Rounds.of_extends (hchild : child'.Extends child) (h : Rounds child p es q) :
    Rounds child' p es q := by
  induction h with
  | nil p => exact .nil p
  | cons he hlt _ ih => exact .cons (hchild.eq_of_ok he) hlt ih

/-- A document is read the same under a greater limit, unless reading gives up. -/
theorem topLevelElements_of_le (hle : limit ≤ limit') (p : Position) :
    Outcome.TooDeep (topLevelElements limit p) ∨
      topLevelElements limit' p = topLevelElements limit p := by
  induction hleft : p.left using Nat.strongRecOn generalizing p with
  | ind left ih =>
    subst hleft
    rw [topLevelElements.eq_def limit p, topLevelElements.eq_def limit' p]
    dsimp only
    cases (skipBlanks p).atEnd with
    | true => exact .inr rfl
    | false =>
      rcases extends_topLevelElement hle (skipBlanks p) with hgave | heq
      · rw [hgave]
        exact .inl ⟨_, _, rfl, rfl⟩
      · rw [heq]
        rcases topLevelElement limit (skipBlanks p) with fault | ⟨next, e⟩ | ⟨origin, failed⟩
        · exact .inr (by cases fault <;> rfl)
        · by_cases hlt : next.left < p.left
          · simp only [hlt, if_true]
            rcases ih next.left hlt next rfl with ⟨q, failed, hgave, hkind⟩ | heq
            · rw [hgave]
              exact .inl ⟨_, _, rfl, hkind⟩
            · exact .inr (by rw [heq])
          · exact .inr (by simp only [hlt, if_false])
        · exact .inr rfl

/-! ### Reading under any limit -/

/-- A top-level element that is read could be read anywhere under the same limit, which need not
leave room for a container: a self-closing tag and its closing tag are read under any. -/
theorem readsOnly_readsTop (limit : Nat) :
    ReadsOnly (topLevelElement limit) (ReadsTop limit) (limit + 1) := by
  intro p q e h
  have hend := topLevelElement_ends limit p
  rw [h] at hend
  cases hend with
  | plain he =>
    obtain ⟨cs, hcs, hpasses, hdepth⟩ := readsOnly_element limit p q e he
    exact ⟨cs, readsTop_of_element hcs hdepth, hpasses, by omega⟩
  | @closed middle _ n _ he hclose =>
    obtain ⟨cs, hcs, hpasses, -⟩ := readsOnly_element limit p middle _ he
    obtain ⟨bs, hbs, hskip, -⟩ := passes_skipBlanks middle
    obtain ⟨m, hm, -, hclosing⟩ := closeTag_success hclose
    rw [hm] at hclosing
    cases hcs with
    | selfClosing hn =>
      refine ⟨_, readsTop_of_closed limit hn hbs, (hpasses.trans hskip).trans hclosing, ?_⟩
      simp [Element.depth, Element.depthAll]

theorem topLevelElement_left_lt (h : topLevelElement limit p = .ok (.success q e)) :
    q.left < p.left :=
  (readsOnly_readsTop limit).left_lt (fun hcs => hcs.derives.tagBegins) h

/-- The rounds of reading a document put their elements in front of what is read behind them. -/
theorem topLevelElements_of_rounds (h : Rounds (topLevelElement limit) p es q) (start : Position) :
    behind start [] (topLevelElements limit p) = behind start es (topLevelElements limit q) := by
  induction h with
  | nil p => rfl
  | @cons p q r e es he hlt _ ih =>
    have hmore : (skipBlanks p).atEnd = false := by
      have hless := topLevelElement_left_lt he
      rw [(skipBlanks p).left_eq] at hless
      simp only [Position.atEnd, List.isEmpty_eq_false_iff]
      exact List.ne_nil_of_length_pos (by omega)
    rw [topLevelElements_round hmore he hlt, behind_nil_map, ih, behind_cons]

/-! ### Where reading gives up -/

theorem Breakdown.kind_ne_nestingTooDeep (h : Breakdown limit p failed) :
    failed.kind ≠ .nestingTooDeep := by
  cases h with
  | tag _ _ _ _ _ hechoes =>
    obtain ⟨tried, rfl⟩ := hechoes
    simp [unended, Failure.plain]
  | closing _ _ _ hreading hechoes =>
    obtain ⟨tried, rfl⟩ := hechoes
    cases hreading <;> simp [Failure.plain, failureAt]

/-- An element that breaks off behind elements that are read is reported for what breaks it off. -/
theorem leftOver_kind_ne_nestingTooDeep {cs : List Char} (hcs : Spaced DerivesTop cs es)
    (hbefore : here.before.reverse = cs)
    (h : topLevelElement limit here = .ok (.failure origin failed)) :
    (leftOver here failed).kind ≠ .nestingTooDeep := by
  have hend := topLevelElement_ends limit here
  rw [h] at hend
  cases hend with
  | failed helement =>
    by_cases hbegins : TagBegins here.after
    · simp only [leftOver, accepts_tagStart_iff.2 hbegins, if_true]
      -- No container is open before the element, so there is room for any number of them.
      have hopen : Unclosed (max limit (Element.depthAll es)) here.before.reverse [] :=
        .top (hbefore ▸ hcs) (Nat.le_max_right _ _)
      have hroom : ([] : List (List Char)).length + limit ≤ max limit (Element.depthAll es) := by
        rw [List.length_nil]
        omega
      obtain ⟨r, -, hbreakdown⟩ := element_breakdown hopen hroom hbegins helement
      exact hbreakdown.kind_ne_nestingTooDeep
    · have hstart := accepts_tagStart_eq_false_iff.2 hbegins
      simp [leftOver, hstart]

/-- Reading gives up behind an opening tag only. -/
theorem opening_of_exhausted (h : topLevelElement limit p = .error .nestingExhausted) :
    ∃ (n : Name) (q : Position), Legal n.text.toList ∧
      p.Passes (openingText n.text.toList) q := by
  have hend := topLevelElement_ends limit p
  rw [h] at hend
  cases hend with
  | fault hfault => exact opening_of_element_fault hfault

/-- Only a container that stands too deep makes reading give up: an element that is read under
another limit is deeper than this one. -/
theorem lt_depth_of_exhausted (hgave : topLevelElement limit p = .error .nestingExhausted)
    (h : topLevelElement limit' p = .ok (.success q e)) :
    (∃ cs, Derives cs e ∧ p.Passes cs q) ∧ limit < e.depth := by
  have hend := topLevelElement_ends limit p
  rw [hgave] at hend
  cases hend with
  | fault hfault =>
    have hend' := topLevelElement_ends limit' p
    rw [h] at hend'
    cases hend' with
    | plain he =>
      obtain ⟨cs, hcs, hpasses, -⟩ := readsOnly_element limit' p q e he
      refine ⟨⟨cs, hcs, hpasses⟩, Nat.lt_of_not_le fun hdepth => ?_⟩
      rw [readsAll_element limit p q cs e hcs hdepth hpasses] at hfault
      cases hfault
    | closed he _ =>
      -- A self-closing tag is read under every limit.
      obtain ⟨cs, hcs, hpasses, -⟩ := readsOnly_element limit' p _ _ he
      rw [readsAll_element limit p _ cs _ hcs (Nat.zero_le limit) hpasses] at hfault
      cases hfault

end Grammar

namespace Document

variable {limit limit' : Nat} {text : String} {p q : Position} {d : Document} {failed : Failure}

/-! ### Whole texts -/

/-- A reading that does not give up is the same under every greater limit. -/
theorem read_eq_of_le (hle : limit ≤ limit') (h : ¬ Outcome.TooDeep (read limit text)) :
    read limit' text = read limit text := by
  rw [read_eq, read_eq] at *
  rcases topLevelElements_of_le hle (.start text) with ⟨q, failed, hgave, hkind⟩ | heq
  · rw [hgave] at h
    exact absurd ⟨_, _, rfl, hkind⟩ h
  · rw [heq]

theorem read_of_readsTop {es : List Element} (h : Spaced (ReadsTop limit) text.toList es) :
    ∃ p, read limit text = .ok (.success p ⟨es⟩) := by
  obtain ⟨q, hq, hend⟩ := passes_end text
  have hread := topLevelElements_of_readsTop (fun _ _ _ he => topLevelElement_left_lt he) h hq
    (noClosing_of_end hend) (.start text)
  rw [topLevelElements_of_end limit hend] at hread
  refine ⟨q, ?_⟩
  rw [read_eq, hread]
  simp [behind, Except.map, Outcome.startingAt, Outcome.map]

/-- Reading gives up on a top-level element whose containers stand too deep, behind some elements
that are read. -/
theorem exists_of_tooDeep (h : read limit text = .ok (.failure p failed))
    (hkind : failed.kind = .nestingTooDeep) :
    ∃ es last cs, Rounds (topLevelElement limit) (.start text) es last ∧
      Spaced (ReadsTop limit) cs es ∧ (Position.start text).Passes cs (skipBlanks last) ∧
      topLevelElement limit (skipBlanks last) = .error .nestingExhausted ∧
      failed = tooDeep (skipBlanks last) := by
  obtain ⟨-, origin, hread⟩ := topLevelElements_of_failure h
  obtain ⟨es, last, hrounds, hend⟩ := topLevelElements_ends limit (.start text)
  obtain ⟨bs, hbs, hskip, -⟩ := passes_skipBlanks last
  obtain ⟨cs, hcs, hpasses, -⟩ := hrounds.spaced (readsOnly_readsTop limit) hbs hskip
  refine ⟨es, last, cs, hrounds, hcs, hpasses, ?_⟩
  rw [hread] at hend
  cases hend with
  | tooDeep hgave => exact ⟨hgave, rfl⟩
  | failed hmore hfailed =>
    have hderives : Spaced DerivesTop cs es := hcs.imp fun he => he.derives
    exact absurd hkind (leftOver_kind_ne_nestingTooDeep hderives hpasses.reverse_before hfailed)
  | idle hread hle =>
    have hlt := topLevelElement_left_lt hread
    have hleft := hskip.left
    omega

/-- Where a reading gave up, one under another limit reads the same elements first and then one that
is deeper than the first limit. -/
theorem exists_deeper_of_read {es : List Element} {last : Position}
    (hrounds : Rounds (topLevelElement limit) (.start text) es last)
    (hgave : topLevelElement limit (skipBlanks last) = .error .nestingExhausted)
    (hle : limit ≤ limit') (h : read limit' text = .ok (.success q d)) :
    ∃ e rest cs next, d.elements = es ++ e :: rest ∧ Derives cs e ∧
      (skipBlanks last).Passes cs next ∧ limit < e.depth := by
  have hbehind := topLevelElements_of_rounds (hrounds.of_extends (extends_topLevelElement hle))
    (.start text)
  rw [topLevelElements_of_success h] at hbehind
  obtain ⟨fs, last', hrounds', hend⟩ := topLevelElements_ends limit' last
  rcases hr : topLevelElements limit' last with fault | ⟨r, fs'⟩ | ⟨r, failed⟩ <;>
    rw [hr] at hbehind hend
  · cases hbehind
  · obtain ⟨-, helements⟩ := Outcome.success.inj (Except.ok.inj hbehind)
    cases hend with
    | finished hatEnd =>
      cases hrounds' with
      | nil =>
        -- The text would end where an opening tag stands.
        obtain ⟨n, next, -, hopening⟩ := opening_of_exhausted hgave
        rw [Position.atEnd, hopening.after] at hatEnd
        cases hatEnd
      | @cons _ next _ e rest he _ _ =>
        obtain ⟨⟨cs, hcs, hpasses⟩, hdepth⟩ := lt_depth_of_exhausted hgave he
        exact ⟨e, rest, cs, next, helements, hcs, hpasses, hdepth⟩
  · cases hbehind

/-- **The limit on nesting changes nothing but the too deep.** A reading that does not give up is
the same under every greater limit. One that gives up does so at the opening tag of a top-level
element behind a text that is read as a document, and reports the character there; if the text is
read as a document under any limit, that element is deeper than this one. So a document whose
containers stand no deeper than the limit is always read. -/
theorem read_gives_up_only_on_depth (limit : Nat) (text : String) :
    (∀ limit', limit ≤ limit' → ¬ Outcome.TooDeep (read limit text) →
      read limit' text = read limit text) ∧
    (∀ p failed, read limit text = .ok (.failure p failed) → failed.kind = .nestingTooDeep →
      ∃ before after front c, text.toList = before ++ after ∧
        (∃ q, read limit (String.ofList before) = .ok (.success q front)) ∧
        (∃ m, Legal m ∧ openingText m <+: after) ∧ after.head? = some c ∧
        failed = .plain .nestingTooDeep before.length none (some (String.singleton c)) ∧
        ∀ limit' q d, read limit' text = .ok (.success q d) →
          ∃ e rest cs, d.elements = front.elements ++ e :: rest ∧ Derives cs e ∧ cs <+: after ∧
            limit < e.depth) ∧
    ∀ d, DerivesDocument text.toList d → Element.depthAll d.elements ≤ limit →
      ∃ p, read limit text = .ok (.success p d) := by
  refine ⟨fun limit' hle h => read_eq_of_le hle h, fun p failed h hkind => ?_, fun d h hdepth => ?_⟩
  · obtain ⟨es, last, cs, hrounds, hcs, hpasses, hgave, rfl⟩ := exists_of_tooDeep h hkind
    obtain ⟨n, next, hn, hopening⟩ := opening_of_exhausted hgave
    have hafter : (skipBlanks last).after = '<' :: (n.text.toList ++ '>' :: next.after) := by
      rw [hopening.after]
      simp [openingText]
    have hoffset : (skipBlanks last).offset = cs.length := by
      rw [hpasses.offset, Position.offset_start, Nat.zero_add]
    refine ⟨cs, (skipBlanks last).after, ⟨es⟩, '<', hpasses.after, read_of_readsTop ?_,
      ⟨_, hn, next.after, hopening.after.symm⟩, by rw [hafter]; rfl, ?_, fun limit' q d hread => ?_⟩
    · rwa [String.toList_ofList]
    · rw [tooDeep, hoffset, Position.peek, hafter]
      rfl
    · rcases Nat.le_total limit limit' with hle | hle
      · obtain ⟨e, rest, ds, after, helements, hds, hafter, hdepth⟩ :=
          exists_deeper_of_read hrounds hgave hle hread
        exact ⟨e, rest, ds, helements, hds, ⟨_, hafter.after.symm⟩, hdepth⟩
      · -- A reading that succeeds does not give up, so it would succeed under the greater limit.
        have hsuccess : ¬ Outcome.TooDeep (read limit' text) := by
          rintro ⟨_, _, hfails, -⟩
          rw [hread] at hfails
          cases hfails
        rw [read_eq_of_le hle hsuccess, hread] at h
        cases h
  · exact read_of_readsTop (spaced_readsTop h hdepth)

/-- Where one container is allowed, reading `<a/> <b><c></c></b>` gives up at the second element,
which is read where two are; `<a></a>` is read, and the same in both cases. -/
theorem gives_up_on_second_element :
    (∃ p failed q d, read 1 "<a/> <b><c></c></b>" = .ok (.failure p failed) ∧
      failed.kind = .nestingTooDeep ∧ failed.offset = 5 ∧
      read 2 "<a/> <b><c></c></b>" = .ok (.success q d) ∧ ∃ e ∈ d.elements, 1 < e.depth) ∧
    (∃ d, DerivesDocument "<a></a>".toList d ∧ Element.depthAll d.elements ≤ 1 ∧
      ∃ p, read 1 "<a></a>" = .ok (.success p d)) ∧
    ¬ Outcome.TooDeep (read 1 "<a></a>") ∧ read 2 "<a></a>" = read 1 "<a></a>" := by
  constructor
  · have hview : ((read 1 "<a/> <b><c></c></b>").toOption.bind Outcome.failure?).map
        (fun failed => (failed.kind, failed.offset)) = some (.nestingTooDeep, 5) := by
      decide +kernel
    obtain ⟨p, failed, hfails, hfailed⟩ := Outcome.exists_of_failure? hview
    obtain ⟨hkind, hoffset⟩ := Prod.mk.inj hfailed
    have hread :
        ((read 2 "<a/> <b><c></c></b>").toOption.bind Outcome.value?).map size = some 2 := by
      decide +kernel
    obtain ⟨q, d, hd, -⟩ := Outcome.exists_of_value? hread
    obtain ⟨before, after, front, c, -, -, -, -, -, hdeeper⟩ :=
      (read_gives_up_only_on_depth 1 _).2.1 p failed hfails hkind
    obtain ⟨e, rest, cs, helements, -, -, hdepth⟩ := hdeeper 2 q d hd
    exact ⟨p, failed, q, d, hfails, hkind, hoffset, hd, e, by simp [helements], hdepth⟩
  · have hread : ((read 1 "<a></a>").toOption.bind Outcome.value?).map size = some 1 := by
      decide +kernel
    obtain ⟨p, d, hd, -⟩ := Outcome.exists_of_value? hread
    obtain ⟨hderives, hdepth, -⟩ := derives_of_read (by decide) hd
    have hsuccess : ¬ Outcome.TooDeep (read 1 "<a></a>") := by
      rintro ⟨q, failed, hfails, -⟩
      rw [hd] at hfails
      cases hfails
    exact ⟨⟨d, hderives, hdepth, (read_gives_up_only_on_depth 1 _).2.2 d hderives hdepth⟩, hsuccess,
      (read_gives_up_only_on_depth 1 _).1 2 (by decide) hsuccess⟩

end Document

end TagScript
