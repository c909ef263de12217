import TagScript.Proofs.OpenContainers

/-!
# What a failed reading says about the text

* `Diagnosis` lists what can be wrong with a text, and `Diagnosis.Explains` says what each diagnosis
  asserts of the text before and after the failure.
* `Breakdown` says where reading an element breaks off: in a tag, or where a container has to be
  closed; `element_breakdown` finds the place by induction on the room left for containers.
* `failure_diagnosed_once` puts the diagnoses together for whole texts.
-/

namespace TagScript

open TagScript.Parser Lexeme Markup Grammar

namespace Document

/-- What is wrong with a text. -/
inductive Diagnosis where
  /-- Something other than an element follows at top level. -/
  | trailingInput
  /-- A closing tag has another name than the container it stands in. -/
  | tagMismatch
  /-- A tag breaks off behind its name. -/
  | unfinishedTag
  /-- Neither an element nor a closing tag follows in a container. -/
  | unclosedContainer
  /-- A closing tag has no name. -/
  | namelessTag
  /-- Containers stand too deep inside a top-level element. -/
  | tooDeep
deriving DecidableEq

namespace Diagnosis

/-- What a diagnosis says of a failure, of the text before it and of the text after it. -/
def Explains (before after : List Char) (failed : Failure) : Diagnosis → Prop
  | trailingInput =>
    failed.kind = .trailingInput ∧ failed.expected = none ∧
      failed.found = some (String.ofList after) ∧ Readable before ∧ after ≠ [] ∧
      ¬ Starts Blank after ∧ ¬ TagBegins after
  | tagMismatch =>
    failed.kind = .tagMismatch ∧
      ∃ expected found : Name, failed.expected = some expected.text ∧
        failed.found = some found.text ∧ found ≠ expected ∧ Legal found.text.toList ∧
        closingText found.text.toList <+: after
  | unfinishedTag =>
    failed.kind = .expectedLiteral ∧ failed.expected = some ">" ∧
      ∃ m, LongestName m after ∧ ¬ ['>'] <+: after ∧
        (('<' :: m <:+ before ∧ ¬ ['/', '>'] <+: after) ∨ '<' :: '/' :: m <:+ before)
  | unclosedContainer =>
    failed.kind = .expectedLiteral ∧ failed.expected = some "</" ∧
      ¬ Starts Blank after ∧ ¬ ['<', '/'] <+: after ∧ ¬ TagBegins after
  | namelessTag =>
    failed.kind = .expectedIdentifier ∧ failed.expected = some "identifier" ∧
      ['<', '/'] <:+ before ∧ ¬ Starts Letter after
  | tooDeep =>
    failed.kind = .nestingTooDeep ∧ failed.expected = none ∧ Readable before ∧
      ∃ m, Legal m ∧ openingText m <+: after

/-- The diagnosis that a failure names by its kind and by what it expected. -/
def ofFailure? (failed : Failure) : Option Diagnosis :=
  match failed.kind, failed.expected with
  | .trailingInput, _ => some trailingInput
  | .tagMismatch, _ => some tagMismatch
  | .expectedLiteral, some ">" => some unfinishedTag
  | .expectedLiteral, some "</" => some unclosedContainer
  | .expectedIdentifier, _ => some namelessTag
  | .nestingTooDeep, _ => some tooDeep
  | _, _ => none

variable {before after : List Char} {failed : Failure} {diagnosis other : Diagnosis}

theorem Explains.ofFailure? (h : diagnosis.Explains before after failed) :
    ofFailure? failed = some diagnosis := by
  cases diagnosis with
  | trailingInput => simp only [Diagnosis.ofFailure?, h.1]
  | tagMismatch => simp only [Diagnosis.ofFailure?, h.1]
  | unfinishedTag => simp only [Diagnosis.ofFailure?, h.1, h.2.1]
  | unclosedContainer => simp [Diagnosis.ofFailure?, h.1, h.2.1]
  | namelessTag => simp only [Diagnosis.ofFailure?, h.1]
  | tooDeep => simp only [Diagnosis.ofFailure?, h.1]

/-- No two diagnoses explain the same failure. -/
theorem Explains.unique (h : diagnosis.Explains before after failed)
    (h' : other.Explains before after failed) : other = diagnosis :=
  Option.some.inj (h'.ofFailure?.symm.trans h.ofFailure?)

end Diagnosis

/-- The text before the failure ends in `</` and a name that cannot be completed to that of the
container to be closed there. -/
def StrayClosing (before after : List Char) (failed : Failure) : Prop :=
  Diagnosis.unfinishedTag.Explains before after failed ∧
    ∃ front m n, before = front ++ '<' :: '/' :: m ∧ LongestName m after ∧ Legal n ∧
      Viable (front ++ closingText n) ∧ ¬ m <+: n

end Document

namespace Grammar

/-! ### Where reading breaks off -/

/-- Reading an element breaks off at `r`: in a tag behind its name, or where neither the closing tag
of the innermost container nor a tag that opens an element can be read. -/
inductive Breakdown (limit : Nat) (r : Position) (failed : Failure) : Prop
  | tag {ns : List Name} {n : Name} {p : Position} :
      Unclosed limit p.before.reverse ns → p.Passes ('<' :: n.text.toList) r →
      LongestName n.text.toList r.after → ¬ ['/', '>'] <+: r.after → ¬ ['>'] <+: r.after →
      failed.Echoes (unended r) → Breakdown limit r failed
  | closing {n : Name} {ns : List Name} {inner : Failure} :
      Unclosed limit r.before.reverse (n :: ns) → ¬ Starts Blank r.after → ¬ TagBegins r.after →
      ClosingReading n.text r (.failure r inner) → failed.Echoes inner → Breakdown limit r failed

variable {limit : Nat} {p q r origin : Position} {n : Name} {ns : List Name} {failed : Failure}

theorem Breakdown.of_echoes {inner : Failure} (h : Breakdown limit r inner)
    (hechoes : failed.Echoes inner) : Breakdown limit r failed := by
  cases h with
  | tag h hr hn hslash hgt hinner => exact .tag h hr hn hslash hgt (hechoes.trans hinner)
  | closing h hblank hother hreading hinner =>
    exact .closing h hblank hother hreading (hechoes.trans hinner)

/-- Some children behind an opening tag leave one more container open. -/
theorem unclosed_of_rounds {room : Nat} {last : Position} {es : List Element}
    (h : Unclosed limit p.before.reverse ns) (hroom : ns.length + (room + 1) ≤ limit)
    (hn : Legal n.text.toList) (hpasses : p.Passes (openingText n.text.toList) q)
    (hrounds : Rounds (element room) q es last) :
    (skipBlanks last).chars = p.chars ∧
      Unclosed limit (skipBlanks last).before.reverse (n :: ns) := by
  obtain ⟨bs, hbs, hskip, -⟩ := passes_skipBlanks last
  obtain ⟨cs, hcs, hchildren, hdepth⟩ := hrounds.spaced (readsOnly_element room) hbs hskip
  have hhere := hpasses.trans hchildren
  refine ⟨hhere.chars, ?_⟩
  rw [hhere.reverse_before, ← List.append_assoc]
  exact .into h hn hcs (by omega)

/-- An element that begins like a tag and cannot be read breaks off inside the containers that are
open before it and those it opens itself. -/
theorem element_breakdown {room : Nat} (h : Unclosed limit p.before.reverse ns)
    (hroom : ns.length + room ≤ limit) (hbegins : TagBegins p.after)
    (hfailed : element room p = .ok (.failure origin failed)) :
    ∃ r, r.chars = p.chars ∧ Breakdown limit r failed := by
  induction room using Nat.strongRecOn generalizing p ns origin failed with
  | ind room ih =>
    have hend := element_ends room p
    rw [hfailed] at hend
    cases hend with
    | other failed hother => exact absurd hbegins hother
    | broken hr hn hslash hgt => exact ⟨_, hr.chars, .tag h hr hn hslash hgt ⟨_, rfl⟩⟩
    | @inside room q r last n inner hn hpasses hr hc =>
      obtain ⟨es, last', hrounds, hchildren⟩ := childrenOf_ends (element room) n.text q
      obtain ⟨hchars, hopen⟩ := unclosed_of_rounds h hroom hn hpasses hrounds
      rw [hc] at hchildren
      cases hchildren with
      | broken hchild hstart =>
        -- The failure comes from a child, which stands inside one more container.
        have hinner := ih room (Nat.lt_succ_self room) hopen (by rw [List.length_cons]; omega)
          (accepts_tagStart_iff.1 hstart) hchild
        obtain ⟨r', hr', hbreakdown⟩ := hinner
        exact ⟨r', hr'.trans hchars, hbreakdown.of_echoes ⟨_, rfl⟩⟩
      | unclosed hclose hchild hstart =>
        obtain ⟨outcome, hreading, hclosing⟩ := closeTag_reading n.text (skipBlanks last)
        obtain ⟨bs, -, -, hblank⟩ := passes_skipBlanks last
        have hother := accepts_tagStart_eq_false_iff.1 hstart
        rw [hclose] at hreading
        cases hreading
        obtain rfl := hclosing.position_eq
        exact ⟨_, hchars, .closing hopen hblank hother hclosing ⟨_, rfl⟩⟩
      | idle hclose hchild hle =>
        obtain ⟨bs, -, hskip, -⟩ := passes_skipBlanks last
        have hlt := (readsOnly_element room).left_lt Derives.tagBegins hchild
        have hleft := hskip.left
        omega

/-- How reading a document fails at `here`, where no blank follows: containers stand too deep, no tag
begins, or the element that begins there cannot be read. -/
inductive DocumentFailure (limit : Nat) (here : Position) : Failure → Prop
  | deep {n : Name} {q : Position} :
      Legal n.text.toList → here.Passes (openingText n.text.toList) q →
      DocumentFailure limit here (tooDeep here)
  | trailing (cause : Failure) :
      here.after ≠ [] → ¬ TagBegins here.after →
      DocumentFailure limit here
        ⟨.trailingInput, here.offset, none, some here.remaining, [], some cause⟩
  | broken {failed : Failure} :
      TagBegins here.after → element limit here = .ok (.failure here failed) →
      DocumentFailure limit here failed

/-- A container that stands too deep is inside an element that begins with an opening tag. -/
theorem opening_of_element_fault {fault : Fault} (h : element limit p = .error fault) :
    ∃ (n : Name) (q : Position), Legal n.text.toList ∧
      p.Passes (openingText n.text.toList) q := by
  have hend := element_ends limit p
  rw [h] at hend
  cases hend with
  | fault hn hpasses _ => exact ⟨_, _, hn, hpasses⟩
  | tooDeep hn hpasses => exact ⟨_, _, hn, hpasses⟩

/-- A document that cannot be read is read up to a place where it fails. -/
theorem topLevelElements_breakdown (hlimit : 0 < limit)
    (h : topLevelElements limit p = .ok (.failure origin failed)) :
    ∃ here cs es, p.Passes cs here ∧ Spaced DerivesTop cs es ∧ Element.depthAll es ≤ limit ∧
      ¬ Starts Blank here.after ∧ DocumentFailure limit here failed := by
  obtain ⟨es, last, hrounds, hend⟩ := topLevelElements_ends limit p
  obtain ⟨bs, hbs, hskip, hblank⟩ := passes_skipBlanks last
  obtain ⟨cs, hcs, hpasses, hdepth⟩ := hrounds.spaced (readsOnly_topLevelElement hlimit) hbs hskip
  refine ⟨skipBlanks last, cs, es, hpasses, hcs, hdepth, hblank, ?_⟩
  have helement := topLevelElement_ends limit (skipBlanks last)
  rw [h] at hend
  cases hend with
  | tooDeep hfault =>
    rw [hfault] at helement
    cases helement with
    | fault hfault =>
      obtain ⟨n, q, hn, hopening⟩ := opening_of_element_fault hfault
      exact .deep hn hopening
  | failed hmore hfailed =>
    rw [hfailed] at helement
    cases helement with
    | failed hfailed =>
      by_cases hbegins : TagBegins (skipBlanks origin).after
      · simp only [leftOver, accepts_tagStart_iff.2 hbegins, if_true]
        exact .broken hbegins hfailed
      · have hstart := accepts_tagStart_eq_false_iff.2 hbegins
        simp only [leftOver, hstart]
        refine .trailing _ ?_ hbegins
        simpa [Position.atEnd] using hmore
  | idle hread hle =>
    have hlt := (readsOnly_topLevelElement hlimit).left_lt DerivesTop.tagBegins hread
    have hleft := hskip.left
    omega

end Grammar

namespace Document

variable {before after : List Char} {failed : Failure} {r : Position}

/-! ### Every failure is diagnosed -/

/-- The failure lies at `r`, one of the diagnoses explains it there, and the text before it is viable
unless it ends in a stray closing tag. -/
structure Diagnosed (r : Position) (failed : Failure) : Prop where
  offset : failed.offset = r.offset
  explained : ∃ diagnosis : Diagnosis, diagnosis.Explains r.before.reverse r.after failed
  viable : Viable r.before.reverse ↔ ¬ StrayClosing r.before.reverse r.after failed

/-- Only an unfinished tag can be a stray closing tag. -/
theorem diagnosed_of_viable (diagnosis : Diagnosis) (hoffset : failed.offset = r.offset)
    (h : diagnosis.Explains r.before.reverse r.after failed) (hne : diagnosis ≠ .unfinishedTag)
    (hviable : Viable r.before.reverse) : Diagnosed r failed := by
  refine ⟨hoffset, ⟨diagnosis, h⟩, fun _ hstray => ?_, fun _ => hviable⟩
  exact hne (hstray.1.unique h)

/-- The last `<` of a text and what follows it can be found in one way only. -/
theorem mark_unique {cs ds xs ys : List Char} (hxs : '<' ∉ xs) (hys : '<' ∉ ys)
    (h : cs ++ '<' :: xs = ds ++ '<' :: ys) : cs = ds ∧ xs = ys := by
  rcases List.append_eq_append_iff.1 h with ⟨more, hds, hmore⟩ | ⟨more, hcs, hmore⟩
  all_goals
    cases more with
    | nil => simp_all
    | cons c more =>
      have hmem := (List.cons.inj hmore).2
      simp [hmem] at hxs hys

theorem mark_not_mem_closing {m : List Char} (h : Legal m) : '<' ∉ '/' :: m := by
  simpa using h.not_mem (c := '<') (by decide)

/-- A tag that breaks off where an element begins is diagnosed as unfinished. -/
theorem diagnosed_tag {p : Position} {n : Name} {ns : List Name}
    (h : Unclosed nestingLimit p.before.reverse ns) (hr : p.Passes ('<' :: n.text.toList) r)
    (hn : LongestName n.text.toList r.after) (hslash : ¬ ['/', '>'] <+: r.after)
    (hgt : ¬ ['>'] <+: r.after) (hechoes : failed.Echoes (unended r)) : Diagnosed r failed := by
  obtain ⟨tried, rfl⟩ := hechoes
  have hbefore := hr.reverse_before
  refine ⟨rfl, ⟨.unfinishedTag, rfl, rfl, n.text.toList, hn, hgt, .inl ⟨⟨_, hbefore.symm⟩, hslash⟩⟩,
    fun _ => ?_, fun _ => ?_⟩
  · rintro ⟨-, front, m, -, heq, hm, -⟩
    -- Behind the last `<` stands a name, not a slash and a name.
    have hnot : '<' ∉ n.text.toList := hn.legal.not_mem (by decide)
    obtain ⟨-, hname⟩ :=
      mark_unique hnot (mark_not_mem_closing hm.legal) (hbefore.symm.trans heq)
    have hslash : '/' ∉ n.text.toList := hn.legal.not_mem (by decide)
    exact hslash (by simp [hname])
  · rw [hbefore]
    exact viable_of_opening h hn.legal

/-- A closing tag that breaks off is diagnosed as unfinished; the text before the failure is viable
just if the name can be completed to that of the innermost container. -/
theorem diagnosed_closing_unfinished {p : Position} {m n : Name} {ns : List Name}
    (h : Unclosed nestingLimit p.before.reverse (n :: ns))
    (hr : p.Passes ('<' :: '/' :: m.text.toList) r) (hm : LongestName m.text.toList r.after)
    (hgt : ¬ ['>'] <+: r.after) (hechoes : failed.Echoes (unended r)) : Diagnosed r failed := by
  obtain ⟨tried, rfl⟩ := hechoes
  have hbefore := hr.reverse_before
  have hexplains : Diagnosis.unfinishedTag.Explains r.before.reverse r.after
      { unended r with alternatives := tried } :=
    ⟨rfl, rfl, m.text.toList, hm, hgt, .inr ⟨_, hbefore.symm⟩⟩
  refine ⟨rfl, ⟨_, hexplains⟩, ?_⟩
  rw [hbefore, viable_closing_iff h hm.legal]
  rw [hbefore] at hexplains
  constructor
  · rintro hbegins ⟨-, front, m', n', heq, hm', hn', hviable, hnot⟩
    obtain ⟨rfl, hname⟩ :=
      mark_unique (mark_not_mem_closing hm.legal) (mark_not_mem_closing hm'.legal) heq
    obtain rfl := eq_of_viable_closing h hn' hviable
    obtain rfl := (List.cons.inj hname).2
    exact hnot hbegins
  · intro hstray
    -- If the name could not be completed, the closing tag would be a stray one.
    by_cases hbegins : m.text.toList <+: n.text.toList
    · exact hbegins
    · exact absurd ⟨hexplains, _, _, _, rfl, hm, h.legal, viable_of_unclosed h.close, hbegins⟩ hstray

/-- Where reading an element breaks off, the failure is diagnosed. -/
theorem diagnosed_breakdown (h : Breakdown nestingLimit r failed) :
    ∃ q, q.chars = r.chars ∧ Diagnosed q failed := by
  cases h with
  | tag h hr hn hslash hgt hechoes => exact ⟨r, rfl, diagnosed_tag h hr hn hslash hgt hechoes⟩
  | @closing n ns inner h hblank hother hreading hechoes =>
    cases hreading with
    | @mismatch q m hne hm hpasses =>
      obtain ⟨tried, rfl⟩ := hechoes
      refine ⟨r, rfl, diagnosed_of_viable .tagMismatch rfl ?_ (by decide)
        (viable_of_unclosed h)⟩
      refine ⟨rfl, n, m, rfl, rfl, ?_, hm, q.after, hpasses.after.symm⟩
      rintro rfl
      exact hne rfl
    | unopened hopening =>
      obtain ⟨tried, rfl⟩ := hechoes
      exact ⟨r, rfl, diagnosed_of_viable .unclosedContainer rfl
        ⟨rfl, rfl, hblank, hopening, hother⟩ (by decide) (viable_of_unclosed h)⟩
    | @nameless q cause hpasses hstarts =>
      obtain ⟨tried, rfl⟩ := hechoes
      have hbefore := hpasses.reverse_before
      refine ⟨q, hpasses.chars, diagnosed_of_viable .namelessTag rfl
        ⟨rfl, rfl, ⟨_, hbefore.symm⟩, hstarts⟩ (by decide) ?_⟩
      rw [hbefore]
      exact (viable_of_unclosed h.close).of_beginning ⟨n.text.toList ++ ['>'], by simp [closingText]⟩
    | unfinished hpasses hm hgt =>
      exact ⟨_, hpasses.chars, diagnosed_closing_unfinished h hpasses hm hgt hechoes⟩

/-- Where reading a document fails, the failure is diagnosed. -/
theorem diagnosed_documentFailure {here : Position} {es : List Element}
    (hcs : Spaced DerivesTop here.before.reverse es) (hdepth : Element.depthAll es ≤ nestingLimit)
    (hblank : ¬ Starts Blank here.after) (h : DocumentFailure nestingLimit here failed) :
    ∃ q, q.chars = here.chars ∧ Diagnosed q failed := by
  have hopen : Unclosed nestingLimit here.before.reverse [] := .top hcs hdepth
  have hreadable : Readable here.before.reverse := readable_of_derives (d := ⟨es⟩) hcs hdepth
  cases h with
  | deep hn hpasses =>
    exact ⟨here, rfl, diagnosed_of_viable .tooDeep rfl
      ⟨rfl, rfl, hreadable, _, hn, _, hpasses.after.symm⟩ (by decide) (viable_of_unclosed hopen)⟩
  | trailing cause hne hother =>
    exact ⟨here, rfl, diagnosed_of_viable .trailingInput rfl
      ⟨rfl, rfl, rfl, hreadable, hne, hblank, hother⟩ (by decide) (viable_of_unclosed hopen)⟩
  | broken hbegins hfailed =>
    obtain ⟨r, hr, hbreakdown⟩ := element_breakdown hopen (by simp) hbegins hfailed
    obtain ⟨q, hq, hdiagnosed⟩ := diagnosed_breakdown hbreakdown
    exact ⟨q, hq.trans hr, hdiagnosed⟩

/-- **Failures tell the truth.** The failure of a text that is not read lies in the text, and exactly
one diagnosis explains it there. The text before it is viable, except exactly where it ends in `</`
and a name that cannot be completed to that of the container to be closed. -/
theorem failure_diagnosed_once {text : String} {p : Position} {failed : Failure}
    (h : tryParse text = .ok (.failure p failed)) :
    ∃ before after, text.toList = before ++ after ∧ failed.offset = before.length ∧
      (∃ diagnosis : Diagnosis, diagnosis.Explains before after failed ∧
        ∀ other : Diagnosis, other.Explains before after failed → other = diagnosis) ∧
      (Viable before ↔ ¬ StrayClosing before after failed) := by
  obtain ⟨-, origin, hread⟩ := topLevelElements_of_failure h
  obtain ⟨here, cs, es, hpasses, hcs, hdepth, hblank, hfailure⟩ :=
    topLevelElements_breakdown (by decide) hread
  have hbefore : here.before.reverse = cs := hpasses.reverse_before
  rw [← hbefore] at hcs
  obtain ⟨q, hq, hdiagnosed⟩ := diagnosed_documentFailure hcs hdepth hblank hfailure
  obtain ⟨diagnosis, hexplains⟩ := hdiagnosed.explained
  have hchars : q.chars = text.toList := hq.trans hpasses.chars
  refine ⟨q.before.reverse, q.after, hchars.symm, ?_, ⟨diagnosis, hexplains, ?_⟩, hdiagnosed.viable⟩
  · rw [hdiagnosed.offset, q.offset_eq, List.length_reverse]
  · exact fun other hother => hexplains.unique hother

/-- In `<a><b/></c>` the closing tag does not match, and what stands before it can be completed. -/
theorem mismatch_diagnosed_behind_child :
    ∃ p failed, tryParse "<a><b/></c>" = .ok (.failure p failed) ∧ failed.offset = 7 ∧
      Diagnosis.tagMismatch.Explains "<a><b/>".toList "</c>".toList failed ∧
      Viable "<a><b/>".toList := by
  have hview : ((tryParse "<a><b/></c>").toOption.bind Outcome.failure?).map
      (fun failed => (failed.offset, Diagnosis.ofFailure? failed)) =
        some (7, some .tagMismatch) := by decide +kernel
  obtain ⟨p, failed, hfails, hfailed⟩ := Outcome.exists_of_failure? hview
  obtain ⟨hoffset, hkind⟩ := Prod.mk.inj hfailed
  obtain ⟨before, after, htext, hlength, ⟨diagnosis, hexplains, -⟩, hviable⟩ :=
    failure_diagnosed_once hfails
  have hseven : "<a><b/>".toList.length = before.length := by
    have hseven : "<a><b/>".toList.length = 7 := by decide
    omega
  obtain ⟨rfl, rfl⟩ : "<a><b/>".toList = before ∧ "</c>".toList = after :=
    List.append_inj (by simpa using htext) hseven
  obtain rfl : diagnosis = .tagMismatch := Option.some.inj (hexplains.ofFailure?.symm.trans hkind)
  refine ⟨p, failed, hfails, hoffset, hexplains, hviable.2 fun hstray => ?_⟩
  exact absurd (hstray.1.unique hexplains) (by decide)

/-- The text before a failure need not be viable: `<a></b` breaks off where `>` is missing, but a
closing tag whose name begins with `b` cannot close `a`. -/
theorem unfinished_closing_tag_not_viable :
    ∃ p failed, tryParse "<a></b" = .ok (.failure p failed) ∧ failed.offset = 6 ∧
      failed.expected = some ">" ∧ ¬ Viable ("<a></b".toList.take 6) := by
  have hview : ((tryParse "<a></b").toOption.bind Outcome.failure?).map
      (fun failed => (failed.offset, failed.expected)) = some (6, some ">") := by decide +kernel
  obtain ⟨p, failed, hfails, hfailed⟩ := Outcome.exists_of_failure? hview
  obtain ⟨hoffset, hexpected⟩ := Prod.mk.inj hfailed
  refine ⟨p, failed, hfails, hoffset, hexpected, ?_⟩
  let a : Name := ⟨"a", by decide⟩
  have hopen : Unclosed nestingLimit ([] ++ openingText a.text.toList ++ []) [a] :=
    .into (.top (.nil blanks_nil) (by decide)) (by decide) (.nil blanks_nil) (by decide)
  have hsplit : "<a></b".toList.take 6 =
      [] ++ openingText a.text.toList ++ [] ++ '<' :: '/' :: ['b'] := by decide
  rw [hsplit, viable_closing_iff hopen (by decide)]
  decide

end Document

end TagScript
