import TagScript.Proofs.Discipline
import TagScript.Proofs.Faults
import TagScript.Proofs.NestingLimit

/-!
# What failures show of the text

A failure shows what it found at its offset. That is the text ahead, as much of it as was looked at,
or the name of the closing tag that stands there.

* `Failure.Quotes cs` says this of a failure in the text `cs`, and `Parser.Quoting` of every failure
  in the trees that a parser reports. Every way to put parsers together keeps it.
* `Failure.Quotes.exists_position` and `Failure.Quotes.saysEnd_iff` read off it what is shown as
  found, and when the description says that the text had ended.
* `Document.failures_quote_the_text` puts these together for the tree of a document's failure.
-/

namespace TagScript

open TagScript.Parser Lexeme Markup Grammar

variable {α β : Type}

/-- Looking ahead shows nothing at the end of the text only. -/
theorem Position.peek_eq_empty_iff (p : Position) {count : Nat} (hcount : 0 < count) :
    p.peek count = "" ↔ p.after = [] := by
  rw [peek, String.ofList_eq_empty_iff, List.take_eq_nil_iff]
  constructor
  · rintro (hzero | hnil)
    · omega
    · exact hnil
  · exact .inr

namespace Failure

/-- Descriptions of failures of this kind close with what was found. -/
def Kind.NamesFound : Kind → Prop
  | .tagMismatch | .trailingInput | .nestingTooDeep => False
  | _ => True

/-- What the failure shows as found stands at its offset in the text `cs`: some of the text ahead,
or the name of the closing tag there. Where nothing is ahead, the description closes with it. -/
inductive Quotes (cs : List Char) (f : Failure) : Prop
  | ahead {p : Position} {count : Nat} :
      p.chars = cs → f.offset = p.offset → f.found = some (p.peek count) → 0 < count →
      f.kind ≠ .tagMismatch → f.kind.NamesFound ∨ p.after ≠ [] → Quotes cs f
  | closing {p q : Position} {n : Name} :
      p.chars = cs → f.offset = p.offset → f.found = some n.text → f.kind = .tagMismatch →
      p.Passes (closingText n.text.toList) q → Quotes cs f

/-- The description closes by saying that the text had ended. Text that is left over is shown
between quotes, whatever it says itself. -/
def SaysEnd (f : Failure) : Prop := ", found end of input".toList <:+ f.describe.toList

variable {f g : Failure} {cs : List Char}

/-! ### Truthful failures -/

theorem Kind.NamesFound.ne_tagMismatch {kind : Kind} (h : kind.NamesFound) :
    kind ≠ .tagMismatch := by
  rintro rfl
  exact h

/-- What a failure shows does not depend on its alternatives. -/
theorem Quotes.withAlternatives (h : f.Quotes cs) (tried : List Failure) :
    Quotes cs { f with alternatives := tried } := by
  cases h with
  | ahead hchars hoffset hfound hcount hkind hend =>
    exact .ahead hchars hoffset hfound hcount hkind hend
  | closing hchars hoffset hfound hkind hpasses =>
    exact .closing hchars hoffset hfound hkind hpasses

/-- A failure whose description names what was found may show the text ahead anywhere. -/
theorem everywhere_quotes_peek (kind : Kind) (hkind : kind.NamesFound) (p : Position) {count : Nat}
    (hcount : 0 < count) (expected : Option String) {cause : Option Failure}
    (hcause : ∀ g, cause = some g → g.Everywhere (Quotes p.chars)) :
    Everywhere (Quotes p.chars) ⟨kind, p.offset, expected, some (p.peek count), [], cause⟩ :=
  everywhere_of_cause (.ahead rfl rfl rfl hcount hkind.ne_tagMismatch (.inl hkind)) rfl hcause

/-! ### What is shown as found -/

/-- A truthful failure stands at a position of the text. What it shows as found begins what follows
there, or is the name in the closing tag that does. It is empty only if nothing follows, and then
the description closes with it. -/
theorem Quotes.exists_position (h : f.Quotes cs) :
    ∃ (p : Position) (found : String), p.chars = cs ∧ f.offset = p.offset ∧ f.found = some found ∧
      (if f.kind = .tagMismatch then closingText found.toList else found.toList) <+: p.after ∧
      (found = "" ↔ p.after = []) ∧ (f.kind.NamesFound ∨ p.after ≠ []) := by
  cases h with
  | @ahead p count hchars hoffset hfound hcount hkind hend =>
    refine ⟨p, p.peek count, hchars, hoffset, hfound, ?_, p.peek_eq_empty_iff hcount, hend⟩
    rw [if_neg hkind, Position.peek, String.toList_ofList]
    exact List.take_prefix count p.after
  | @closing p q n hchars hoffset hfound hkind hpasses =>
    have hmore : p.after ≠ [] := by
      rw [hpasses.after]
      simp [closingText]
    refine ⟨p, n.text, hchars, hoffset, hfound, ?_, ?_, .inr hmore⟩
    · rw [if_pos hkind]
      exact ⟨q.after, hpasses.after.symm⟩
    · exact ⟨fun hempty => absurd hempty n.text_ne, fun hend => absurd hend hmore⟩

/-! ### What descriptions say -/

theorem not_saysEnd_of_getLast? (c : Char) (h : f.describe.toList.getLast? = some c)
    (hc : c ≠ 't') : ¬ f.SaysEnd := by
  rintro ⟨front, hfront⟩
  rw [← hfront, List.getLast?_append] at h
  exact hc (Option.some.inj h).symm

/-- A description that ends in quoted text does not say that the text had ended. -/
theorem not_saysEnd_of_quoted (front s : String) (h : f.describe = front ++ Text.quoted s) :
    ¬ f.SaysEnd := by
  refine not_saysEnd_of_getLast? (Text.quoteMark s.toList) ?_ ?_
  · rw [h, String.toList_append, List.getLast?_append, Text.quoted, String.toList_ofList,
      List.getLast?_cons, List.getLast?_append]
    rfl
  · unfold Text.quoteMark
    split <;> decide

theorem describe_of_namesFound (hkind : f.kind.NamesFound) :
    f.describe = f.kind.phrase ++ expectedPhrase f.expected ++ foundPhrase f.found := by
  obtain ⟨kind, offset, expected, found, tried, cause⟩ := f
  cases kind with
  | tagMismatch | trailingInput | nestingTooDeep => exact hkind.elim
  | _ => rfl

/-- Descriptions that close with what was found say that the text had ended if that is empty. -/
theorem saysEnd_iff_of_namesFound (hkind : f.kind.NamesFound) {found : String}
    (hfound : f.found = some found) : f.SaysEnd ↔ found = "" := by
  have hdescribe := describe_of_namesFound hkind
  rw [hfound] at hdescribe
  constructor
  · intro hsaid
    by_cases hempty : found = ""
    · exact hempty
    · have hquoted : f.describe =
          f.kind.phrase ++ expectedPhrase f.expected ++ ", found " ++ Text.quoted found := by
        rw [hdescribe, foundPhrase, if_neg (by simpa using hempty), String.append_assoc,
          String.append_assoc, String.append_assoc]
      exact absurd hsaid (not_saysEnd_of_quoted _ _ hquoted)
  · rintro rfl
    refine ⟨(f.kind.phrase ++ expectedPhrase f.expected).toList, ?_⟩
    rw [← String.toList_append, hdescribe]
    rfl

/-- The other descriptions do not speak of the end of the text. -/
theorem not_saysEnd_of_not_namesFound (hkind : ¬ f.kind.NamesFound) {found : String}
    (hfound : f.found = some found) : ¬ f.SaysEnd := by
  obtain ⟨kind, offset, expected, _, tried, cause⟩ := f
  obtain rfl := hfound
  cases kind with
  | tagMismatch =>
    refine not_saysEnd_of_getLast? '\x27' ?_ (by decide)
    simp only [describe, String.toList_append, List.getLast?_append]
    rfl
  | trailingInput => exact not_saysEnd_of_quoted _ _ rfl
  | nestingTooDeep =>
    have hlast : "elements are nested too deeply to parse".toList.getLast? = some 'e' := by decide
    exact not_saysEnd_of_getLast? 'e' hlast (by decide)
  | _ => exact absurd trivial hkind

/-- The description of a truthful failure says that the text had ended at the end of it only. -/
theorem Quotes.saysEnd_iff (h : f.Quotes cs) : f.SaysEnd ↔ f.offset = cs.length := by
  obtain ⟨p, found, rfl, hoffset, hfound, -, hempty, hend⟩ := h.exists_position
  rw [hoffset, Int.ofNat_inj, ← p.after_eq_nil_iff]
  by_cases hkind : f.kind.NamesFound
  · rw [saysEnd_iff_of_namesFound hkind hfound, hempty]
  · have hmore : p.after ≠ [] := hend.resolve_left hkind
    have hnot := not_saysEnd_of_not_namesFound hkind hfound
    exact ⟨fun hsaid => absurd hsaid hnot, fun hnil => absurd hnil hmore⟩

end Failure

namespace Parser

open Failure

/-- Every failure in the trees that the parser reports is truthful about the text. -/
def Quoting (p : Parser α) : Prop :=
  ∀ start origin failed, p start = .ok (.failure origin failed) →
    failed.Everywhere (Quotes start.chars)

variable {p : Parser α} {q : Parser β}

/-! ### Elementary parsers -/

theorem quoting_abort (fault : Fault) : (abort fault : Parser α).Quoting := by
  intro start origin failed h
  cases h

theorem quoting_literal {s : String} (hs : 0 < s.length) : (literal s).Quoting := by
  intro start origin failed h
  unfold literal at h
  split at h
  · cases h
  · cases h
    exact everywhere_quotes_peek .expectedLiteral trivial start hs _ (by simp)

/-- A character is tested for its class and shown if it fails. At the end of the text nothing is
shown, neither by the test nor by the missing character that caused it to fail. -/
theorem quoting_filter_anyChar (test : Char → Bool) (expected : Option String) :
    (anyChar.filter test expected).Quoting := by
  intro start origin failed h
  cases hafter : start.after with
  | nil =>
    have hpeek : start.peek 1 = "" := (start.peek_eq_empty_iff Nat.one_pos).2 hafter
    simp only [filter, filterM, anyChar, Position.step?_of_nil hafter] at h
    cases h
    refine everywhere_quotes_peek .predicateRejected trivial start Nat.one_pos expected ?_
    rintro g ⟨⟩
    rw [← hpeek]
    exact everywhere_quotes_peek .expectedLiteral trivial start Nat.one_pos _ (by simp)
  | cons c rest =>
    have hpeek : start.peek 1 = String.singleton c := by
      rw [Position.peek, hafter]
      rfl
    simp only [filter, filterM, anyChar_of_cons hafter] at h
    cases hc : test c <;> rw [hc] at h <;> cases h
    rw [show Display.display c = start.peek 1 from hpeek.symm]
    exact everywhere_quotes_peek .predicateRejected trivial start Nat.one_pos expected (by simp)

/-! ### Sequence, choice and repetition -/

theorem Quoting.mapM (hp : p.Quoting) (f : α → Except Fault β) : (p.mapM f).Quoting := by
  intro start origin failed h
  unfold Parser.mapM at h
  rcases hr : p start with fault | ⟨next, v⟩ | ⟨origin', failed'⟩ <;> rw [hr] at h
  · cases h
  · rcases hf : f v with fault | w <;> simp only [hf] at h <;> cases h
  · cases h
    exact hp start _ _ hr

theorem Quoting.map (hp : p.Quoting) (f : α → β) : (p.map f).Quoting := hp.mapM _

/-- The second parser starts further on, but in the same text. -/
theorem Quoting.andThen (hp : p.Quoting) (hkeeps : p.Disciplined) {f : α → Parser β}
    (hf : ∀ v, (f v).Quoting) : (p.andThen f).Quoting := by
  intro start origin failed h
  unfold Parser.andThen at h
  rcases hr : p start with fault | ⟨next, v⟩ | ⟨origin', failed'⟩ <;> rw [hr] at h
  · cases h
  · have hchars : next.chars = start.chars := (hkeeps start _ hr).1
    rcases hs : f v next with fault | ⟨last, w⟩ | ⟨origin', failed'⟩ <;> simp only [hs] at h <;>
      cases h
    exact hchars ▸ hf v next _ _ hs
  · cases h
    exact hp start _ _ hr

theorem Quoting.pair (hp : p.Quoting) (hkeeps : p.Disciplined) (hq : q.Quoting) :
    (Parser.pair p q).Quoting := by
  intro start origin failed h
  unfold Parser.pair at h
  rcases hr : p start with fault | ⟨next, v⟩ | ⟨origin', failed'⟩ <;> rw [hr] at h
  · cases h
  · have hchars : next.chars = start.chars := (hkeeps start _ hr).1
    rcases hs : q next with fault | ⟨last, w⟩ | ⟨origin', failed'⟩ <;> simp only [hs] at h <;>
      cases h
    exact hchars ▸ hq next _ _ hs
  · cases h
    exact hp start _ _ hr

theorem Quoting.left (hp : p.Quoting) (hkeeps : p.Disciplined) (hq : q.Quoting) :
    (Parser.left p q).Quoting :=
  (hp.pair hkeeps hq).map _

theorem Quoting.right (hp : p.Quoting) (hkeeps : p.Disciplined) (hq : q.Quoting) :
    (Parser.right p q).Quoting :=
  (hp.pair hkeeps hq).map _

theorem Quoting.either {p q : Parser α} (hp : p.Quoting) (hq : q.Quoting) :
    (Parser.either p q).Quoting := by
  intro start origin failed h
  unfold Parser.either at h
  rcases hr : p start with fault | ⟨next, v⟩ | ⟨origin', first⟩ <;> rw [hr] at h
  · cases h
  · cases h
  · rcases hs : q start with fault | ⟨next, v⟩ | ⟨origin', second⟩ <;> simp only [hs] at h <;>
      cases h
    have hfirst := hp start _ _ hr
    have hsecond := hq start _ _ hs
    refine everywhere_iff.2 ⟨hsecond.self.withAlternatives _, ?_, (everywhere_iff.1 hsecond).2.2⟩
    simp only [List.forall_mem_cons, List.not_mem_nil, false_imp_iff, implies_true, and_true]
    exact ⟨hfirst, hsecond⟩

theorem Quoting.label (hp : p.Quoting) (kind : Failure.Kind) (hkind : kind.NamesFound)
    (expected : Option String) : (p.label kind expected).Quoting := by
  intro start origin failed h
  unfold Parser.label at h
  rcases hr : p start with fault | ⟨next, v⟩ | ⟨origin', failed'⟩ <;> rw [hr] at h <;> cases h
  refine everywhere_quotes_peek kind hkind start Nat.one_pos expected ?_
  rintro g ⟨⟩
  exact hp start _ _ hr

theorem quoting_zeroOrMore (p : Parser α) : (zeroOrMore p).Quoting := by
  intro start origin failed h
  exact absurd h (zeroOrMore_ne_failure p start origin failed)

end Parser

/-! ### Tags and elements -/

namespace Lexeme

theorem quoting_name : name.Quoting :=
  (((quoting_filter_anyChar _ _).pair (disciplined_anyChar.filter _ _) (quoting_zeroOrMore _)).map
    _).label .expectedIdentifier trivial _

end Lexeme

namespace Grammar

open Failure

theorem quoting_tag {opening closing : String} (hopening : 0 < opening.length)
    (hclosing : 0 < closing.length) : (tag opening closing).Quoting :=
  (quoting_literal hopening).right (disciplined_literal _)
    (quoting_name.left disciplined_name (quoting_literal hclosing))

theorem quoting_selfClosingTag : selfClosingTag.Quoting :=
  (quoting_tag (by decide) (by decide)).mapM _

theorem quoting_openTag : openTag.Quoting := quoting_tag (by decide) (by decide)

/-- A closing tag of another name is shown by its name, which was read where the failure lies. -/
theorem quoting_closeTag (expected : String) : (closeTag expected).Quoting := by
  intro start origin failed h
  unfold closeTag at h
  rcases hr : closingName start with fault | ⟨next, found⟩ | ⟨origin', failed'⟩ <;> rw [hr] at h
  · cases h
  · have hclose : closeTag found start = .ok (.success next found) := by simp [closeTag, hr]
    obtain ⟨n, rfl, -, hpasses⟩ := closeTag_success hclose
    simp only at h
    split at h <;> cases h
    exact everywhere_of_cause (.closing rfl rfl rfl rfl hpasses) rfl (by simp [plain])
  · cases h
    exact quoting_tag (by decide) (by decide) start _ _ hr

variable {child : Parser Element} {start origin : Position} {failed : Failure}

/-- Behind some rounds, reading goes on in the same text. -/
theorem chars_of_rounds (hkeeps : child.Disciplined) {es : List Element} {last : Position}
    (h : Rounds child start es last) : (skipBlanks last).chars = start.chars :=
  (keeps_skipBlanks last).1.trans (keeps_rounds hkeeps h).1

/-- What ends the reading of children is met in the same text, at the closing tag or at a child. -/
theorem everywhere_quotes_of_childrenOf (hchild : child.Quoting) (hkeeps : child.Disciplined)
    {name : String} (h : childrenOf child name start = .ok (.failure origin failed)) :
    failed.Everywhere (Quotes start.chars) := by
  obtain ⟨es, last, hrounds, hend⟩ := childrenOf_ends child name start
  have hchars := chars_of_rounds hkeeps hrounds
  rw [h] at hend
  rw [← hchars]
  cases hend with
  | broken hbroken _ => exact hchild _ _ _ hbroken
  | unclosed hclose _ _ => exact quoting_closeTag name _ _ _ hclose
  | idle hclose _ _ => exact quoting_closeTag name _ _ _ hclose

theorem quoting_containerBody (hchild : child.Quoting) (hkeeps : child.Disciplined)
    (name : String) : (containerBody child name).Quoting := by
  intro start origin failed h
  unfold containerBody at h
  rcases hr : childrenOf child name start with fault | ⟨next, es⟩ | ⟨origin', failed'⟩ <;>
    rw [hr] at h
  · cases h
  · rcases hc : Element.container? name es with fault | e <;> simp only [hc] at h <;> cases h
  · cases h
    exact everywhere_quotes_of_childrenOf hchild hkeeps hr

/-- Each level of nesting is truthful because the level inside it is. -/
theorem quoting_containerTag (limit : Nat) : (containerTag limit).Quoting := by
  induction limit with
  | zero => exact quoting_openTag.andThen disciplined_openTag fun _ => quoting_abort _
  | succ limit ih =>
    exact quoting_openTag.andThen disciplined_openTag
      (quoting_containerBody (quoting_selfClosingTag.either ih) (disciplined_element limit))

theorem quoting_element (limit : Nat) : (element limit).Quoting :=
  quoting_selfClosingTag.either (quoting_containerTag limit)

/-- Nothing but the element itself can fail at top level. -/
theorem quoting_topLevelElement (limit : Nat) : (topLevelElement limit).Quoting := by
  intro start origin failed h
  have hend := topLevelElement_ends limit start
  rw [h] at hend
  cases hend with
  | failed helement => exact quoting_element limit start _ _ helement

/-! ### Documents -/

/-- Text that is left over is shown up to the end of it. -/
theorem everywhere_quotes_leftOver (hmore : start.atEnd = false)
    (hfailed : failed.Everywhere (Quotes start.chars)) :
    (leftOver start failed).Everywhere (Quotes start.chars) := by
  have hafter : start.after ≠ [] := by simpa [Position.atEnd] using hmore
  have hremaining : start.remaining = start.peek start.after.length := by
    rw [Position.peek, List.take_length, Position.remaining]
  unfold leftOver
  split
  · exact hfailed
  · refine everywhere_of_cause ?_ rfl ?_
    · exact .ahead rfl rfl (congrArg some hremaining) (List.length_pos_iff.2 hafter) (by simp)
        (.inr hafter)
    · rintro g ⟨⟩
      exact hfailed

/-- Reading gives up behind an opening tag, so there is text to show where it does. -/
theorem everywhere_quotes_tooDeep {limit : Nat}
    (h : topLevelElement limit start = .error .nestingExhausted) :
    (tooDeep start).Everywhere (Quotes start.chars) := by
  obtain ⟨n, q, -, hpasses⟩ := opening_of_exhausted h
  have hafter : start.after ≠ [] := by
    rw [hpasses.after]
    simp [openingText]
  refine everywhere_of_cause (.ahead rfl rfl rfl Nat.one_pos ?_ (.inr hafter)) rfl ?_
  · simp [tooDeep, plain]
  · simp [tooDeep, plain]

theorem everywhere_quotes_of_topLevelElements {limit : Nat}
    (h : topLevelElements limit start = .ok (.failure origin failed)) :
    failed.Everywhere (Quotes start.chars) := by
  obtain ⟨es, last, hrounds, hend⟩ := topLevelElements_ends limit start
  have hchars := chars_of_rounds (disciplined_topLevelElement limit) hrounds
  rw [h] at hend
  rw [← hchars]
  cases hend with
  | tooDeep hdeep => exact everywhere_quotes_tooDeep hdeep
  | failed hmore hfailed =>
    exact everywhere_quotes_leftOver hmore (quoting_topLevelElement limit _ _ _ hfailed)
  -- A top-level element takes some text, so no round is idle.
  | idle helement hle =>
    have hlt := topLevelElement_left_lt helement
    obtain ⟨bs, -, hskip, -⟩ := passes_skipBlanks origin
    have hleft := hskip.left
    omega

end Grammar

namespace Document

/-- **Failures quote the text.** Where a text is not read, every failure in the tree that is
reported lies in the text and shows what stands there: some of the text ahead, or, for a mismatch,
the name in the closing tag with which the text goes on. What it shows is empty at the end of the
text and there alone, so that there and there alone its description closes by saying that the text
had ended. -/
theorem failures_quote_the_text {text : String} {p : Position} {failed : Failure}
    (h : tryParse text = .ok (.failure p failed)) (g : Failure) (hg : failed.Includes g) :
    0 ≤ g.offset ∧ g.offset ≤ text.length ∧
    (∃ found, g.found = some found ∧
      (if g.kind = .tagMismatch then closingText found.toList else found.toList) <+:
        text.toList.drop g.offset.toNat ∧
      (found = "" ↔ g.offset = text.length)) ∧
    (g.SaysEnd ↔ g.offset = text.length) := by
  obtain ⟨-, origin, hread⟩ := topLevelElements_of_failure h
  have hquotes : g.Quotes text.toList := everywhere_quotes_of_topLevelElements hread g hg
  have hsaid := hquotes.saysEnd_iff
  obtain ⟨q, found, hchars, hoffset, hfound, hbegins, hempty, -⟩ := hquotes.exists_position
  rw [q.after_eq_nil_iff] at hempty
  rw [← q.drop_chars] at hbegins
  have hlength : q.chars.length = text.length := by rw [hchars, String.length_toList]
  have hle := q.offset_le
  refine ⟨by omega, by omega, ⟨found, hfound, ?_, ?_⟩, ?_⟩
  · rwa [hoffset, Int.toNat_natCast, ← hchars]
  · rw [hempty]
    omega
  · rw [hsaid, String.length_toList]

/-- In `<a></` a name is missing at the end of the text, and the description says so. The tree also
holds the failure to read `<a/>`, which shows the two characters found instead of `/>` and does not
speak of the end. -/
theorem failures_at_the_end_and_before_it :
    ∃ p failed, tryParse "<a></" = .ok (.failure p failed) ∧ failed.offset = 5 ∧ failed.SaysEnd ∧
      ∃ g ∈ failed.alternatives, g.offset = 2 ∧ g.found = some "><" ∧
        "><".toList <+: "<a></".toList.drop 2 ∧ ¬ g.SaysEnd := by
  have hview : ((tryParse "<a></").toOption.bind Outcome.failure?).map
      (fun failed => (failed.offset, failed.alternatives.head?.map fun g =>
        (g.kind, g.offset, g.found))) =
        some (5, some (.expectedLiteral, 2, some "><")) := by decide +kernel
  obtain ⟨p, failed, hfails, hshown⟩ := Outcome.exists_of_failure? hview
  obtain ⟨hend, hfirst⟩ := Prod.mk.inj hshown
  obtain ⟨g, hhead, hg⟩ := Option.map_eq_some_iff.1 hfirst
  have hmem : g ∈ failed.alternatives := List.mem_of_head? hhead
  obtain ⟨hkind, hg⟩ := Prod.mk.inj hg
  obtain ⟨hoffset, hfound⟩ := Prod.mk.inj hg
  obtain ⟨-, -, -, hsaid⟩ := failures_quote_the_text hfails failed (.self failed)
  obtain ⟨-, -, ⟨found, hfound', hbegins, -⟩, hnot⟩ :=
    failures_quote_the_text hfails g (.alternative hmem (.self g))
  obtain rfl : found = "><" := Option.some.inj (hfound'.symm.trans hfound)
  rw [hkind, hoffset] at hbegins
  rw [hoffset] at hnot
  exact ⟨p, failed, hfails, hend, hsaid.2 hend, g, hmem, hoffset, hfound, hbegins,
    fun hsaid => absurd (hnot.1 hsaid) (by decide)⟩

end Document

end TagScript
