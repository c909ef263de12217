import TagScript.Proofs.FailureTree
import TagScript.Proofs.Rounds
import TagScript.Recipe

/-!
# Position discipline

A parser that succeeds stands further on in the same text, and one that fails hands back the
position it was started from, with no failure reported from before it.

* `Outcome.Keeps start` says this of an outcome, `Parser.Disciplined` of a parser.
* Every way to put parsers together keeps the discipline, so every recipe has it, and so does a
  session of recipes step by step: `recipe_outcome_and_session_keep_positions`.
-/

namespace TagScript

open TagScript.Parser

variable {α β : Type}

/-- The outcome of a parser started at `start` lies in the same text, not before `start`; a failure
lies at `start` itself, and reports nothing from before it. -/
def Outcome.Keeps (start : Position) : Outcome α → Prop
  | .success p _ => p.chars = start.chars ∧ start.offset ≤ p.offset
  | .failure p failed => p = start ∧ failed.Within start.offset start.chars.length

/-- Every outcome of the parser keeps to the text and to the position it was started from. -/
def Parser.Disciplined (p : Parser α) : Prop :=
  ∀ start outcome, p start = .ok outcome → outcome.Keeps start

namespace Outcome

/-- What holds of a second parser, started where a first one ended, holds from the first start on. -/
theorem Keeps.startingAt {start middle : Position} {v : α}
    (hfirst : (success middle v).Keeps start) (outcome : Outcome β)
    (hsecond : outcome.Keeps middle) : (outcome.startingAt start).Keeps start := by
  obtain ⟨hchars, hle⟩ := hfirst
  cases outcome with
  | success last w => exact ⟨hsecond.1.trans hchars, Nat.le_trans hle hsecond.2⟩
  | failure origin failed =>
    obtain ⟨-, hwithin⟩ := hsecond
    rw [hchars] at hwithin
    exact ⟨rfl, hwithin.widen (by omega)⟩

/-- Wherever an outcome leaves off, it is in the same text and not before the start. -/
theorem Keeps.position {start : Position} {outcome : Outcome α} (h : outcome.Keeps start) :
    outcome.position.chars = start.chars ∧ start.offset ≤ outcome.position.offset := by
  cases outcome with
  | success p v => exact h
  | failure p failed =>
    obtain ⟨rfl, -⟩ := h
    exact ⟨rfl, Nat.le_refl _⟩

theorem keeps_success_self (start : Position) (v : α) : (success start v).Keeps start :=
  ⟨rfl, Nat.le_refl _⟩

theorem keeps_success_advance (start : Position) (count : Nat) (v : α) :
    (success (start.advance count) v).Keeps start := by
  refine ⟨start.chars_advance count, ?_⟩
  rw [Position.offset_advance]
  omega

/-- A failure at the start of the parser, whose cause and alternatives are in bounds. -/
theorem keeps_failure {start : Position} {failed : Failure} (hoffset : failed.offset = start.offset)
    (halternatives : failed.alternatives = [])
    (hcause : ∀ g, failed.cause = some g → g.Within start.offset start.chars.length) :
    (failure start failed : Outcome α).Keeps start := by
  refine ⟨rfl, Failure.everywhere_iff.2 ⟨?_, ?_, hcause⟩⟩
  · have := start.offset_le
    omega
  · simp [halternatives]

end Outcome

namespace Parser

open Outcome

variable {p : Parser α} {q : Parser β}

/-! ### Elementary parsers -/

theorem disciplined_succeed (v : α) : (succeed v).Disciplined := by
  intro start outcome h
  cases h
  exact keeps_success_self start v

theorem disciplined_abort (fault : Fault) : (abort fault : Parser α).Disciplined := by
  intro start outcome h
  cases h

theorem disciplined_fail (kind : Failure.Kind) (expected : Option String) :
    (fail kind expected : Parser α).Disciplined := by
  intro start outcome h
  cases h
  exact keeps_failure rfl rfl (by simp [failureAt])

theorem disciplined_literal (s : String) : (literal s).Disciplined := by
  intro start outcome h
  unfold literal at h
  split at h
  · cases h
    exact keeps_success_advance start _ s
  · cases h
    exact keeps_failure rfl rfl (by simp [Failure.plain])

theorem disciplined_anyChar : anyChar.Disciplined := by
  intro start outcome h
  cases hafter : start.after with
  | nil =>
    unfold anyChar at h
    rw [Position.step?_of_nil hafter] at h
    cases h
    exact keeps_failure rfl rfl (by simp [Failure.plain])
  | cons c rest =>
    rw [anyChar_of_cons hafter] at h
    cases h
    exact keeps_success_advance start 1 c

theorem disciplined_endOfInput : endOfInput.Disciplined := by
  intro start outcome h
  unfold endOfInput at h
  split at h
  · cases h
    exact keeps_success_self start ()
  · cases h
    exact keeps_failure rfl rfl (by simp [Failure.plain])

/-! ### Sequence -/

theorem Disciplined.mapM (hp : p.Disciplined) (f : α → Except Fault β) :
    (p.mapM f).Disciplined := by
  intro start outcome h
  unfold Parser.mapM at h
  rcases hr : p start with fault | ⟨next, v⟩ | ⟨origin, failed⟩ <;> rw [hr] at h
  · cases h
  · rcases hf : f v with fault | w <;> simp only [hf] at h
    · cases h
    · cases h
      exact hp start _ hr
  · cases h
    exact hp start _ hr

theorem Disciplined.map (hp : p.Disciplined) (f : α → β) : (p.map f).Disciplined :=
  hp.mapM _

theorem Disciplined.andThen (hp : p.Disciplined) {f : α → Parser β}
    (hf : ∀ v, (f v).Disciplined) : (p.andThen f).Disciplined := by
  intro start outcome h
  unfold Parser.andThen at h
  rcases hr : p start with fault | ⟨next, v⟩ | ⟨origin, failed⟩ <;> rw [hr] at h
  · cases h
  · rcases hs : f v next with fault | second <;> simp only [hs] at h
    · cases h
    · cases h
      exact (hp start _ hr).startingAt second (hf v next second hs)
  -- A failure of `p` is handed on as it is, so it stands at `start` only because `p` puts it there.
  · cases h
    exact hp start _ hr

theorem Disciplined.pair (hp : p.Disciplined) (hq : q.Disciplined) :
    (Parser.pair p q).Disciplined := by
  intro start outcome h
  unfold Parser.pair at h
  rcases hr : p start with fault | ⟨next, v⟩ | ⟨origin, failed⟩ <;> rw [hr] at h
  · cases h
  · have hfirst := hp start _ hr
    rcases hs : q next with fault | ⟨last, w⟩ | ⟨origin, failed⟩ <;> simp only [hs] at h
    · cases h
    · cases h
      exact hfirst.startingAt (.success last (v, w)) (hq next _ hs)
    · cases h
      exact hfirst.startingAt (.failure origin failed) (hq next _ hs)
  · cases h
    exact ⟨rfl, (hp start _ hr).2⟩

theorem Disciplined.left (hp : p.Disciplined) (hq : q.Disciplined) :
    (Parser.left p q).Disciplined :=
  (hp.pair hq).map _

theorem Disciplined.right (hp : p.Disciplined) (hq : q.Disciplined) :
    (Parser.right p q).Disciplined :=
  (hp.pair hq).map _

/-! ### Choice and tests -/

theorem Disciplined.either {p q : Parser α} (hp : p.Disciplined) (hq : q.Disciplined) :
    (Parser.either p q).Disciplined := by
  intro start outcome h
  unfold Parser.either at h
  rcases hr : p start with fault | ⟨next, v⟩ | ⟨origin, first⟩ <;> rw [hr] at h
  · cases h
  · cases h
    exact hp start _ hr
  · rcases hs : q start with fault | ⟨next, v⟩ | ⟨origin', second⟩ <;> simp only [hs] at h
    · cases h
    · cases h
      exact hq start _ hs
    · cases h
      have hfirst := (hp start _ hr).2
      have hsecond := (hq start _ hs).2
      refine ⟨rfl, Failure.everywhere_iff.2 ⟨hsecond.self, ?_, (Failure.everywhere_iff.1 hsecond).2.2⟩⟩
      intro g hg
      simp only [List.mem_cons, List.not_mem_nil, or_false] at hg
      rcases hg with rfl | rfl
      · exact hfirst
      · exact hsecond

theorem Disciplined.filterM [Display α] (hp : p.Disciplined) (test : α → Except Fault Bool)
    (expected : Option String) : (p.filterM test expected).Disciplined := by
  intro start outcome h
  unfold Parser.filterM at h
  rcases hr : p start with fault | ⟨next, v⟩ | ⟨origin, failed⟩ <;> rw [hr] at h
  · cases h
  · rcases ht : test v with fault | accepted <;> simp only [ht] at h
    · cases h
    · cases accepted <;> cases h
      · exact keeps_failure rfl rfl (by simp [Failure.plain])
      · exact hp start _ hr
  · cases h
    refine keeps_failure rfl rfl fun g hg => ?_
    cases hg
    exact (hp start _ hr).2

theorem Disciplined.filter [Display α] (hp : p.Disciplined) (test : α → Bool)
    (expected : Option String) : (p.filter test expected).Disciplined :=
  hp.filterM _ expected

theorem Disciplined.label (hp : p.Disciplined) (kind : Failure.Kind) (expected : Option String) :
    (p.label kind expected).Disciplined := by
  intro start outcome h
  unfold Parser.label at h
  rcases hr : p start with fault | ⟨next, v⟩ | ⟨origin, failed⟩ <;> rw [hr] at h
  · cases h
  · cases h
    exact hp start _ hr
  · cases h
    refine keeps_failure rfl rfl fun g hg => ?_
    cases hg
    exact (hp start _ hr).2

/-! ### Repetition -/

/-- The rounds of a repetition stay in the text and never go back. -/
theorem Disciplined.chain (hp : p.Disciplined) {current last : Position} {vs : List α}
    (h : chain p current = .ok (last, vs)) : (success last vs).Keeps current := by
  fun_induction Parser.chain p current generalizing last vs with
  | case1 => cases h
  | case2 => cases h; exact keeps_success_self _ _
  | case3 => cases h
  -- One round moves on to `next`, and the rounds behind it keep to the text from there.
  | case4 current next v hr _ last' vs' hrest ih =>
    cases h
    have hlast := ih hrest
    exact (hp current _ hr).startingAt (.success last' (v :: vs')) hlast
  | case5 => cases h; exact keeps_success_self _ _

theorem Disciplined.zeroOrMore (hp : p.Disciplined) : (zeroOrMore p).Disciplined := by
  intro start outcome h
  unfold Parser.zeroOrMore at h
  rcases hr : Parser.chain p start with fault | ⟨last, vs⟩ <;> rw [hr] at h <;> cases h
  exact hp.chain hr

theorem Disciplined.oneOrMore (hp : p.Disciplined) : (oneOrMore p).Disciplined := by
  intro start outcome h
  unfold Parser.oneOrMore at h
  rcases hr : p start with fault | ⟨next, v⟩ | ⟨origin, failed⟩ <;> rw [hr] at h
  · cases h
  · rcases hs : Parser.chain p next with fault | ⟨last, vs⟩ <;> simp only [hs] at h <;> cases h
    have hlast := hp.chain hs
    exact (hp start _ hr).startingAt (.success last (v :: vs)) hlast
  · cases h
    refine keeps_failure rfl rfl fun g hg => ?_
    cases hg
    exact (hp start _ hr).2

end Parser

/-! ### Lexemes and tags -/

namespace Lexeme

theorem disciplined_blank : blank.Disciplined := disciplined_anyChar.filter _ _

theorem disciplined_blanks : blanks.Disciplined := disciplined_blank.zeroOrMore

theorem disciplined_someBlanks : someBlanks.Disciplined := disciplined_blank.oneOrMore.label _ _

theorem disciplined_name : name.Disciplined :=
  (((disciplined_anyChar.filter _ _).pair (disciplined_anyChar.filter _ _).zeroOrMore).map _).label
    _ _

theorem disciplined_quotedText : quotedText.Disciplined :=
  ((disciplined_literal _).right
    ((disciplined_anyChar.filter _ _).zeroOrMore.left (disciplined_literal _))).map _

theorem disciplined_amidBlanks {p : Parser α} (hp : p.Disciplined) : (amidBlanks p).Disciplined :=
  disciplined_blanks.right (hp.left disciplined_blanks)

/-- Skipping blanks succeeds and stays in the text. -/
theorem keeps_skipBlanks (p : Position) : (Outcome.success (skipBlanks p) ()).Keeps p := by
  rw [skipBlanks_eq]
  exact Outcome.keeps_success_advance p _ ()

end Lexeme

namespace Grammar

open Lexeme Outcome

theorem disciplined_tag (opening closing : String) : (tag opening closing).Disciplined :=
  (disciplined_literal _).right (disciplined_name.left (disciplined_literal _))

theorem disciplined_tagStart : tagStart.Disciplined := (disciplined_literal _).pair disciplined_name

theorem disciplined_selfClosingTag : selfClosingTag.Disciplined := (disciplined_tag _ _).mapM _

theorem disciplined_openTag : openTag.Disciplined := disciplined_tag _ _

theorem disciplined_closeTag (expected : String) : (closeTag expected).Disciplined := by
  intro start outcome h
  unfold closeTag at h
  rcases hr : closingName start with fault | ⟨next, found⟩ | ⟨origin, failed⟩ <;> rw [hr] at h
  · cases h
  · have hnext := disciplined_tag _ _ start _ hr
    simp only at h
    split at h <;> cases h
    · exact hnext
    · exact keeps_failure rfl rfl (by simp [Failure.plain])
  · cases h
    exact disciplined_tag _ _ start _ hr

/-- Rounds lead forwards in the text. -/
theorem keeps_rounds {child : Parser Element} (hchild : child.Disciplined) {p q : Position}
    {es : List Element} (h : Rounds child p es q) : (success q es).Keeps p := by
  induction h with
  | nil p => exact keeps_success_self p []
  | @cons p q r e es he _ _ ih =>
    have hnext := (keeps_skipBlanks p).startingAt (.success q e) (hchild _ _ he)
    exact hnext.startingAt (.success r (e :: es)) ih

/-- Children are read forwards. A failure among them is handed back where reading had got to, and
`containerBody` takes it back to its own start. -/
theorem keeps_childrenOf {child : Parser Element} (hchild : child.Disciplined) {name : String}
    {start : Position} {outcome : Outcome (List Element)}
    (h : childrenOf child name start = .ok outcome) : (outcome.startingAt start).Keeps start := by
  obtain ⟨es, last, hrounds, hend⟩ := childrenOf_ends child name start
  rw [h] at hend
  have hhere := (keeps_rounds hchild hrounds).startingAt (.success _ ()) (keeps_skipBlanks last)
  cases hend with
  | @closed next found hclose =>
    have hnext := disciplined_closeTag name _ _ hclose
    exact hhere.startingAt (.success next es) hnext
  | @broken origin failed hbroken _ =>
    have hfailed := hchild _ _ hbroken
    exact hhere.startingAt (.failure origin failed) hfailed
  | @unclosed origin _ failed _ hclose _ _ =>
    have hfailed := disciplined_closeTag name _ _ hclose
    exact hhere.startingAt (.failure origin failed) hfailed
  | @idle origin _ failed _ hclose _ _ =>
    have hfailed := disciplined_closeTag name _ _ hclose
    exact hhere.startingAt (.failure origin failed) hfailed

theorem disciplined_containerBody {child : Parser Element} (hchild : child.Disciplined)
    (name : String) : (containerBody child name).Disciplined := by
  intro start outcome h
  unfold containerBody at h
  rcases hr : childrenOf child name start with fault | ⟨next, es⟩ | ⟨origin, failed⟩ <;>
    rw [hr] at h
  · cases h
  · rcases hc : Element.container? name es with fault | e <;> simp only [hc] at h <;> cases h
    exact keeps_childrenOf hchild hr
  · cases h
    exact keeps_childrenOf hchild hr

/-- Each level of nesting keeps the discipline because the level inside it does. -/
theorem disciplined_containerTag (limit : Nat) : (containerTag limit).Disciplined := by
  induction limit with
  | zero => exact disciplined_openTag.andThen fun _ => disciplined_abort _
  | succ limit ih =>
    exact disciplined_openTag.andThen
      (disciplined_containerBody (disciplined_selfClosingTag.either ih))

theorem disciplined_element (limit : Nat) : (element limit).Disciplined :=
  disciplined_selfClosingTag.either (disciplined_containerTag limit)

theorem disciplined_closeTopLevel (e : Element) : (closeTopLevel e).Disciplined := by
  cases e with
  | selfClosing n =>
    exact ((disciplined_blanks.right (disciplined_closeTag n.text)).mapM _).either
      (disciplined_succeed _)
  | container n es => exact disciplined_succeed _

theorem disciplined_topLevelElement (limit : Nat) : (topLevelElement limit).Disciplined :=
  (disciplined_element limit).andThen disciplined_closeTopLevel

end Grammar

/-! ### Recipes and sessions -/

namespace Recipe

theorem disciplined_continuation (limit : Nat) (next : Continuation) (v : Value) :
    (continuation limit next v).Disciplined := by
  unfold continuation
  split
  · exact disciplined_succeed _
  · exact (disciplined_literal _).map _
  · exact (Grammar.disciplined_closeTag _).map _
  · exact (Grammar.disciplined_containerBody (Grammar.disciplined_element _) _).map _
  · exact disciplined_abort _

/-- Every recipe describes a disciplined parser. -/
theorem disciplined_recipe (limit : Nat) (r : Recipe) : (r.parser limit).Disciplined := by
  induction r with
  | anyChar => exact disciplined_anyChar.map _
  | blank => exact Lexeme.disciplined_blank.map _
  | blanks => exact Lexeme.disciplined_blanks.map _
  | someBlanks => exact Lexeme.disciplined_someBlanks.map _
  | name => exact Lexeme.disciplined_name.map _
  | quotedText => exact Lexeme.disciplined_quotedText.map _
  | tagStart => exact Grammar.disciplined_tagStart.map _
  | selfClosingTag => exact Grammar.disciplined_selfClosingTag.map _
  | openTag => exact Grammar.disciplined_openTag.map _
  | containerTag => exact (Grammar.disciplined_containerTag limit).map _
  | element => exact (Grammar.disciplined_element limit).map _
  | topLevelElement => exact (Grammar.disciplined_topLevelElement limit).map _
  | endOfInput => exact disciplined_endOfInput.map _
  | literal s => exact (disciplined_literal s).map _
  | closeTag s => exact (Grammar.disciplined_closeTag s).map _
  | succeed v => exact disciplined_succeed v
  | fail kind expected => exact disciplined_fail kind expected
  | amidBlanks p ih => exact Lexeme.disciplined_amidBlanks ih
  | pair p q ihp ihq => exact (ihp.pair ihq).map _
  | left p q ihp ihq => exact ihp.left ihq
  | right p q ihp ihq => exact ihp.right ihq
  | either p q ihp ihq => exact ihp.either ihq
  | zeroOrMore p ih => exact ih.zeroOrMore.map _
  | oneOrMore p ih => exact ih.oneOrMore.map _
  | map p f ih => exact ih.mapM _
  | filter p test expected ih => exact ih.filterM _ expected
  | andThen p next ih => exact ih.andThen (disciplined_continuation limit next)
  | followedBy p q ihp ihq => exact ihp.andThen fun _ => ihq
  | label p kind expected ih => exact ih.label kind expected

/-- The positions of a session: where it starts, and where each step leaves it. -/
def trail (start : Position) (outcomes : List (Outcome Value)) : List Position :=
  start :: outcomes.map Outcome.position

/-- The first step of a session, and the session that goes on where it ended. -/
theorem session_cons_eq_ok {r : Recipe} {rs : List Recipe} {start : Position}
    {outcomes : List (Outcome Value)} (h : session (r :: rs) start = .ok outcomes) :
    ∃ first rest, r.run start = .ok first ∧ session rs first.position = .ok rest ∧
      outcomes = first :: rest := by
  unfold session at h
  rcases hr : r.run start with fault | first <;> simp only [hr] at h
  · cases h
  · rcases hs : session rs first.position with fault | rest <;> rw [hs] at h <;> cases h
    exact ⟨first, rest, rfl, hs, rfl⟩

/-- Along a session the text stays and offsets never decrease. -/
theorem session_pairwise {rs : List Recipe} {start : Position} {outcomes : List (Outcome Value)}
    (h : session rs start = .ok outcomes) :
    (trail start outcomes).Pairwise fun p q => q.chars = p.chars ∧ p.offset ≤ q.offset := by
  induction rs generalizing start outcomes with
  | nil =>
    cases h
    exact List.pairwise_singleton _ start
  | cons r rs ih =>
    obtain ⟨first, rest, hfirst, hrest, rfl⟩ := session_cons_eq_ok h
    have hkeeps := (disciplined_recipe _ r start first hfirst).position
    refine List.Pairwise.cons ?_ (ih hrest)
    intro q hq
    rcases List.mem_cons.1 hq with rfl | hq
    · exact hkeeps
    · have hlater := List.rel_of_pairwise_cons (ih hrest) hq
      exact ⟨hlater.1.trans hkeeps.1, Nat.le_trans hkeeps.2 hlater.2⟩

/-- A failing step of a session leaves the position where it was. -/
theorem session_failure {rs : List Recipe} {start : Position} {outcomes : List (Outcome Value)}
    (h : session rs start = .ok outcomes) {i : Nat} {p : Position} {failed : Failure}
    (hi : outcomes[i]? = some (.failure p failed)) : (trail start outcomes)[i]? = some p := by
  induction rs generalizing start outcomes i with
  | nil =>
    cases h
    simp at hi
  | cons r rs ih =>
    obtain ⟨first, rest, hfirst, hrest, rfl⟩ := session_cons_eq_ok h
    cases i with
    | zero =>
      obtain rfl : first = .failure p failed := by simpa using hi
      obtain ⟨rfl, -⟩ := disciplined_recipe _ r start _ hfirst
      rfl
    | succ i => exact ih hrest (by simpa using hi)

/-- **Positions under recipes.** A recipe that fails hands back its start, and every failure it
reports, however deep in the tree, lies between the start and the end of the text; one that succeeds
stands in the same text between these bounds. Along a session, the steps therefore stay in the text,
offsets never decrease, and a failing step moves nothing. -/
theorem recipe_outcome_and_session_keep_positions :
    (∀ (limit : Nat) (r : Recipe) (start : Position) (outcome : Outcome Value),
      r.parser limit start = .ok outcome →
        match outcome with
        | .failure p failed =>
          p = start ∧
            ∀ g, failed.Includes g → start.offset ≤ g.offset ∧ g.offset ≤ start.text.length
        | .success p _ =>
          p.text = start.text ∧ start.offset ≤ p.offset ∧ p.offset ≤ start.text.length) ∧
    ∀ (rs : List Recipe) (start : Position) (outcomes : List (Outcome Value)),
      session rs start = .ok outcomes →
        (∀ p ∈ trail start outcomes, p.text = start.text ∧ p.offset ≤ start.text.length) ∧
        (trail start outcomes).Pairwise (fun p q => p.offset ≤ q.offset) ∧
        ∀ (i : Nat) (p : Position) (failed : Failure),
          outcomes[i]? = some (.failure p failed) → (trail start outcomes)[i]? = some p := by
  constructor
  · intro limit r start outcome h
    have hkeeps := disciplined_recipe limit r start outcome h
    rw [start.length_text]
    cases outcome with
    | failure p failed => exact hkeeps
    | success p v =>
      obtain ⟨hchars, hle⟩ := hkeeps
      refine ⟨congrArg String.ofList hchars, hle, ?_⟩
      rw [← hchars]
      exact p.offset_le
  · intro rs start outcomes h
    have hpairs := session_pairwise h
    refine ⟨?_, hpairs.imp And.right, fun i p failed hi => session_failure h hi⟩
    intro p hp
    have hchars : p.chars = start.chars := by
      rcases List.mem_cons.1 hp with rfl | hp
      · rfl
      · exact (List.rel_of_pairwise_cons hpairs hp).1
    refine ⟨congrArg String.ofList hchars, ?_⟩
    rw [start.length_text, ← hchars]
    exact p.offset_le

/-- The closing tag of `<b></c>` does not match, and every failure in the tree lies in the text. In
`<b><b/></b> x` an element is read and then a text that does not follow is not, which leaves the
position behind the element. -/
theorem positions_of_mismatch_and_of_nested_element :
    (∃ failed, element.parser 150 (.start "<b></c>") = .ok (.failure (.start "<b></c>") failed) ∧
      failed.alternatives.length = 2 ∧
      ∀ g, failed.Includes g → 0 ≤ g.offset ∧ g.offset ≤ 7) ∧
    ∃ outcomes, session [.element, .literal "y"] (.start "<b><b/></b> x") = .ok outcomes ∧
      outcomes.map (·.position.offset) = [11, 11] ∧
      (trail (.start "<b><b/></b> x") outcomes).Pairwise fun p q => p.offset ≤ q.offset := by
  constructor
  · have hview : ((element.parser 150 (.start "<b></c>")).toOption.bind Outcome.failure?).map
        (·.alternatives.length) = some 2 := by decide +kernel
    obtain ⟨p, failed, hfails, hlength⟩ := Outcome.exists_of_failure? hview
    obtain ⟨rfl, hwithin⟩ := recipe_outcome_and_session_keep_positions.1 150 element _ _ hfails
    exact ⟨failed, hfails, hlength, hwithin⟩
  · have h : (session [.element, .literal "y"] (.start "<b><b/></b> x")).toOption.map
        (·.map (·.position.offset)) = some [11, 11] := by decide +kernel
    rcases hr : session [.element, .literal "y"] (.start "<b><b/></b> x") with fault | outcomes <;>
      rw [hr] at h
    · cases h
    · have hsession := recipe_outcome_and_session_keep_positions.2 _ _ _ hr
      exact ⟨outcomes, rfl, Option.some.inj h, hsession.2.1⟩

end Recipe

end TagScript
