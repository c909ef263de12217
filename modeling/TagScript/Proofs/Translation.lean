import TagScript.Proofs.FailureTree
import TagScript.Recipe

/-!
# Parsers see only what follows

* `p.shift front` is the position `p` when the characters `front` stand before its text;
  `Outcome.shift` and `Failure.shift` move an outcome and every offset in a tree of failures along.
* `Parser.Translates` says that a parser started further on in a text does what it does at the start
  of the rest, shifted. Every way to put parsers together keeps this, so every recipe has it:
  `recipe_at_offset_eq_recipe_on_rest`.
-/

namespace TagScript

open TagScript.Parser

/-! ### Shifting -/

namespace Failure

mutual

/-- The failure with `k` added to every offset in its tree. -/
def shift (k : Nat) : Failure → Failure
  | ⟨kind, offset, expected, found, alternatives, cause⟩ =>
    ⟨kind, offset + k, expected, found, shiftAll k alternatives, shiftCause k cause⟩

/-- Each failure with `k` added to every offset in its tree. -/
def shiftAll (k : Nat) : List Failure → List Failure
  | [] => []
  | f :: fs => f.shift k :: shiftAll k fs

/-- The causing failure, if there is one, with `k` added to every offset in its tree. -/
def shiftCause (k : Nat) : Option Failure → Option Failure
  | none => none
  | some f => some (f.shift k)

end

@[simp] theorem expected_shift (f : Failure) (k : Nat) : (f.shift k).expected = f.expected := by
  cases f
  rfl

/-- Other alternatives are shifted on their own. -/
theorem shift_with_alternatives (f : Failure) (tried : List Failure) (k : Nat) :
    { f with alternatives := tried }.shift k =
      { f.shift k with alternatives := shiftAll k tried } := by
  cases f
  rfl

end Failure

namespace Position

/-- The same place when the characters `front` stand before the text. -/
def shift (p : Position) (front : List Char) : Position where
  before := p.before ++ front.reverse
  after := p.after
  offset := p.offset + front.length
  left := p.left
  offset_eq := by rw [p.offset_eq, List.length_append, List.length_reverse]
  left_eq := p.left_eq

variable (p : Position) (front : List Char)

@[simp] theorem before_shift : (p.shift front).before = p.before ++ front.reverse := rfl

@[simp] theorem after_shift : (p.shift front).after = p.after := rfl

@[simp] theorem left_shift : (p.shift front).left = p.left := rfl

theorem advance_shift (count : Nat) :
    (p.shift front).advance count = (p.advance count).shift front := by
  apply Position.ext
  · rw [before_shift, before_advance, before_advance, before_shift, after_shift,
      List.append_assoc]
  · rw [after_shift, after_advance, after_advance, after_shift]

/-- Behind `front`, a position is one at the start of the rest, shifted. -/
theorem advance_ofChars (rest : List Char) :
    (ofChars (front ++ rest)).advance front.length = (ofChars rest).shift front := by
  apply Position.ext
  · rw [before_advance, before_shift]
    simp [ofChars]
  · rw [after_advance, after_shift]
    simp [ofChars]

theorem at?_eq_shift {text : String} {o : Nat} (h : o ≤ text.length) :
    at? text o =
      .ok ((start (String.ofList (text.toList.drop o))).shift (text.toList.take o)) := by
  have hrange : (0 : Int) ≤ o ∧ (o : Int) ≤ text.length := by omega
  have hlength : (text.toList.take o).length = o :=
    List.length_take_of_le (by rwa [String.length_toList])
  have hadvance := advance_ofChars (text.toList.take o) (text.toList.drop o)
  rw [List.take_append_drop, hlength] at hadvance
  rw [at?, if_pos hrange, Int.toNat_natCast, start, start, hadvance, String.toList_ofList]

end Position

/-- The outcome when the characters `front` stand before the text. -/
def Outcome.shift {α : Type} (front : List Char) : Outcome α → Outcome α
  | success p v => success (p.shift front) v
  | failure p failed => failure (p.shift front) (failed.shift front.length)

/-- A parser sees only what follows: characters before the text shift its outcome and change nothing
else. -/
def Parser.Translates {α : Type} (p : Parser α) : Prop :=
  ∀ (front : List Char) (start : Position),
    p (start.shift front) = (p start).map (Outcome.shift front)

variable {α β : Type}

namespace Parser

variable {p : Parser α} {q : Parser β}

/-! ### Elementary parsers -/

theorem translates_succeed (v : α) : (succeed v).Translates := fun _ _ => rfl

theorem translates_abort (fault : Fault) : (abort fault : Parser α).Translates := fun _ _ => rfl

theorem translates_fail (kind : Failure.Kind) (expected : Option String) :
    (fail kind expected : Parser α).Translates := fun _ _ => rfl

theorem translates_literal (s : String) : (literal s).Translates := by
  intro front start
  by_cases h : s.toList <+: start.after
  · rw [literal_of_prefixed h, literal_of_prefixed (p := start.shift front) h,
      Position.advance_shift]
    rfl
  · rw [literal_of_not_prefixed h, literal_of_not_prefixed (p := start.shift front) h]
    rfl

theorem translates_anyChar : anyChar.Translates := by
  intro front start
  cases h : start.after with
  | nil =>
    have hshift : (start.shift front).after = [] := h
    unfold anyChar
    rw [Position.step?_of_nil h, Position.step?_of_nil hshift]
    rfl
  | cons c rest =>
    have hshift : (start.shift front).after = c :: rest := h
    rw [anyChar_of_cons h, anyChar_of_cons hshift, Position.advance_shift]
    rfl

theorem translates_endOfInput : endOfInput.Translates := by
  intro front start
  unfold endOfInput
  have hend : (start.shift front).atEnd = start.atEnd := rfl
  rw [hend]
  cases start.atEnd <;> rfl

/-! ### Sequence -/

theorem Translates.mapM (hp : p.Translates) (f : α → Except Fault β) :
    (p.mapM f).Translates := by
  intro front start
  unfold Parser.mapM
  rw [hp front start]
  rcases p start with fault | ⟨next, v⟩ | ⟨origin, failed⟩
  · rfl
  · simp only [Except.map, Outcome.shift]
    cases f v <;> rfl
  · rfl

theorem Translates.map (hp : p.Translates) (f : α → β) : (p.map f).Translates := hp.mapM _

theorem Translates.andThen (hp : p.Translates) {f : α → Parser β} (hf : ∀ v, (f v).Translates) :
    (p.andThen f).Translates := by
  intro front start
  unfold Parser.andThen
  rw [hp front start]
  rcases p start with fault | ⟨next, v⟩ | ⟨origin, failed⟩
  · rfl
  · simp only [Except.map, Outcome.shift, hf v front next]
    rcases f v next with fault | ⟨last, w⟩ | ⟨origin, failed⟩ <;> rfl
  · rfl

theorem Translates.pair (hp : p.Translates) (hq : q.Translates) :
    (Parser.pair p q).Translates := by
  intro front start
  unfold Parser.pair
  rw [hp front start]
  rcases p start with fault | ⟨next, v⟩ | ⟨origin, failed⟩
  · rfl
  · simp only [Except.map, Outcome.shift, hq front next]
    rcases q next with fault | ⟨last, w⟩ | ⟨origin, failed⟩ <;> rfl
  · rfl

theorem Translates.left (hp : p.Translates) (hq : q.Translates) : (Parser.left p q).Translates :=
  (hp.pair hq).map _

theorem Translates.right (hp : p.Translates) (hq : q.Translates) : (Parser.right p q).Translates :=
  (hp.pair hq).map _

/-! ### Choice and tests -/

theorem Translates.either {p q : Parser α} (hp : p.Translates) (hq : q.Translates) :
    (Parser.either p q).Translates := by
  intro front start
  unfold Parser.either
  rw [hp front start, hq front start]
  rcases p start with fault | ⟨next, v⟩ | ⟨origin, first⟩
  · rfl
  · rfl
  · rcases q start with fault | ⟨next, v⟩ | ⟨origin', second⟩
    · rfl
    · rfl
    · simp only [Except.map, Outcome.shift, Failure.shift_with_alternatives]
      rfl

theorem Translates.filterM [Display α] (hp : p.Translates) (test : α → Except Fault Bool)
    (expected : Option String) : (p.filterM test expected).Translates := by
  intro front start
  unfold Parser.filterM
  rw [hp front start]
  rcases p start with fault | ⟨next, v⟩ | ⟨origin, failed⟩
  · rfl
  · simp only [Except.map, Outcome.shift]
    rcases test v with fault | accepted
    · rfl
    · cases accepted <;> rfl
  · rfl

theorem Translates.filter [Display α] (hp : p.Translates) (test : α → Bool)
    (expected : Option String) : (p.filter test expected).Translates :=
  hp.filterM _ expected

theorem Translates.label (hp : p.Translates) (kind : Failure.Kind) (expected : Option String) :
    (p.label kind expected).Translates := by
  intro front start
  unfold Parser.label
  rw [hp front start]
  rcases p start with fault | ⟨next, v⟩ | ⟨origin, failed⟩ <;> rfl

theorem Translates.accepts (hp : p.Translates) (front : List Char) (start : Position) :
    p.accepts (start.shift front) = p.accepts start := by
  unfold Parser.accepts
  rw [hp front start]
  rcases p start with fault | ⟨next, v⟩ | ⟨origin, failed⟩ <;> rfl

/-! ### Repetition -/

/-- The rounds of a repetition are the same further on in a text: whether a round moves on is read
off the characters left, which a shift keeps. -/
theorem Translates.chain (hp : p.Translates) (front : List Char) (start : Position) :
    chain p (start.shift front) =
      (chain p start).map fun (last, vs) => (last.shift front, vs) := by
  fun_induction Parser.chain p start with
  | case1 current fault h =>
    rw [Parser.chain, hp front current, h]
    rfl
  | case2 current origin failed h =>
    rw [Parser.chain, hp front current, h]
    rfl
  | case3 current next v h hlt fault hrest ih =>
    rw [Parser.chain, hp front current, h]
    simp only [Except.map, Outcome.shift, Position.left_shift, hlt, if_true, ih, hrest]
  | case4 current next v h hlt last vs hrest ih =>
    rw [Parser.chain, hp front current, h]
    simp only [Except.map, Outcome.shift, Position.left_shift, hlt, if_true, ih, hrest]
  | case5 current next v h hle =>
    rw [Parser.chain, hp front current, h]
    simp only [Except.map, Outcome.shift, Position.left_shift, hle, if_false]

theorem Translates.zeroOrMore (hp : p.Translates) : (zeroOrMore p).Translates := by
  intro front start
  unfold Parser.zeroOrMore
  rw [hp.chain front start]
  rcases Parser.chain p start with fault | ⟨last, vs⟩ <;> rfl

theorem Translates.oneOrMore (hp : p.Translates) : (oneOrMore p).Translates := by
  intro front start
  unfold Parser.oneOrMore
  rw [hp front start]
  rcases p start with fault | ⟨next, v⟩ | ⟨origin, failed⟩
  · rfl
  · simp only [Except.map, Outcome.shift, hp.chain front next]
    rcases Parser.chain p next with fault | ⟨last, vs⟩ <;> rfl
  · simp only [Except.map, Outcome.shift, Failure.expected_shift]
    rfl

end Parser

/-! ### Lexemes and tags -/

namespace Lexeme

theorem translates_blank : blank.Translates := translates_anyChar.filter _ _

theorem translates_blanks : blanks.Translates := translates_blank.zeroOrMore

theorem translates_someBlanks : someBlanks.Translates := translates_blank.oneOrMore.label _ _

theorem translates_name : name.Translates :=
  (((translates_anyChar.filter _ _).pair (translates_anyChar.filter _ _).zeroOrMore).map _).label
    _ _

theorem translates_quotedText : quotedText.Translates :=
  ((translates_literal _).right
    ((translates_anyChar.filter _ _).zeroOrMore.left (translates_literal _))).map _

theorem translates_amidBlanks {p : Parser α} (hp : p.Translates) : (amidBlanks p).Translates :=
  translates_blanks.right (hp.left translates_blanks)

theorem skipBlanks_shift (p : Position) (front : List Char) :
    skipBlanks (p.shift front) = (skipBlanks p).shift front := by
  rw [skipBlanks_eq, skipBlanks_eq, Position.after_shift, Position.advance_shift]

end Lexeme

namespace Grammar

open Lexeme

theorem translates_tag (opening closing : String) : (tag opening closing).Translates :=
  (translates_literal _).right (translates_name.left (translates_literal _))

theorem translates_tagStart : tagStart.Translates := (translates_literal _).pair translates_name

theorem translates_selfClosingTag : selfClosingTag.Translates := (translates_tag _ _).mapM _

theorem translates_closeTag (expected : String) : (closeTag expected).Translates := by
  intro front start
  have hname : closingName (start.shift front) = (closingName start).map (Outcome.shift front) :=
    translates_tag _ _ front start
  unfold closeTag
  rw [hname]
  rcases closingName start with fault | ⟨next, found⟩ | ⟨origin, failed⟩
  · rfl
  · simp only [Except.map, Outcome.shift]
    split <;> rfl
  · rfl

/-- Children are read the same further on in a text. Both loops take the same rounds, each of which
leaves fewer characters. -/
theorem childrenOf_shift {child : Parser Element} (hchild : child.Translates) (name : String)
    (front : List Char) (start : Position) :
    childrenOf child name (start.shift front) =
      (childrenOf child name start).map (Outcome.shift front) := by
  induction hleft : start.left using Nat.strongRecOn generalizing start with
  | ind left ih =>
    subst hleft
    conv =>
      lhs
      rw [childrenOf]
    conv =>
      rhs
      rw [childrenOf]
    simp only [skipBlanks_shift, translates_closeTag name front (skipBlanks start)]
    rcases closeTag name (skipBlanks start) with fault | ⟨next, found⟩ | ⟨origin, unclosed⟩
    · rfl
    · rfl
    · simp only [Except.map, Outcome.shift, hchild front (skipBlanks start)]
      rcases child (skipBlanks start) with fault | ⟨next, e⟩ | ⟨origin', broken⟩
      · rfl
      · by_cases hlt : next.left < start.left
        · simp only [Position.left_shift, hlt, if_true, ih next.left hlt next rfl]
          rcases childrenOf child name next with fault | ⟨last, es⟩ | ⟨last, failed⟩ <;> rfl
        · simp only [Position.left_shift, hlt, if_false]
      · simp only [translates_tagStart.accepts front (skipBlanks start)]
        split <;> rfl

theorem translates_containerBody {child : Parser Element} (hchild : child.Translates)
    (name : String) : (containerBody child name).Translates := by
  intro front start
  unfold containerBody
  rw [childrenOf_shift hchild name front start]
  rcases childrenOf child name start with fault | ⟨next, es⟩ | ⟨origin, failed⟩
  · rfl
  · simp only [Except.map, Outcome.shift]
    cases Element.container? name es <;> rfl
  · rfl

/-- Each level of nesting translates because the level inside it does. -/
theorem translates_containerTag (limit : Nat) : (containerTag limit).Translates := by
  induction limit with
  | zero => exact (translates_tag _ _).andThen fun _ => translates_abort _
  | succ limit ih =>
    exact (translates_tag _ _).andThen
      (translates_containerBody (translates_selfClosingTag.either ih))

theorem translates_element (limit : Nat) : (element limit).Translates :=
  translates_selfClosingTag.either (translates_containerTag limit)

theorem translates_closeTopLevel (e : Element) : (closeTopLevel e).Translates := by
  cases e with
  | selfClosing n =>
    exact ((translates_blanks.right (translates_closeTag n.text)).mapM _).either
      (translates_succeed _)
  | container n es => exact translates_succeed _

theorem translates_topLevelElement (limit : Nat) : (topLevelElement limit).Translates :=
  (translates_element limit).andThen translates_closeTopLevel

theorem leftOver_shift (here : Position) (failed : Failure) (front : List Char) :
    leftOver (here.shift front) (failed.shift front.length) =
      (leftOver here failed).shift front.length := by
  unfold leftOver
  rw [translates_tagStart.accepts front here]
  split <;> rfl

/-- Top-level elements are read the same further on in a text. -/
theorem topLevelElements_shift (limit : Nat) (front : List Char) (start : Position) :
    topLevelElements limit (start.shift front) =
      (topLevelElements limit start).map (Outcome.shift front) := by
  induction hleft : start.left using Nat.strongRecOn generalizing start with
  | ind left ih =>
    subst hleft
    conv =>
      lhs
      rw [topLevelElements]
    conv =>
      rhs
      rw [topLevelElements]
    have hend : ((skipBlanks start).shift front).atEnd = (skipBlanks start).atEnd := rfl
    simp only [skipBlanks_shift, hend, translates_topLevelElement limit front (skipBlanks start)]
    cases (skipBlanks start).atEnd with
    | true => rfl
    | false =>
      rcases topLevelElement limit (skipBlanks start) with fault | ⟨next, e⟩ | ⟨origin, failed⟩
      · cases fault <;> rfl
      · by_cases hlt : next.left < start.left
        · simp only [Except.map, Outcome.shift, Position.left_shift, hlt, if_true,
            ih next.left hlt next rfl]
          rcases topLevelElements limit next with fault | ⟨last, es⟩ | ⟨last, failed⟩ <;> rfl
        · simp only [Except.map, Outcome.shift, Position.left_shift, hlt, if_false]
          rfl
      · simp only [Except.map, Outcome.shift, leftOver_shift]
        rfl

end Grammar

/-! ### Recipes -/

namespace Recipe

theorem translates_continuation (limit : Nat) (next : Continuation) (v : Value) :
    (continuation limit next v).Translates := by
  unfold continuation
  split
  · exact translates_succeed _
  · exact (translates_literal _).map _
  · exact (Grammar.translates_closeTag _).map _
  · exact (Grammar.translates_containerBody (Grammar.translates_element _) _).map _
  · exact translates_abort _

/-- Every recipe describes a parser that sees only what follows. -/
theorem translates_recipe (limit : Nat) (r : Recipe) : (r.parser limit).Translates := by
  induction r with
  | anyChar => exact translates_anyChar.map _
  | blank => exact Lexeme.translates_blank.map _
  | blanks => exact Lexeme.translates_blanks.map _
  | someBlanks => exact Lexeme.translates_someBlanks.map _
  | name => exact Lexeme.translates_name.map _
  | quotedText => exact Lexeme.translates_quotedText.map _
  | tagStart => exact Grammar.translates_tagStart.map _
  | selfClosingTag => exact Grammar.translates_selfClosingTag.map _
  | openTag => exact (Grammar.translates_tag _ _).map _
  | containerTag => exact (Grammar.translates_containerTag limit).map _
  | element => exact (Grammar.translates_element limit).map _
  | topLevelElement => exact (Grammar.translates_topLevelElement limit).map _
  | endOfInput => exact translates_endOfInput.map _
  | literal s => exact (translates_literal s).map _
  | closeTag s => exact (Grammar.translates_closeTag s).map _
  | succeed v => exact translates_succeed v
  | fail kind expected => exact translates_fail kind expected
  | amidBlanks p ih => exact Lexeme.translates_amidBlanks ih
  | pair p q ihp ihq => exact (ihp.pair ihq).map _
  | left p q ihp ihq => exact ihp.left ihq
  | right p q ihp ihq => exact ihp.right ihq
  | either p q ihp ihq => exact ihp.either ihq
  | zeroOrMore p ih => exact ih.zeroOrMore.map _
  | oneOrMore p ih => exact ih.oneOrMore.map _
  | map p f ih => exact ih.mapM _
  | filter p test expected ih => exact ih.filterM _ expected
  | andThen p next ih => exact ih.andThen (translates_continuation limit next)
  | followedBy p q ihp ihq => exact ihp.andThen fun _ => ihq
  | label p kind expected ih => exact ih.label kind expected

/-- **A recipe does not see the text before its start.** Run at an offset `o` of a text, and run on
the text from there on, it meets the same fault, or succeeds with the same value, the same text left
and offsets that differ by `o`, or fails with the same tree of failures but for `o` added to every
offset in it. -/
theorem recipe_at_offset_eq_recipe_on_rest (limit : Nat) (r : Recipe) (text : String) (o : Nat)
    (ho : o ≤ text.length) :
    ∃ here, Position.at? text o = .ok here ∧
      match r.parser limit here, r.parser limit (.start (String.ofList (text.toList.drop o))) with
      | .error fault, .error fault' => fault = fault'
      | .ok (.success p v), .ok (.success p' v') =>
        v = v' ∧ p.remaining = p'.remaining ∧ p.offset = p'.offset + o
      | .ok (.failure p failed), .ok (.failure p' failed') =>
        p.offset = p'.offset + o ∧ failed = failed'.shift o
      | _, _ => False := by
  refine ⟨_, Position.at?_eq_shift ho, ?_⟩
  have hlength : (text.toList.take o).length = o :=
    List.length_take_of_le (by rwa [String.length_toList])
  rw [translates_recipe limit r]
  rcases r.parser limit _ with fault | ⟨p, v⟩ | ⟨p, failed⟩
  · rfl
  · exact ⟨rfl, rfl, congrArg (p.offset + ·) hlength⟩
  · exact ⟨congrArg (p.offset + ·) hlength, congrArg failed.shift hlength⟩

/-- The closing tag of `<b></c>` does not match; two characters further on it does not either, with
the same tree of failures shifted by two. -/
theorem mismatch_at_offset_two :
    2 ≤ "ab<b></c>".length ∧
    ∃ here p failed p' failed', Position.at? "ab<b></c>" 2 = .ok here ∧
      element.parser 150 here = .ok (.failure p failed) ∧
      element.parser 150 (.start "<b></c>") = .ok (.failure p' failed') ∧
      failed'.alternatives.length = 2 ∧ failed = failed'.shift 2 := by
  have hle : 2 ≤ "ab<b></c>".length := by decide
  have hrest : String.ofList ("ab<b></c>".toList.drop 2) = "<b></c>" := by decide
  have hview : ((element.parser 150 (.start "<b></c>")).toOption.bind Outcome.failure?).map
      (·.alternatives.length) = some 2 := by decide +kernel
  obtain ⟨p', failed', hfails, hlength⟩ := Outcome.exists_of_failure? hview
  obtain ⟨here, hhere, hmatch⟩ := recipe_at_offset_eq_recipe_on_rest 150 element _ 2 hle
  rw [hrest, hfails] at hmatch
  rcases hr : element.parser 150 here with fault | ⟨p, v⟩ | ⟨p, failed⟩ <;> rw [hr] at hmatch
  · exact hmatch.elim
  · exact hmatch.elim
  · exact ⟨hle, here, p, failed, p', failed', hhere, hr, hfails, hlength, hmatch.2⟩

end Recipe

end TagScript
