import TagScript.Command
import TagScript.Proofs.Language
import TagScript.Report

/-!
# Faults that do not arise

A fault says that a request cannot be carried out. Reading a text and projecting the document is
always possible, for a different reason at each place that could refuse.

* Positions carry their bounds: `Position.at?_offset` and `Position.move?_natCast` say that every
  position lies in its text and that moving forward is never refused.
* Repetition never fails, so that its values are always there: `Parser.zeroOrMore_ne_failure`.
* `Grammar.BodyEnd` says what reading the body of a container comes to: a container is built behind
  the closing tag of its name only, and no closing tag has the empty name.
* `Command.mapM_ofFields` checks the fields of every projected command.
* `Document.reading_and_projecting_meet_no_fault` puts these together.
-/

namespace TagScript

open TagScript.Parser Lexeme Markup Grammar

/-! ### Positions and repetition -/

namespace Position

/-- Every position is the one at its offset of its text. -/
theorem at?_offset (p : Position) : at? p.text p.offset = .ok p := by
  have hchars : (start p.text).after = p.before.reverse ++ p.after := by
    simp [start, ofChars, text, chars]
  have hle : (0 : Int) ≤ p.offset ∧ (p.offset : Int) ≤ p.text.length := by
    have := p.offset_le
    rw [length_text]
    omega
  rw [at?, if_pos hle, Int.toNat_natCast, p.offset_eq, ← List.length_reverse]
  congr 1
  apply Position.ext
  · rw [before_advance, hchars, List.take_left]
    simp [start, ofChars]
  · rw [after_advance, hchars, List.drop_left]

/-- Moving forward is never refused. -/
theorem move?_natCast (p : Position) (count : Nat) : p.move? count = .ok (p.advance count) := by
  have hcount : ¬ (count : Int) < 0 := by omega
  rw [move?, if_neg hcount, Int.toNat_natCast]

end Position

/-- Repetition never fails; what ends it is left unread. -/
theorem Parser.zeroOrMore_ne_failure {α : Type} (p : Parser α) (start origin : Position)
    (failed : Failure) : zeroOrMore p start ≠ .ok (.failure origin failed) := by
  unfold zeroOrMore
  rcases chain p start with fault | ⟨last, vs⟩
  · intro h
    cases h
  · intro h
    cases h

/-! ### The body of a container -/

namespace Grammar

variable {child : Parser Element} {name : String} {p q : Position} {es : List Element}

/-- What reading the body of a container comes to, whatever its name: a container behind the closing
tag of that name, which is then legal, or a failure where reading was started, or containers that
stand too deep. -/
inductive BodyEnd (name : String) (p : Position) : Except Fault (Outcome Element) → Prop
  | closed {q : Position} {cs : List Char} {n : Name} {es : List Element} :
      n.text = name → Legal n.text.toList → p.Passes (cs ++ closingText n.text.toList) q →
      BodyEnd name p (.ok (.success q (.container n es)))
  | failed (failed : Failure) : BodyEnd name p (.ok (.failure p failed))
  | exhausted : BodyEnd name p (.error .nestingExhausted)

/-- Children are read to the end only under a name that a closing tag can have. -/
theorem exists_name_of_childrenOf_success (h : childrenOf child name p = .ok (.success q es)) :
    ∃ n : Name, n.text = name ∧ Legal n.text.toList := by
  obtain ⟨es', last, -, hend⟩ := childrenOf_ends child name p
  rw [h] at hend
  cases hend with
  | closed hclose =>
    obtain ⟨n, hname, hn, -⟩ := closeTag_success hclose
    exact ⟨n, hname, hn⟩

theorem containerBody_ends (limit : Nat) (name : String) (p : Position) :
    BodyEnd name p (containerBody (element limit) name p) := by
  unfold containerBody
  rcases hr : childrenOf (element limit) name p with fault | ⟨q, es⟩ | ⟨origin, failed⟩
  · obtain ⟨here, hfault⟩ := exists_of_childrenOf_fault hr
    obtain rfl := element_fault hfault
    exact .exhausted
  · obtain ⟨n, rfl, hn⟩ := exists_name_of_childrenOf_success hr
    obtain ⟨cs, -, hpasses, -⟩ := childrenOf_success (readsOnly_element limit) hr
    simp only [container?_name]
    exact .closed rfl hn hpasses
  · exact .failed failed

end Grammar

/-! ### Projection -/

/-- The fields from which the command of an element is made. -/
def Element.commandFields (e : Element) : Fields :=
  [("program_name", .str e.name.text), ("args", .list ((Element.args e.children).map .str))]

namespace Command

theorem argsFrom_map_str (index : Nat) (args : List String) :
    argsFrom index (args.map .str) = .ok args := by
  induction args generalizing index with
  | nil => rfl
  | cons arg args ih =>
    rw [List.map_cons, argsFrom, ih]
    rfl

/-- The fields of a projected command have no issue: the name of an element is not empty. -/
theorem ofFields_commandFields (e : Element) : ofFields e.commandFields = .ok e.project := by
  have hprogram : programOf e.commandFields = .ok e.name := by
    simp [programOf, Element.commandFields, e.name.text_ne]
  have hargs : argsOf e.commandFields = .ok (Element.args e.children) := by
    simp [argsOf, Element.commandFields, List.lookup_cons, argsFrom_map_str]
  rw [ofFields, hprogram, hargs]
  rfl

theorem mapM_ofFields (es : List Element) :
    es.mapM (fun e => ofFields e.commandFields) = .ok (es.map Element.project) := by
  induction es with
  | nil => rfl
  | cons e es ih =>
    rw [List.mapM_cons, ofFields_commandFields, ih]
    rfl

end Command

namespace Document

/-- A document is read or the text is rejected, with a report of the failure. -/
theorem parse_total (text : String) (source : Option String) :
    (∃ d, parse text source = .ok d) ∨
      ∃ p failed, tryParse text = .ok (.failure p failed) ∧
        parse text source = .error (.rejected (.of failed text source)) := by
  obtain ⟨outcome, houtcome⟩ := read_total nestingLimit text
  have hread : tryParse text = .ok outcome := houtcome
  cases outcome with
  | success p d => exact .inl ⟨d, by rw [parse, hread]⟩
  | failure p failed => exact .inr ⟨p, failed, hread, by rw [parse, hread]⟩

/-- **Reading and projecting meet no fault.** Every text is read, as a success or a failure, and
asking for the document meets nothing but the report of a failure. The fields of every command of a
document pass their check, so that it is projected. The body of a container is read without a fault
whatever its name is, but for containers that stand too deep, since a container is built behind a
closing tag of that name only. Positions are never moved back or out of their text, and repetition
always has a value. -/
theorem reading_and_projecting_meet_no_fault :
    (∀ text : String, ∃ outcome, tryParse text = .ok outcome) ∧
    (∀ (text : String) (source : Option String), (∃ d, parse text source = .ok d) ∨
      ∃ p failed, tryParse text = .ok (.failure p failed) ∧
        parse text source = .error (.rejected (.of failed text source))) ∧
    (∀ d : Document,
      d.elements.mapM (fun e => Command.ofFields e.commandFields) = .ok d.project) ∧
    (∀ (limit : Nat) (name : String) (p : Position),
      BodyEnd name p (containerBody (element limit) name p)) ∧
    (∀ (p : Position) (count : Nat), p.move? count = .ok (p.advance count) ∧
      Position.at? p.text (p.advance count).offset = .ok (p.advance count)) ∧
    ∀ (α : Type) (p : Parser α) (start origin : Position) (failed : Failure),
      zeroOrMore p start ≠ .ok (.failure origin failed) := by
  refine ⟨fun text => read_total nestingLimit text, parse_total,
    fun d => Command.mapM_ofFields d.elements, containerBody_ends, fun p count => ?_,
    fun _ => zeroOrMore_ne_failure⟩
  refine ⟨p.move?_natCast count, ?_⟩
  have htext : (p.advance count).text = p.text := by
    rw [Position.text, Position.chars_advance, Position.text]
  rw [← htext]
  exact (p.advance count).at?_offset

end Document

end TagScript
