import TagScript.Reading

/-!
# The rounds of the two loops

Children of a container and top-level elements of a document are read in rounds, each of which
skips blanks and reads one element.

* `Rounds child p es q` says that `child` reads the elements `es` one after another from `p` to `q`.
* `childrenOf_ends` and `topLevelElements_ends` say what a whole loop does: some rounds, and then
  one of the ways in which `ChildrenEnd` or `TopLevelEnd` lets it end.
-/

namespace TagScript.Grammar

open TagScript.Parser Lexeme

/-- The parser reads the elements one after another, each behind blanks and each from some text. -/
inductive Rounds (child : Parser Element) : Position → List Element → Position → Prop
  | nil (p : Position) : Rounds child p [] p
  | cons {p q r : Position} {e : Element} {es : List Element} :
      child (skipBlanks p) = .ok (.success q e) → q.left < p.left → Rounds child q es r →
      Rounds child p (e :: es) r

variable {child : Parser Element} {name : String}

/-- How reading children ends behind the elements `es`, with `last` the position it got to. -/
inductive ChildrenEnd (child : Parser Element) (name : String) (last : Position)
    (es : List Element) : Except Fault (Outcome (List Element)) → Prop
  | closed {next : Position} {found : String} :
      closeTag name (skipBlanks last) = .ok (.success next found) →
      ChildrenEnd child name last es (.ok (.success next es))
  | closingFault {fault : Fault} :
      closeTag name (skipBlanks last) = .error fault →
      ChildrenEnd child name last es (.error fault)
  | childFault {fault : Fault} :
      child (skipBlanks last) = .error fault → ChildrenEnd child name last es (.error fault)
  | broken {origin : Position} {failed : Failure} :
      child (skipBlanks last) = .ok (.failure origin failed) →
      tagStart.accepts (skipBlanks last) = true →
      ChildrenEnd child name last es (.ok (.failure last failed))
  | unclosed {origin origin' : Position} {failed failed' : Failure} :
      closeTag name (skipBlanks last) = .ok (.failure origin failed) →
      child (skipBlanks last) = .ok (.failure origin' failed') →
      tagStart.accepts (skipBlanks last) = false →
      ChildrenEnd child name last es (.ok (.failure last failed))
  | idle {origin next : Position} {failed : Failure} {e : Element} :
      closeTag name (skipBlanks last) = .ok (.failure origin failed) →
      child (skipBlanks last) = .ok (.success next e) → ¬ next.left < last.left →
      ChildrenEnd child name last es (.ok (.failure last failed))

/-- One more child in front of those read. -/
theorem ChildrenEnd.cons {last : Position} {es : List Element}
    {result : Except Fault (Outcome (List Element))} (h : ChildrenEnd child name last es result)
    (e : Element) : ChildrenEnd child name last (e :: es) (result.map (·.map (e :: ·))) := by
  cases h with
  | closed h => exact .closed h
  | closingFault h => exact .closingFault h
  | childFault h => exact .childFault h
  | broken h ht => exact .broken h ht
  | unclosed h h' ht => exact .unclosed h h' ht
  | idle h h' hle => exact .idle h h' hle

/-- Reading children takes some rounds and ends. -/
theorem childrenOf_ends (child : Parser Element) (name : String) (start : Position) :
    ∃ es last, Rounds child start es last ∧
      ChildrenEnd child name last es (childrenOf child name start) := by
  fun_induction childrenOf child name start with
  | case1 p here fault h => exact ⟨[], p, .nil p, .closingFault h⟩
  | case2 p here next found h => exact ⟨[], p, .nil p, .closed h⟩
  | case3 p here origin failed h fault h' => exact ⟨[], p, .nil p, .childFault h'⟩
  | case4 p here origin failed h origin' failed' h' =>
    refine ⟨[], p, .nil p, ?_⟩
    split
    · next ht => exact .broken h' ht
    · next ht => exact .unclosed h h' (by simpa using ht)
  | case5 p here origin failed h next e h' hlt fault hrest ih =>
    obtain ⟨es, last, hrounds, hend⟩ := ih
    rw [hrest] at hend
    exact ⟨e :: es, last, .cons h' hlt hrounds, hend.cons e⟩
  | case6 p here origin failed h next e h' hlt outcome hrest ih =>
    obtain ⟨es, last, hrounds, hend⟩ := ih
    rw [hrest] at hend
    exact ⟨e :: es, last, .cons h' hlt hrounds, hend.cons e⟩
  -- A child was read from no text, which ends the loop as if it had not been read.
  | case7 p here origin failed h next e h' hle => exact ⟨[], p, .nil p, .idle h h' hle⟩

/-- One round of reading children: the closing tag cannot be read and a child can. -/
theorem childrenOf_round {p q origin : Position} {failed : Failure} {e : Element}
    (hclose : closeTag name (skipBlanks p) = .ok (.failure origin failed))
    (hchild : child (skipBlanks p) = .ok (.success q e)) (hlt : q.left < p.left) :
    childrenOf child name p = (childrenOf child name q).map (Outcome.map (e :: ·)) := by
  rw [childrenOf]
  simp only [hclose, hchild, hlt, if_true]
  cases childrenOf child name q <;> rfl

/-- How reading a document ends behind the elements `es`, with `last` the position it got to. -/
inductive TopLevelEnd (limit : Nat) (last : Position) (es : List Element) :
    Except Fault (Outcome (List Element)) → Prop
  | finished :
      (skipBlanks last).atEnd = true →
      TopLevelEnd limit last es (.ok (.success (skipBlanks last) es))
  | tooDeep :
      topLevelElement limit (skipBlanks last) = .error .nestingExhausted →
      TopLevelEnd limit last es (.ok (.failure last (tooDeep (skipBlanks last))))
  | fault {fault : Fault} :
      topLevelElement limit (skipBlanks last) = .error fault → fault ≠ .nestingExhausted →
      TopLevelEnd limit last es (.error fault)
  | failed {origin : Position} {failed : Failure} :
      (skipBlanks last).atEnd = false →
      topLevelElement limit (skipBlanks last) = .ok (.failure origin failed) →
      TopLevelEnd limit last es (.ok (.failure last (leftOver (skipBlanks last) failed)))
  | idle {next : Position} {e : Element} {failed : Failure} :
      topLevelElement limit (skipBlanks last) = .ok (.success next e) → ¬ next.left < last.left →
      TopLevelEnd limit last es (.ok (.failure last failed))

/-- One more element in front of those read. -/
theorem TopLevelEnd.cons {limit : Nat} {last : Position} {es : List Element}
    {result : Except Fault (Outcome (List Element))} (h : TopLevelEnd limit last es result)
    (e : Element) : TopLevelEnd limit last (e :: es) (result.map (·.map (e :: ·))) := by
  cases h with
  | finished h => exact .finished h
  | tooDeep h => exact .tooDeep h
  | fault h hne => exact .fault h hne
  | failed h h' => exact .failed h h'
  | idle h hle => exact .idle h hle

/-- Reading a document takes some rounds and ends. -/
theorem topLevelElements_ends (limit : Nat) (start : Position) :
    ∃ es last, Rounds (topLevelElement limit) start es last ∧
      TopLevelEnd limit last es (topLevelElements limit start) := by
  fun_induction topLevelElements limit start with
  | case1 p here h => exact ⟨[], p, .nil p, .finished h⟩
  | case2 p here h h' => exact ⟨[], p, .nil p, .tooDeep h'⟩
  | case3 p here h fault hne h' => exact ⟨[], p, .nil p, .fault h' hne⟩
  | case4 p here h origin failed h' => exact ⟨[], p, .nil p, .failed (by simpa using h) h'⟩
  | case5 p here h next e h' hlt fault hrest ih =>
    obtain ⟨es, last, hrounds, hend⟩ := ih
    rw [hrest] at hend
    exact ⟨e :: es, last, .cons h' hlt hrounds, hend.cons e⟩
  | case6 p here h next e h' hlt outcome hrest ih =>
    obtain ⟨es, last, hrounds, hend⟩ := ih
    rw [hrest] at hend
    exact ⟨e :: es, last, .cons h' hlt hrounds, hend.cons e⟩
  | case7 p here h next e h' hle => exact ⟨[], p, .nil p, .idle h' hle⟩

/-- One round of reading a document: the text goes on and an element can be read. -/
theorem topLevelElements_round {limit : Nat} {p q : Position} {e : Element}
    (hmore : (skipBlanks p).atEnd = false)
    (helement : topLevelElement limit (skipBlanks p) = .ok (.success q e)) (hlt : q.left < p.left) :
    topLevelElements limit p = (topLevelElements limit q).map (Outcome.map (e :: ·)) := by
  rw [topLevelElements]
  simp only [hmore, helement, hlt, if_true]
  cases topLevelElements limit q <;> rfl

end TagScript.Grammar
