import TagScript.Proofs.Discipline

/-!
# Laws of sequence and choice

Parsers are compared as functions of the position: two of them are equal if they give the same
value, the same failure with all its parts, or the same fault, wherever they are started.

* Sequence is associative, and `succeed` is neutral for it. On the left this needs a parser that
  hands its failures back where it was started: `succeed_andThen`.
* `pair` is associative up to the grouping of values, and `mapM` composes.
* Choice is associative up to the alternatives that a failure lists: `either_assoc`.
* `Recipe.recipes_obey_sequence_and_choice_laws` says all this of the parsers that recipes describe,
  which hand their failures back in that way.
-/

namespace TagScript

variable {α β γ : Type}

/-- Two results are the same as far as outcomes are compared: failures by what they report and where
they are handed back, not by how they came about. -/
inductive Outcome.Same : Except Fault (Outcome α) → Except Fault (Outcome α) → Prop
  | fault (fault : Fault) : Same (.error fault) (.error fault)
  | success (p : Position) (v : α) : Same (.ok (.success p v)) (.ok (.success p v))
  | failure (p : Position) {f g : Failure} :
      f.agrees g = true → Same (.ok (.failure p f)) (.ok (.failure p g))

namespace Parser

/-! ### Sequence -/

/-- Reading nothing first changes nothing, if the parser that follows hands its failures back where
it was started. -/
theorem succeed_andThen {f : α → Parser β} {v : α} (hf : (f v).Disciplined) :
    (succeed v).andThen f = f v := by
  funext start
  simp only [andThen, succeed_apply]
  rcases hr : f v start with fault | ⟨next, w⟩ | ⟨origin, failed⟩
  · rfl
  · rfl
  · obtain ⟨rfl, -⟩ := hf start _ hr
    rfl

theorem andThen_succeed (p : Parser α) : p.andThen succeed = p := by
  funext start
  unfold andThen
  rcases p start with fault | ⟨next, v⟩ | ⟨origin, failed⟩ <;> rfl

/-- A failure goes back to the start of the whole sequence, however it is grouped. -/
theorem andThen_assoc (p : Parser α) (f : α → Parser β) (g : β → Parser γ) :
    (p.andThen f).andThen g = p.andThen fun v => (f v).andThen g := by
  funext start
  unfold andThen
  rcases p start with fault | ⟨next, v⟩ | ⟨origin, failed⟩
  · rfl
  · simp only
    rcases f v next with fault | ⟨last, w⟩ | ⟨origin, failed⟩
    · rfl
    · simp only [Outcome.startingAt]
      rcases g w last with fault | ⟨after, u⟩ | ⟨origin, failed⟩ <;> rfl
    · rfl
  · rfl

theorem pair_assoc (p : Parser α) (q : Parser β) (r : Parser γ) :
    (pair (pair p q) r).map (fun v => (v.1.1, v.1.2, v.2)) = pair p (pair q r) := by
  funext start
  unfold Parser.map mapM pair
  rcases p start with fault | ⟨next, v⟩ | ⟨origin, failed⟩
  · rfl
  · simp only
    rcases q next with fault | ⟨last, w⟩ | ⟨origin, failed⟩
    · rfl
    · simp only
      rcases r last with fault | ⟨after, u⟩ | ⟨origin, failed⟩ <;> rfl
    · rfl
  · rfl

theorem mapM_mapM (p : Parser α) (f : α → Except Fault β) (g : β → Except Fault γ) :
    (p.mapM f).mapM g = p.mapM fun v => (f v).bind g := by
  funext start
  unfold mapM
  rcases p start with fault | ⟨next, v⟩ | ⟨origin, failed⟩
  · rfl
  · simp only
    rcases f v with fault | w <;> rfl
  · rfl

/-! ### Choice -/

/-- The parsers are tried in the same order, and the last failure is the one reported; what differs
is which failures stand together as its alternatives. -/
theorem either_assoc (p q r : Parser α) (start : Position) :
    Outcome.Same (either (either p q) r start) (either p (either q r) start) := by
  unfold either
  rcases p start with fault | ⟨next, v⟩ | ⟨origin, first⟩
  · exact .fault fault
  · exact .success next v
  · simp only
    rcases q start with fault | ⟨next, v⟩ | ⟨origin', second⟩
    · exact .fault fault
    · exact .success next v
    · simp only
      rcases r start with fault | ⟨next, v⟩ | ⟨origin'', third⟩
      · exact .fault fault
      · exact .success next v
      · exact .failure start (by simp [Failure.agrees])

end Parser

namespace Recipe

open TagScript.Parser

/-- **Laws of sequence and choice.** For parsers that recipes describe and functions from values to
such parsers, as equations of results with all their parts, faults included: reading nothing is
neutral on both sides of a sequence, sequences can be regrouped, and so can pairs up to the grouping
of their values; two functions applied in turn are their composition. Choices can be regrouped too,
but then a failure may list other alternatives. -/
theorem recipes_obey_sequence_and_choice_laws (limit : Nat) (p q r : Recipe) (f g : Value → Recipe)
    (h k : Value → Except Fault Value) (v : Value) :
    (Parser.succeed v).andThen (fun w => (f w).parser limit) = (f v).parser limit ∧
    (∀ next, (andThen (succeed v) next).parser limit = continuation limit next v) ∧
    (p.parser limit).andThen Parser.succeed = p.parser limit ∧
    ((p.parser limit).andThen fun w => (f w).parser limit).andThen (fun w => (g w).parser limit) =
      (p.parser limit).andThen
        (fun w => ((f w).parser limit).andThen fun u => (g u).parser limit) ∧
    (Parser.pair (Parser.pair (p.parser limit) (q.parser limit)) (r.parser limit)).map
        (fun w => (w.1.1, w.1.2, w.2)) =
      Parser.pair (p.parser limit) (Parser.pair (q.parser limit) (r.parser limit)) ∧
    ((p.parser limit).mapM h).mapM k = (p.parser limit).mapM (fun w => (h w).bind k) ∧
    ∀ start, Outcome.Same (((p.either q).either r).parser limit start)
      ((p.either (q.either r)).parser limit start) := by
  refine ⟨?_, fun next => ?_, ?_, ?_, ?_, ?_, fun start => ?_⟩
  · exact succeed_andThen (disciplined_recipe limit (f v))
  · exact succeed_andThen (disciplined_continuation limit next v)
  · exact andThen_succeed (p.parser limit)
  · exact andThen_assoc (p.parser limit) _ _
  · exact pair_assoc (p.parser limit) (q.parser limit) (r.parser limit)
  · exact mapM_mapM (p.parser limit) h k
  · exact either_assoc (p.parser limit) (q.parser limit) (r.parser limit) start

end Recipe

end TagScript
