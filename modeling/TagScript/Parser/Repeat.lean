import TagScript.Parser.Basic

/-!
# Repetition

* `zeroOrMore p` reads with `p` as often as it succeeds and moves on, and gives the values in order.
* `oneOrMore p` does so too, but fails if `p` fails at once.

Repetition ends where `p` fails or reads nothing, so it takes at most as many rounds as characters
are left. A value read from nothing is dropped, except as the first one of `oneOrMore`.
-/

namespace TagScript.Parser

variable {α : Type}

/-- The values that `p` reads one after another, and the position behind the last of them. -/
def chain (p : Parser α) (current : Position) : Except Fault (Position × List α) :=
  match p current with
  | .error fault => .error fault
  | .ok (.failure ..) => .ok (current, [])
  | .ok (.success next v) =>
    if next.left < current.left then
      match chain p next with
      | .error fault => .error fault
      | .ok (last, vs) => .ok (last, v :: vs)
    else .ok (current, [])
termination_by current.left

/-- Reads with `p` as often as it succeeds and moves on. -/
def zeroOrMore (p : Parser α) : Parser (List α) := fun start =>
  match chain p start with
  | .error fault => .error fault
  | .ok (last, vs) => .ok (.success last vs)

/-- Reads with `p` once and then as often as it succeeds and moves on. -/
def oneOrMore (p : Parser α) : Parser (List α) := fun start =>
  match p start with
  | .error fault => .error fault
  | .ok (.failure _ failed) =>
    .ok (.failure start (failureAt start .expectedAtLeastOne failed.expected (some failed)))
  | .ok (.success next v) =>
    match chain p next with
    | .error fault => .error fault
    | .ok (last, vs) => .ok (.success last (v :: vs))

/-! ### The rounds of a repetition -/

theorem chain_of_failure {p : Parser α} {current origin : Position} {failed : Failure}
    (h : p current = .ok (.failure origin failed)) : chain p current = .ok (current, []) := by
  rw [chain, h]

theorem chain_of_success {p : Parser α} {current next last : Position} {v : α} {vs : List α}
    (h : p current = .ok (.success next v)) (shorter : next.left < current.left)
    (hrest : chain p next = .ok (last, vs)) : chain p current = .ok (last, v :: vs) := by
  rw [chain, h]
  simp [shorter, hrest]

/-! ### Characters of a class -/

section Classes

variable {test : Char → Bool} {p : Position} {c : Char} {rest : List Char}

theorem filter_anyChar_of_cons (expected : Option String) (h : p.after = c :: rest)
    (hc : test c = true) : anyChar.filter test expected p = .ok (.success (p.advance 1) c) := by
  simp [filter, filterM, anyChar_of_cons h, hc]

/-- At the end, and before a character of another class, a character of the class is missed. -/
theorem filter_anyChar_of_stops (test : Char → Bool) (expected : Option String)
    (h : ∀ c ∈ p.after.head?, test c = false) :
    ∃ failed, anyChar.filter test expected p = .ok (.failure p failed) := by
  cases hafter : p.after with
  | nil => simp [filter, filterM, anyChar, Position.step?_of_nil hafter]
  | cons c rest =>
    have hc : test c = false := h c (by simp [hafter])
    simp [filter, filterM, anyChar_of_cons hafter, hc]

/-- Reading characters of a class takes as many as follow. -/
theorem chain_filter_anyChar (test : Char → Bool) (expected : Option String) (p : Position) :
    chain (anyChar.filter test expected) p =
      .ok (p.advance (p.after.takeWhile test).length, p.after.takeWhile test) := by
  induction h : p.after generalizing p with
  | nil =>
    obtain ⟨failed, hp⟩ := filter_anyChar_of_stops (p := p) test expected (by simp [h])
    simpa using chain_of_failure hp
  | cons c rest ih =>
    cases hc : test c with
    | false =>
      obtain ⟨failed, hp⟩ := filter_anyChar_of_stops (p := p) test expected (by simp [h, hc])
      simpa [hc] using chain_of_failure hp
    | true =>
      have hp := filter_anyChar_of_cons expected h hc
      have hafter : (p.advance 1).after = rest := by simp [h]
      have hrest := ih (p.advance 1) hafter
      rw [Position.advance_advance] at hrest
      have shorter : (p.advance 1).left < p.left := by
        rw [Position.left_advance, p.left_eq, h, List.length_cons]
        omega
      simpa [hc, Nat.add_comm] using chain_of_success hp shorter hrest

end Classes

end TagScript.Parser
