import TagScript.Proofs.Discipline

/-!
# Repetition takes the longest chain

A repetition applies a parser again and again, each time where it ended before, until it fails or
stays where it is.

* `Parser.Strides` is a chain of applications that succeed and move on, `Parser.Rests` says that no
  further one does, and `Parser.FaultFree` that none of those on the way meets a fault.
* `exists_strides`: such a chain always comes to rest, because a disciplined parser moves within the
  text. `Strides.unique`: there is only one that does.
* `chain_of_strides` reads the result of a repetition off the chain, `chain_zeroOrMore` that of a
  repetition of a repetition; `oneOrMore_of_moving`, `oneOrMore_of_resting` and
  `oneOrMore_fails_iff` say what the first application adds.
-/

namespace TagScript

namespace Parser

variable {α β : Type} {p : Parser α} {start next here : Position} {v : α}
  {steps steps' : List (Position × α)}

/-! ### Chains of applications -/

/-- Applied from `start` on, each time where it ended before, the parser succeeds and moves on. The
steps are the positions it comes to, each with the value read on the way there. -/
inductive Strides (p : Parser α) : Position → List (Position × α) → Prop
  | nil (start : Position) : Strides p start []
  | cons {start next : Position} {v : α} {steps : List (Position × α)} :
      p start = .ok (.success next v) → start.offset < next.offset → Strides p next steps →
      Strides p start ((next, v) :: steps)

/-- The position that the steps from `start` come to. -/
def lastOf (start : Position) : List (Position × α) → Position
  | [] => start
  | (next, _) :: steps => lastOf next steps

/-- The parser gets no further: it fails, or succeeds without moving. -/
def Rests (p : Parser α) (here : Position) : Prop :=
  match p here with
  | .error _ => False
  | .ok (.failure ..) => True
  | .ok (.success next _) => next.offset = here.offset

/-- No application meets a fault, neither at `start` nor at any position that steps lead to. -/
def FaultFree (p : Parser α) (start : Position) : Prop :=
  ∀ steps, Strides p start steps → ∃ outcome, p (lastOf start steps) = .ok outcome

theorem rests_of_failure {failed : Failure} (h : p here = .ok (.failure next failed)) :
    p.Rests here := by
  rw [Rests, h]
  trivial

theorem rests_iff_of_success (h : p here = .ok (.success next v)) :
    p.Rests here ↔ next.offset = here.offset := by
  rw [Rests, h]

/-- Where the parser moves on it does not rest. -/
theorem not_rests_of_moving (h : p start = .ok (.success next v))
    (hlt : start.offset < next.offset) : ¬ p.Rests start := by
  rw [rests_iff_of_success h]
  omega

theorem FaultFree.behind (h : p.FaultFree start) (hnext : p start = .ok (.success next v))
    (hlt : start.offset < next.offset) : p.FaultFree next :=
  fun steps hsteps => h ((next, v) :: steps) (.cons hnext hlt hsteps)

/-- Of two chains from the same start that come to rest neither can stop before the other. -/
theorem Strides.unique (h : Strides p start steps) (hrests : p.Rests (lastOf start steps))
    (h' : Strides p start steps') (hrests' : p.Rests (lastOf start steps')) : steps' = steps := by
  induction h generalizing steps' with
  | nil start =>
    cases h' with
    | nil => rfl
    | cons hnext hlt _ => exact absurd hrests (not_rests_of_moving hnext hlt)
  | cons hnext hlt _ ih =>
    cases h' with
    | nil => exact absurd hrests' (not_rests_of_moving hnext hlt)
    | cons hnext' hlt' hsteps' =>
      rw [hnext] at hnext'
      cases hnext'
      rw [ih hrests hsteps' hrests']

/-! ### Chains in a text -/

/-- Steps stay in the text and pass at least one character each. -/
theorem Strides.bounds (hp : p.Disciplined) (h : Strides p start steps) :
    (lastOf start steps).chars = start.chars ∧
      start.offset + steps.length ≤ (lastOf start steps).offset := by
  induction h with
  | nil start => exact ⟨rfl, Nat.le_refl _⟩
  | @cons start next v steps hnext hlt _ ih =>
    have hkeeps := hp start _ hnext
    refine ⟨ih.1.trans hkeeps.1, ?_⟩
    have hrest := ih.2
    simp only [lastOf, List.length_cons]
    omega

/-- A parser moves on just if it leaves fewer characters. -/
theorem Disciplined.left_lt_iff (hp : p.Disciplined) (h : p start = .ok (.success next v)) :
    next.left < start.left ↔ start.offset < next.offset := by
  have hlength := congrArg List.length (hp start _ h).1
  rw [← Position.offset_add_left, ← Position.offset_add_left] at hlength
  omega

theorem Disciplined.eq_of_not_moving (hp : p.Disciplined) (h : p start = .ok (.success next v))
    (hoffset : next.offset = start.offset) : next = start :=
  Position.eq_of_offset (hp start _ h).1 hoffset

/-- Every chain comes to rest: each step leaves fewer characters than there were. -/
theorem exists_strides (hp : p.Disciplined) (h : p.FaultFree start) :
    ∃ steps, Strides p start steps ∧ p.Rests (lastOf start steps) := by
  induction hleft : start.left using Nat.strongRecOn generalizing start with
  | ind left ih =>
    subst hleft
    obtain ⟨outcome, hfirst⟩ := h [] (.nil start)
    cases outcome with
    | failure origin failed => exact ⟨[], .nil start, rests_of_failure hfirst⟩
    | success next v =>
      rcases Nat.lt_or_ge start.offset next.offset with hlt | hge
      · have hleft := (hp.left_lt_iff hfirst).2 hlt
        obtain ⟨steps, hsteps, hrests⟩ := ih next.left hleft (h.behind hfirst hlt) rfl
        exact ⟨(next, v) :: steps, .cons hfirst hlt hsteps, hrests⟩
      · have hoffset : next.offset = start.offset := Nat.le_antisymm hge (hp start _ hfirst).2
        exact ⟨[], .nil start, (rests_iff_of_success hfirst).2 hoffset⟩

/-! ### Repetitions -/

theorem map_apply (p : Parser α) (f : α → β) (start : Position) :
    p.map f start = (p start).map (Outcome.map f) := by
  unfold Parser.map mapM
  rcases p start with fault | ⟨next, v⟩ | ⟨origin, failed⟩ <;> rfl

/-- Where a parser rests, a repetition of it reads nothing. -/
theorem chain_of_rests (hp : p.Disciplined) (h : p.Rests here) : chain p here = .ok (here, []) := by
  rcases hr : p here with fault | ⟨next, v⟩ | ⟨origin, failed⟩
  · rw [Rests, hr] at h
    exact h.elim
  · have hnot : ¬ next.left < here.left := by
      rw [hp.left_lt_iff hr, (rests_iff_of_success hr).1 h]
      exact Nat.lt_irrefl _
    rw [chain, hr]
    simp [hnot]
  · exact chain_of_failure hr

/-- A repetition gives the values of the chain that comes to rest, and ends where it does. -/
theorem chain_of_strides (hp : p.Disciplined) (h : Strides p start steps)
    (hrests : p.Rests (lastOf start steps)) :
    chain p start = .ok (lastOf start steps, steps.map Prod.snd) := by
  induction h with
  | nil start => exact chain_of_rests hp hrests
  | cons hnext hlt _ ih => exact chain_of_success hnext ((hp.left_lt_iff hnext).2 hlt) (ih hrests)

theorem zeroOrMore_of_strides (hp : p.Disciplined) (h : Strides p start steps)
    (hrests : p.Rests (lastOf start steps)) :
    zeroOrMore p start = .ok (.success (lastOf start steps) (steps.map Prod.snd)) := by
  rw [zeroOrMore, chain_of_strides hp h hrests]

/-- A repetition of a repetition reads all there is in one application, and the next one, which
reads nothing, is dropped. -/
theorem chain_zeroOrMore (hp : p.Disciplined) (f : List α → β) (h : Strides p start steps)
    (hrests : p.Rests (lastOf start steps)) :
    chain ((zeroOrMore p).map f) start =
      .ok (lastOf start steps, if steps.length = 0 then [] else [f (steps.map Prod.snd)]) := by
  have houter : ((zeroOrMore p).map f).Disciplined := hp.zeroOrMore.map f
  have hfirst : (zeroOrMore p).map f start =
      .ok (.success (lastOf start steps) (f (steps.map Prod.snd))) := by
    rw [map_apply, zeroOrMore_of_strides hp h hrests]
    rfl
  have hlast : ((zeroOrMore p).map f).Rests (lastOf start steps) := by
    rw [Rests, map_apply, zeroOrMore, chain_of_rests hp hrests]
    rfl
  cases hsteps : steps.length with
  | zero =>
    obtain rfl := List.eq_nil_of_length_eq_zero hsteps
    exact chain_of_rests houter hlast
  | succ count =>
    have hlt : start.offset < (lastOf start steps).offset := by
      have hle := (h.bounds hp).2
      omega
    have hleft := (houter.left_lt_iff hfirst).2 hlt
    simpa using chain_of_success hfirst hleft (chain_of_rests houter hlast)

/-- A first application that moves on is the first step of the repetition. -/
theorem oneOrMore_of_moving (hp : p.Disciplined) (h : p start = .ok (.success next v))
    (hlt : start.offset < next.offset) : oneOrMore p start = zeroOrMore p start := by
  have hleft := (hp.left_lt_iff h).2 hlt
  rw [oneOrMore, zeroOrMore, chain, h]
  simp only [hleft, if_true]
  rcases chain p next with fault | ⟨last, vs⟩ <;> rfl

/-- A first application that does not move is kept, and is the only one. -/
theorem oneOrMore_of_resting (hp : p.Disciplined) (h : p start = .ok (.success next v))
    (hoffset : next.offset = start.offset) : oneOrMore p start = .ok (.success start [v]) := by
  obtain rfl := hp.eq_of_not_moving h hoffset
  have hrests := (rests_iff_of_success h).2 hoffset
  simp only [oneOrMore, h, chain_of_rests hp hrests]

/-- A repetition that must read something fails with its first application only. -/
theorem oneOrMore_fails_iff (p : Parser α) (start : Position) :
    (∃ origin failed, oneOrMore p start = .ok (.failure origin failed)) ↔
      ∃ origin failed, p start = .ok (.failure origin failed) := by
  unfold oneOrMore
  rcases p start with fault | ⟨next, v⟩ | ⟨origin, failed⟩
  · simp
  · simp only
    rcases chain p next with fault | ⟨last, vs⟩ <;> simp
  · simp

/-- Changing the values of a parser does not change where it fails. -/
theorem map_fails_iff (p : Parser α) (f : α → β) (start : Position) :
    (∃ origin failed, p.map f start = .ok (.failure origin failed)) ↔
      ∃ origin failed, p start = .ok (.failure origin failed) := by
  rw [map_apply]
  rcases p start with fault | ⟨next, v⟩ | ⟨origin, failed⟩ <;> simp [Except.map, Outcome.map]

end Parser

namespace Recipe

open TagScript.Parser

/-- **Repetition takes the longest chain.** If no application on the way meets a fault, there is
exactly one chain of applications that each move on and come to rest, and it has no more steps than
characters are left. A repetition succeeds with the values of this chain, at its end; repeated
itself, it gives these values as one list, or nothing if there are none. A repetition that must read
something fails just if the first application does. It agrees with the other one if the first
application moves on, and gives the one value if this does not move. -/
theorem repetition_takes_longest_chain (limit : Nat) (r : Recipe) (start : Position)
    (h : (r.parser limit).FaultFree start) :
    ∃ steps, Strides (r.parser limit) start steps ∧
      (r.parser limit).Rests (lastOf start steps) ∧
      (∀ steps', Strides (r.parser limit) start steps' →
        (r.parser limit).Rests (lastOf start steps') → steps' = steps) ∧
      start.offset + steps.length ≤ start.text.length ∧
      (zeroOrMore r).parser limit start =
        .ok (.success (lastOf start steps) (.list (steps.map Prod.snd))) ∧
      (zeroOrMore (zeroOrMore r)).parser limit start =
        .ok (.success (lastOf start steps)
          (.list (if steps.length = 0 then [] else [.list (steps.map Prod.snd)]))) ∧
      ((∃ p failed, (oneOrMore r).parser limit start = .ok (.failure p failed)) ↔
        ∃ p failed, r.parser limit start = .ok (.failure p failed)) ∧
      ∀ next v, r.parser limit start = .ok (.success next v) →
        (start.offset < next.offset →
          (oneOrMore r).parser limit start = (zeroOrMore r).parser limit start) ∧
        (next.offset = start.offset →
          (oneOrMore r).parser limit start = .ok (.success start (.list [v]))) := by
  have hp := disciplined_recipe limit r
  obtain ⟨steps, hsteps, hrests⟩ := exists_strides hp h
  refine ⟨steps, hsteps, hrests, fun steps' => hsteps.unique hrests, ?_, ?_, ?_, ?_, ?_⟩
  · obtain ⟨hchars, hle⟩ := hsteps.bounds hp
    have hlast := (lastOf start steps).offset_le
    rw [hchars] at hlast
    rw [start.length_text]
    omega
  · rw [Recipe.parser, map_apply, zeroOrMore_of_strides hp hsteps hrests]
    rfl
  · rw [Recipe.parser, map_apply, Recipe.parser, Parser.zeroOrMore,
      chain_zeroOrMore hp Value.list hsteps hrests]
    rfl
  · rw [Recipe.parser, map_fails_iff, oneOrMore_fails_iff]
  · intro next v hfirst
    rw [Recipe.parser, Recipe.parser, map_apply, map_apply]
    constructor
    · intro hlt
      rw [oneOrMore_of_moving hp hfirst hlt]
    · intro hoffset
      rw [oneOrMore_of_resting hp hfirst hoffset]
      rfl

/-- On `ababx`, a parser that reads `ab` or else nothing takes two steps and then rests without
failing. The value read from nothing is dropped behind the two steps; at `x` it is the only one. -/
theorem repetition_of_ab_or_nothing :
    let r := either (literal "ab") (succeed .none)
    let start := Position.start "ababx"
    (r.parser 150).FaultFree start ∧
      (zeroOrMore r).parser 150 start =
        .ok (.success (start.advance 4) (.list [.str "ab", .str "ab"])) ∧
      (zeroOrMore (zeroOrMore r)).parser 150 start =
        .ok (.success (start.advance 4) (.list [.list [.str "ab", .str "ab"]])) ∧
      (r.parser 150).FaultFree (start.advance 4) ∧
      (oneOrMore r).parser 150 (start.advance 4) =
        .ok (.success (start.advance 4) (.list [.none])) := by
  intro r start
  have hread : ∀ here, "ab".toList <+: here.after →
      r.parser 150 here = .ok (.success (here.advance 2) (.str "ab")) := by
    intro here hab
    simp only [r, Recipe.parser, Parser.either, map_apply, literal_of_prefixed hab]
    rfl
  have hnothing : ∀ here, ¬ "ab".toList <+: here.after →
      r.parser 150 here = .ok (.success here .none) := by
    intro here hab
    simp only [r, Recipe.parser, Parser.either, map_apply, literal_of_not_prefixed hab]
    rfl
  have hfree : ∀ here, (r.parser 150).FaultFree here := by
    intro here steps _
    by_cases hab : "ab".toList <+: (lastOf here steps).after
    · exact ⟨_, hread _ hab⟩
    · exact ⟨_, hnothing _ hab⟩
  have hsteps : Strides (r.parser 150) start
      [(start.advance 2, .str "ab"), (start.advance 4, .str "ab")] :=
    .cons (hread start (by decide)) (by decide)
      (.cons (hread (start.advance 2) (by decide)) (by decide) (.nil _))
  have hlast : r.parser 150 (start.advance 4) = .ok (.success (start.advance 4) .none) :=
    hnothing _ (by decide)
  have hrests := (rests_iff_of_success hlast).2 rfl
  obtain ⟨steps, -, -, hunique, -, hmany, hmanyMany, -⟩ :=
    repetition_takes_longest_chain 150 r start (hfree start)
  obtain rfl := hunique _ hsteps hrests
  obtain ⟨-, -, -, -, -, -, -, -, hone⟩ :=
    repetition_takes_longest_chain 150 r (start.advance 4) (hfree _)
  exact ⟨hfree start, hmany, hmanyMany, hfree _, (hone _ _ hlast).2 rfl⟩

end Recipe

end TagScript
