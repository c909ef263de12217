import TagScript.Parser.Basic

/-!
# Failure trees

A failure holds further ones: those of the alternatives tried and the one that caused it, each
with alternatives and a cause of its own.

* `f.Includes g` says that `g` stands somewhere in the tree of `f`, `f` itself included.
* `f.Everywhere P` says that every failure in the tree has the property `P`; `everywhere_iff`
  reads it off the failure, its alternatives and its cause.
* `f.Within low high` says so of the bounds of the offset.
* `f.Echoes g` says that `f` repeats `g`, with other alternatives.
* `f.Leads offsets g` says that second alternatives lead from `f` to `g`, past first alternatives
  that miss the mark `/>` at the given offsets.
* `Outcome.failure?` and `Outcome.value?` give the failure and the value of an outcome.
-/

namespace TagScript.Failure

/-- The failure `g` stands in the tree of `f`. -/
inductive Includes : Failure → Failure → Prop
  | self (f : Failure) : Includes f f
  | alternative {f g h : Failure} : g ∈ f.alternatives → Includes g h → Includes f h
  | cause {f g h : Failure} : f.cause = some g → Includes g h → Includes f h

/-- Every failure in the tree of `f` has the property `P`. -/
def Everywhere (P : Failure → Prop) (f : Failure) : Prop := ∀ g, f.Includes g → P g

variable {P Q : Failure → Prop} {f : Failure}

theorem everywhere_iff :
    f.Everywhere P ↔
      P f ∧ (∀ g ∈ f.alternatives, g.Everywhere P) ∧ ∀ g, f.cause = some g → g.Everywhere P := by
  constructor
  · intro h
    refine ⟨h f (.self f), ?_, ?_⟩
    · intro g hg k hk
      exact h k (.alternative hg hk)
    · intro g hg k hk
      exact h k (.cause hg hk)
  · rintro ⟨hf, halternatives, hcause⟩ g hg
    cases hg with
    | self => exact hf
    | alternative hmem hin => exact halternatives _ hmem g hin
    | cause heq hin => exact hcause _ heq g hin

/-- A tree without alternatives at its root. -/
theorem everywhere_of_cause (hf : P f) (halternatives : f.alternatives = [])
    (hcause : ∀ g, f.cause = some g → g.Everywhere P) : f.Everywhere P := by
  refine everywhere_iff.2 ⟨hf, ?_, hcause⟩
  simp [halternatives]

theorem Everywhere.self (h : f.Everywhere P) : P f := h f (.self f)

theorem Everywhere.imp (h : f.Everywhere P) (hPQ : ∀ g, P g → Q g) : f.Everywhere Q :=
  fun g hg => hPQ g (h g hg)

/-- Every offset in the tree of `f` lies between `low` and `high`. -/
def Within (low high : Int) : Failure → Prop :=
  Everywhere fun g => low ≤ g.offset ∧ g.offset ≤ high

/-- The lower bound may be taken further down. -/
theorem Within.widen {low low' high : Int} (h : f.Within low high) (hle : low' ≤ low) :
    f.Within low' high :=
  Everywhere.imp h fun _ hg => ⟨Int.le_trans hle hg.1, hg.2⟩

/-- The failure `f` is `g` but for its alternatives. -/
def Echoes (f g : Failure) : Prop := ∃ tried, f = { g with alternatives := tried }

theorem Echoes.refl (f : Failure) : f.Echoes f := by
  cases f
  exact ⟨_, rfl⟩

theorem Echoes.trans {f g h : Failure} (hfg : f.Echoes g) (hgh : g.Echoes h) : f.Echoes h := by
  obtain ⟨tried, rfl⟩ := hfg
  obtain ⟨tried', rfl⟩ := hgh
  exact ⟨tried, rfl⟩

/-- The failure says that `/>` was expected at an offset, and has no alternatives. -/
structure MissesSlash (f : Failure) (offset : Nat) : Prop where
  kind : f.kind = .expectedLiteral
  expected : f.expected = some "/>"
  offset : f.offset = offset
  alternatives : f.alternatives = []

/-- Going to the second alternative again and again leads from one failure to another. Every failure
left on the way has exactly two alternatives: the first misses `/>`, at the next of the given
offsets, and the second is repeated by the failure itself. -/
inductive Leads : Failure → List Nat → Failure → Prop
  | refl (f : Failure) : Leads f [] f
  | step {f first second last : Failure} {offset : Nat} {offsets : List Nat} :
      f.alternatives = [first, second] → first.MissesSlash offset → f.Echoes second →
      Leads second offsets last → Leads f (offset :: offsets) last

variable {last last' : Failure} {offsets offsets' : List Nat}

theorem Leads.trans {middle : Failure} (h : f.Leads offsets middle)
    (h' : middle.Leads offsets' last) : f.Leads (offsets ++ offsets') last := by
  induction h with
  | refl f => exact h'
  | step halternatives hfirst hechoes _ ih => exact .step halternatives hfirst hechoes (ih h')

/-- Every failure on the way repeats the last one. -/
theorem Leads.echoes (h : f.Leads offsets last) : f.Echoes last := by
  induction h with
  | refl f => exact .refl f
  | step _ _ hechoes _ ih => exact hechoes.trans ih

/-- There is one way to a failure without alternatives. -/
theorem Leads.unique (h : f.Leads offsets last) (hlast : last.alternatives = [])
    (h' : f.Leads offsets' last') (hlast' : last'.alternatives = []) : offsets = offsets' := by
  induction h generalizing offsets' with
  | refl f =>
    cases h' with
    | refl => rfl
    | step halternatives _ _ _ => simp [hlast] at halternatives
  | step halternatives hfirst _ _ ih =>
    cases h' with
    | refl => simp [hlast'] at halternatives
    | step halternatives' hfirst' _ hrest =>
      rw [halternatives] at halternatives'
      cases halternatives'
      have hoffset := hfirst.offset.symm.trans hfirst'.offset
      rw [Int.ofNat_inj.1 hoffset, ih hlast hrest]

end TagScript.Failure

namespace TagScript.Outcome

variable {α : Type}

/-- The failure of an outcome, if it is one. -/
def failure? : Outcome α → Option Failure
  | success .. => none
  | failure _ failed => some failed

/-- A result that shows a failure is one. -/
theorem exists_of_failure? {result : Except Fault (Outcome α)} {β : Type} {view : Failure → β}
    {v : β} (h : (result.toOption.bind failure?).map view = some v) :
    ∃ p failed, result = .ok (.failure p failed) ∧ view failed = v := by
  rcases result with fault | ⟨p, value⟩ | ⟨p, failed⟩
  · cases h
  · cases h
  · exact ⟨p, failed, rfl, Option.some.inj h⟩

/-- The value of an outcome, if it is a success. -/
def value? : Outcome α → Option α
  | success _ value => some value
  | failure .. => none

/-- A result that shows a value is a success. -/
theorem exists_of_value? {result : Except Fault (Outcome α)} {β : Type} {view : α → β} {v : β}
    (h : (result.toOption.bind value?).map view = some v) :
    ∃ p value, result = .ok (.success p value) ∧ view value = v := by
  rcases result with fault | ⟨p, value⟩ | ⟨p, failed⟩
  · cases h
  · exact ⟨p, value, rfl, Option.some.inj h⟩
  · cases h

end TagScript.Outcome
