/-!
# Sorted ranges of code points

* `CodeRange` is a pair of a first and a last code point.
* `CodeRange.covers rs n` looks `n` up in ranges that are sorted and do not overlap
  (`CodeRange.covers_iff`).
-/

namespace TagScript.Text

/-- The code points from the first component to the second, both included. -/
abbrev CodeRange := Nat × Nat

/-- Some range of a sorted list holds the code point. -/
def CodeRange.covers : List CodeRange → Nat → Bool
  | [], _ => false
  | (lo, hi) :: rest, n => if n < lo then false else if n ≤ hi then true else covers rest n

@[simp] theorem CodeRange.covers_nil (n : Nat) : covers [] n = false := rfl

theorem CodeRange.covers_iff {rs : List CodeRange} (hsorted : rs.Pairwise (·.1 < ·.1)) {n : Nat} :
    covers rs n = true ↔ ∃ r ∈ rs, r.1 ≤ n ∧ n ≤ r.2 := by
  induction rs with
  | nil => simp
  | cons first rs ih =>
    obtain ⟨hfirst, hrest⟩ := List.pairwise_cons.1 hsorted
    simp only [covers, List.mem_cons, exists_eq_or_imp, ← ih hrest]
    split
    · next hlt =>
      -- The ranges that follow begin even later.
      have hnone : covers rs n = false := by
        rw [Bool.eq_false_iff, ne_eq, ih hrest]
        rintro ⟨later, hlater, hle, -⟩
        have := hfirst later hlater
        omega
      simp [hnone, Nat.not_le.2 hlt]
    · next hge =>
      split
      · next hle => simp [Nat.not_lt.1 hge, hle]
      · next hgt => simp [hgt]

end TagScript.Text
