import TagScript.Failure
import TagScript.Proofs.Derivation
import TagScript.Proofs.LineColumn

/-!
# Texts in one line

* `OneLine s` says that no line feed stands in `s`. Numbers, names and quoted texts are in one line,
  and so are descriptions of failures in which no name breaks a line.
* `splitOn_intercalate`: what is put together from such texts, with line feeds between them, is split
  into them again.
-/

namespace TagScript.Text

/-- The text has no line feed. -/
def OneLine (s : String) : Prop := '\n' ∉ s.toList

instance (s : String) : Decidable (OneLine s) := inferInstanceAs (Decidable (¬ '\n' ∈ s.toList))

theorem oneLine_append {s t : String} : OneLine (s ++ t) ↔ OneLine s ∧ OneLine t := by
  simp only [OneLine, String.toList_append, List.mem_append, not_or]

theorem oneLine_ofList {cs : List Char} : OneLine (String.ofList cs) ↔ '\n' ∉ cs := by
  rw [OneLine, String.toList_ofList]

theorem oneLine_intercalate {separator : String} {ls : List String} (hseparator : OneLine separator)
    (h : ∀ s ∈ ls, OneLine s) : OneLine (separator.intercalate ls) := by
  induction ls with
  | nil => exact (by decide : OneLine "")
  | cons s ls ih =>
    rw [List.forall_mem_cons] at h
    by_cases hls : ls = []
    · rw [hls, String.intercalate_singleton]
      exact h.1
    · rw [String.intercalate_cons_of_ne_nil hls]
      exact oneLine_append.2 ⟨oneLine_append.2 ⟨h.1, hseparator⟩, ih h.2⟩

/-- Texts without a character, joined by that character, are what lies between its occurrences. -/
theorem splitOn_intercalate {separator : String} {c : Char} (hseparator : separator.toList = [c])
    {ls : List String} (hne : ls ≠ []) (h : ∀ s ∈ ls, c ∉ s.toList) :
    (separator.intercalate ls).toList.splitOn c = ls.map String.toList := by
  rw [String.toList_intercalate, hseparator]
  refine List.splitOn_intercalate c (fun l hl => ?_) (by simpa using hne)
  obtain ⟨s, hs, rfl⟩ := List.mem_map.1 hl
  exact h s hs

/-- A line of a text holds no line feed. -/
theorem newline_not_mem_of_mem_lines {cs line : List Char} (h : line ∈ lines cs) : '\n' ∉ line := by
  induction cs generalizing line with
  | nil =>
    obtain rfl : line = [] := by simpa using h
    simp
  | cons c cs ih =>
    by_cases hc : c = '\n'
    · rw [hc, lines_newline] at h
      rcases List.mem_cons.1 h with rfl | h
      · simp
      · exact ih h
    · obtain ⟨first, rest, hlines⟩ := List.exists_cons_of_ne_nil (lines_ne_nil cs)
      rw [lines_cons_of_ne hc hlines] at h
      rw [hlines] at ih
      rcases List.mem_cons.1 h with rfl | h
      · have hfirst := ih List.mem_cons_self
        simp [hfirst, Ne.symm hc]
      · exact ih (List.mem_cons_of_mem first h)

/-! ### Numbers, names and quoted texts -/

theorem newline_not_mem_toDigits {base : Nat} (hbase : 1 < base) (n : Nat) :
    '\n' ∉ Nat.toDigits base n := by
  induction n using Nat.strongRecOn with
  | ind n ih =>
    rw [Nat.toDigits_eq_if hbase]
    split
    · simp
    · next hle =>
      have hrest := ih (n / base) (Nat.div_lt_self (by omega) hbase)
      simp [hrest]

theorem oneLine_natRepr (n : Nat) : OneLine n.repr := by
  rw [OneLine, Nat.toList_repr]
  exact newline_not_mem_toDigits (by decide) n

theorem oneLine_intRepr (i : Int) : OneLine i.repr := by
  rw [Int.repr_eq_if]
  split
  · exact oneLine_natRepr _
  · exact oneLine_append.2 ⟨by decide, oneLine_natRepr _⟩

theorem oneLine_of_legal {s : String} (h : Markup.Legal s.toList) : OneLine s :=
  h.not_mem (by decide)

theorem newline_not_mem_codeEscape (c : Char) : '\n' ∉ codeEscape c := by
  have hdigits : ∀ width n, '\n' ∉ hexDigits width n := by
    intro width n hmem
    rcases List.mem_append.1 hmem with hmem | hmem
    · exact absurd (List.eq_of_mem_replicate hmem) (by decide)
    · exact newline_not_mem_toDigits (by decide) n hmem
  unfold codeEscape
  dsimp only
  split
  · simpa using hdigits 2 _
  · split
    · simpa using hdigits 4 _
    · simpa using hdigits 8 _

/-- A line feed is written as an escape, and no escape holds one. -/
theorem newline_not_mem_escaped {mark : Char} (hmark : mark ≠ '\n') (c : Char) :
    '\n' ∉ escaped mark c := by
  unfold escaped
  split
  · next hc =>
    have hne : c ≠ '\n' := by
      rintro rfl
      simp [Ne.symm hmark] at hc
    simpa using hne.symm
  split
  · decide
  · next hne =>
    split
    · decide
    split
    · decide
    split
    · simpa using Ne.symm hne
    · exact newline_not_mem_codeEscape c

theorem quoteMark_ne_newline (cs : List Char) : quoteMark cs ≠ '\n' := by
  unfold quoteMark
  split <;> decide

/-- Whatever a text holds, it is in one line between quotes. -/
theorem oneLine_quoted (s : String) : OneLine (quoted s) := by
  have hmark := quoteMark_ne_newline s.toList
  rw [quoted, oneLine_ofList]
  simp only [List.mem_cons, List.mem_append, List.mem_flatMap, List.not_mem_nil, or_false, not_or,
    not_exists, not_and]
  exact ⟨hmark.symm, fun c _ => newline_not_mem_escaped hmark c, hmark.symm⟩

end TagScript.Text

namespace TagScript.Failure

open TagScript.Text

/-! ### Descriptions of failures -/

theorem Kind.oneLine_phrase (kind : Kind) : OneLine kind.phrase := by
  cases kind <;> decide +kernel

theorem oneLine_expectedPhrase (expected : Option String) : OneLine (expectedPhrase expected) := by
  cases expected with
  | none => decide
  | some s => exact oneLine_append.2 ⟨by decide, oneLine_quoted s⟩

theorem oneLine_foundPhrase (found : Option String) : OneLine (foundPhrase found) := by
  cases found with
  | none => decide
  | some s =>
    have hfound : OneLine (", found " ++ quoted s) :=
      oneLine_append.2 ⟨by decide, oneLine_quoted s⟩
    rw [foundPhrase]
    split
    · decide
    · exact hfound

/-- Only the names in a mismatch are shown as they are; everything else is quoted. -/
theorem oneLine_describe {f : Failure} (h : f.kind = .tagMismatch →
    OneLine (f.found.getD "None") ∧ OneLine (f.expected.getD "None")) : OneLine f.describe := by
  have hrest : OneLine (f.kind.phrase ++ expectedPhrase f.expected ++ foundPhrase f.found) :=
    oneLine_append.2 ⟨oneLine_append.2 ⟨f.kind.oneLine_phrase, oneLine_expectedPhrase _⟩,
      oneLine_foundPhrase _⟩
  unfold describe
  cases hkind : f.kind with
  | tagMismatch =>
    obtain ⟨hfound, hexpected⟩ := h hkind
    simp only [oneLine_append]
    exact ⟨⟨⟨⟨by decide, hfound⟩, by decide⟩, hexpected⟩, by decide⟩
  | trailingInput =>
    refine oneLine_append.2 ⟨by decide, ?_⟩
    cases f.found with
    | none => exact (by decide : OneLine "None")
    | some s => exact oneLine_quoted s
  | nestingTooDeep => exact (by decide : OneLine "elements are nested too deeply to parse")
  | _ => rwa [hkind] at hrest

end TagScript.Failure
