import Mathlib.Logic.ExistsUnique
import TagScript.Proofs.Tags

/-!
# Closing tags of any name

Reading the closing tag of a name tells five sorts of text apart, also for a name that no tag can
have.

* `Closing` lists the sorts. `Closing.Fits` says which texts are of a sort, and `Closing.Reports` with
  what outcome they are answered.
* `Closing.Fits.reports`: the text decides the outcome. `Closing.Reports.unique`: the outcome shows
  the sort. `Closing.exists_fits`: every text is of some sort.
* `closeTag_reports_what_fits` puts these together.
-/

namespace TagScript

open TagScript.Parser Lexeme Markup

namespace Markup

/-- A name is as long as it can be just if the text begins with no longer one. -/
theorem longestName_iff {m rest : List Char} :
    LongestName m rest ↔
      Legal m ∧ ∀ other, Legal other → other <+: m ++ rest → other.length ≤ m.length := by
  constructor
  · rintro ⟨hm, hstops⟩
    exact ⟨hm, fun other hother hbegins => length_le_of_stops hother.nameChar hbegins hstops⟩
  · rintro ⟨hm, hlongest⟩
    refine ⟨hm, ?_⟩
    rintro ⟨c, hc, hnameChar⟩
    obtain ⟨rest, rfl⟩ : ∃ tail, rest = c :: tail := List.head?_eq_some_iff.1 hc
    cases m with
    | nil => exact hm
    | cons first m =>
      have hlegal : Legal (first :: (m ++ [c])) := by
        refine ⟨hm.1, fun d hd => ?_⟩
        rcases List.mem_append.1 hd with hd | hd
        · exact hm.2 d hd
        · rwa [List.mem_singleton.1 hd]
      have hle := hlongest _ hlegal ⟨rest, by simp⟩
      simp only [List.length_cons, List.length_append, List.length_nil] at hle
      omega

end Markup

namespace Grammar

/-- What follows where the closing tag of a name is asked for. -/
inductive Closing where
  /-- The closing tag of that name. -/
  | complete
  /-- The closing tag of another name. -/
  | mismatch (found : String)
  /-- No closing tag. -/
  | unopened
  /-- A closing tag without a name. -/
  | nameless
  /-- A closing tag that breaks off behind a name of the given length. -/
  | unfinished (length : Nat)
deriving DecidableEq

namespace Closing

/-- The texts of a sort. -/
def Fits (name : String) (text : List Char) : Closing → Prop
  | complete => Legal name.toList ∧ closingText name.toList <+: text
  | mismatch found => Legal found.toList ∧ found ≠ name ∧ closingText found.toList <+: text
  | unopened => ¬ ['<', '/'] <+: text
  | nameless => ∃ rest, text = '<' :: '/' :: rest ∧ ¬ Starts Letter rest
  | unfinished length => ∃ m rest, text = '<' :: '/' :: (m ++ rest) ∧ m.length = length ∧ Legal m ∧
      (∀ other, Legal other → other <+: m ++ rest → other.length ≤ m.length) ∧ ¬ ['>'] <+: rest

/-- The outcome with which texts of a sort are answered at `p`. -/
def Reports (name : String) (p : Position) (outcome : Outcome String) : Closing → Prop
  | complete => ∃ q, outcome = .success q name ∧ q.text = p.text ∧
      q.offset = p.offset + name.length + 3
  | mismatch found => ∃ failed, outcome = .failure p failed ∧ failed.kind = .tagMismatch ∧
      failed.offset = p.offset ∧ failed.expected = some name ∧ failed.found = some found
  | unopened => ∃ failed, outcome = .failure p failed ∧ failed.kind = .expectedLiteral ∧
      failed.offset = p.offset ∧ failed.expected = some "</"
  | nameless => ∃ failed, outcome = .failure p failed ∧ failed.kind = .expectedIdentifier ∧
      failed.offset = p.offset + 2
  | unfinished length => ∃ failed, outcome = .failure p failed ∧ failed.kind = .expectedLiteral ∧
      failed.offset = p.offset + 2 + length ∧ failed.expected = some ">"

variable {name : String} {p : Position} {outcome : Outcome String} {closing other : Closing}

/-! ### The outcome shows the sort -/

/-- The sort that an outcome shows at `p`, where a success shows the first one. -/
def ofOutcome (p : Position) : Outcome String → Closing
  | .success _ _ => complete
  | .failure _ failed =>
    match failed.kind with
    | .tagMismatch => mismatch (failed.found.getD "")
    | .expectedIdentifier => nameless
    | _ =>
      if failed.expected = some "</" then unopened
      else unfinished (failed.offset - p.offset - 2).toNat

theorem Reports.ofOutcome_eq (h : closing.Reports name p outcome) :
    ofOutcome p outcome = closing := by
  cases closing with
  | complete =>
    obtain ⟨q, rfl, -⟩ := h
    rfl
  | mismatch found =>
    obtain ⟨failed, rfl, hkind, -, -, hfound⟩ := h
    simp only [ofOutcome, hkind, hfound, Option.getD_some]
  | unopened =>
    obtain ⟨failed, rfl, hkind, -, hexpected⟩ := h
    simp only [ofOutcome, hkind, hexpected, if_true]
  | nameless =>
    obtain ⟨failed, rfl, hkind, -⟩ := h
    simp only [ofOutcome, hkind]
  | unfinished length =>
    obtain ⟨failed, rfl, hkind, hoffset, hexpected⟩ := h
    have hne : ¬ some ">" = some "</" := by decide
    have hlength : (failed.offset - p.offset - 2).toNat = length := by omega
    simp only [ofOutcome, hkind, hexpected, hne, if_false, hlength]

/-- An outcome answers texts of one sort only. -/
theorem Reports.unique (h : closing.Reports name p outcome) (h' : other.Reports name p outcome) :
    other = closing :=
  h'.ofOutcome_eq.symm.trans h.ofOutcome_eq

/-! ### The text decides the outcome -/

/-- A closing tag that follows is read to its end. -/
theorem closingName_of_prefixed {found : String} (hfound : Legal found.toList)
    (hbegins : closingText found.toList <+: p.after) :
    ∃ q, closingName p = .ok (.success q found) ∧ p.Passes (closingText found.toList) q := by
  obtain ⟨n, hn⟩ := hfound.exists_name
  obtain rfl : n.text = found := String.toList_inj.1 hn
  obtain ⟨rest, hrest⟩ := hbegins
  obtain ⟨q, hq, -⟩ := Position.exists_passes hrest.symm
  obtain ⟨r, hr, hs⟩ := hq.split
  have hlongest := longestName_of_passes hfound (by decide) hs
  exact ⟨q, tag_complete "</" ">" hr hlongest hs, hq⟩

theorem Fits.reports (h : closing.Fits name p.after) :
    ∃ outcome, closeTag name p = .ok outcome ∧ closing.Reports name p outcome := by
  cases closing with
  | complete =>
    obtain ⟨hname, hbegins⟩ := h
    obtain ⟨q, hclosing, hq⟩ := closingName_of_prefixed hname hbegins
    refine ⟨.success q name, by simp only [closeTag, hclosing, if_true], q, rfl, ?_, ?_⟩
    · rw [Position.text, Position.text, hq.chars]
    · rw [hq.offset, ← String.length_toList, Nat.add_assoc]
      simp [closingText]
  | mismatch found =>
    obtain ⟨hfound, hne, hbegins⟩ := h
    obtain ⟨q, hclosing, -⟩ := closingName_of_prefixed hfound hbegins
    have hread : closeTag name p =
        .ok (.failure p (.plain .tagMismatch p.offset (some name) (some found))) := by
      simp only [closeTag, hclosing, if_neg hne]
    exact ⟨_, hread, _, rfl, rfl, rfl, rfl, rfl⟩
  | unopened =>
    have hread : closeTag name p =
        .ok (.failure p (.plain .expectedLiteral p.offset (some "</") (some (p.peek 2)))) := by
      simp only [closeTag, closingName, tag_unopened "</" ">" h]
      rfl
    exact ⟨_, hread, _, rfl, rfl, rfl, rfl⟩
  | nameless =>
    obtain ⟨rest, hafter, hstarts⟩ := h
    obtain ⟨q, hq, rfl⟩ : ∃ q, p.Passes ['<', '/'] q ∧ q.after = rest :=
      Position.exists_passes hafter
    obtain ⟨cause, htag⟩ := tag_nameless "</" ">" hq hstarts
    have hread : closeTag name p = .ok (.failure p
        (failureAt q .expectedIdentifier (some "identifier") (some cause))) := by
      simp only [closeTag, closingName, htag]
    refine ⟨_, hread, _, rfl, rfl, ?_⟩
    simp [failureAt, hq.offset]
  | unfinished length =>
    obtain ⟨m, rest, hafter, hlength, hm, hlongest, hgt⟩ := h
    obtain ⟨n, rfl⟩ := hm.exists_name
    obtain ⟨r, hr, rfl⟩ : ∃ r, p.Passes ('<' :: '/' :: n.text.toList) r ∧ r.after = rest :=
      Position.exists_passes hafter
    have htag := tag_unfinished "</" ">" hr (longestName_iff.2 ⟨hm, hlongest⟩) hgt
    have hread : closeTag name p = .ok (.failure p
        (.plain .expectedLiteral r.offset (some ">") (some (r.peek 1)))) := by
      simp only [closeTag, closingName, htag]
      rfl
    refine ⟨_, hread, _, rfl, rfl, ?_, rfl⟩
    have hoffset := hr.offset
    simp only [List.length_cons, hlength] at hoffset
    simp only [Failure.plain]
    omega

/-! ### Every text is of some sort -/

theorem exists_fits (name : String) (p : Position) : ∃ closing : Closing, closing.Fits name p.after := by
  rcases marked "</" ">" p with hopening | ⟨hq, hstarts⟩ | ⟨hr, hn, hclosing⟩ | ⟨hr, hn, hs⟩
  · exact ⟨.unopened, hopening⟩
  · exact ⟨.nameless, _, hq.after, hstarts⟩
  · obtain ⟨hlegal, hlongest⟩ := longestName_iff.1 hn
    exact ⟨.unfinished _, _, _, hr.after, rfl, hlegal, hlongest, hclosing⟩
  · rename_i r s n
    have hbegins : closingText n.text.toList <+: p.after := ⟨s.after, (hr.trans hs).after.symm⟩
    by_cases hname : n.text = name
    · exact ⟨.complete, hname ▸ hn.legal, hname ▸ hbegins⟩
    · exact ⟨.mismatch n.text, hn.legal, hname, hbegins⟩

end Closing

/-- **Five answers for five sorts of text.** Whatever name is asked for, a closing tag is answered
without a fault. Every text is of exactly one sort, the outcome is that of the sort and of no other,
and a failure is handed back where reading was started. -/
theorem closeTag_reports_what_fits (name : String) (p : Position) :
    ∃ outcome, closeTag name p = .ok outcome ∧
      (∀ closing : Closing, closing.Reports name p outcome ↔ closing.Fits name p.after) ∧
      (∃! closing : Closing, closing.Fits name p.after) ∧
      ∀ origin failed, outcome = .failure origin failed → origin = p := by
  obtain ⟨closing, hfits⟩ := Closing.exists_fits name p
  obtain ⟨outcome, hread, hreports⟩ := hfits.reports
  have hreported : ∀ other : Closing, other.Fits name p.after → other.Reports name p outcome := by
    intro other hother
    obtain ⟨outcome', hread', hreports'⟩ := hother.reports
    rw [hread] at hread'
    cases hread'
    exact hreports'
  refine ⟨outcome, hread, fun other => ⟨fun hother => ?_, hreported other⟩, ⟨closing, hfits, ?_⟩, ?_⟩
  · rwa [hreports.unique hother]
  · exact fun other hother => hreports.unique (hreported other hother)
  · rintro origin failed rfl
    obtain ⟨outcome, hread', hreading⟩ := closeTag_reading name p
    rw [hread] at hread'
    cases hread'
    exact hreading.position_eq

end Grammar

end TagScript
