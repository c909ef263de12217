import TagScript.Proofs.Mismatch
import TagScript.Proofs.OneLine
import TagScript.Proofs.Quotation

/-!
# The layout of reports

A report of a failed reading has a line that describes the failure and one that gives its place.
Unless the line of the text in which it lies is empty, that line follows, and below it a caret.

* `ParseError.messageLines` are these lines; `message_eq_intercalate` puts the report together from
  them, and `oneLine_of_mem_messageLines` says that none of them breaks.
* `getElem?_line` says what the caret points at: in the line of an offset, the character at its
  column is the one at the offset, unless that ends the line.
* `report_points_at_failure` puts these together for texts that are not read.
-/

namespace TagScript

open Markup Grammar Text

namespace Text

/-! ### The character at a column -/

/-- One more character that ends no line is one more column of the same line. -/
theorem lineColumnAfter_concat_of_ne {c : Char} (hc : c ≠ '\n') (passed : List Char) :
    lineColumnAfter (passed ++ [c]) =
      ((lineColumnAfter passed).1, (lineColumnAfter passed).2 + 1) := by
  simp [lineColumnAfter, hc]

theorem lineColumn_succ_of_ne {text : String} {n : Nat} {c : Char}
    (h : text.toList[n]? = some c) (hc : c ≠ '\n') :
    lineColumn text ((n + 1 : Nat) : Int) = ((lineColumn text n).1, (lineColumn text n).2 + 1) := by
  have hlt : n < text.length := by
    rw [← String.length_toList]
    exact (List.getElem?_eq_some_iff.1 h).1
  rw [lineColumn, lineColumn, clampOffset_natCast hlt, clampOffset_natCast (Nat.le_of_lt hlt),
    List.take_add_one, h]
  exact lineColumnAfter_concat_of_ne hc _

/-- In the line of an offset, the character at the column is the one at the offset. Where that is a
line feed or the text has ended, the line has ended too. -/
theorem getElem?_line {text : String} {n : Nat} {row : List Char} (hn : n ≤ text.length)
    (hline : (lines text.toList)[(lineColumn text n).1 - 1]? = some row) :
    row[(lineColumn text n).2 - 1]? = text.toList[n]?.filter (· ≠ '\n') := by
  obtain ⟨-, hcolumn, row', hline', hle⟩ := lineColumn_mem_places text n
  obtain rfl : row = row' := Option.some.inj (hline.symm.trans hline')
  have hoffset := offsetOf_lineColumn text n
  rw [clampOffset_natCast hn, offsetOf] at hoffset
  by_cases hwithin : (lineColumn text n).2 - 1 < row.length
  · obtain ⟨c, hc⟩ : ∃ c, row[(lineColumn text n).2 - 1]? = some c :=
      ⟨_, List.getElem?_eq_getElem hwithin⟩
    have hne : c ≠ '\n' := by
      rintro rfl
      exact newline_not_mem_of_mem_lines (List.mem_of_getElem? hline) (List.mem_of_getElem? hc)
    have hget : text.toList[n]? = some c := by
      obtain ⟨tail, htail⟩ := line_isPrefix_drop hline
      rw [← hoffset, ← List.getElem?_drop, ← htail, List.getElem?_append_left hwithin, hc]
    rw [hc, hget, Option.filter_some, if_pos (by simpa using hne)]
  · rw [List.getElem?_eq_none (by omega)]
    symm
    rw [Option.filter_eq_none_iff]
    intro c hc hne
    -- The next offset would lie in the same line, one column behind its end.
    obtain ⟨-, -, row', hline', hle'⟩ := lineColumn_mem_places text ((n + 1 : Nat) : Int)
    rw [lineColumn_succ_of_ne hc (by simpa using hne)] at hline' hle'
    obtain rfl : row = row' := Option.some.inj (hline.symm.trans hline')
    simp only at hle'
    omega

/-- Behind four spaces the column lies four characters further on, and at most one behind the
line. -/
theorem getElem?_indented_line {text : String} {n : Nat} {line : List Char} (hn : n ≤ text.length)
    (hline : (lines text.toList)[(lineColumn text n).1 - 1]? = some line) :
    (List.replicate 4 ' ' ++ line)[3 + (lineColumn text n).2]? =
        text.toList[n]?.filter (· ≠ '\n') ∧
      3 + (lineColumn text n).2 ≤ (List.replicate 4 ' ' ++ line).length := by
  obtain ⟨-, hcolumn, line', hline', hle⟩ := lineColumn_mem_places text n
  obtain rfl : line = line' := Option.some.inj (hline.symm.trans hline')
  constructor
  · rw [← getElem?_line hn hline, List.getElem?_append_right (by rw [List.length_replicate]; omega),
      List.length_replicate]
    congr 1
    omega
  · rw [List.length_append, List.length_replicate]
    omega

end Text

/-! ### The lines of a report -/

namespace Context

/-- The line that gives the place. -/
def placeLine (c : Context) : String :=
  s!"  at {c.whereabouts}{c.line}:{c.column} (offset {c.offset})"

/-- The source line and the caret below it, if that line is not empty. -/
def sourceLines (c : Context) : List String :=
  if c.sourceLine.isEmpty then []
  else ["    " ++ c.sourceLine, "    " ++ String.ofList (List.replicate (c.column - 1) ' ') ++ "^"]

theorem sourceLines_of_empty {c : Context} (h : c.sourceLine = "") : c.sourceLines = [] := by
  rw [sourceLines, h]
  rfl

/-- The caret stands below the column of the source line. -/
theorem sourceLines_of_ne {c : Context} (h : c.sourceLine ≠ "") (hcolumn : 1 ≤ c.column) :
    c.sourceLines.map String.toList =
      [List.replicate 4 ' ' ++ c.sourceLine.toList, List.replicate (3 + c.column) ' ' ++ ['^']] := by
  have hspaces : List.replicate (3 + c.column) ' ' =
      List.replicate 4 ' ' ++ List.replicate (c.column - 1) ' ' := by
    rw [List.replicate_append_replicate]
    congr 1
    omega
  rw [sourceLines, if_neg (by simpa using h), hspaces]
  simp

theorem location_eq_intercalate (c : Context) :
    c.location = "\n".intercalate (c.placeLine :: c.sourceLines) := by
  unfold location sourceLines
  split
  · rw [String.intercalate_singleton]
    rfl
  · rfl

theorem oneLine_whereabouts {c : Context} (h : ∀ name, c.sourceName = some name → OneLine name) :
    OneLine c.whereabouts := by
  unfold whereabouts
  cases hname : c.sourceName with
  | none => exact (by decide : OneLine "line ")
  | some name =>
    show OneLine (if name.isEmpty then "line " else name ++ ":")
    split
    · decide
    · exact oneLine_append.2 ⟨h name hname, by decide⟩

theorem oneLine_placeLine {c : Context} (h : OneLine c.whereabouts) : OneLine c.placeLine := by
  have hplace : c.placeLine = "  at " ++ c.whereabouts ++ c.line.repr ++ ":" ++ c.column.repr ++
      " (offset " ++ c.offset.repr ++ ")" := by
    rfl
  rw [hplace]
  simp only [oneLine_append]
  exact ⟨⟨⟨⟨⟨⟨⟨by decide, h⟩, oneLine_natRepr _⟩, by decide⟩, oneLine_natRepr _⟩, by decide⟩,
    oneLine_intRepr _⟩, by decide⟩

theorem oneLine_of_mem_sourceLines {c : Context} (h : OneLine c.sourceLine) :
    ∀ s ∈ c.sourceLines, OneLine s := by
  have hspaces : OneLine (String.ofList (List.replicate (c.column - 1) ' ')) := by
    rw [oneLine_ofList]
    intro hmem
    exact absurd (List.eq_of_mem_replicate hmem) (by decide)
  unfold sourceLines
  split
  · simp
  · simp only [List.forall_mem_cons, List.not_mem_nil, false_imp_iff, implies_true, and_true]
    constructor
    · exact oneLine_append.2 ⟨by decide, h⟩
    · exact oneLine_append.2 ⟨oneLine_append.2 ⟨by decide, hspaces⟩, by decide⟩

end Context

namespace ParseError

/-- The lines of the report of a failure. -/
def messageLines (e : ParseError) : List String :=
  ("Parse error: " ++ e.failure.describe) :: e.context.placeLine :: e.context.sourceLines

theorem message_eq_intercalate (e : ParseError) :
    e.message = "\n".intercalate e.messageLines := by
  rw [messageLines, String.intercalate_cons_cons, ← Context.location_eq_intercalate]
  rfl

theorem oneLine_of_mem_messageLines {e : ParseError} (hdescribe : OneLine e.failure.describe)
    (hname : OneLine e.context.whereabouts) (hline : OneLine e.context.sourceLine) :
    ∀ s ∈ e.messageLines, OneLine s := by
  simp only [messageLines, List.forall_mem_cons]
  exact ⟨oneLine_append.2 ⟨by decide, hdescribe⟩, Context.oneLine_placeLine hname,
    Context.oneLine_of_mem_sourceLines hline⟩

end ParseError

/-! ### Texts that are not read -/

namespace Document

variable {text : String} {p : Position} {failed : Failure} {sourceName : Option String}

/-- The names that a mismatch shows are names of tags, so its description does not break either. -/
theorem oneLine_describe_of_failure (h : tryParse text = .ok (.failure p failed)) :
    OneLine failed.describe := by
  refine Failure.oneLine_describe fun hkind => ?_
  obtain ⟨before, after, n, ns, m, -, hunclosed, hm, -, -, hmismatch⟩ :=
    exists_unclosed_of_mismatch h hkind
  rw [hmismatch.found, hmismatch.expected]
  exact ⟨oneLine_of_legal hm, oneLine_of_legal hunclosed.legal⟩

/-- The failure lies at an offset of the text. -/
theorem exists_offset_of_failure (h : tryParse text = .ok (.failure p failed)) :
    ∃ n : Nat, failed.offset = n ∧ n ≤ text.length := by
  obtain ⟨-, origin, hread⟩ := topLevelElements_of_failure h
  have hquotes : failed.Quotes text.toList :=
    (everywhere_quotes_of_topLevelElements hread).self
  obtain ⟨q, found, hchars, hoffset, -⟩ := hquotes.exists_position
  refine ⟨q.offset, hoffset, ?_⟩
  rw [← String.length_toList, ← hchars]
  exact q.offset_le

/-- The context of the failure is the place of an offset of the text and shows the line there. -/
theorem exists_line_of_failure (h : tryParse text = .ok (.failure p failed))
    (sourceName : Option String) :
    ∃ (n : Nat) (line : List Char), failed.offset = n ∧ n ≤ text.length ∧
      (lines text.toList)[(lineColumn text n).1 - 1]? = some line ∧
      (ParseError.of failed text sourceName).context =
        ⟨n, (lineColumn text n).1, (lineColumn text n).2, String.ofList line, sourceName⟩ := by
  obtain ⟨n, hoffset, hn⟩ := exists_offset_of_failure h
  obtain ⟨-, -, line, hline, -⟩ := lineColumn_mem_places text n
  refine ⟨n, line, hoffset, hn, hline, ?_⟩
  simp only [ParseError.of, Context.ofText, hoffset, hline]
  rfl

/-- A report is split into its lines. -/
theorem splitOn_message (h : tryParse text = .ok (.failure p failed))
    (hname : ∀ name, sourceName = some name → OneLine name) :
    (ParseError.of failed text sourceName).message.toList.splitOn '\n' =
      (ParseError.of failed text sourceName).messageLines.map String.toList := by
  obtain ⟨n, line, -, -, hline, hcontext⟩ := exists_line_of_failure h sourceName
  rw [ParseError.message_eq_intercalate]
  refine splitOn_intercalate rfl (List.cons_ne_nil _ _)
    (ParseError.oneLine_of_mem_messageLines (oneLine_describe_of_failure h) ?_ ?_)
  · exact Context.oneLine_whereabouts (by rwa [hcontext])
  · rw [hcontext, oneLine_ofList]
    exact newline_not_mem_of_mem_lines (List.mem_of_getElem? hline)

/-- **Reports point at the failure.** Let a text that is not read come from a source whose name, if
it has one, is in one line. The report of its failure, split at the line feeds, has two lines if the
line of the text with the failure is empty, and else four. Then the third shows that line behind four
spaces, and the fourth has a caret and before it spaces only. The caret stands below the character at
the offset of the failure, or below the end of the line where the failure lies at a line feed or at
the end of the text. -/
theorem report_points_at_failure (hname : ∀ name, sourceName = some name → '\n' ∉ name.toList)
    (hfails : ∀ d, parse text sourceName ≠ .ok d) :
    ∃ (e : ParseError) (n : Nat) (line : List Char),
      parse text sourceName = .error (.rejected e) ∧ e.failure.offset = n ∧ n ≤ text.length ∧
      (text.toList.splitOn '\n')[(lineColumn text n).1 - 1]? = some line ∧
      e.context.sourceLine = String.ofList line ∧ e.context.column = (lineColumn text n).2 ∧
      (line = [] → (e.message.toList.splitOn '\n').length = 2) ∧
      (line ≠ [] → ∃ first second third fourth : List Char,
        e.message.toList.splitOn '\n' = [first, second, third, fourth] ∧
        third = List.replicate 4 ' ' ++ line ∧
        fourth = List.replicate (3 + e.context.column) ' ' ++ ['^'] ∧
        (∀ c, text.toList[n]? = some c → c ≠ '\n' → third[3 + e.context.column]? = some c) ∧
        (text.toList[n]? = none ∨ text.toList[n]? = some '\n' →
          third.length = 3 + e.context.column)) := by
  rcases parse_total text sourceName with ⟨d, hd⟩ | ⟨p, failed, hread, hrejected⟩
  · exact absurd hd (hfails d)
  obtain ⟨n, line, hoffset, hn, hline, hcontext⟩ := exists_line_of_failure hread sourceName
  have hsplit := splitOn_message hread hname
  rw [ParseError.messageLines, List.map_cons, List.map_cons] at hsplit
  have hsource : (ParseError.of failed text sourceName).context.sourceLine = String.ofList line := by
    rw [hcontext]
  have hcolumn : (ParseError.of failed text sourceName).context.column = (lineColumn text n).2 := by
    rw [hcontext]
  refine ⟨_, n, line, hrejected, hoffset, hn, by rwa [← lines_eq_splitOn], hsource, hcolumn, ?_, ?_⟩
  · rintro rfl
    rw [hsplit, Context.sourceLines_of_empty hsource]
    rfl
  · intro hne
    have hpositive : 1 ≤ (lineColumn text n).2 := (lineColumn_mem_places text n).2.1
    obtain ⟨hbelow, hle⟩ := getElem?_indented_line hn hline
    rw [Context.sourceLines_of_ne (by simpa [hsource] using hne) (by rwa [hcolumn]), hsource,
      String.toList_ofList] at hsplit
    refine ⟨_, _, _, _, hsplit, rfl, rfl, fun c hc hne => ?_, fun hends => ?_⟩
    · rw [hcolumn, hbelow, hc, Option.filter_some, if_pos (by simpa using hne)]
    · -- The line has no character at the column, which is therefore the one behind its end.
      have hnone : text.toList[n]?.filter (· ≠ '\n') = none := by
        rcases hends with hends | hends <;> rw [hends] <;> rfl
      have hge := List.getElem?_eq_none_iff.1 (hbelow.trans hnone)
      rw [hcolumn]
      omega

/-- A reading that shows where it fails is reported at that offset. -/
theorem rejected_of_failure? (text : String) (sourceName : Option String) (offset : Int)
    (h : ((tryParse text).toOption.bind Outcome.failure?).map (·.offset) = some offset) :
    (∀ d, parse text sourceName ≠ .ok d) ∧
      ∀ e, parse text sourceName = .error (.rejected e) → e.failure.offset = offset := by
  obtain ⟨p, failed, hread, rfl⟩ := Outcome.exists_of_failure? h
  have hrejected : parse text sourceName = .error (.rejected (.of failed text sourceName)) := by
    rw [parse, hread]
  rw [hrejected]
  constructor
  · rintro d ⟨⟩
  · rintro e ⟨⟩
    rfl

/-- In the second line of `<a>`, ` <b></c>` the tag `</c>` does not fit, and the caret stands below
it. Where the text ends behind `<a>` and a line feed, the line is empty and not shown. -/
theorem reports_of_mismatch_and_of_empty_line :
    (∃ e first second, parse "<a>\n <b></c>" (some "x.tag") = .error (.rejected e) ∧
      e.message.toList.splitOn '\n' =
        [first, second, "     <b></c>".toList, "        ^".toList]) ∧
    ∃ e, parse "<a>\n" none = .error (.rejected e) ∧
      (e.message.toList.splitOn '\n').length = 2 := by
  constructor
  · obtain ⟨hfails, hat⟩ := rejected_of_failure? "<a>\n <b></c>" (some "x.tag") 8
      (by decide +kernel)
    have hname : ∀ name, some "x.tag" = some name → '\n' ∉ name.toList := by
      rintro name ⟨⟩
      decide
    obtain ⟨e, n, line, hrejected, hoffset, -, hline, -, hcolumn, -, hfour⟩ :=
      report_points_at_failure hname hfails
    obtain rfl : n = 8 := Int.ofNat_inj.1 (hoffset.symm.trans (hat e hrejected))
    have hplace : lineColumn "<a>\n <b></c>" (8 : Nat) = (2, 5) := by decide
    rw [hplace] at hline hcolumn
    obtain rfl : " <b></c>".toList = line := by
      refine Option.some.inj (Eq.trans ?_ hline)
      decide
    obtain ⟨first, second, third, fourth, hsplit, rfl, rfl, -⟩ := hfour (by decide)
    refine ⟨e, first, second, hrejected, ?_⟩
    rw [hsplit, hcolumn]
    rfl
  · obtain ⟨hfails, hat⟩ := rejected_of_failure? "<a>\n" none 4 (by decide +kernel)
    obtain ⟨e, n, line, hrejected, hoffset, -, hline, -, -, htwo, -⟩ :=
      report_points_at_failure (by simp) hfails
    obtain rfl : n = 4 := Int.ofNat_inj.1 (hoffset.symm.trans (hat e hrejected))
    have hplace : lineColumn "<a>\n" (4 : Nat) = (2, 1) := by decide
    rw [hplace] at hline
    obtain rfl : [] = line := by
      refine Option.some.inj (Eq.trans ?_ hline)
      decide
    exact ⟨e, hrejected, htwo rfl⟩

end Document

end TagScript
