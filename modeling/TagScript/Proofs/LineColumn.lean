import Mathlib.Algebra.GroupWithZero.Nat
import Mathlib.Data.List.TakeWhile
import Mathlib.Data.Prod.Lex
import Mathlib.Data.Set.Function
import Mathlib.Order.Interval.Set.Defs
import TagScript.Report

/-!
# Lines and columns locate offsets

Line and column of an offset are counted in the text before it, the source line is taken from the
lines of the whole text. The two fit together:

* `lineStart ls l` is the offset at which a line begins, `places ls` holds the pairs of line and
  column that occur in a text with the lines `ls`, and `offsetOf ls` takes such a pair back to an
  offset. Columns go one further than the line, so that its end has a place as well.
* `lineColumn_mem_places`, `offsetOf_lineColumn`: the line and column counted before an offset are a
  place, and lead back to the offset. `strictMonoOn_offsetOf`: later places have larger offsets.
* `lineColumn_locates_offsets` puts these together: lines and columns are a second, ordered naming
  of the offsets of a text, and the context of an offset shows the line it lies in.
-/

namespace TagScript.Text

/-! ### Lines -/

/-- The lines are what lies between the line feeds. -/
theorem lines_eq_splitOn (cs : List Char) : lines cs = cs.splitOn '\n' := by
  induction cs with
  | nil => rfl
  | cons c cs ih =>
    rw [lines, List.splitOn_cons_eq_if_modifyHead, ih]
    by_cases hc : c = '\n'
    · simp [hc]
    · have hne := List.splitOn_ne_nil '\n' cs
      cases hs : cs.splitOn '\n' with
      | nil => exact absurd hs hne
      | cons line rest => simp [hc]

theorem lines_newline (cs : List Char) : lines ('\n' :: cs) = [] :: lines cs := by simp [lines]

/-- A character that ends no line stands before the first line of the rest. -/
theorem lines_cons_of_ne {c : Char} {cs line : List Char} {rest : List (List Char)} (hc : c ≠ '\n')
    (h : lines cs = line :: rest) : lines (c :: cs) = (c :: line) :: rest := by
  simp [lines, hc, h]

/-- The offset at which a line begins, lines counted from 0: there lie the lines before it, each
with its line feed. -/
def lineStart (ls : List (List Char)) (l : Nat) : Nat := ((ls.take l).map (·.length + 1)).sum

@[simp] theorem lineStart_zero (ls : List (List Char)) : lineStart ls 0 = 0 := rfl

@[simp] theorem lineStart_cons_succ (line : List Char) (ls : List (List Char)) (l : Nat) :
    lineStart (line :: ls) (l + 1) = line.length + 1 + lineStart ls l := by
  simp [lineStart]

/-- A line ends before any later one begins. -/
theorem lineStart_add_length_lt {ls : List (List Char)} {l l' : Nat} {line : List Char}
    (h : ls[l]? = some line) (hlt : l < l') : lineStart ls l + line.length < lineStart ls l' := by
  induction ls generalizing l l' with
  | nil => simp at h
  | cons first ls ih =>
    obtain ⟨m, rfl⟩ : ∃ m, l' = m + 1 := ⟨l' - 1, by omega⟩
    cases l with
    | zero =>
      obtain rfl : first = line := by simpa using h
      rw [lineStart_zero, lineStart_cons_succ]
      omega
    | succ l =>
      have hrest := ih (by simpa using h) (Nat.lt_of_succ_lt_succ hlt)
      rw [lineStart_cons_succ, lineStart_cons_succ]
      omega

/-- All lines together, with a line feed behind each, are one character longer than the text. -/
theorem lineStart_length_lines (cs : List Char) :
    lineStart (lines cs) (lines cs).length = cs.length + 1 := by
  induction cs with
  | nil => rfl
  | cons c cs ih =>
    by_cases hc : c = '\n'
    · rw [hc, lines_newline, List.length_cons, lineStart_cons_succ, ih, List.length_cons,
        List.length_nil]
      omega
    · obtain ⟨line, rest, hlines⟩ := List.exists_cons_of_ne_nil (lines_ne_nil cs)
      rw [hlines, List.length_cons, lineStart_cons_succ] at ih
      rw [lines_cons_of_ne hc hlines, List.length_cons, lineStart_cons_succ, List.length_cons,
        List.length_cons]
      omega

/-- A line stands in the text where it begins. -/
theorem line_isPrefix_drop {cs line : List Char} {l : Nat} (h : (lines cs)[l]? = some line) :
    line <+: cs.drop (lineStart (lines cs) l) := by
  induction cs generalizing l line with
  | nil =>
    cases l with
    | zero =>
      obtain rfl : [] = line := by simpa using h
      exact List.nil_prefix
    | succ l => simp at h
  | cons c cs ih =>
    by_cases hc : c = '\n'
    · subst hc
      rw [lines_newline] at h ⊢
      cases l with
      | zero =>
        obtain rfl : [] = line := by simpa using h
        exact List.nil_prefix
      | succ l =>
        rw [lineStart_cons_succ, List.length_nil, Nat.zero_add, Nat.add_comm, List.drop_succ_cons]
        exact ih (by simpa using h)
    · obtain ⟨first, rest, hlines⟩ := List.exists_cons_of_ne_nil (lines_ne_nil cs)
      rw [lines_cons_of_ne hc hlines] at h ⊢
      rw [hlines] at ih
      cases l with
      | zero =>
        obtain rfl : c :: first = line := by simpa using h
        exact List.cons_prefix_cons.2 ⟨rfl, ih (l := 0) rfl⟩
      | succ l =>
        have hget : (first :: rest)[l + 1]? = some line := by simpa using h
        have hdrop := ih hget
        rw [lineStart_cons_succ] at hdrop ⊢
        rwa [List.length_cons, Nat.add_right_comm, List.drop_succ_cons]

/-! ### Places -/

/-- The pairs of a line and a column, both counted from 1, in a text of the given lines. -/
def places (ls : List (List Char)) : Set (Nat × Nat) :=
  {place | 1 ≤ place.1 ∧ 1 ≤ place.2 ∧
    ∃ line, ls[place.1 - 1]? = some line ∧ place.2 ≤ line.length + 1}

/-- The offset of a place. -/
def offsetOf (ls : List (List Char)) (place : Nat × Nat) : Nat :=
  lineStart ls (place.1 - 1) + (place.2 - 1)

/-- A later place has a larger offset: it lies in a later line, or further on in the same one. -/
theorem strictMonoOn_offsetOf (ls : List (List Char)) :
    StrictMonoOn (fun place => offsetOf ls (ofLex place)) (Set.preimage ofLex (places ls)) := by
  intro p hp q hq hlt
  obtain ⟨hpline, hpcolumn, line, hline, hple⟩ := hp
  obtain ⟨hqline, hqcolumn, -⟩ := hq
  rcases Prod.Lex.lt_iff.1 hlt with hlines | ⟨hlines, hcolumns⟩
  · have hlater : (ofLex p).1 - 1 < (ofLex q).1 - 1 := by omega
    have hends := lineStart_add_length_lt hline hlater
    simp only [offsetOf]
    omega
  · simp only [offsetOf, hlines]
    omega

theorem offsetOf_le {cs : List Char} {place : Nat × Nat} (h : place ∈ places (lines cs)) :
    offsetOf (lines cs) place ≤ cs.length := by
  obtain ⟨-, hcolumn, line, hline, hle⟩ := h
  have hlt := (List.getElem?_eq_some_iff.1 hline).1
  have hends := lineStart_add_length_lt hline hlt
  rw [lineStart_length_lines] at hends
  simp only [offsetOf]
  omega

/-! ### Counting -/

/-- Without a line feed the text stays in the first line. -/
theorem lineColumnAfter_of_not_mem {passed : List Char} (h : '\n' ∉ passed) :
    lineColumnAfter passed = (1, passed.length + 1) := by
  have hall : passed.reverse.takeWhile (· ≠ '\n') = passed.reverse := by
    rw [List.takeWhile_eq_self_iff]
    intro c hc
    have hne : c ≠ '\n' := fun heq => h (heq ▸ List.mem_reverse.1 hc)
    simpa using hne
  rw [lineColumnAfter, hall, List.count_eq_zero.2 h, List.length_reverse]

/-- Behind a line feed, what is before it adds to the lines and leaves the columns alone. -/
theorem lineColumnAfter_append (front back : List Char) :
    lineColumnAfter (front ++ '\n' :: back) =
      ((lineColumnAfter back).1 + (front.count '\n' + 1), (lineColumnAfter back).2) := by
  have hback : (front ++ '\n' :: back).reverse.takeWhile (· ≠ '\n') =
      back.reverse.takeWhile (· ≠ '\n') := by
    rw [List.reverse_append, List.reverse_cons, List.append_assoc, List.takeWhile_append]
    split
    · next hlength => simpa using ((List.takeWhile_prefix _).eq_of_length hlength).symm
    · rfl
  rw [lineColumnAfter, hback, lineColumnAfter, List.count_append, List.count_cons_self,
    Prod.mk.injEq]
  exact ⟨by omega, rfl⟩

theorem lineColumnAfter_newline (passed : List Char) :
    lineColumnAfter ('\n' :: passed) =
      ((lineColumnAfter passed).1 + 1, (lineColumnAfter passed).2) :=
  lineColumnAfter_append [] passed

/-- A first character that ends no line moves the columns of the first line only. -/
theorem lineColumnAfter_cons_of_ne {c : Char} (hc : c ≠ '\n') (passed : List Char) :
    lineColumnAfter (c :: passed) =
      if (lineColumnAfter passed).1 = 1 then (1, (lineColumnAfter passed).2 + 1)
      else lineColumnAfter passed := by
  by_cases hmem : '\n' ∈ passed
  · obtain ⟨front, back, rfl⟩ := List.append_of_mem hmem
    rw [← List.cons_append, lineColumnAfter_append, lineColumnAfter_append,
      List.count_cons_of_ne hc, if_neg]
    have hpos : 1 ≤ (lineColumnAfter back).1 := Nat.le_add_left 1 _
    simp only
    omega
  · have hmem' : '\n' ∉ c :: passed := by simp [hmem, Ne.symm hc]
    rw [lineColumnAfter_of_not_mem hmem, lineColumnAfter_of_not_mem hmem', List.length_cons]
    rfl

/-- The text before an offset ends in a line that it has begun, and as far behind the start of that
line as its column says. -/
theorem exists_line_of_take {cs : List Char} {n : Nat} (hn : n ≤ cs.length) :
    ∃ l k line, lineColumnAfter (cs.take n) = (l + 1, k + 1) ∧ (lines cs)[l]? = some line ∧
      k ≤ line.length ∧ lineStart (lines cs) l + k = n := by
  induction cs generalizing n with
  | nil =>
    obtain rfl : n = 0 := by simpa using hn
    exact ⟨0, 0, [], rfl, rfl, Nat.le_refl 0, rfl⟩
  | cons c cs ih =>
    cases n with
    | zero =>
      obtain ⟨line, rest, hlines⟩ := List.exists_cons_of_ne_nil (lines_ne_nil (c :: cs))
      exact ⟨0, 0, line, rfl, by rw [hlines]; rfl, Nat.zero_le _, rfl⟩
    | succ n =>
      obtain ⟨l, k, line, hplace, hget, hle, hoffset⟩ := ih (Nat.le_of_succ_le_succ hn)
      rw [List.take_succ_cons]
      by_cases hc : c = '\n'
      · subst hc
        refine ⟨l + 1, k, line, ?_, by rwa [lines_newline], hle, ?_⟩
        · rw [lineColumnAfter_newline, hplace]
        · rw [lines_newline, lineStart_cons_succ, List.length_nil]
          omega
      · obtain ⟨first, rest, hlines⟩ := List.exists_cons_of_ne_nil (lines_ne_nil cs)
        rw [lineColumnAfter_cons_of_ne hc, hplace, lines_cons_of_ne hc hlines]
        rw [hlines] at hget hoffset
        -- In the first line the character adds a column, in a later one it moves the line.
        cases l with
        | zero =>
          obtain rfl : first = line := by simpa using hget
          refine ⟨0, k + 1, c :: first, rfl, rfl, Nat.succ_le_succ hle, ?_⟩
          rw [lineStart_zero] at hoffset ⊢
          omega
        | succ l =>
          refine ⟨l + 1, k, line, by simp, by simpa using hget, hle, ?_⟩
          rw [lineStart_cons_succ] at hoffset ⊢
          rw [List.length_cons]
          omega

theorem clampOffset_le (text : String) (offset : Int) :
    clampOffset text offset ≤ text.toList.length := by
  rw [String.length_toList]
  exact Nat.min_le_right _ _

/-- The line and column counted in the text before an offset are a place. -/
theorem lineColumn_mem_places (text : String) (offset : Int) :
    lineColumn text offset ∈ places (lines text.toList) := by
  obtain ⟨l, k, line, hplace, hget, hle, -⟩ := exists_line_of_take (clampOffset_le text offset)
  rw [lineColumn, hplace]
  exact ⟨Nat.succ_pos l, Nat.succ_pos k, line, hget, Nat.succ_le_succ hle⟩

/-- The place of an offset leads back to it. -/
theorem offsetOf_lineColumn (text : String) (offset : Int) :
    offsetOf (lines text.toList) (lineColumn text offset) = clampOffset text offset := by
  obtain ⟨l, k, line, hplace, -, -, hoffset⟩ := exists_line_of_take (clampOffset_le text offset)
  rw [lineColumn, hplace]
  exact hoffset

theorem clampOffset_eq (text : String) (offset : Int) :
    (clampOffset text offset : Int) = max 0 (min offset text.length) := by
  rw [clampOffset]
  omega

theorem clampOffset_natCast {text : String} {n : Nat} (h : n ≤ text.length) :
    clampOffset text n = n := by
  rw [clampOffset, Int.toNat_natCast, Nat.min_eq_left h]

end TagScript.Text

namespace TagScript.Position

/-- A position is located like its offset. -/
theorem lineColumn_eq (p : Position) : p.lineColumn = Text.lineColumn p.text p.offset := by
  have hle : p.offset ≤ p.text.length := by
    rw [p.length_text]
    exact p.offset_le
  rw [Text.lineColumn, Text.clampOffset_natCast hle, lineColumn, text, String.toList_ofList, chars,
    p.offset_eq, ← List.length_reverse, List.take_left]

end TagScript.Position

namespace TagScript.Text

/-- Offsets and places name each other: `offsetOf` takes either way back. -/
theorem invOn_lineColumn (text : String) :
    Set.InvOn (offsetOf (lines text.toList)) (fun n : Nat => lineColumn text n)
      (Set.Iic text.length) (places (lines text.toList)) := by
  have hleft : ∀ n ≤ text.length, offsetOf (lines text.toList) (lineColumn text n) = n := by
    intro n hn
    rw [offsetOf_lineColumn, clampOffset_natCast hn]
  refine ⟨hleft, fun place hplace => ?_⟩
  have hle : offsetOf (lines text.toList) place ≤ text.length := by
    rw [← String.length_toList]
    exact offsetOf_le hplace
  exact (strictMonoOn_offsetOf (lines text.toList)).injOn
    (lineColumn_mem_places text _) hplace (hleft _ hle)

/-- Each offset has its place, and each place its offset. -/
theorem bijOn_lineColumn (text : String) :
    Set.BijOn (fun n : Nat => lineColumn text n) (Set.Iic text.length)
      (places (lines text.toList)) := by
  refine (invOn_lineColumn text).bijOn (fun n _ => lineColumn_mem_places text n) ?_
  intro place hplace
  rw [Set.mem_Iic, ← String.length_toList]
  exact offsetOf_le hplace

/-- A later offset has a later place. -/
theorem strictMonoOn_lineColumn (text : String) :
    StrictMonoOn (fun n : Nat => toLex (lineColumn text n)) (Set.Iic text.length) := by
  intro m hm n hn hlt
  have hback := (invOn_lineColumn text).1
  have hiff := (strictMonoOn_offsetOf (lines text.toList)).lt_iff_lt
    (a := toLex (lineColumn text m)) (b := toLex (lineColumn text n))
    (lineColumn_mem_places text m) (lineColumn_mem_places text n)
  apply hiff.1
  calc offsetOf (lines text.toList) (lineColumn text m)
    _ = m := hback hm
    _ < n := hlt
    _ = offsetOf (lines text.toList) (lineColumn text n) := (hback hn).symm

/-- **Lines and columns locate offsets.** Let `ls` be the text split at its line feeds. The line and
column of an offset, which counts as the nearest end if it lies outside the text, are those of a
character of a line or of the place behind its last one; the lengths of the lines before it give the
offset back. So offsets and places correspond one to one, in the same order. The context of an
offset shows the line it lies in, and this stands in the text where it should. -/
theorem lineColumn_locates_offsets (text : String) :
    let ls := text.toList.splitOn '\n'
    (∀ (offset : Int) (sourceName : Option String),
      let l := (lineColumn text offset).1
      let k := (lineColumn text offset).2
      ∃ (c : Nat) (line : List Char), (c : Int) = max 0 (min offset text.length) ∧
        1 ≤ l ∧ l ≤ ls.length ∧ ls[l - 1]? = some line ∧ 1 ≤ k ∧ k ≤ line.length + 1 ∧
        c = ((ls.take (l - 1)).map (·.length + 1)).sum + (k - 1) ∧
        Context.ofText text offset sourceName =
          ⟨offset, l, k, String.ofList line, sourceName⟩ ∧
        line <+: text.toList.drop (c - (k - 1))) ∧
    Set.BijOn (fun n : Nat => lineColumn text n) (Set.Iic text.length)
      {place | 1 ≤ place.1 ∧ 1 ≤ place.2 ∧
        ∃ line, ls[place.1 - 1]? = some line ∧ place.2 ≤ line.length + 1} ∧
    StrictMonoOn (fun n : Nat => toLex (lineColumn text n)) (Set.Iic text.length) ∧
    ∀ p : Position, p.lineColumn = lineColumn p.text p.offset := by
  intro ls
  have hls : lines text.toList = ls := lines_eq_splitOn text.toList
  refine ⟨fun offset sourceName => ?_, ?_, strictMonoOn_lineColumn text, Position.lineColumn_eq⟩
  · intro l k
    obtain ⟨hline, hcolumn, line, hget, hle⟩ := lineColumn_mem_places text offset
    have hoffset := offsetOf_lineColumn text offset
    have hprefix := line_isPrefix_drop hget
    rw [hls] at hget hoffset hprefix
    have hlt := (List.getElem?_eq_some_iff.1 hget).1
    have hstart : clampOffset text offset - (k - 1) = lineStart ls (l - 1) := by
      rw [← hoffset, offsetOf, Nat.add_sub_cancel]
    refine ⟨clampOffset text offset, line, clampOffset_eq text offset, hline, by omega, hget,
      hcolumn, hle, hoffset.symm, ?_, by rwa [hstart]⟩
    simp only [Context.ofText, hls, hget]
    rfl
  · rw [← hls]
    exact bijOn_lineColumn text

end TagScript.Text
