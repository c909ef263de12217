import TagScript.Text.CodeRange

/-!
# Space characters

* `isSpace` holds for the characters of Unicode's whitespace property and the four information
  separators.
* `strip` removes them from both ends of a text, and nothing else (`exists_eq_append_strip`,
  `toList_strip_of_append`).
-/

namespace TagScript.Text

/-- Code points that count as space. -/
def spaces : List CodeRange :=
  [(0x9, 0xd), (0x1c, 0x20), (0x85, 0x85), (0xa0, 0xa0), (0x1680, 0x1680), (0x2000, 0x200a),
   (0x2028, 0x2029), (0x202f, 0x202f), (0x205f, 0x205f), (0x3000, 0x3000)]

/-- A character that `strip` removes. -/
def isSpace (c : Char) : Bool := CodeRange.covers spaces c.toNat

/-- The text without the spaces at its ends. -/
def strip (s : String) : String :=
  String.ofList ((s.toList.dropWhile isSpace).reverse.dropWhile isSpace).reverse

theorem toList_strip (s : String) :
    (strip s).toList = ((s.toList.dropWhile isSpace).reverse.dropWhile isSpace).reverse := by
  rw [strip, String.toList_ofList]

/-- Only spaces are removed, and only at the ends. -/
theorem exists_eq_append_strip (s : String) :
    ∃ before after, s.toList = before ++ (strip s).toList ++ after ∧
      ∀ c ∈ before ++ after, isSpace c = true := by
  have hspaces : ∀ cs : List Char, ∀ c ∈ cs.takeWhile isSpace, isSpace c = true :=
    fun cs => List.all_eq_true.1 List.all_takeWhile
  let rest := s.toList.dropWhile isSpace
  have hrest : (rest.reverse.dropWhile isSpace).reverse ++
      (rest.reverse.takeWhile isSpace).reverse = rest := by
    rw [← List.reverse_append, List.takeWhile_append_dropWhile, List.reverse_reverse]
  refine ⟨s.toList.takeWhile isSpace, (rest.reverse.takeWhile isSpace).reverse, ?_, ?_⟩
  · rw [toList_strip, List.append_assoc, hrest, List.takeWhile_append_dropWhile]
  · intro c hc
    rcases List.mem_append.1 hc with hc | hc
    · exact hspaces _ c hc
    · exact hspaces _ c (List.mem_reverse.1 hc)

theorem dropWhile_isSpace_of_none {cs : List Char} (h : ∀ c ∈ cs, isSpace c = false) :
    cs.dropWhile isSpace = cs := by
  cases cs with
  | nil => rfl
  | cons c cs => exact List.dropWhile_cons_of_neg (by simp [h c List.mem_cons_self])

/-- All spaces at the ends are removed. -/
theorem toList_strip_of_append {s : String} {before body after : List Char}
    (h : s.toList = before ++ body ++ after) (hspaces : ∀ c ∈ before ++ after, isSpace c = true)
    (hbody : ∀ c ∈ body, isSpace c = false) : (strip s).toList = body := by
  obtain ⟨hbefore, hafter⟩ := List.forall_mem_append.1 hspaces
  have hfront : s.toList.dropWhile isSpace = (body ++ after).dropWhile isSpace := by
    rw [h, List.append_assoc, List.dropWhile_append_of_pos hbefore]
  -- If there is a body, its first character is where the spaces in front end.
  cases body with
  | nil =>
    have hall : after.dropWhile isSpace = [] := by
      rw [← List.append_nil after, List.dropWhile_append_of_pos hafter, List.dropWhile_nil]
    rw [toList_strip, hfront, List.nil_append, hall]
    rfl
  | cons c body =>
    have hc : ¬ isSpace c = true := by simp [hbody c List.mem_cons_self]
    have hback : (c :: body ++ after).reverse.dropWhile isSpace = (c :: body).reverse := by
      rw [List.reverse_append,
        List.dropWhile_append_of_pos fun c hc => hafter c (List.mem_reverse.1 hc),
        dropWhile_isSpace_of_none fun c hc => hbody c (List.mem_reverse.1 hc)]
    rw [toList_strip, hfront, List.cons_append, List.dropWhile_cons_of_neg hc,
      ← List.cons_append, hback, List.reverse_reverse]

end TagScript.Text
