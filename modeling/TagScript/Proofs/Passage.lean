import TagScript.Position

/-!
# Passing over text

* `p.Passes cs q` says that the characters `cs` follow at `p` and that `q` stands behind them.
* `Passes.eq_extract` says that `cs` is then the slice of the text between the two offsets.

Positions are compared through it: the characters passed give the text on both sides, the offset and
the number of characters left.
-/

namespace TagScript.Position

/-- The characters `cs` follow at `p`, and `q` stands behind them. -/
structure Passes (p : Position) (cs : List Char) (q : Position) : Prop where
  after : p.after = cs ++ q.after
  before : q.before = cs.reverse ++ p.before

variable {p q r : Position} {cs ds : List Char}

/-- What follows is what is left of the text behind the offset. -/
theorem drop_chars (p : Position) : p.chars.drop p.offset = p.after := by
  rw [p.offset_eq, ← List.length_reverse, chars, List.drop_left]

/-- Nothing follows at the length of the text, and there alone. -/
theorem after_eq_nil_iff (p : Position) : p.after = [] ↔ p.offset = p.chars.length := by
  rw [← p.drop_chars, List.drop_eq_nil_iff]
  have hle := p.offset_le
  omega

theorem passes_nil (p : Position) : p.Passes [] p := ⟨rfl, rfl⟩

theorem passes_advance {rest : List Char} (h : p.after = cs ++ rest) :
    p.Passes cs (p.advance cs.length) := by
  constructor
  · rw [after_advance, h, List.drop_left]
  · rw [before_advance, h, List.take_left]

/-- Where some characters follow, there is a position behind them. -/
theorem exists_passes {rest : List Char} (h : p.after = cs ++ rest) :
    ∃ q, p.Passes cs q ∧ q.after = rest := by
  refine ⟨p.advance cs.length, passes_advance h, ?_⟩
  rw [after_advance, h, List.drop_left]

/-- In a text made of two parts there is a position behind the first. -/
theorem exists_passes_start (cs rest : List Char) :
    ∃ q, (start (String.ofList (cs ++ rest))).Passes cs q ∧ q.after = rest := by
  refine exists_passes ?_
  simp [start, ofChars]

namespace Passes

theorem trans (h : p.Passes cs q) (h' : q.Passes ds r) : p.Passes (cs ++ ds) r := by
  constructor
  · rw [h.after, h'.after, List.append_assoc]
  · rw [h'.before, h.before, List.reverse_append, List.append_assoc]

/-- Two texts in a row are passed one after the other. -/
theorem split (h : p.Passes (cs ++ ds) r) : ∃ q, p.Passes cs q ∧ q.Passes ds r := by
  have hafter := h.after
  rw [List.append_assoc] at hafter
  obtain ⟨q, hq, hrest⟩ := exists_passes hafter
  refine ⟨q, hq, hrest, ?_⟩
  rw [h.before, hq.before, List.reverse_append, List.append_assoc]

theorem unique (h : p.Passes cs q) (h' : p.Passes cs r) : q = r := by
  apply Position.ext
  · rw [h.before, h'.before]
  · exact List.append_cancel_left (h.after.symm.trans h'.after)

theorem eq_advance (h : p.Passes cs q) : p.advance cs.length = q :=
  (passes_advance h.after).unique h

/-- What follows behind the same place is the same. -/
theorem after_eq {rest : List Char} (h : p.Passes cs q) (hafter : p.after = cs ++ rest) :
    q.after = rest :=
  List.append_cancel_left (h.after.symm.trans hafter)

theorem chars (h : p.Passes cs q) : q.chars = p.chars := by
  rw [Position.chars, Position.chars, h.before, h.after]
  simp

theorem offset (h : p.Passes cs q) : q.offset = p.offset + cs.length := by
  rw [q.offset_eq, p.offset_eq, h.before, List.length_append, List.length_reverse]
  omega

theorem left (h : p.Passes cs q) : p.left = q.left + cs.length := by
  rw [q.left_eq, p.left_eq, h.after, List.length_append]
  omega

theorem left_lt (h : p.Passes cs q) (hne : cs ≠ []) : q.left < p.left := by
  have hpos := List.length_pos_iff.2 hne
  have hleft := h.left
  omega

/-- The text before the later position is the text before the earlier one and what was passed. -/
theorem reverse_before (h : p.Passes cs q) : q.before.reverse = p.before.reverse ++ cs := by
  rw [h.before, List.reverse_append, List.reverse_reverse]

/-- What was passed is the slice of the text between the two offsets. -/
theorem eq_extract (h : p.Passes cs q) : p.chars.extract p.offset q.offset = cs := by
  rw [List.extract_eq_take_drop, p.drop_chars, h.offset, Nat.add_sub_cancel_left, h.after,
    List.take_left]

end Passes

/-- A position that lies in a text is reached from the start of it. -/
theorem passes_before {text : String} (h : p.chars = text.toList) :
    (start text).Passes p.before.reverse p := by
  refine ⟨h.symm, ?_⟩
  simp [start, ofChars]

/-- Every later offset of the text is reached by passing over some characters. -/
theorem exists_passes_to {stop : Nat} (hle : p.offset ≤ stop) (hstop : stop ≤ p.chars.length) :
    ∃ cs q, p.Passes cs q ∧ q.offset = stop := by
  obtain ⟨q, hq, -⟩ := exists_passes (List.take_append_drop (stop - p.offset) p.after).symm
  refine ⟨_, q, hq, ?_⟩
  rw [chars, List.length_append, List.length_reverse, ← p.offset_eq] at hstop
  rw [hq.offset, List.length_take]
  omega

end TagScript.Position
