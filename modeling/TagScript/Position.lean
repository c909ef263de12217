import TagScript.Fault
import TagScript.Text.Lines

/-!
# Positions in a text

A position splits a text into the characters before it and those after it.

* `Position.start` stands before the first character, `Position.at?` at a given offset.
* `advance` and `move?` step forward and stop at the end.
* `peek`, `slice`, `remaining`, `startsWith` look at what follows; `lineColumn` locates the
  position for messages.
-/

namespace TagScript

/-- A place in a text: the characters before it, nearest first, and those after it, both counted. -/
structure Position where
  before : List Char
  after : List Char
  offset : Nat
  left : Nat
  offset_eq : offset = before.length
  left_eq : left = after.length
deriving DecidableEq

namespace Position

/-- The position before the first of the given characters. -/
def ofChars (cs : List Char) : Position := ⟨[], cs, 0, cs.length, rfl, rfl⟩

/-- The position before the first character of a text. -/
def start (text : String) : Position := ofChars text.toList

/-- All characters of the text. -/
def chars (p : Position) : List Char := p.before.reverse ++ p.after

/-- The text the position lies in. -/
def text (p : Position) : String := String.ofList p.chars

/-- The next character and the position behind it. -/
def step? : Position → Option (Char × Position)
  | ⟨_, [], _, _, _, _⟩ => none
  | ⟨before, c :: rest, offset, left, offset_eq, left_eq⟩ =>
    some (c, ⟨c :: before, rest, offset + 1, left - 1, by simp [offset_eq], by simp [left_eq]⟩)

/-- The position `count` characters further on, or the end of the text. -/
def advance (p : Position) : Nat → Position
  | 0 => p
  | count + 1 =>
    match p.step? with
    | none => p
    | some (_, next) => next.advance count

/-- Moves by a signed count, which must not be negative. -/
def move? (p : Position) (count : Int) : Except Fault Position :=
  if count < 0 then .error .backward else .ok (p.advance count.toNat)

/-- The position at an offset of the text, which must lie between 0 and its length. -/
def at? (text : String) (offset : Int) : Except Fault Position :=
  if 0 ≤ offset ∧ offset ≤ text.length then .ok ((start text).advance offset.toNat)
  else .error (.offsetOutOfRange offset text.length)

/-- Nothing follows. -/
def atEnd (p : Position) : Bool := p.after.isEmpty

/-- The text that follows. -/
def remaining (p : Position) : String := String.ofList p.after

/-- The given text follows. -/
def startsWith (p : Position) (s : String) : Bool := s.toList.isPrefixOf p.after

/-- The next `count` characters, fewer at the end. -/
def peek (p : Position) (count : Nat) : String := String.ofList (p.after.take count)

/-- The text from here to `count` characters further on; an end before the start of the text is
counted from the end of it. -/
def slice (p : Position) (count : Int) : String :=
  let stop := p.offset + count
  let stop := if stop < 0 then stop + p.chars.length else stop
  p.peek (stop - p.offset).toNat

/-- Line and column, counted from 1. -/
def lineColumn (p : Position) : Nat × Nat := Text.lineColumnAfter p.before.reverse

/-- The position as messages show it. -/
def shown (p : Position) : String := s!"Position(offset={p.offset})"

/-! ### The text stays, the offset counts what was passed -/

@[simp] theorem chars_ofChars (cs : List Char) : (ofChars cs).chars = cs := rfl

@[simp] theorem chars_start (text : String) : (start text).chars = text.toList := rfl

@[simp] theorem offset_start (text : String) : (start text).offset = 0 := rfl

@[simp] theorem text_start (text : String) : (start text).text = text := by
  simp [Position.text]

theorem length_text (p : Position) : p.text.length = p.chars.length := by
  rw [text, String.length_ofList]

theorem offset_add_left (p : Position) : p.offset + p.left = p.chars.length := by
  rw [p.offset_eq, p.left_eq, chars, List.length_append, List.length_reverse]

theorem offset_le (p : Position) : p.offset ≤ p.chars.length := by
  rw [← p.offset_add_left]
  omega

/-- Positions with the same characters on both sides are equal. -/
@[ext] theorem ext {p q : Position} (hb : p.before = q.before) (ha : p.after = q.after) :
    p = q := by
  obtain ⟨b, a, n, l, hn, hl⟩ := p
  obtain ⟨b', a', n', l', hn', hl'⟩ := q
  simp only at hb ha
  subst hb ha hn hn' hl hl'
  rfl

/-- A text has one position at each offset. -/
theorem eq_of_offset {p q : Position} (hchars : p.chars = q.chars) (hoffset : p.offset = q.offset) :
    p = q := by
  have hlength : p.before.reverse.length = q.before.reverse.length := by
    rw [List.length_reverse, List.length_reverse, ← p.offset_eq, ← q.offset_eq, hoffset]
  obtain ⟨hbefore, hafter⟩ := List.append_inj hchars hlength
  exact Position.ext (List.reverse_inj.1 hbefore) hafter

theorem step?_of_nil {p : Position} (h : p.after = []) : p.step? = none := by
  obtain ⟨b, a, n, l, hn, hl⟩ := p
  simp only at h
  subst h
  rfl

theorem step?_of_cons {p : Position} {c : Char} {rest : List Char} (h : p.after = c :: rest) :
    ∃ next, p.step? = some (c, next) ∧ next.before = c :: p.before ∧ next.after = rest := by
  obtain ⟨b, a, n, l, hn, hl⟩ := p
  simp only at h
  subst h
  exact ⟨_, rfl, rfl, rfl⟩

@[simp] theorem advance_zero (p : Position) : p.advance 0 = p := by rw [advance]

theorem advance_of_nil {p : Position} (h : p.after = []) (count : Nat) : p.advance count = p := by
  cases count with
  | zero => simp
  | succ count => rw [advance, step?_of_nil h]

theorem advance_succ {p next : Position} {c : Char} (h : p.step? = some (c, next)) (count : Nat) :
    p.advance (count + 1) = next.advance count := by
  rw [advance, h]

@[simp] theorem after_advance (count : Nat) (p : Position) :
    (p.advance count).after = p.after.drop count := by
  induction count generalizing p with
  | zero => simp
  | succ count ih =>
    cases h : p.after with
    | nil => rw [advance_of_nil h, h]; simp
    | cons c rest =>
      obtain ⟨next, hs, _, ha⟩ := step?_of_cons h
      rw [advance_succ hs, ih, ha]
      simp

theorem before_advance (count : Nat) (p : Position) :
    (p.advance count).before = (p.after.take count).reverse ++ p.before := by
  induction count generalizing p with
  | zero => simp
  | succ count ih =>
    cases h : p.after with
    | nil => rw [advance_of_nil h]; simp
    | cons c rest =>
      obtain ⟨next, hs, hb, ha⟩ := step?_of_cons h
      rw [advance_succ hs, ih, hb, ha]
      simp

@[simp] theorem chars_advance (count : Nat) (p : Position) : (p.advance count).chars = p.chars := by
  rw [chars, chars, before_advance, after_advance, List.reverse_append, List.reverse_reverse,
    List.append_assoc, List.take_append_drop]

theorem offset_advance (count : Nat) (p : Position) :
    (p.advance count).offset = p.offset + min count p.after.length := by
  rw [offset_eq, before_advance, p.offset_eq]
  simp only [List.length_append, List.length_reverse, List.length_take]
  omega

theorem left_advance (count : Nat) (p : Position) : (p.advance count).left = p.left - count := by
  rw [left_eq, after_advance, p.left_eq, List.length_drop]

/-- Steps add up. -/
theorem advance_advance (m n : Nat) (p : Position) :
    (p.advance m).advance n = p.advance (m + n) := by
  apply Position.ext
  · simp only [before_advance, after_advance, List.take_add, List.reverse_append, List.append_assoc]
  · simp only [after_advance, List.drop_drop]

end Position

end TagScript
