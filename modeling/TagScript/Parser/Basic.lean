import TagScript.Failure
import TagScript.Position

/-!
# Parsers

A parser reads a text from a position on and gives an outcome, unless it meets a fault.

* `Outcome` is a success with the position behind what was read, or a failure with the position
  the parser started from.
* `Parser` is the type of parsers; `succeed`, `fail`, `literal`, `anyChar`, `endOfInput` are the
  elementary ones.
* `pair`, `left`, `right`, `map`, `andThen` put parsers in sequence, `either` offers a second one,
  `filter` tests a value, `label` renames a failure.
-/

namespace TagScript

/-- What a parser gives: a value and the position behind it, or a failure and the position at which
the parser was started. -/
inductive Outcome (α : Type) where
  | success (position : Position) (value : α)
  | failure (position : Position) (failure : Failure)

namespace Outcome

variable {α β : Type}

/-- The position at which reading goes on. -/
def position : Outcome α → Position
  | success p _ => p
  | failure p _ => p

/-- The outcome with its value changed. -/
def map (f : α → β) : Outcome α → Outcome β
  | success p v => success p (f v)
  | failure p failed => failure p failed

/-- The answer to asking a failure for a value. -/
def noValue (failed : Failure) : String := s!"failed parse has no value: {failed.summary}"

/-- The outcome with its failure reported from another position. -/
def startingAt (start : Position) : Outcome α → Outcome α
  | success p v => success p v
  | failure _ failed => failure start failed

end Outcome

/-- Values that can be written in a message. -/
class Display (α : Type) where
  /-- The value as text. -/
  display : α → String

instance : Display Char := ⟨String.singleton⟩

instance : Display String := ⟨id⟩

/-- A parser of values of type `α`. -/
abbrev Parser (α : Type) : Type := Position → Except Fault (Outcome α)

namespace Parser

variable {α β : Type}

/-! ### Elementary parsers -/

/-- Reads nothing and gives `v`. -/
def succeed (v : α) : Parser α := fun p => .ok (.success p v)

/-- Meets a fault. -/
def abort (fault : Fault) : Parser α := fun _ => .error fault

/-- A failure at a position, with the next character as what was found. -/
def failureAt (p : Position) (kind : Failure.Kind) (expected : Option String)
    (cause : Option Failure) : Failure :=
  ⟨kind, p.offset, expected, some (p.peek 1), [], cause⟩

/-- Fails with the given kind. -/
def fail (kind : Failure.Kind) (expected : Option String) : Parser α := fun p =>
  .ok (.failure p (failureAt p kind expected none))

/-- Reads exactly the given text. -/
def literal (s : String) : Parser String := fun p =>
  if p.startsWith s then .ok (.success (p.advance s.length) s)
  else
    .ok (.failure p (.plain .expectedLiteral p.offset (some s) (some (p.peek s.length))))

/-- Reads one character. -/
def anyChar : Parser Char := fun p =>
  match p.step? with
  | none => .ok (.failure p (.plain .expectedLiteral p.offset (some "any character") (some "")))
  | some (c, next) => .ok (.success next c)

/-- Succeeds at the end of the text only. -/
def endOfInput : Parser Unit := fun p =>
  if p.atEnd then .ok (.success p ())
  else .ok (.failure p (.plain .trailingInput p.offset none (some p.remaining)))

/-! ### Sequence -/

/-- Reads with `p`, then with `q`, and gives both values. -/
def pair (p : Parser α) (q : Parser β) : Parser (α × β) := fun start =>
  match p start with
  | .error fault => .error fault
  | .ok (.failure _ failed) => .ok (.failure start failed)
  | .ok (.success next v) =>
    match q next with
    | .error fault => .error fault
    | .ok (.failure _ failed) => .ok (.failure start failed)
    | .ok (.success last w) => .ok (.success last (v, w))

/-- Changes the value by a function that may meet a fault. -/
def mapM (p : Parser α) (f : α → Except Fault β) : Parser β := fun start =>
  match p start with
  | .error fault => .error fault
  | .ok (.failure origin failed) => .ok (.failure origin failed)
  | .ok (.success next v) =>
    match f v with
    | .error fault => .error fault
    | .ok w => .ok (.success next w)

/-- Changes the value. -/
def map (p : Parser α) (f : α → β) : Parser β := p.mapM fun v => .ok (f v)

/-- Reads with both parsers and keeps the first value. -/
def left (p : Parser α) (q : Parser β) : Parser α := (pair p q).map Prod.fst

/-- Reads with both parsers and keeps the second value. -/
def right (p : Parser α) (q : Parser β) : Parser β := (pair p q).map Prod.snd

/-- Reads with `p`, then with the parser that `f` makes of its value. -/
def andThen (p : Parser α) (f : α → Parser β) : Parser β := fun start =>
  match p start with
  | .error fault => .error fault
  | .ok (.failure origin failed) => .ok (.failure origin failed)
  | .ok (.success next v) =>
    match f v next with
    | .error fault => .error fault
    | .ok outcome => .ok (outcome.startingAt start)

/-! ### Choice and tests -/

/-- Reads with `p`, or from the same position with `q` if `p` fails. When both fail, the second
failure is reported and keeps both as its alternatives. -/
def either (p q : Parser α) : Parser α := fun start =>
  match p start with
  | .error fault => .error fault
  | .ok (.success next v) => .ok (.success next v)
  | .ok (.failure _ first) =>
    match q start with
    | .error fault => .error fault
    | .ok (.success next v) => .ok (.success next v)
    | .ok (.failure _ second) =>
      .ok (.failure start { second with alternatives := [first, second] })

/-- Accepts a value only if it passes a test that may meet a fault. A rejected value is what the
failure shows as found; a failure of `p` becomes the cause. -/
def filterM [Display α] (p : Parser α) (test : α → Except Fault Bool)
    (expected : Option String) : Parser α := fun start =>
  match p start with
  | .error fault => .error fault
  | .ok (.failure _ failed) =>
    .ok (.failure start (failureAt start .predicateRejected expected (some failed)))
  | .ok (.success next v) =>
    match test v with
    | .error fault => .error fault
    | .ok true => .ok (.success next v)
    | .ok false =>
      .ok (.failure start
        (.plain .predicateRejected start.offset expected (some (Display.display v))))

/-- Accepts a value only if it passes a test. -/
def filter [Display α] (p : Parser α) (test : α → Bool) (expected : Option String) : Parser α :=
  p.filterM (fun v => .ok (test v)) expected

/-- Reports every failure of `p` under the given kind, from the position it started at. -/
def label (p : Parser α) (kind : Failure.Kind) (expected : Option String) : Parser α := fun start =>
  match p start with
  | .error fault => .error fault
  | .ok (.success next v) => .ok (.success next v)
  | .ok (.failure _ failed) =>
    .ok (.failure start (failureAt start kind expected (some failed)))

/-- The parser succeeds at a position. -/
def accepts (p : Parser α) (start : Position) : Bool :=
  match p start with
  | .ok (.success ..) => true
  | _ => false

/-! ### When elementary parsers succeed -/

@[simp] theorem succeed_apply (v : α) (p : Position) : succeed v p = .ok (.success p v) := rfl

@[simp] theorem abort_apply (fault : Fault) (p : Position) :
    abort fault p = (.error fault : Except Fault (Outcome α)) := rfl

theorem literal_of_prefixed {s : String} {p : Position} (h : s.toList <+: p.after) :
    literal s p = .ok (.success (p.advance s.length) s) := by
  have hs : p.startsWith s = true := List.isPrefixOf_iff_prefix.2 h
  simp [literal, hs]

theorem literal_of_not_prefixed {s : String} {p : Position} (h : ¬ s.toList <+: p.after) :
    literal s p =
      .ok (.failure p (.plain .expectedLiteral p.offset (some s) (some (p.peek s.length)))) := by
  have hs : p.startsWith s = false := by
    rw [Bool.eq_false_iff]
    exact fun hp => h (List.isPrefixOf_iff_prefix.1 hp)
  simp [literal, hs]

theorem anyChar_of_cons {p : Position} {c : Char} {rest : List Char} (h : p.after = c :: rest) :
    anyChar p = .ok (.success (p.advance 1) c) := by
  obtain ⟨next, hs, _, _⟩ := Position.step?_of_cons h
  rw [Position.advance_succ hs, Position.advance_zero, anyChar, hs]

end Parser

end TagScript
