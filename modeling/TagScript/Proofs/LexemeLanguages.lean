import Mathlib.Computability.Language
import TagScript.Proofs.Tags

/-!
# The languages of the lexemes

    blanks := (space | tab | line feed)*
    name   := letter (letter | digit | "." | "_" | "-")*
    quoted := '"' (any character but '"')* '"'

Blanks and names are languages built from classes of characters by concatenation and repetition; the
longest word that follows is read. A quoted text ends with its second quote.

* `Longest L text w` says that `w` is the longest word of `L` with which a text begins. It ends
  where the text stops being of a class: `Blanks.longest`, `LongestName.longest`.
* `Parser.Takes` and `Parser.Refuses` say what a parser does at a position.
* `blanks_takes`, `someBlanks_takes` and `quotedText_takes` say where lexemes are read,
  `someBlanks_refuses`, `name_refuses`, `quotedText_unopened` and `quotedText_unclosed` where not.
* `lexemes_read_their_languages` puts them together.
-/

namespace TagScript

open TagScript.Parser Lexeme Markup
open scoped Computability

namespace Markup

/-! ### Languages -/

/-- The words of a single character, which is of the class `P`. -/
def single (P : Char → Prop) : Language Char := {w | ∃ c, P c ∧ w = [c]}

/-- The words made of blanks. -/
def blankRuns : Language Char := (single Blank)∗

/-- The words that begin with a letter and go on with name characters. -/
def names : Language Char := single Letter * (single NameChar)∗

/-- A repeated class holds the words all of whose characters are of it. -/
theorem mem_kstar_single {P : Char → Prop} {w : List Char} :
    w ∈ (single P)∗ ↔ ∀ c ∈ w, P c := by
  constructor
  · intro hw c hc
    obtain ⟨words, rfl, hwords⟩ := Language.mem_kstar.1 hw
    obtain ⟨word, hword, hcword⟩ := List.mem_flatten.1 hc
    obtain ⟨d, hd, rfl⟩ := hwords word hword
    rwa [List.mem_singleton.1 hcword]
  · intro hw
    refine Language.mem_kstar.2 ⟨w.map fun c => [c], by simp [← List.flatMap_def], ?_⟩
    intro word hword
    obtain ⟨c, hc, rfl⟩ := List.mem_map.1 hword
    exact ⟨c, hw c hc, rfl⟩

theorem mem_blankRuns {w : List Char} : w ∈ blankRuns ↔ Blanks w := mem_kstar_single

theorem mem_names {w : List Char} : w ∈ names ↔ Legal w := by
  constructor
  · intro hw
    obtain ⟨first, ⟨c, hletter, rfl⟩, cs, hcs, rfl⟩ := Language.mem_mul.1 hw
    exact ⟨hletter, mem_kstar_single.1 hcs⟩
  · intro hw
    cases w with
    | nil => exact hw.elim
    | cons c cs =>
      exact Language.mem_mul.2 ⟨[c], ⟨c, hw.1, rfl⟩, cs, mem_kstar_single.2 hw.2, rfl⟩

/-- The word `w` is the longest of `L` with which the text begins. -/
structure Longest (L : Language Char) (text w : List Char) : Prop where
  mem : w ∈ L
  begins : w <+: text
  longest : ∀ other ∈ L, other <+: text → other.length ≤ w.length

/-- If the characters of all words are of a class, a word is the longest where the text stops being
of it. -/
theorem longest_of_stops {P : Char → Prop} {L : Language Char} {w rest : List Char}
    (hL : ∀ other ∈ L, ∀ c ∈ other, P c) (hw : w ∈ L) (hstops : ¬ Starts P rest) :
    Longest L (w ++ rest) w where
  mem := hw
  begins := List.prefix_append w rest
  longest other hother hbegins := length_le_of_stops (hL other hother) hbegins hstops

theorem Blanks.longest {bs rest : List Char} (h : Blanks bs) (hstops : ¬ Starts Blank rest) :
    Longest blankRuns (bs ++ rest) bs :=
  longest_of_stops (fun _ => mem_blankRuns.1) (mem_blankRuns.2 h) hstops

theorem LongestName.longest {m rest : List Char} (h : LongestName m rest) :
    Longest names (m ++ rest) m :=
  longest_of_stops (fun _ hother => (mem_names.1 hother).nameChar) (mem_names.2 h.legal) h.stops

end Markup

namespace Parser

variable {α : Type} {p : Parser α} {start last : Position} {v : α} {vs : List α}

/-- At `start` the parser reads the characters `cs` and gives `v`. -/
def Takes (p : Parser α) (start : Position) (cs : List Char) (v : α) : Prop :=
  ∃ next, p start = .ok (.success next v) ∧ start.Passes cs next

/-- At `start` the parser fails and reports at an offset what was expected. -/
def Refuses (p : Parser α) (start : Position) (kind : Failure.Kind) (expected : String)
    (offset : Nat) : Prop :=
  ∃ failed, p start = .ok (.failure start failed) ∧ failed.kind = kind ∧
    failed.expected = some expected ∧ failed.offset = offset

/-- A repetition that reads something is one that must read something. -/
theorem oneOrMore_of_chain (h : chain p start = .ok (last, v :: vs)) :
    oneOrMore p start = .ok (.success last (v :: vs)) := by
  rw [chain] at h
  rcases hfirst : p start with fault | ⟨next, w⟩ | ⟨origin, failed⟩ <;> simp only [hfirst] at h
  · cases h
  · split at h
    · rcases hrest : chain p next with fault | ⟨stop, ws⟩ <;> simp only [hrest] at h <;> cases h
      simp only [oneOrMore, hfirst, hrest]
    · cases h
  · cases h

end Parser

namespace Lexeme

variable {p q : Position} {s : List Char}

/-! ### Blanks -/

theorem blanks_takes {bs : List Char} (hbs : Blanks bs) (h : p.Passes bs q)
    (hstops : ¬ Starts Blank q.after) : blanks.Takes p bs bs := by
  refine ⟨q, ?_, h⟩
  simp only [blanks, zeroOrMore, chain_blank hbs h hstops]

theorem someBlanks_takes {bs : List Char} (hbs : Blanks bs) (h : p.Passes bs q)
    (hstops : ¬ Starts Blank q.after) (hne : bs ≠ []) : someBlanks.Takes p bs bs := by
  refine ⟨q, ?_, h⟩
  have hchain := chain_blank hbs h hstops
  cases bs with
  | nil => exact absurd rfl hne
  | cons b bs => simp only [someBlanks, label, oneOrMore_of_chain hchain]

theorem someBlanks_refuses (h : ¬ Starts Blank p.after) :
    someBlanks.Refuses p .expectedWhitespace "whitespace" p.offset := by
  obtain ⟨failed, hread⟩ : ∃ failed, blank p = .ok (.failure p failed) :=
    filter_anyChar_of_not_starts isBlank_iff _ h
  simp only [Refuses, someBlanks, label, oneOrMore, hread]
  exact ⟨_, rfl, rfl, rfl, rfl⟩

/-! ### Names -/

theorem name_refuses (h : ¬ Starts Letter p.after) :
    name.Refuses p .expectedIdentifier "identifier" p.offset := by
  obtain ⟨cause, hread⟩ := name_of_not_starts h
  exact ⟨_, hread, rfl, rfl, rfl⟩

/-! ### Quoted texts -/

/-- What stands between two quotes is read up to the second. -/
theorem chain_unquoted (hs : '"' ∉ s) (h : p.Passes s q)
    (hstops : ¬ Starts (· ≠ '"') q.after) :
    chain (anyChar.filter (· ≠ '"') none) p = .ok (q, s) := by
  refine chain_of_stops (P := (· ≠ '"')) decide_eq_true_iff none ?_ h hstops
  rintro c hc rfl
  exact hs hc

theorem quotedText_takes (hs : '"' ∉ s) (h : p.Passes ('"' :: (s ++ ['"'])) q) :
    quotedText.Takes p ('"' :: (s ++ ['"'])) (String.ofList s) := by
  refine ⟨q, ?_, h⟩
  obtain ⟨o, ho, hrest⟩ : ∃ o, p.Passes "\"".toList o ∧ o.Passes (s ++ "\"".toList) q := h.split
  obtain ⟨r, hr, hq⟩ := hrest.split
  have hstops : ¬ Starts (· ≠ '"') r.after := by
    rw [hq.after]
    simp
  simp only [quotedText, right, left, Parser.map, Parser.mapM, pair, literal_of_passes ho,
    zeroOrMore, chain_unquoted hs hr hstops, literal_of_passes hq]

theorem quotedText_unopened (h : ¬ ['"'] <+: p.after) :
    quotedText.Refuses p .expectedLiteral "\"" p.offset := by
  have hopening : ¬ "\"".toList <+: p.after := h
  simp only [Refuses, quotedText, right, Parser.map, Parser.mapM, pair,
    literal_of_not_prefixed hopening]
  exact ⟨_, rfl, rfl, rfl, rfl⟩

/-- A quote without a second one is read to the end of the text, where the second is missed. -/
theorem quotedText_unclosed (hs : '"' ∉ s) (h : p.after = '"' :: s) :
    quotedText.Refuses p .expectedLiteral "\"" p.text.length := by
  obtain ⟨o, ho, hafter⟩ : ∃ o, p.Passes "\"".toList o ∧ o.after = s := Position.exists_passes h
  obtain ⟨r, hr, hend⟩ : ∃ r, o.Passes s r ∧ r.after = [] :=
    Position.exists_passes (by rw [hafter, List.append_nil])
  have hchain := chain_unquoted hs hr (by simp [hend])
  have hclosing : ¬ "\"".toList <+: r.after := by simp [hend]
  have hoffset : r.offset = p.text.length := by
    rw [p.length_text, ← (ho.trans hr).chars]
    exact r.after_eq_nil_iff.1 hend
  simp only [Refuses, quotedText, right, left, Parser.map, Parser.mapM, pair, literal_of_passes ho,
    zeroOrMore, hchain, literal_of_not_prefixed hclosing]
  exact ⟨_, rfl, rfl, rfl, by rw [← hoffset]; rfl⟩

/-- **Lexemes are read as their languages say.** At every position the longest run of blanks is
read; where at least one is asked for, an empty run is refused there. Before a letter the longest
name is read, and before anything else a name is refused there. A text between two quotes is read
with both of them; otherwise a quote is missed, at the position if none stands there and else at the
end of the text. -/
theorem lexemes_read_their_languages (p : Position) :
    (∃ bs, Longest blankRuns p.after bs ∧ blanks.Takes p bs bs ∧
      (bs ≠ [] → someBlanks.Takes p bs bs) ∧
      (bs = [] → someBlanks.Refuses p .expectedWhitespace "whitespace" p.offset)) ∧
    (Starts Letter p.after →
      ∃ m, Longest names p.after m ∧ name.Takes p m (String.ofList m)) ∧
    (¬ Starts Letter p.after → name.Refuses p .expectedIdentifier "identifier" p.offset) ∧
    (∀ s rest, '"' ∉ s → p.after = '"' :: (s ++ '"' :: rest) →
      quotedText.Takes p ('"' :: (s ++ ['"'])) (String.ofList s)) ∧
    ((¬ ∃ s rest, '"' ∉ s ∧ p.after = '"' :: (s ++ '"' :: rest)) →
      (¬ ['"'] <+: p.after → quotedText.Refuses p .expectedLiteral "\"" p.offset) ∧
      (['"'] <+: p.after → quotedText.Refuses p .expectedLiteral "\"" p.text.length)) := by
  refine ⟨?_, ?_, name_refuses, ?_, ?_⟩
  · obtain ⟨bs, rest, hafter, hbs, hstops⟩ := exists_run (P := Blank) isBlank_iff p.after
    obtain ⟨q, hq, rfl⟩ := Position.exists_passes hafter
    refine ⟨bs, hafter ▸ Blanks.longest hbs hstops, blanks_takes hbs hq hstops,
      someBlanks_takes hbs hq hstops, ?_⟩
    rintro rfl
    rw [List.nil_append] at hafter
    exact someBlanks_refuses (hafter ▸ hstops)
  · intro hstarts
    obtain ⟨m, rest, hafter, hm⟩ := exists_longestName hstarts
    obtain ⟨q, hq, rfl⟩ := Position.exists_passes hafter
    exact ⟨m, hafter ▸ hm.longest, q, name_of_passes hm hq, hq⟩
  · intro s rest hs hafter
    have hsplit : p.after = '"' :: (s ++ ['"']) ++ rest := by simp [hafter]
    obtain ⟨q, hq, -⟩ := Position.exists_passes hsplit
    exact quotedText_takes hs hq
  · intro hnone
    refine ⟨quotedText_unopened, ?_⟩
    rintro ⟨body, hbody⟩
    -- A second quote in the body would make it a quoted text.
    have hmem : '"' ∉ body := by
      intro hmem
      obtain ⟨s, rest, rfl, hs⟩ := List.eq_append_cons_of_mem hmem
      exact hnone ⟨s, rest, hs, hbody.symm⟩
    exact quotedText_unclosed hmem hbody.symm

end Lexeme

end TagScript
