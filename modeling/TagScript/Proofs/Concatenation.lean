import TagScript.Command
import TagScript.Proofs.Language
import TagScript.Proofs.Translation

/-!
# Reading two texts in a row

A text that is read leaves nothing open, so what follows it is read as a text of its own. The one
exception is a closing tag, which may close a self-closing element at the end of the first text.

* `read_append` reads the second text at the end of the first.
* `tryParse_append_of_success` puts together two documents, or a document and the failure of the
  text behind it, with every offset shifted.
-/

namespace TagScript

open TagScript.Parser Lexeme Markup Grammar

namespace Grammar

/-- A text that does not begin with blanks and `</` closes nothing. -/
theorem noClosing_of_not_exists {p : Position}
    (h : ¬ ∃ bs rest, Blanks bs ∧ p.after = bs ++ '<' :: '/' :: rest) : NoClosing p := by
  rintro ⟨rest, hrest⟩
  obtain ⟨bs, hbs, hskip, -⟩ := passes_skipBlanks p
  have hafter := hskip.after
  rw [← hrest] at hafter
  exact h ⟨bs, rest, hbs, hafter⟩

theorem noClosing_shift {p : Position} (front : List Char) (h : NoClosing p) :
    NoClosing (p.shift front) := by
  unfold NoClosing
  rwa [skipBlanks_shift, Position.after_shift]

end Grammar

namespace Document

variable {limit : Nat} {t₁ t₂ : String} {d₁ : Document}

theorem passes_start_append (t₁ t₂ : String) :
    (Position.start (t₁ ++ t₂)).Passes t₁.toList ((Position.start t₂).shift t₁.toList) := by
  constructor
  · simp [Position.start, Position.ofChars]
  · simp [Position.start, Position.ofChars]

/-- Behind a text that derives a document, the next one is read as it is read alone, but shifted and
with the elements of the document in front. -/
theorem read_append (hlimit : 0 < limit) (h₁ : DerivesDocument t₁.toList d₁)
    (hdepth : Element.depthAll d₁.elements ≤ limit) (h₂ : NoClosing (.start t₂)) :
    read limit (t₁ ++ t₂) =
      (behind (.start (t₁ ++ t₂)) d₁.elements
        ((topLevelElements limit (.start t₂)).map (Outcome.shift t₁.toList))).map
          (Outcome.map Document.mk) := by
  rw [read_eq, topLevelElements_of_spaced hlimit h₁ hdepth (passes_start_append t₁ t₂)
    (noClosing_shift t₁.toList h₂), topLevelElements_shift]

/-- A text that is read does not begin with a closing tag. -/
theorem noClosing_of_read {p₂ : Position} {d₂ : Document} (hlimit : 0 < limit)
    (h : read limit t₂ = .ok (.success p₂ d₂)) : NoClosing (.start t₂) := by
  obtain ⟨hderives, -, -⟩ := derives_of_read hlimit h
  obtain ⟨q, hq, hend⟩ := passes_end t₂
  exact noClosing_of_spaced hderives hq (noClosing_of_end hend)

/-- **Two texts in a row.** If both are read, the text made of them is read to its end and has the
elements of the first and then those of the second, and so for their commands. If only the first is
read, and the second does not begin with a closing tag behind its blanks, the failure of the second
is reported with the length of the first added to every offset in its tree. -/
theorem tryParse_append_of_success {p₁ : Position} (h₁ : tryParse t₁ = .ok (.success p₁ d₁)) :
    (∀ p₂ d₂, tryParse t₂ = .ok (.success p₂ d₂) →
      ∃ p, tryParse (t₁ ++ t₂) = .ok (.success p ⟨d₁.elements ++ d₂.elements⟩) ∧
        p.offset = (t₁ ++ t₂).length ∧
        project ⟨d₁.elements ++ d₂.elements⟩ = d₁.project ++ d₂.project) ∧
    ∀ p₂ failed, tryParse t₂ = .ok (.failure p₂ failed) →
      (¬ ∃ bs rest, Blanks bs ∧ t₂.toList = bs ++ '<' :: '/' :: rest) →
      tryParse (t₁ ++ t₂) = .ok (.failure (.start (t₁ ++ t₂)) (failed.shift t₁.length)) := by
  have hlimit : 0 < nestingLimit := by decide
  obtain ⟨hderives, hdepth, -⟩ := derives_of_read hlimit h₁
  constructor
  · intro p₂ d₂ h₂
    obtain ⟨-, -, hpasses⟩ := derives_of_read hlimit h₂
    have hread := read_append hlimit hderives hdepth (noClosing_of_read hlimit h₂)
    rw [topLevelElements_of_success h₂] at hread
    refine ⟨p₂.shift t₁.toList, hread, ?_, List.map_append⟩
    show p₂.offset + t₁.toList.length = (t₁ ++ t₂).length
    rw [hpasses.offset, Position.offset_start, String.length_toList, String.length_toList,
      String.length_append]
    omega
  · intro p₂ failed h₂ hclosing
    obtain ⟨-, origin, horigin⟩ := topLevelElements_of_failure h₂
    have hread := read_append hlimit hderives hdepth
      (noClosing_of_not_exists (p := .start t₂) hclosing)
    rw [horigin] at hread
    rw [← String.length_toList (s := t₁)]
    exact hread

/-- Behind `<a/> `, the element `<b/>` is read next, and the failure of `<b></c>` is reported five
characters further on. -/
theorem tryParse_behind_selfClosing :
    ∃ p₁ d₁ p₂ d₂ p₃ failed, tryParse "<a/> " = .ok (.success p₁ d₁) ∧
      tryParse "<b/>" = .ok (.success p₂ d₂) ∧ tryParse "<b></c>" = .ok (.failure p₃ failed) ∧
      (∃ p, tryParse ("<a/> " ++ "<b/>") = .ok (.success p ⟨d₁.elements ++ d₂.elements⟩)) ∧
      tryParse ("<a/> " ++ "<b></c>") =
        .ok (.failure (.start ("<a/> " ++ "<b></c>")) (failed.shift 5)) := by
  have hview₁ : ((tryParse "<a/> ").toOption.bind Outcome.value?).map size = some 1 := by
    decide +kernel
  obtain ⟨p₁, d₁, h₁, -⟩ := Outcome.exists_of_value? hview₁
  have hview₂ : ((tryParse "<b/>").toOption.bind Outcome.value?).map size = some 1 := by
    decide +kernel
  obtain ⟨p₂, d₂, h₂, -⟩ := Outcome.exists_of_value? hview₂
  have hview : ((tryParse "<b></c>").toOption.bind Outcome.failure?).map (·.offset) = some 3 := by
    decide +kernel
  obtain ⟨p₃, failed, h₃, -⟩ := Outcome.exists_of_failure? hview
  have hclosing : ¬ ∃ bs rest, Blanks bs ∧ "<b></c>".toList = bs ++ '<' :: '/' :: rest := by
    rintro ⟨bs, rest, hbs, heq⟩
    cases bs with
    | nil => simp at heq
    | cons c bs =>
      obtain rfl : '<' = c := (List.cons.inj heq).1
      exact absurd (hbs '<' List.mem_cons_self) (by decide)
  obtain ⟨p, hp, -⟩ := (tryParse_append_of_success h₁).1 p₂ d₂ h₂
  exact ⟨p₁, d₁, p₂, d₂, p₃, failed, h₁, h₂, h₃, ⟨p, hp⟩,
    (tryParse_append_of_success h₁).2 p₃ failed h₃ hclosing⟩

end Document

end TagScript
