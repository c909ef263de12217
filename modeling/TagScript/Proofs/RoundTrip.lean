import TagScript.Proofs.Language
import TagScript.Report

/-!
# Reading what was written

* `Element.allNames` lists the names anywhere in an element, `Document.allNames` in a document.
* The markup of an element with legal names derives it, and what is derived has legal names.
* `parse_markup_iff_names_legal`: reading the markup of a document gives it back exactly when all its
  names are legal; in particular every document that was read is given back.
-/

namespace TagScript

open Markup

namespace Element

mutual

/-- The names in the tree of an element, its own first. -/
def allNames : Element → List Name
  | selfClosing n => [n]
  | container n es => n :: allNamesIn es

/-- The names in a list of trees. -/
def allNamesIn : List Element → List Name
  | [] => []
  | e :: es => e.allNames ++ allNamesIn es

end

end Element

/-- The names of all elements of a document, at every level. -/
def Document.allNames (d : Document) : List Name := Element.allNamesIn d.elements

theorem Element.mem_allNamesIn {n : Name} {es : List Element} :
    n ∈ allNamesIn es ↔ ∃ e ∈ es, n ∈ e.allNames := by
  induction es with
  | nil => simp [allNamesIn]
  | cons e es ih => simp [allNamesIn, ih]

namespace Markup

variable {cs : List Char} {e : Element} {es : List Element} {d : Document}

/-! ### What is derived has legal names -/

/-- The name of a derived element is legal, and so are those of its children, which are derived in
turn. -/
theorem Derives.legal {cs : List Char} {e : Element} (h : Derives cs e) :
    ∀ n ∈ e.allNames, Legal n.text.toList := by
  intro m hm
  cases h with
  | selfClosing hn =>
    rw [Element.allNames, List.mem_singleton] at hm
    rwa [hm]
  | container hn hes =>
    rw [Element.allNames, List.mem_cons, Element.mem_allNamesIn] at hm
    rcases hm with rfl | ⟨child, hchild, hm⟩
    · exact hn
    · obtain ⟨ds, hds⟩ := hes.exists_of_mem hchild
      exact Derives.legal hds m hm
termination_by sizeOf e
decreasing_by
  subst_vars
  have hlt := List.sizeOf_lt_of_mem hchild
  simp only [Element.container.sizeOf_spec]
  omega

theorem DerivesTop.legal (h : DerivesTop cs e) : ∀ n ∈ e.allNames, Legal n.text.toList := by
  cases h with
  | element h => exact h.legal
  | closed hn _ =>
    intro m hm
    rw [Element.allNames, Element.allNamesIn, List.mem_singleton] at hm
    rwa [hm]

theorem DerivesDocument.legal (h : DerivesDocument cs d) :
    ∀ n ∈ d.allNames, Legal n.text.toList := by
  intro m hm
  obtain ⟨e, he, hm⟩ := Element.mem_allNamesIn.1 hm
  obtain ⟨ds, hds⟩ := Spaced.exists_of_mem h he
  exact hds.legal m hm

/-! ### Markup with legal names is derived -/

theorem toList_markup_selfClosing (n : Name) :
    (Element.selfClosing n).markup.toList = selfClosingText n.text.toList := by
  simp only [Element.markup, String.toList_append, selfClosingText]
  rfl

theorem toList_markup_container (n : Name) (es : List Element) :
    (Element.container n es).markup.toList =
      openingText n.text.toList ++ (" ".intercalate (Element.markups es)).toList ++
        closingText n.text.toList := by
  simp only [Element.markup, String.toList_append, openingText, closingText]
  simp

/-- Markup joined by single blanks is a sequence, whatever class its parts are of. -/
theorem spaced_intercalate {R : List Char → Element → Prop} {es : List Element}
    (h : ∀ e ∈ es, R e.markup.toList e) :
    Spaced R (" ".intercalate (Element.markups es)).toList es := by
  induction es with
  | nil => exact .nil blanks_nil
  | cons e es ih =>
    have he := h e List.mem_cons_self
    have hes := ih fun e' he' => h e' (List.mem_cons_of_mem e he')
    cases es with
    | nil =>
      rw [Element.markups, Element.markups, String.intercalate_singleton]
      exact .single he
    | cons e' es =>
      have hblank : Blanks " ".toList := by simp [Blanks, Blank]
      rw [Element.markups, Element.markups, String.intercalate_cons_cons, String.toList_append,
        String.toList_append, List.append_assoc]
      exact .cons blanks_nil he (hes.blanks_append hblank)

/-- The markup of an element with legal names derives it. -/
theorem derives_markup (e : Element) (h : ∀ n ∈ e.allNames, Legal n.text.toList) :
    Derives e.markup.toList e := by
  cases e with
  | selfClosing n =>
    rw [toList_markup_selfClosing]
    exact .selfClosing (h n (by simp [Element.allNames]))
  | container n es =>
    rw [toList_markup_container]
    refine .container (h n (by simp [Element.allNames])) (spaced_intercalate ?_)
    intro child hchild
    -- The names of a child are among those of the container.
    refine derives_markup child fun m hm => h m ?_
    rw [Element.allNames, List.mem_cons, Element.mem_allNamesIn]
    exact .inr ⟨child, hchild, hm⟩
termination_by sizeOf e
decreasing_by
  subst_vars
  have hlt := List.sizeOf_lt_of_mem hchild
  simp only [Element.container.sizeOf_spec]
  omega

theorem derivesDocument_markup (d : Document) (h : ∀ n ∈ d.allNames, Legal n.text.toList) :
    DerivesDocument d.markup.toList d := by
  refine spaced_intercalate fun e he => .element (derives_markup e fun n hn => h n ?_)
  exact Element.mem_allNamesIn.2 ⟨e, he, hn⟩

end Markup

namespace Document

variable {text : String} {source : Option String} {d : Document}

/-- A text is read as a document exactly when it derives it within the limit. -/
theorem parse_eq_ok_iff :
    parse text source = .ok d ↔
      DerivesDocument text.toList d ∧ Element.depthAll d.elements ≤ Grammar.nestingLimit := by
  have hlimit : 0 < Grammar.nestingLimit := by decide
  rw [parse_eq_ok_iff_tryParse]
  constructor
  · rintro ⟨p, hp⟩
    obtain ⟨hderives, hdepth, -⟩ := derives_of_read hlimit hp
    exact ⟨hderives, hdepth⟩
  · rintro ⟨hderives, hdepth⟩
    exact read_of_derives hlimit hderives hdepth

/-- A reading that shows a document has read it. -/
theorem parse_of_toOption (h : (parse text source).toOption = some d) :
    parse text source = .ok d := by
  rcases hr : parse text source with error | d' <;> rw [hr] at h <;> cases h
  rfl

/-- **Reading undoes writing.** The markup of a document within the limit is read as that document
exactly when every name in it is legal. So a text that was read and is written again is read as the
same document, and writing it once more gives the same markup. -/
theorem parse_markup_iff_names_legal (source : Option String) :
    (∀ d : Document, Element.depthAll d.elements ≤ Grammar.nestingLimit →
      (parse d.markup source = .ok d ↔ ∀ n ∈ d.allNames, Legal n.text.toList)) ∧
    ∀ (text : String) (d : Document), parse text source = .ok d →
      parse d.markup source = .ok d ∧ (parse d.markup source).map markup = .ok d.markup := by
  have hiff : ∀ d : Document, Element.depthAll d.elements ≤ Grammar.nestingLimit →
      (parse d.markup source = .ok d ↔ ∀ n ∈ d.allNames, Legal n.text.toList) := by
    intro d hdepth
    rw [parse_eq_ok_iff]
    constructor
    · exact fun h => h.1.legal
    · exact fun h => ⟨derivesDocument_markup d h, hdepth⟩
  refine ⟨hiff, fun text d h => ?_⟩
  obtain ⟨hderives, hdepth⟩ := parse_eq_ok_iff.1 h
  have hagain := (hiff d hdepth).2 hderives.legal
  refine ⟨hagain, ?_⟩
  rw [hagain]
  rfl

/-- The text `<a> <b/></a><b/>` is read, and its markup is read as the same document. An element
whose name holds marks is written as two elements, which are read as another document. -/
theorem parse_markup_of_nested_and_of_name_with_marks :
    (∃ d : Document, d.markup = "<a><b/></a> <b/>" ∧ parse "<a> <b/></a><b/>" none = .ok d ∧
      parse d.markup none = .ok d ∧ (parse d.markup none).map markup = .ok d.markup) ∧
    ∃ d : Document, d.markup = "<a/> <b/>" ∧ Element.depthAll d.elements ≤ Grammar.nestingLimit ∧
      parse d.markup none ≠ .ok d := by
  let b : Name := ⟨"b", by decide⟩
  let nested : Document := ⟨[.container ⟨"a", by decide⟩ [.selfClosing b], .selfClosing b]⟩
  let marked : Document := ⟨[.selfClosing ⟨"a/> <b", by decide⟩]⟩
  constructor
  · have hread : parse "<a> <b/></a><b/>" none = .ok nested := by
      have h : (parse "<a> <b/></a><b/>" none).toOption = some nested := by decide +kernel
      rcases hr : parse "<a> <b/></a><b/>" none with error | d <;> rw [hr] at h <;> cases h
      rfl
    exact ⟨nested, by decide +kernel, hread, (parse_markup_iff_names_legal none).2 _ _ hread⟩
  · have hdepth : Element.depthAll marked.elements ≤ Grammar.nestingLimit := by decide
    refine ⟨marked, by decide +kernel, hdepth, fun h => ?_⟩
    have hlegal := ((parse_markup_iff_names_legal none).1 marked hdepth).1 h
    revert hlegal
    decide +kernel

end Document

end TagScript
