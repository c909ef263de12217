import TagScript.Command
import TagScript.Proofs.RoundTrip

/-!
# Commands as markup

A command keeps the name of an element and the names of its children. What it loses is whether an
element without children was a container, and everything inside the children.

* `Element.flattened` is the element that the command of an element is written as; an element is its
  own flattened form just if it is `Flat`.
* `Document.parse_markupAll_project`: where all names are legal, the markup of the commands of a
  document is read as its flattened form.
* `Document.parse_markupAll_iff_words_legal`: commands are read back from their markup exactly when
  all their words are legal, and a document is read back from the markup of its commands exactly
  when its elements are flat.
-/

namespace TagScript

open Markup

/-! ### Flattened elements -/

namespace Element

variable {e : Element}

/-- The element with what its command keeps: a container whose children are self-closing, or a
self-closing element if there are none. -/
def flattened (e : Element) : Element :=
  if e.children.isEmpty then selfClosing e.name
  else container e.name (e.children.map fun child => selfClosing child.name)

/-- The element is self-closing, or a container with at least one child and only self-closing
ones. -/
def Flat : Element → Prop
  | selfClosing _ => True
  | container _ es => es ≠ [] ∧ ∀ e ∈ es, ∃ n, e = selfClosing n

theorem flattened_of_nil (h : e.children = []) : e.flattened = selfClosing e.name := by
  rw [flattened, h]
  rfl

theorem flattened_of_ne_nil (h : e.children ≠ []) :
    e.flattened = container e.name (e.children.map fun child => selfClosing child.name) := by
  rw [flattened, if_neg]
  rwa [List.isEmpty_iff]

/-- A function that keeps every element of a list keeps the list, and no other does. -/
theorem map_eq_self_iff {f : Element → Element} {es : List Element} :
    es.map f = es ↔ ∀ e ∈ es, f e = e := by
  have hid : es.map f = es.map id ↔ ∀ e ∈ es, f e = id e := List.map_inj_left
  rwa [List.map_id] at hid

theorem selfClosing_name_eq_iff : selfClosing e.name = e ↔ ∃ n, e = selfClosing n := by
  cases e <;> simp

/-- Flattening changes just the elements that lose something. -/
theorem flattened_eq_self_iff : e.flattened = e ↔ e.Flat := by
  cases e with
  | selfClosing n => simp [flattened, Flat]
  | container n es =>
    by_cases h : es = []
    · simp [flattened, Flat, h]
    · simp [flattened, Flat, h, map_eq_self_iff, selfClosing_name_eq_iff]

instance : DecidablePred Flat := fun e => decidable_of_iff (e.flattened = e) flattened_eq_self_iff

theorem project_flattened (e : Element) : e.flattened.project = e.project := by
  by_cases h : e.children = []
  · simp [flattened_of_nil h, project, args, h]
  · simp [flattened_of_ne_nil h, project, args]

theorem markups_eq_map (es : List Element) : markups es = es.map markup := by
  induction es with
  | nil => rfl
  | cons e es ih => rw [markups, ih, List.map_cons]

/-- The command of an element is written as its flattened form. -/
theorem markup_project (e : Element) : e.project.markup = e.flattened.markup := by
  by_cases h : e.children = []
  · simp [flattened_of_nil h, project, args, Command.markup, markup, h]
  · have hargs : (args e.children).map (fun arg => "<" ++ arg ++ "/>") =
        markups (e.children.map fun child => selfClosing child.name) := by
      rw [markups_eq_map, args, List.map_map, List.map_map]
      rfl
    rw [flattened_of_ne_nil h, markup, ← hargs]
    simp [project, args, Command.markup, h]

theorem allNamesIn_map_selfClosing (es : List Element) :
    allNamesIn (es.map fun child => selfClosing child.name) = es.map name := by
  induction es with
  | nil => rfl
  | cons e es ih => simp [allNamesIn, allNames, ih]

/-- The names in the flattened form are the words of the command. -/
theorem map_text_allNames_flattened (e : Element) :
    e.flattened.allNames.map Name.text = e.project.argv := by
  by_cases h : e.children = []
  · simp [flattened_of_nil h, allNames, project, args, Command.argv, h]
  · simp [flattened_of_ne_nil h, allNames, allNamesIn_map_selfClosing, project, args, Command.argv]

theorem name_mem_allNames (e : Element) : e.name ∈ e.allNames := by
  cases e <;> simp [allNames]

/-- The words of a command are names of the element. -/
theorem exists_name_of_mem_argv {arg : String} (h : arg ∈ e.project.argv) :
    ∃ n ∈ e.allNames, n.text = arg := by
  rcases List.mem_cons.1 h with rfl | h
  · exact ⟨e.name, e.name_mem_allNames, rfl⟩
  · cases e with
    | selfClosing n => cases h
    | container n es =>
      obtain ⟨child, hchild, rfl⟩ := List.mem_map.1 h
      have hmem := mem_allNamesIn.2 ⟨child, hchild, child.name_mem_allNames⟩
      exact ⟨child.name, List.mem_cons_of_mem n hmem, rfl⟩

theorem depthAll_le_iff {es : List Element} {limit : Nat} :
    depthAll es ≤ limit ↔ ∀ e ∈ es, e.depth ≤ limit := by
  induction es with
  | nil => simp [depthAll]
  | cons e es ih =>
    rw [depthAll, Nat.max_le, ih, List.forall_mem_cons]

theorem depth_flattened_le (e : Element) : e.flattened.depth ≤ 1 := by
  by_cases h : e.children = []
  · rw [flattened_of_nil h]
    exact Nat.zero_le 1
  · rw [flattened_of_ne_nil h]
    refine Nat.succ_le_succ (depthAll_le_iff.2 fun flat hflat => ?_)
    obtain ⟨child, -, rfl⟩ := List.mem_map.1 hflat
    exact Nat.le_refl 0

end Element

/-- The element of a command whose arguments can be names. -/
def Command.element (c : Command) (h : ∀ arg ∈ c.args, arg ≠ "") : Element :=
  .container c.program (c.args.pmap (fun arg harg => .selfClosing ⟨arg, harg⟩) h)

theorem Command.project_element (c : Command) (h : ∀ arg ∈ c.args, arg ≠ "") :
    (c.element h).project = c := by
  simp [element, Element.project, Element.args, List.map_pmap]

/-! ### Documents -/

namespace Document

variable {d : Document}

/-- The document with every element flattened. -/
def flattened (d : Document) : Document := ⟨d.elements.map Element.flattened⟩

theorem flattened_eq_self_iff : d.flattened = d ↔ ∀ e ∈ d.elements, e.Flat := by
  cases d
  simp only [flattened, mk.injEq, Element.map_eq_self_iff, Element.flattened_eq_self_iff]

theorem project_flattened (d : Document) : d.flattened.project = d.project := by
  simp [flattened, project, Element.project_flattened]

theorem markupAll_project (d : Document) : Command.markupAll d.project = d.flattened.markup := by
  have hmarkup : Command.markup ∘ Element.project = Element.markup ∘ Element.flattened :=
    funext Element.markup_project
  rw [Command.markupAll, project, markup, flattened, Element.markups_eq_map, List.map_map,
    List.map_map, hmarkup]

/-- Where all words of its commands are legal, a document is read from them as its flattened
form. -/
theorem parse_markupAll_project (h : ∀ c ∈ d.project, ∀ arg ∈ c.argv, Legal arg.toList)
    (source : Option String) :
    parse (Command.markupAll d.project) source = .ok d.flattened := by
  rw [markupAll_project, parse_eq_ok_iff]
  constructor
  · refine derivesDocument_markup _ fun n hn => ?_
    obtain ⟨flat, hflat, hn⟩ := Element.mem_allNamesIn.1 hn
    obtain ⟨e, he, rfl⟩ := List.mem_map.1 hflat
    refine h e.project (List.mem_map_of_mem he) n.text ?_
    rw [← Element.map_text_allNames_flattened]
    exact List.mem_map_of_mem hn
  · have hdepth : Element.depthAll d.flattened.elements ≤ 1 := by
      refine Element.depthAll_le_iff.2 fun e he => ?_
      obtain ⟨e, -, rfl⟩ := List.mem_map.1 he
      exact e.depth_flattened_le
    exact Nat.le_trans hdepth (by decide)

/-- The words of the commands of a document that is read are legal. -/
theorem legal_of_parse {text : String} {source : Option String} (h : parse text source = .ok d) :
    ∀ c ∈ d.project, ∀ arg ∈ c.argv, Legal arg.toList := by
  intro c hc arg harg
  obtain ⟨e, he, rfl⟩ := List.mem_map.1 hc
  obtain ⟨n, hn, rfl⟩ := Element.exists_name_of_mem_argv harg
  exact (parse_eq_ok_iff.1 h).1.legal n (Element.mem_allNamesIn.2 ⟨e, he, hn⟩)

/-- Commands whose arguments can be names are those of some document. -/
theorem exists_project_eq (cs : List Command) (h : ∀ c ∈ cs, ∀ arg ∈ c.args, arg ≠ "") :
    ∃ d : Document, d.project = cs :=
  ⟨⟨cs.pmap Command.element h⟩, by simp [project, List.map_pmap, Command.project_element]⟩

/-- **Commands and markup.** Commands are read back from their markup exactly when every program and
every argument is a legal name. The commands of a document that was read are always read back, as a
document with the same commands; it is the same document exactly when every element of it is
self-closing or has children, all of them self-closing. -/
theorem parse_markupAll_iff_words_legal :
    (∀ (cs : List Command) (source : Option String),
      (∃ d, parse (Command.markupAll cs) source = .ok d ∧ d.project = cs) ↔
        ∀ c ∈ cs, ∀ arg ∈ c.argv, Legal arg.toList) ∧
    ∀ (text : String) (source source' : Option String) (d : Document),
      parse text source = .ok d →
        ∃ d', parse (Command.markupAll d.project) source' = .ok d' ∧ d'.project = d.project ∧
          (d' = d ↔ ∀ e ∈ d.elements, e.Flat) := by
  constructor
  · intro cs source
    constructor
    · rintro ⟨d, hd, rfl⟩
      exact legal_of_parse hd
    · intro hlegal
      have hne : ∀ c ∈ cs, ∀ arg ∈ c.args, arg ≠ "" := by
        rintro c hc arg harg rfl
        exact hlegal c hc "" (List.mem_cons_of_mem _ harg)
      obtain ⟨d, rfl⟩ := exists_project_eq cs hne
      exact ⟨d.flattened, parse_markupAll_project hlegal source, d.project_flattened⟩
  · intro text source source' d hd
    exact ⟨d.flattened, parse_markupAll_project (legal_of_parse hd) source', d.project_flattened,
      flattened_eq_self_iff⟩

/-- The commands `a b c` and `d` are read back. A command with the argument `b/> <c` is written as
two elements inside `a` and is not. From `<a><b><c/></b></a>` the commands keep `<a><b/></a>`
only. -/
theorem commands_read_back_and_not :
    (∃ d, parse "<a><b/> <c/></a> <d/>" none = .ok d ∧
      d.project = [⟨⟨"a", by decide⟩, ["b", "c"]⟩, ⟨⟨"d", by decide⟩, []⟩]) ∧
    (¬ ∃ d, parse "<a><b/> <c/></a>" none = .ok d ∧
      d.project = [⟨⟨"a", by decide⟩, ["b/> <c"]⟩]) ∧
    ∃ d d', parse "<a><b><c/></b></a>" none = .ok d ∧ parse "<a><b/></a>" none = .ok d' ∧
      d'.project = d.project ∧ d' ≠ d := by
  refine ⟨?_, ?_, ?_⟩
  · let cs : List Command := [⟨⟨"a", by decide⟩, ["b", "c"]⟩, ⟨⟨"d", by decide⟩, []⟩]
    have hmarkup : Command.markupAll cs = "<a><b/> <c/></a> <d/>" := by decide
    have hlegal : ∀ c ∈ cs, ∀ arg ∈ c.argv, Legal arg.toList := by decide
    exact hmarkup ▸ (parse_markupAll_iff_words_legal.1 cs none).2 hlegal
  · let cs : List Command := [⟨⟨"a", by decide⟩, ["b/> <c"]⟩]
    have hmarkup : Command.markupAll cs = "<a><b/> <c/></a>" := by decide
    have hlegal : ¬ ∀ c ∈ cs, ∀ arg ∈ c.argv, Legal arg.toList := by decide
    exact fun hread => hlegal ((parse_markupAll_iff_words_legal.1 cs none).1 (hmarkup ▸ hread))
  · let c : Element := .selfClosing ⟨"c", by decide⟩
    let d : Document := ⟨[.container ⟨"a", by decide⟩ [.container ⟨"b", by decide⟩ [c]]]⟩
    have hread : parse "<a><b><c/></b></a>" none = .ok d := parse_of_toOption (by decide +kernel)
    have hmarkup : Command.markupAll d.project = "<a><b/></a>" := by decide
    have hflat : ¬ ∀ e ∈ d.elements, e.Flat := by decide
    obtain ⟨d', hd', hproject, hiff⟩ := parse_markupAll_iff_words_legal.2 _ none none d hread
    exact ⟨d, d', hread, hmarkup ▸ hd', hproject, fun heq => hflat (hiff.1 heq)⟩

end Document

end TagScript
