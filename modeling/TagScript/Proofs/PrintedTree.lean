import TagScript.Proofs.Requests
import TagScript.Proofs.RoundTrip
import TagScript.Proofs.SelfDelimiting

/-!
# Printed trees

* `forestInduction` is induction over a list of elements, their children and theirs.
* `Leaves` says that lines do not go on behind an indentation. What is printed of siblings behind
  one leaves the further indentation of their children, since no guide begins like a rail.
* `branches_cancel`: the lines of elements with legal names determine the elements and where their
  lines end, if what follows leaves the indentation.
* `printed_tree_determines_document` says so for documents and for what is printed of texts.
-/

namespace TagScript

namespace Element

/-! ### Elements and their children -/

theorem nodes_eq (e : Element) : e.nodes = nodesAll e.children + 1 := by
  cases e <;> rfl

theorem allNames_eq (e : Element) : e.allNames = e.name :: allNamesIn e.children := by
  cases e <;> rfl

/-- What holds of no elements, and of an element before others if it holds of its children and of
the others, holds of all lists of elements. -/
@[elab_as_elim]
theorem forestInduction {motive : List Element → Prop} (nil : motive [])
    (cons : ∀ e es, motive e.children → motive es → motive (e :: es)) (es : List Element) :
    motive es := by
  cases es with
  | nil => exact nil
  | cons e es => exact cons e es (forestInduction nil cons e.children) (forestInduction nil cons es)
termination_by nodesAll es
decreasing_by
  all_goals
    subst_vars
    rw [nodesAll, nodes_eq]
    omega

/-- All names in the elements are legal. -/
def LegalNames (es : List Element) : Prop := ∀ n ∈ allNamesIn es, Markup.Legal n.text.toList

theorem legalNames_cons {e : Element} {es : List Element} :
    LegalNames (e :: es) ↔
      Markup.Legal e.name.text.toList ∧ LegalNames e.children ∧ LegalNames es := by
  simp only [LegalNames, allNamesIn, allNames_eq, List.cons_append, List.forall_mem_cons,
    List.forall_mem_append]

end Element

namespace Console

open TagScript.Markup TagScript.Text Element

variable {e f : Element} {es fs : List Element} {indentation : String}

/-! ### Labels -/

/-- Among elements with the same children the label tells one from the other. -/
theorem eq_of_label_eq (he : Legal e.name.text.toList) (hf : Legal f.name.text.toList)
    (hchildren : e.children = f.children) (hlabel : label e = label f) : e = f := by
  by_cases hnil : f.children = []
  · have hmarkup : e.markup = f.markup := by simpa [label, hchildren, hnil] using hlabel
    have hderives : ∀ g : Element, Legal g.name.text.toList → g.children = [] →
        Derives g.markup.toList g := by
      intro g hg hnone
      refine derives_markup g fun n hn => ?_
      rw [allNames_eq, hnone] at hn
      obtain rfl : n = g.name := by simpa [allNamesIn] using hn
      exact hg
    have hde := hderives e he (hchildren.trans hnil)
    rw [hmarkup, ← List.append_nil f.markup.toList] at hde
    exact ((hderives f hf hnil).eq_of_append hde).2
  · have hname : e.name = f.name := Name.ext (by simpa [label, hchildren, hnil] using hlabel)
    cases e with
    | selfClosing n => exact absurd hchildren.symm hnil
    | container n es =>
      cases f with
      | selfClosing m => exact absurd rfl hnil
      | container m fs =>
        obtain rfl : n = m := hname
        obtain rfl : es = fs := hchildren
        rfl

theorem oneLine_label (he : Legal e.name.text.toList) : OneLine (label e) := by
  have hname : OneLine e.name.text := oneLine_of_legal he
  unfold label
  split
  · next hempty =>
    cases e with
    | selfClosing n => exact oneLine_append.2 ⟨oneLine_append.2 ⟨by decide, hname⟩, by decide⟩
    | container n es =>
      obtain rfl : es = [] := by simpa using hempty
      show OneLine ("<" ++ n.text ++ ">" ++ "" ++ "</" ++ n.text ++ ">")
      simp only [oneLine_append]
      exact ⟨⟨⟨⟨⟨⟨by decide, hname⟩, by decide⟩, by decide⟩, by decide⟩, hname⟩, by decide⟩
  · exact hname

/-! ### Lines of siblings -/

theorem branch_eq (indentation : String) (last : Bool) (e : Element) :
    branch indentation last e = (indentation ++ guide last ++ label e) ::
      branches (indentation ++ rail last) e.children := by
  cases e <;> rfl

theorem branches_cons (indentation : String) (e : Element) (es : List Element) :
    branches indentation (e :: es) = (indentation ++ guide es.isEmpty ++ label e) ::
      (branches (indentation ++ rail es.isEmpty) e.children ++ branches indentation es) := by
  rw [branches, branch_eq, List.cons_append]

/-- The lines end, or the first of them does not begin with the indentation. -/
def Leaves (indentation : String) (ls : List String) : Prop :=
  ∀ line ∈ ls.head?, ¬ indentation.toList <+: line.toList

/-- The lines of siblings, and what follows them, leave the indentation of the children. -/
theorem Leaves.branches_append {ls : List String} (h : Leaves indentation ls) (last : Bool)
    (es : List Element) : Leaves (indentation ++ rail last) (branches indentation es ++ ls) := by
  intro line hline hprefix
  rw [String.toList_append] at hprefix
  cases es with
  | nil => exact h line hline ((List.prefix_append _ _).trans hprefix)
  | cons e es =>
    rw [branches_cons, List.cons_append, List.head?_cons, Option.mem_some_iff] at hline
    rw [← hline, String.toList_append, String.toList_append, List.append_assoc,
      List.prefix_append_right_inj] at hprefix
    cases last <;> cases hlast : es.isEmpty <;> simp [guide, rail, hlast] at hprefix

/-- A line tells whether its element is the last of its siblings, and its label. -/
theorem guide_label_inj {last last' : Bool}
    (h : indentation ++ guide last ++ label e = indentation ++ guide last' ++ label f) :
    last = last' ∧ label e = label f := by
  rw [← String.toList_inj] at h
  simp only [String.toList_append, List.append_assoc, List.append_cancel_left_eq] at h
  obtain rfl : last = last' := by
    cases last <;> cases last' <;> first | rfl | simp [guide] at h
  exact ⟨rfl, String.toList_inj.1 (List.append_cancel_left h)⟩

/-- The lines of siblings begin with the indentation. -/
theorem not_leaves_branches_append (indentation : String) (e : Element) (es : List Element)
    (ls : List String) : ¬ Leaves indentation (branches indentation (e :: es) ++ ls) := by
  intro h
  rw [branches_cons] at h
  refine h _ rfl ?_
  rw [String.append_assoc, String.toList_append]
  exact List.prefix_append _ _

/-- Elements with legal names are determined by their lines, whatever follows once the indentation
is left; and so is what follows. -/
theorem branches_cancel {ls ls' : List String} (hes : LegalNames es) (hfs : LegalNames fs)
    (hls : Leaves indentation ls) (hls' : Leaves indentation ls')
    (h : branches indentation es ++ ls = branches indentation fs ++ ls') : es = fs ∧ ls = ls' := by
  induction es using forestInduction generalizing indentation fs ls ls' with
  | nil =>
    cases fs with
    | nil => exact ⟨rfl, h⟩
    | cons f fs =>
      obtain rfl : ls = branches indentation (f :: fs) ++ ls' := h
      exact absurd hls (not_leaves_branches_append indentation f fs ls')
  | cons e es ihChildren ihSiblings =>
    cases fs with
    | nil =>
      obtain rfl : branches indentation (e :: es) ++ ls = ls' := h
      exact absurd hls' (not_leaves_branches_append indentation e es ls)
    | cons f fs =>
      obtain ⟨hename, hechildren, hes⟩ := legalNames_cons.1 hes
      obtain ⟨hfname, hfchildren, hfs⟩ := legalNames_cons.1 hfs
      rw [branches_cons, branches_cons, List.cons_append, List.cons_append, List.cons.injEq,
        List.append_assoc, List.append_assoc] at h
      obtain ⟨hlast, hlabel⟩ := guide_label_inj h.1
      -- The children end where the lines leave the rail: at the next sibling or behind the last.
      rw [hlast] at h
      obtain ⟨hchildren, hrest⟩ := ihChildren hechildren hfchildren (hls.branches_append _ es)
        (hls'.branches_append _ fs) h.2
      obtain ⟨rfl, rfl⟩ := ihSiblings hes hfs hls hls' hrest
      obtain rfl : e = f := eq_of_label_eq hename hfname hchildren hlabel
      exact ⟨rfl, rfl⟩

theorem oneLine_of_mem_branches (hes : LegalNames es) (hindentation : OneLine indentation) :
    ∀ line ∈ branches indentation es, OneLine line := by
  induction es using forestInduction generalizing indentation with
  | nil => simp [branches]
  | cons e es ihChildren ihSiblings =>
    obtain ⟨hename, hechildren, hes⟩ := legalNames_cons.1 hes
    have hguide : ∀ last, OneLine (guide last) := by decide
    have hrail : ∀ last, OneLine (rail last) := by decide
    rw [branches_cons, List.forall_mem_cons, List.forall_mem_append]
    refine ⟨?_, ihChildren hechildren ?_, ihSiblings hes hindentation⟩
    · exact oneLine_append.2 ⟨oneLine_append.2 ⟨hindentation, hguide _⟩, oneLine_label hename⟩
    · exact oneLine_append.2 ⟨hindentation, hrail _⟩

/-! ### Documents -/

theorem eq_of_unlines_treeLines {d d' : Document} (hd : LegalNames d.elements)
    (hd' : LegalNames d'.elements) (h : unlines (treeLines d) = unlines (treeLines d')) :
    d = d' := by
  have hlines : ∀ {d : Document}, LegalNames d.elements →
      (unlines (treeLines d)).toList.splitOn '\n' = (treeLines d).map String.toList ++ [[]] := by
    intro d hd
    refine splitOn_unlines (List.forall_mem_cons.2 ⟨by decide, ?_⟩)
    exact oneLine_of_mem_branches hd (by decide)
  have htree : treeLines d = treeLines d' := by
    have hsplit := hlines hd
    rw [h, hlines hd'] at hsplit
    have hmap := List.append_cancel_right hsplit
    exact ((List.map_inj_right fun s t => String.toList_inj.1).1 hmap).symm
  have hbranches : branches "" d.elements ++ [] = branches "" d'.elements ++ [] := by
    rw [List.append_nil, List.append_nil]
    exact (List.cons.inj htree).2
  have hend : Leaves "" [] := by simp [Leaves]
  obtain ⟨helements, -⟩ := branches_cancel hd hd' hend hend hbranches
  cases d
  cases d'
  exact congrArg Document.mk helements

/-- **The printed tree determines the document.** Documents in which all names are legal are equal
if the same tree is printed of them. So when two texts are read and their trees are printed, the
printed texts are equal exactly when the documents are. -/
theorem printed_tree_determines_document :
    (∀ d d' : Document, (∀ n ∈ d.allNames, Legal n.text.toList) →
      (∀ n ∈ d'.allNames, Legal n.text.toList) →
        (printTree d).stdout = (printTree d').stdout → d = d') ∧
    ∀ (request request' : Request) (settings settings' : Settings) (source source' : Source),
      Asks request .parse settings source → Asks request' .parse settings' source' →
        ∀ (sourceName sourceName' : Option String) (d d' : Document),
          Document.parse source.text sourceName = .ok d →
          Document.parse source'.text sourceName' = .ok d' →
            ((execute request).stdout = (execute request').stdout ↔ d = d') := by
  constructor
  · intro d d' hd hd' hprinted
    exact eq_of_unlines_treeLines hd hd' hprinted
  · intro request request' settings settings' source source' hasks hasks' sourceName sourceName' d d'
      hd hd'
    rw [execute_of_asks hasks, execute_of_asks hasks',
      stdout_perform_of_parse request .parse settings source hd,
      stdout_perform_of_parse request' .parse settings' source' hd']
    constructor
    · intro hprinted
      exact eq_of_unlines_treeLines (Document.parse_eq_ok_iff.1 hd).1.legal
        (Document.parse_eq_ok_iff.1 hd').1.legal hprinted
    · rintro rfl
      rfl

/-- The trees of `<a/>` and `<a></a>` differ. So do those that are printed of `<a><b/></a>`, where `b`
is closed at once, of `<a><b></b></a>`, where it is an empty container, and of `<a></a><b/>`, where
it is a sibling. -/
theorem trees_of_variants_and_of_siblings_differ :
    (∃ d d' : Document, d.markup = "<a/>" ∧ d'.markup = "<a></a>" ∧
      (printTree d).stdout ≠ (printTree d').stdout) ∧
    ∃ closed empty sibling : Request,
      Asks closed .parse Settings.default ⟨"<text>", "<a><b/></a>"⟩ ∧
      Asks empty .parse Settings.default ⟨"<text>", "<a><b></b></a>"⟩ ∧
      Asks sibling .parse Settings.default ⟨"<text>", "<a></a><b/>"⟩ ∧
      (execute closed).stdout ≠ (execute empty).stdout ∧
      (execute closed).stdout ≠ (execute sibling).stdout := by
  obtain ⟨hdocuments, hrequests⟩ := printed_tree_determines_document
  let a : Name := ⟨"a", by decide⟩
  let b : Name := ⟨"b", by decide⟩
  constructor
  · let d : Document := ⟨[.selfClosing a]⟩
    let d' : Document := ⟨[.container a []]⟩
    refine ⟨d, d', by decide, by decide, fun hprinted => ?_⟩
    have hne : d ≠ d' := by decide
    exact hne (hdocuments d d' (by decide) (by decide) hprinted)
  · let openFile : String → Except OpenError ByteArray := fun _ => .error .missing
    have hasks : ∀ text, Asks ⟨["parse", "--text", text], "", [], openFile, []⟩ .parse
        Settings.default ⟨"<text>", text⟩ :=
      fun text => asks_textLine rfl .parse text "" openFile []
    have hclosed : Document.parse "<a><b/></a>" none = .ok ⟨[.container a [.selfClosing b]]⟩ :=
      Document.parse_of_toOption (by decide +kernel)
    have hempty : Document.parse "<a><b></b></a>" none = .ok ⟨[.container a [.container b []]]⟩ :=
      Document.parse_of_toOption (by decide +kernel)
    have hsibling : Document.parse "<a></a><b/>" none =
        .ok ⟨[.container a [], .selfClosing b]⟩ :=
      Document.parse_of_toOption (by decide +kernel)
    refine ⟨_, _, _, hasks _, hasks _, hasks _, fun hprinted => ?_, fun hprinted => ?_⟩
    · have heq := (hrequests _ _ _ _ _ _ (hasks _) (hasks _) none none _ _ hclosed hempty).1 hprinted
      exact absurd heq (by decide)
    · have heq :=
        (hrequests _ _ _ _ _ _ (hasks _) (hasks _) none none _ _ hclosed hsibling).1 hprinted
      exact absurd heq (by decide)

end Console

end TagScript
