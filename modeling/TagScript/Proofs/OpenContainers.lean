import TagScript.Proofs.FailureTree
import TagScript.Proofs.Language

/-!
# Texts that leave containers open

* `Unclosed limit cs ns` says that `cs` opens the containers `ns`, the innermost first, and closes
  none of them.
* `Unclosed.exists_completion` closes them all, which makes a document.
* `OpenTags limit cs tags` says in addition where in `cs` the names of the containers end.
* `topLevelElements_leads` says that where an element inside the open containers cannot be read, the
  document cannot, and that what it reports leads to that failure past each of the open tags.
* `Document.Viable` says that a text can be completed to one that is read.
-/

namespace TagScript

open TagScript.Parser Lexeme Markup Grammar

namespace Markup

/-- The characters open the containers `ns`, the innermost first, and leave room for them and for
what is inside within the limit. -/
inductive Unclosed (limit : Nat) : List Char → List Name → Prop
  | top {cs : List Char} {es : List Element} :
      Spaced DerivesTop cs es → Element.depthAll es ≤ limit → Unclosed limit cs []
  | into {cs ds : List Char} {n : Name} {ns : List Name} {es : List Element} :
      Unclosed limit cs ns → Legal n.text.toList → Spaced Derives ds es →
      ns.length + 1 + Element.depthAll es ≤ limit →
      Unclosed limit (cs ++ openingText n.text.toList ++ ds) (n :: ns)

variable {limit : Nat} {cs ds : List Char} {n : Name} {ns : List Name} {e : Element}

/-! ### Completing the text -/

/-- One more element may be written in the innermost container, as far as there is room. -/
theorem Unclosed.append_element (h : Unclosed limit cs ns) (hds : Derives ds e)
    (hroom : ns.length + e.depth ≤ limit) : Unclosed limit (cs ++ ds) ns := by
  cases h with
  | @top _ es hes hdepth =>
    refine .top (hes.append (.single (.element hds))) ?_
    simp only [Element.depthAll_append, Element.depthAll]
    simp only [List.length_nil] at hroom
    omega
  | into h hn hes hdepth =>
    rw [List.append_assoc]
    refine .into h hn (hes.append (.single hds)) ?_
    simp only [Element.depthAll_append, Element.depthAll]
    simp only [List.length_cons] at hroom
    omega

/-- The closing tag of the innermost container closes it. -/
theorem Unclosed.close (h : Unclosed limit cs (n :: ns)) :
    Unclosed limit (cs ++ closingText n.text.toList) ns := by
  cases h with
  | into h hn hes hdepth =>
    have hclosed := h.append_element (.container hn hes) (by simp only [Element.depth]; omega)
    simpa only [List.append_assoc] using hclosed

theorem Unclosed.legal (h : Unclosed limit cs (n :: ns)) : Legal n.text.toList := by
  cases h with
  | into _ hn _ _ => exact hn

theorem Unclosed.length_le (h : Unclosed limit cs ns) : ns.length ≤ limit := by
  cases h with
  | top => exact Nat.zero_le limit
  | into _ _ _ hdepth =>
    rw [List.length_cons]
    omega

/-- Closing the open containers one after another gives a document. -/
theorem Unclosed.exists_completion (h : Unclosed limit cs ns) :
    ∃ ds d, DerivesDocument (cs ++ ds) d ∧ Element.depthAll d.elements ≤ limit := by
  induction ns generalizing cs with
  | nil =>
    cases h with
    | @top _ es hes hdepth => exact ⟨[], ⟨es⟩, by rwa [List.append_nil], hdepth⟩
  | cons n ns ih =>
    -- The innermost container is closed first.
    obtain ⟨ds, d, hds, hdepth⟩ := ih h.close
    exact ⟨closingText n.text.toList ++ ds, d, by rwa [← List.append_assoc], hdepth⟩

/-! ### Where the open tags stand -/

/-- A container that is left open: its name, and the offset behind the name in its opening tag. -/
structure OpenTag where
  name : Name
  stop : Nat

/-- The offsets behind the names, the outermost container first. -/
def OpenTag.stops (tags : List OpenTag) : List Nat := tags.reverse.map OpenTag.stop

@[simp] theorem OpenTag.stops_nil : OpenTag.stops [] = [] := rfl

@[simp] theorem OpenTag.stops_cons (tag : OpenTag) (tags : List OpenTag) :
    OpenTag.stops (tag :: tags) = OpenTag.stops tags ++ [tag.stop] := by
  simp [OpenTag.stops]

/-- The characters open the containers of `tags`, the innermost first, and leave room for them and
for what is inside within the limit. -/
inductive OpenTags (limit : Nat) : List Char → List OpenTag → Prop
  | top {cs : List Char} {es : List Element} :
      Spaced DerivesTop cs es → Element.depthAll es ≤ limit → OpenTags limit cs []
  | into {cs ds : List Char} {n : Name} {tags : List OpenTag} {es : List Element} :
      OpenTags limit cs tags → Legal n.text.toList → Spaced Derives ds es →
      tags.length + 1 + Element.depthAll es ≤ limit →
      OpenTags limit (cs ++ openingText n.text.toList ++ ds)
        (⟨n, (cs ++ '<' :: n.text.toList).length⟩ :: tags)

variable {tags : List OpenTag}

theorem Unclosed.exists_openTags (h : Unclosed limit cs ns) :
    ∃ tags, OpenTags limit cs tags ∧ tags.map OpenTag.name = ns := by
  induction h with
  | top hes hdepth => exact ⟨[], .top hes hdepth, rfl⟩
  | into _ hn hes hdepth ih =>
    obtain ⟨tags, htags, rfl⟩ := ih
    rw [List.length_map] at hdepth
    exact ⟨_, .into htags hn hes hdepth, rfl⟩

theorem OpenTags.length_le (h : OpenTags limit cs tags) : tags.length ≤ limit := by
  cases h with
  | top => exact Nat.zero_le limit
  | into _ _ _ hdepth =>
    rw [List.length_cons]
    omega

end Markup

namespace Grammar

variable {limit : Nat} {child : Parser Element} {cs : List Char} {n : Name} {ns : List Name}
  {tag : OpenTag} {tags : List OpenTag} {es : List Element} {start p q origin : Position}
  {failed : Failure}

/-! ### Failures go outwards -/

/-- A result with elements put in front is a failure just if it was one before. -/
theorem failure_of_behind {front front' : List Element}
    {result result' : Except Fault (Outcome (List Element))}
    (h : behind start front result = behind start front' result')
    (hresult' : result' = .ok (.failure origin failed)) :
    ∃ origin, result = .ok (.failure origin failed) := by
  subst hresult'
  rcases result with fault | ⟨q, es⟩ | ⟨q, failed'⟩ <;> cases h
  exact ⟨q, rfl⟩

theorem skipBlanks_of_begins (h : TagBegins p.after) : skipBlanks p = p :=
  skipBlanks_of_tagBegins blanks_nil (Position.passes_nil p) h

/-- An element that begins like a tag and cannot be read is what reading children reports. -/
theorem childrenOf_failure (name : String) (hbegins : TagBegins p.after)
    (h : child p = .ok (.failure origin failed)) :
    childrenOf child name p = .ok (.failure p failed) := by
  obtain ⟨unclosed, hclose⟩ := closeTag_of_not_prefixed name hbegins.not_closing
  rw [childrenOf]
  simp only [skipBlanks_of_begins hbegins, hclose, h, accepts_tagStart_iff.2 hbegins, if_true]

/-- An element that begins like a tag and cannot be read is what reading a document reports. -/
theorem topLevelElements_failure (hbegins : TagBegins p.after)
    (h : element limit p = .ok (.failure origin failed)) :
    topLevelElements limit p = .ok (.failure p failed) := by
  have hmore : p.atEnd = false := by
    simpa [Position.atEnd] using hbegins.ne_nil
  have helement : topLevelElement limit p = .ok (.failure origin failed) := by
    simp only [topLevelElement, andThen, h]
  rw [topLevelElements]
  simp only [skipBlanks_of_begins hbegins, hmore, helement, leftOver,
    accepts_tagStart_iff.2 hbegins, if_true]
  rfl

theorem missesSlash_unslashed (r : Position) : (unslashed r).MissesSlash r.offset :=
  ⟨rfl, rfl, rfl, rfl⟩

/-- Where the children of a container cannot be read behind some of them, the container cannot, and
its failure leads to that of the children past the opening tag. -/
theorem element_leads {room : Nat} {front ds : List Char} (hn : Legal n.text.toList)
    (hes : Spaced Derives ds es) (hdepth : Element.depthAll es ≤ room)
    (h : start.Passes (front ++ openingText n.text.toList ++ ds) p)
    (hp : childrenOf (element room) n.text p = .ok (.failure origin failed)) :
    ∃ here failed', start.Passes front here ∧ TagBegins here.after ∧
      element (room + 1) here = .ok (.failure here failed') ∧
      failed'.Leads [start.offset + (front ++ '<' :: n.text.toList).length] failed := by
  rw [List.append_assoc] at h
  obtain ⟨here, hhere, hrest⟩ := h.split
  obtain ⟨inner, hinner, hds⟩ := hrest.split
  have hchildren := childrenOf_of_spaced (readsAll_element room) (readsOnly_element room) hes hdepth
    hds n.text start
  obtain ⟨origin', horigin'⟩ := failure_of_behind hchildren hp
  obtain ⟨r, hr, helement⟩ := element_of_opening room hn hinner
  rw [horigin'] at helement
  have hbegins : TagBegins here.after := by
    rw [hinner.after]
    exact tagBegins_openingText hn _
  refine ⟨here, _, hhere, hbegins, helement, ?_⟩
  rw [← (hhere.trans hr).offset]
  exact .step rfl (missesSlash_unslashed r) ⟨_, rfl⟩ (.refl failed)

/-- Where an element that begins like a tag cannot be read inside the open containers, the document
cannot, and what it reports leads to that failure past each open tag. -/
theorem topLevelElements_leads (hlimit : 0 < limit) {room : Nat} (h : OpenTags limit cs tags)
    (hroom : tags.length + room = limit) (hpasses : start.Passes cs p) (hbegins : TagBegins p.after)
    (hfailed : element room p = .ok (.failure origin failed)) :
    ∃ origin failed', topLevelElements limit start = .ok (.failure origin failed') ∧
      failed'.Leads ((OpenTag.stops tags).map (start.offset + ·)) failed := by
  -- The failure moves out by one container at each step, which leaves room for one more.
  induction h generalizing room p origin failed with
  | top hfront hdepth =>
    rw [List.length_nil, Nat.zero_add] at hroom
    subst hroom
    have hnoClosing : NoClosing p := by
      unfold NoClosing
      rw [skipBlanks_of_begins hbegins]
      exact hbegins.not_closing
    have hread := topLevelElements_of_spaced hlimit hfront hdepth hpasses hnoClosing start
    obtain ⟨origin', horigin'⟩ := failure_of_behind hread (topLevelElements_failure hbegins hfailed)
    exact ⟨origin', failed, horigin', .refl failed⟩
  | @into _ _ n _ _ _ hn hes hdepth ih =>
    rw [List.length_cons] at hroom
    have hchildren := childrenOf_failure n.text hbegins hfailed
    obtain ⟨here, failed', hhere, hbegins', helement, hleads⟩ :=
      element_leads hn hes (by omega) hpasses hchildren
    obtain ⟨origin', failed'', hread, hleads'⟩ := ih (by omega) hhere hbegins' helement
    refine ⟨origin', failed'', hread, ?_⟩
    rw [OpenTag.stops_cons, List.map_append]
    exact hleads'.trans hleads

/-- Where neither the closing tag of the innermost container nor a tag that opens an element can be
read, the document reports the failure of the closing tag past each open tag. -/
theorem topLevelElements_leads_of_closing (hlimit : 0 < limit) (h : OpenTags limit cs (tag :: tags))
    (hpasses : start.Passes cs p) (hblank : ¬ Starts Blank p.after) (hother : ¬ TagBegins p.after)
    (hclose : closeTag tag.name.text p = .ok (.failure origin failed)) :
    ∃ origin failed', topLevelElements limit start = .ok (.failure origin failed') ∧
      failed'.Leads ((OpenTag.stops (tag :: tags)).map (start.offset + ·)) failed := by
  have hskip := skipBlanks_of_passes blanks_nil (Position.passes_nil p) hblank
  have hstart := accepts_tagStart_eq_false_iff.2 hother
  obtain ⟨room, hroom⟩ := Nat.exists_eq_add_of_le h.length_le
  rw [List.length_cons] at hroom
  obtain ⟨broken, helement⟩ := element_of_other room hother
  have hchildren : childrenOf (element room) tag.name.text p = .ok (.failure p failed) := by
    rw [childrenOf]
    simp [hskip, hclose, helement, hstart]
  cases h with
  | into hfront hn hes hdepth =>
    obtain ⟨here, failed', hhere, hbegins, helement', hleads⟩ :=
      element_leads hn hes (by omega) hpasses hchildren
    obtain ⟨origin', failed'', hread, hleads'⟩ :=
      topLevelElements_leads hlimit hfront (by omega) hhere hbegins helement'
    refine ⟨origin', failed'', hread, ?_⟩
    rw [OpenTag.stops_cons, List.map_append]
    exact hleads'.trans hleads

/-- Where neither the closing tag of the innermost container nor a tag that opens an element can be
read, the document reports the failure of the closing tag. -/
theorem topLevelElements_failure_of_closing (hlimit : 0 < limit) (h : Unclosed limit cs (n :: ns))
    (hpasses : start.Passes cs p) (hblank : ¬ Starts Blank p.after) (hother : ¬ TagBegins p.after)
    (hclose : closeTag n.text p = .ok (.failure origin failed)) :
    ∃ origin failed', topLevelElements limit start = .ok (.failure origin failed') ∧
      failed'.Echoes failed := by
  obtain ⟨tags, htags, hnames⟩ := h.exists_openTags
  obtain ⟨tag, tags, rfl, rfl, -⟩ := List.map_eq_cons_iff.1 hnames
  obtain ⟨origin', failed', hread, hleads⟩ :=
    topLevelElements_leads_of_closing hlimit htags hpasses hblank hother hclose
  exact ⟨origin', failed', hread, hleads.echoes⟩

/-- Behind a text that leaves a container open, `</` has to go on with its name. -/
theorem exists_of_closing_read (hlimit : 0 < limit) {rest : List Char}
    (h : Unclosed limit cs (n :: ns)) (hpasses : start.Passes cs p)
    (hafter : p.after = '<' :: '/' :: rest)
    (hread : topLevelElements limit start = .ok (.success q es)) :
    ∃ rest', rest = n.text.toList ++ '>' :: rest' := by
  have hblank : ¬ Starts Blank p.after := by
    rw [hafter, starts_cons]
    decide
  have hother : ¬ TagBegins p.after := fun hbegins => hbegins.not_closing ⟨rest, hafter.symm⟩
  rcases hclose : closeTag n.text p with fault | ⟨next, found⟩ | ⟨origin, failed⟩
  · obtain ⟨outcome, hreading, -⟩ := closeTag_reading n.text p
    rw [hclose] at hreading
    cases hreading
  · obtain ⟨m, hm, -, hclosing⟩ := closeTag_success hclose
    have hrest := hclosing.after
    rw [hafter, hm] at hrest
    exact ⟨next.after, by simpa [closingText] using hrest⟩
  · obtain ⟨origin', failed', hfailure, -⟩ :=
      topLevelElements_failure_of_closing hlimit h hpasses hblank hother hclose
    rw [hread] at hfailure
    cases hfailure

end Grammar

namespace Document

variable {cs ds m : List Char} {n : Name} {ns : List Name}

/-! ### Viable texts -/

/-- The text is read as a document. -/
def Readable (cs : List Char) : Prop := ∃ p d, tryParse (String.ofList cs) = .ok (.success p d)

/-- The text can be completed to one that is read as a document. -/
def Viable (cs : List Char) : Prop := ∃ ds, Readable (cs ++ ds)

theorem readable_of_derives {d : Document} (h : DerivesDocument cs d)
    (hdepth : Element.depthAll d.elements ≤ nestingLimit) : Readable cs := by
  rw [← String.toList_ofList (l := cs)] at h
  obtain ⟨p, hp⟩ := read_of_derives (by decide) h hdepth
  exact ⟨p, d, hp⟩

/-- The beginnings of a viable text are viable. -/
theorem Viable.of_beginning (h : Viable ds) (hbegins : cs <+: ds) : Viable cs := by
  obtain ⟨rest, rfl⟩ := hbegins
  obtain ⟨more, hmore⟩ := h
  exact ⟨rest ++ more, by rwa [← List.append_assoc]⟩

/-- A text that leaves containers open is viable. -/
theorem viable_of_unclosed (h : Unclosed nestingLimit cs ns) : Viable cs := by
  obtain ⟨ds, d, hderives, hdepth⟩ := h.exists_completion
  exact ⟨ds, readable_of_derives hderives hdepth⟩

/-- The beginning of a tag can be completed to a self-closing one, for which there is always room. -/
theorem viable_of_opening (h : Unclosed nestingLimit cs ns) (hm : Legal m) :
    Viable (cs ++ '<' :: m) := by
  obtain ⟨n, rfl⟩ := hm.exists_name
  have hroom : ns.length + (Element.selfClosing n).depth ≤ nestingLimit := h.length_le
  have hviable := viable_of_unclosed (h.append_element (.selfClosing hm) hroom)
  exact hviable.of_beginning ⟨['/', '>'], by simp [selfClosingText]⟩

/-- What follows `</` in a viable text begins with the name of the innermost container, or that name
begins with it. -/
theorem exists_of_viable_closing (h : Unclosed nestingLimit cs (n :: ns))
    (hviable : Viable (cs ++ '<' :: '/' :: m)) :
    ∃ rest rest', m ++ rest = n.text.toList ++ '>' :: rest' := by
  obtain ⟨rest, q, d, hread⟩ := hviable
  rw [List.append_assoc] at hread
  obtain ⟨p, hp, hafter⟩ := Position.exists_passes_start cs ('<' :: '/' :: m ++ rest)
  obtain ⟨rest', hrest'⟩ :=
    exists_of_closing_read (by decide) h hp hafter (topLevelElements_of_success hread)
  exact ⟨rest, rest', hrest'⟩

/-- Only the name of the innermost container can stand in a closing tag. -/
theorem eq_of_viable_closing (h : Unclosed nestingLimit cs (n :: ns)) (hm : Legal m)
    (hviable : Viable (cs ++ closingText m)) : m = n.text.toList := by
  obtain ⟨rest, rest', hrest⟩ := exists_of_viable_closing (m := m ++ ['>']) h hviable
  have hlongest : LongestName m ('>' :: rest) := hm.longestName (by decide)
  have hlongest' : LongestName n.text.toList ('>' :: rest') := h.legal.longestName (by decide)
  exact (hlongest.unique hlongest' (by simpa using hrest)).1

/-- A closing tag that has been begun can be completed just if its name can be completed to that of
the innermost container. -/
theorem viable_closing_iff (h : Unclosed nestingLimit cs (n :: ns)) (hm : Legal m) :
    Viable (cs ++ '<' :: '/' :: m) ↔ m <+: n.text.toList := by
  constructor
  · intro hviable
    obtain ⟨rest, rest', hrest⟩ := exists_of_viable_closing h hviable
    rcases List.append_eq_append_iff.1 hrest with ⟨more, hmore, -⟩ | ⟨more, hmore, hmark⟩
    · exact ⟨more, hmore.symm⟩
    · cases more with
      | nil => exact ⟨[], by simpa using hmore⟩
      | cons c more =>
        -- The name would hold the mark behind the other.
        obtain rfl : '>' = c := by simpa using (List.cons.inj hmark).1
        exact absurd (by simp [hmore]) (hm.not_mem (c := '>') (by decide))
  · rintro ⟨more, hmore⟩
    have hviable := viable_of_unclosed h.close
    exact hviable.of_beginning ⟨more ++ ['>'], by simp [closingText, ← hmore]⟩

end Document

end TagScript
