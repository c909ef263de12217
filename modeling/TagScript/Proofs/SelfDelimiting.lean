import TagScript.Proofs.Language

/-!
# Elements delimit themselves

Where an element begins, its written form alone says where it ends; what follows does not matter.

* `element_success_iff`: an element is read from one position to another exactly when the characters
  between them derive it.
* `Derives.eq_of_append`: a text that derives an element is not the beginning of another one.
* `derives_nested_selfClosing`: a self-closing tag inside a container leaves the closing tag behind
  it to the container, also one of its own name.
* `element_delimits_itself` puts these together for the slices of a text.
-/

namespace TagScript

open Markup Grammar

/-- A position asked for at an offset of a text lies there. -/
theorem Position.of_at?_eq_ok {text : String} {offset : Nat} {p : Position}
    (h : at? text offset = .ok p) : p.chars = text.toList ∧ p.offset = offset := by
  unfold at? at h
  split at h
  · next hrange =>
    cases h
    refine ⟨by simp, ?_⟩
    rw [Int.toNat_natCast, offset_advance, offset_start]
    have hlength : (start text).after.length = text.length := String.length_toList
    omega
  · cases h

namespace Markup

variable {cs ds bs : List Char} {n : Name} {e e' : Element} {es : List Element}

theorem Derives.ne_nil (h : Derives cs e) : cs ≠ [] := by
  have hbegins := h.tagBegins []
  rw [List.append_nil] at hbegins
  exact hbegins.ne_nil

/-- No text that derives an element goes on to derive another one: both would be read from the start
of the longer text. -/
theorem Derives.eq_of_append (h : Derives cs e) (h' : Derives (cs ++ ds) e') :
    ds = [] ∧ e' = e := by
  obtain ⟨q, hq, hafter⟩ := Position.exists_passes_start cs ds
  obtain ⟨r, hr, -⟩ := Position.exists_passes (hafter.trans (List.append_nil ds).symm)
  have hshort := readsAll_element (max e.depth e'.depth) _ q cs e h (Nat.le_max_left _ _) hq
  have hlong :=
    readsAll_element (max e.depth e'.depth) _ r _ e' h' (Nat.le_max_right _ _) (hq.trans hr)
  rw [hshort] at hlong
  cases hlong
  -- Both readings end at the same place, so nothing lies between their ends.
  have hlength := hr.offset
  exact ⟨List.length_eq_zero_iff.1 (by omega), rfl⟩

/-- Inside a container, a self-closing tag of the same name is a child like any other, and the
closing tag behind it closes the container. -/
theorem derives_nested_selfClosing (hn : Legal n.text.toList) (hcs : Spaced Derives cs es)
    (hbs : Blanks bs) :
    Derives (openingText n.text.toList ++ (cs ++ (selfClosingText n.text.toList ++ bs)) ++
      closingText n.text.toList) (.container n (es ++ [.selfClosing n])) := by
  have htag : Spaced Derives ([] ++ selfClosingText n.text.toList ++ bs) [.selfClosing n] :=
    .cons blanks_nil (.selfClosing hn) (.nil hbs)
  exact .container hn (hcs.append htag)

end Markup

namespace Grammar

variable {limit : Nat} {p q : Position} {e : Element}

/-- An element is read from `p` to `q` exactly when the characters between them derive it and no
container in it stands deeper than the limit. -/
theorem element_success_iff :
    element limit p = .ok (.success q e) ↔
      ∃ cs, Derives cs e ∧ p.Passes cs q ∧ e.depth ≤ limit := by
  constructor
  · exact readsOnly_element limit p q e
  · rintro ⟨cs, hcs, hpasses, hdepth⟩
    exact readsAll_element limit p q cs e hcs hdepth hpasses

/-- An element is read up to an offset exactly when the slice up to that offset derives it. -/
theorem element_reads_to_iff {text : String} {offset stop : Nat}
    (h : Position.at? text offset = .ok p) :
    (∃ q, element limit p = .ok (.success q e) ∧ q.text = text ∧ q.offset = stop) ↔
      stop ≤ text.length ∧ Derives (text.toList.extract offset stop) e ∧ e.depth ≤ limit := by
  obtain ⟨hchars, rfl⟩ := Position.of_at?_eq_ok h
  constructor
  · rintro ⟨q, helement, -, rfl⟩
    obtain ⟨cs, hcs, hpasses, hdepth⟩ := element_success_iff.1 helement
    have hbound := q.offset_le
    rw [hpasses.chars, hchars, String.length_toList] at hbound
    rw [← hchars, hpasses.eq_extract]
    exact ⟨hbound, hcs, hdepth⟩
  · rintro ⟨hbound, hderives, hdepth⟩
    -- A slice that ends before it begins is empty and derives nothing.
    have hle : p.offset ≤ stop := by
      rcases Nat.lt_or_ge stop p.offset with hlt | hle
      · refine absurd ?_ hderives.ne_nil
        rw [List.extract_eq_take_drop, Nat.sub_eq_zero_of_le (Nat.le_of_lt hlt), List.take_zero]
      · exact hle
    rw [← String.length_toList, ← hchars] at hbound
    obtain ⟨cs, q, hpasses, rfl⟩ := Position.exists_passes_to hle hbound
    rw [← hchars, hpasses.eq_extract] at hderives
    refine ⟨q, element_success_iff.2 ⟨cs, hderives, hpasses, hdepth⟩, ?_, rfl⟩
    rw [Position.text, hpasses.chars, hchars, String.ofList_toList]

/-- **Elements delimit themselves.** At an offset of a text an element is read up to another offset
exactly when the slice between them derives it within the limit. So the same characters are read the
same wherever they stand and whatever follows them, no text that derives an element is the proper
beginning of another, and a self-closing tag inside a container of its own name leaves the closing
tag to the container. -/
theorem element_delimits_itself (limit : Nat) :
    (∀ (text : String) (offset stop : Nat) (p : Position) (e : Element),
      Position.at? text offset = .ok p →
        ((∃ q, element limit p = .ok (.success q e) ∧ q.text = text ∧ q.offset = stop) ↔
          stop ≤ text.length ∧ Derives (text.toList.extract offset stop) e ∧ e.depth ≤ limit)) ∧
    (∀ (p q : Position) (e : Element), element limit p = .ok (.success q e) →
      ∃ cs, p.Passes cs q ∧
        ∀ p' q', p'.Passes cs q' → element limit p' = .ok (.success q' e)) ∧
    (∀ (cs ds : List Char) (e e' : Element), Derives cs e → Derives (cs ++ ds) e' →
      ds = [] ∧ e' = e) ∧
    ∀ (n : Name) (cs bs : List Char) (es : List Element) (p q : Position),
      Legal n.text.toList → Spaced Derives cs es → Blanks bs → Element.depthAll es < limit →
      p.Passes (openingText n.text.toList ++ (cs ++ (selfClosingText n.text.toList ++ bs)) ++
        closingText n.text.toList) q →
      element limit p = .ok (.success q (.container n (es ++ [.selfClosing n]))) := by
  refine ⟨fun _ _ _ _ _ h => element_reads_to_iff h, ?_, fun _ _ _ _ => Derives.eq_of_append, ?_⟩
  · intro p q e helement
    obtain ⟨cs, hcs, hpasses, hdepth⟩ := element_success_iff.1 helement
    exact ⟨cs, hpasses, fun p' q' hpasses' => element_success_iff.2 ⟨cs, hcs, hpasses', hdepth⟩⟩
  · intro n cs bs es p q hn hcs hbs hdepth hpasses
    refine element_success_iff.2 ⟨_, derives_nested_selfClosing hn hcs hbs, hpasses, ?_⟩
    simp only [Element.depth, Element.depthAll_append, Element.depthAll]
    omega

/-- In `<a/><b><b/></b></b>` the element at offset 4 is the container up to offset 15: the inner `b`
does not take the first closing tag, and the outer one does not take the second. -/
theorem nested_tag_of_same_name_read :
    let b : Name := ⟨"b", by decide⟩
    ∃ p q, Position.at? "<a/><b><b/></b></b>" 4 = .ok p ∧
      element nestingLimit p = .ok (.success q (.container b [.selfClosing b])) ∧
      q.offset = 15 := by
  intro b
  have hslice : "<a/><b><b/></b></b>".toList.extract 4 15 =
      openingText b.text.toList ++ ([] ++ (selfClosingText b.text.toList ++ [])) ++
        closingText b.text.toList := by decide
  have hderives : Derives ("<a/><b><b/></b></b>".toList.extract 4 15)
      (.container b [.selfClosing b]) := by
    rw [hslice]
    exact derives_nested_selfClosing (by decide) (.nil blanks_nil) blanks_nil
  obtain ⟨p, hp⟩ : ∃ p, Position.at? "<a/><b><b/></b></b>" 4 = .ok p := ⟨_, rfl⟩
  obtain ⟨q, hread, -, hoffset⟩ := ((element_delimits_itself nestingLimit).1 _ 4 15 p _ hp).2
    ⟨by decide, hderives, by decide⟩
  exact ⟨p, q, hp, hread, hoffset⟩

end Grammar

end TagScript
