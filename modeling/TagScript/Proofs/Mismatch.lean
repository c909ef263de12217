import TagScript.Proofs.Diagnosis

/-!
# Closing tags of the wrong name

Inside a container only its own closing tag can be read. Behind a text that leaves containers open,
a closing tag of any other name than that of the innermost one is a mismatch, and there are no other
mismatches.

* `Failure.Mismatch` says that a failure reports one name where another has to stand.
* `tryParse_of_unclosed` finds a mismatch behind every text that leaves a container open, whatever
  follows; `exists_unclosed_of_mismatch` finds such a text before every mismatch.
* `mismatch_demands_innermost_name` puts them together: the name demanded is the only one that could
  close there.
-/

namespace TagScript

open TagScript.Parser Lexeme Markup Grammar

/-- The failure reports the closing tag of `found` at an offset where that of `expected` has to
stand. -/
structure Failure.Mismatch (failed : Failure) (offset : Nat) (expected found : Name) : Prop where
  kind : failed.kind = .tagMismatch
  offset : failed.offset = offset
  expected : failed.expected = some expected.text
  found : failed.found = some found.text

theorem Failure.Echoes.mismatch {failed inner : Failure} {offset : Nat} {expected found : Name}
    (h : failed.Echoes inner) (hinner : inner.Mismatch offset expected found) :
    failed.Mismatch offset expected found := by
  obtain ⟨tried, rfl⟩ := h
  exact ⟨hinner.kind, hinner.offset, hinner.expected, hinner.found⟩

namespace Grammar

variable {p q r : Position} {m n : Name} {failed : Failure}

/-- A closing tag of another name is a mismatch where it begins. -/
theorem closeTag_of_other (hm : Legal m.text.toList) (hne : m ≠ n)
    (h : p.Passes (closingText m.text.toList) q) :
    ∃ failed, closeTag n.text p = .ok (.failure p failed) ∧ failed.Mismatch p.offset n m := by
  obtain ⟨r, hr, hs⟩ := h.split
  have hlongest := longestName_of_passes hm (by decide) hs
  have htext : m.text ≠ n.text := fun heq => hne (Name.ext heq)
  simp only [closeTag, closingName, tag_complete "</" ">" hr hlongest hs, if_neg htext]
  exact ⟨_, rfl, rfl, rfl, rfl, rfl⟩

/-- Reading an element breaks off with a mismatch only where the innermost container has to be
closed and the closing tag of another name stands. -/
theorem Breakdown.exists_mismatch {limit : Nat} (h : Breakdown limit r failed)
    (hkind : failed.kind = .tagMismatch) :
    ∃ n ns m q, Unclosed limit r.before.reverse (n :: ns) ∧ Legal m.text.toList ∧ m ≠ n ∧
      r.Passes (closingText m.text.toList) q ∧ failed.Mismatch r.offset n m := by
  cases h with
  | tag _ _ _ _ _ hechoes =>
    obtain ⟨tried, rfl⟩ := hechoes
    cases hkind
  | @closing n ns inner h _ _ hreading hechoes =>
    cases hreading with
    | @mismatch q m hne hm hpasses =>
      refine ⟨n, ns, m, q, h, hm, ?_, hpasses, hechoes.mismatch ⟨rfl, rfl, rfl, rfl⟩⟩
      rintro rfl
      exact hne rfl
    | unopened =>
      obtain ⟨tried, rfl⟩ := hechoes
      cases hkind
    | nameless =>
      obtain ⟨tried, rfl⟩ := hechoes
      cases hkind
    | unfinished =>
      obtain ⟨tried, rfl⟩ := hechoes
      cases hkind

end Grammar

namespace Document

variable {text : String} {p : Position} {failed : Failure} {cs : List Char} {m n : Name}
  {ns : List Name}

/-- Behind a text that leaves a container open, the closing tag of another name is a mismatch,
whatever follows it. -/
theorem tryParse_of_unclosed (h : Unclosed nestingLimit cs (n :: ns)) (hm : Legal m.text.toList)
    (hne : m ≠ n) (rest : List Char) :
    ∃ p failed, tryParse (String.ofList (cs ++ closingText m.text.toList ++ rest)) =
        .ok (.failure p failed) ∧ failed.Mismatch cs.length n m := by
  rw [List.append_assoc]
  obtain ⟨here, hhere, hafter⟩ :=
    Position.exists_passes_start cs (closingText m.text.toList ++ rest)
  obtain ⟨next, hnext, -⟩ := Position.exists_passes hafter
  have hoffset : here.offset = cs.length := by
    rw [hhere.offset, Position.offset_start, Nat.zero_add]
  have hblank : ¬ Starts Blank here.after := by
    rw [hafter]
    exact not_blank_closingText _ _
  have hother : ¬ TagBegins here.after := by
    intro hbegins
    exact hbegins.not_closing ⟨m.text.toList ++ '>' :: rest, by simp [hafter, closingText]⟩
  obtain ⟨inner, hclose, hinner⟩ := closeTag_of_other hm hne hnext
  -- No child can be read there either, so the mismatch goes outwards through the open containers.
  obtain ⟨origin, failed, hread, hechoes⟩ :=
    topLevelElements_failure_of_closing (by decide) h hhere hblank hother hclose
  exact ⟨_, failed, read_of_failure hread, hoffset ▸ hechoes.mismatch hinner⟩

/-- Before every mismatch stands a text that leaves a container of the expected name open, and
behind it the closing tag of the other name. -/
theorem exists_unclosed_of_mismatch (h : tryParse text = .ok (.failure p failed))
    (hkind : failed.kind = .tagMismatch) :
    ∃ before after n ns m, text.toList = before ++ after ∧
      Unclosed nestingLimit before (n :: ns) ∧ Legal m.text.toList ∧ m ≠ n ∧
      closingText m.text.toList <+: after ∧ failed.Mismatch before.length n m := by
  obtain ⟨-, origin, hread⟩ := topLevelElements_of_failure h
  obtain ⟨here, cs, es, hpasses, hcs, hdepth, -, hfailure⟩ :=
    topLevelElements_breakdown (by decide) hread
  cases hfailure with
  | deep => cases hkind
  | trailing => cases hkind
  | broken hbegins hfailed =>
    have hopen : Unclosed nestingLimit here.before.reverse [] :=
      .top (hpasses.reverse_before ▸ hcs) hdepth
    obtain ⟨r, hr, hbreakdown⟩ := element_breakdown hopen (by simp) hbegins hfailed
    obtain ⟨n, ns, m, q, hunclosed, hm, hne, hclosing, hmismatch⟩ :=
      hbreakdown.exists_mismatch hkind
    refine ⟨r.before.reverse, r.after, n, ns, m, (hr.trans hpasses.chars).symm, hunclosed, hm, hne,
      ⟨q.after, hclosing.after.symm⟩, ?_⟩
    rwa [List.length_reverse, ← r.offset_eq]

/-- **A mismatch demands the only name that could close there.** Where a text is not read because of
a mismatch, the closing tag found has another name than the one expected. With the closing tag of
the expected name in its place the text before it can be completed; with that of any other name it
is a mismatch again, at the same offset and with the same name expected, whatever follows. -/
theorem mismatch_demands_innermost_name (h : tryParse text = .ok (.failure p failed))
    (hkind : failed.kind = .tagMismatch) :
    ∃ before after expected found, text.toList = before ++ after ∧
      failed.Mismatch before.length expected found ∧
      closingText found.text.toList <+: after ∧ found ≠ expected ∧
      Viable (before ++ closingText expected.text.toList) ∧
      ∀ (other : Name) (rest : List Char), Legal other.text.toList → other ≠ expected →
        ∃ p failed', tryParse (String.ofList (before ++ closingText other.text.toList ++ rest)) =
            .ok (.failure p failed') ∧ failed'.Mismatch before.length expected other := by
  obtain ⟨before, after, n, ns, m, htext, hunclosed, -, hne, hclosing, hmismatch⟩ :=
    exists_unclosed_of_mismatch h hkind
  exact ⟨before, after, n, m, htext, hmismatch, hclosing, hne, viable_of_unclosed hunclosed.close,
    fun other rest hother hne => tryParse_of_unclosed hunclosed hother hne rest⟩

/-- In `<a><b><c/></a></b>` the tag `</a>` stands where `b` has to be closed. With `</b>` in that
place the text can be completed, and with `</c>` it is a mismatch with `b` again. -/
theorem mismatch_inside_two_containers :
    ∃ p failed, tryParse "<a><b><c/></a></b>" = .ok (.failure p failed) ∧
      failed.kind = .tagMismatch ∧ failed.offset = 10 ∧
      Viable "<a><b><c/></b>".toList ∧
      ∃ p' failed', tryParse "<a><b><c/></c> x" = .ok (.failure p' failed') ∧
        failed'.kind = .tagMismatch ∧ failed'.offset = 10 ∧ failed'.expected = some "b" ∧
        failed'.found = some "c" := by
  have hview : ((tryParse "<a><b><c/></a></b>").toOption.bind Outcome.failure?).map
      (fun failed => (failed.kind, failed.offset, failed.expected)) =
        some (.tagMismatch, 10, some "b") := by decide +kernel
  obtain ⟨p, failed, hfails, hfailed⟩ := Outcome.exists_of_failure? hview
  obtain ⟨hkind, hfailed⟩ := Prod.mk.inj hfailed
  obtain ⟨hoffset, hexpected⟩ := Prod.mk.inj hfailed
  obtain ⟨before, after, expected, found, htext, hmismatch, -, -, hviable, hothers⟩ :=
    mismatch_demands_innermost_name hfails hkind
  have hten : "<a><b><c/>".toList.length = before.length := by
    have hten : "<a><b><c/>".toList.length = 10 := by decide
    have hlength := hmismatch.offset
    omega
  obtain ⟨rfl, -⟩ : "<a><b><c/>".toList = before ∧ "</a></b>".toList = after :=
    List.append_inj (by simpa using htext) hten
  have hb : expected.text = "b" := Option.some.inj (hmismatch.expected.symm.trans hexpected)
  let c : Name := ⟨"c", by decide⟩
  have hc : c ≠ expected := by
    rintro rfl
    revert hb
    decide
  have htext' : String.ofList ("<a><b><c/>".toList ++ closingText c.text.toList ++ " x".toList) =
      "<a><b><c/></c> x" := by decide
  obtain ⟨p', failed', hfails', hmismatch'⟩ := hothers c " x".toList (by decide) hc
  rw [htext'] at hfails'
  rw [hb] at hviable
  exact ⟨p, failed, hfails, hkind, hoffset, hviable, p', failed', hfails', hmismatch'.kind,
    hmismatch'.offset, hmismatch'.expected.trans (congrArg some hb), hmismatch'.found⟩

end Document

end TagScript
