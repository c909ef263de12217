import TagScript.Proofs.Mismatch

/-!
# What a failure records of the open tags

A document that cannot be read reports a failure whose alternatives go down, level by level, through
the containers that are open where reading broke off.

* `OpenAtEnd limit cs tags` says which containers are open at the end of a text that may break off
  in the middle of a tag; `OpenAtEnd.stops_unique` says that the text determines where they stand.
* `Records` says which tags a failure has to record: the open ones, and behind them the opening tag
  that breaks off, if there is one; `leads_of_breakdown` says that the failure leads past these.
* `alternatives_record_open_tags` puts this together for whole texts.
-/

namespace TagScript

open TagScript.Parser Lexeme Markup Grammar

namespace Markup

variable {limit limit' : Nat} {cs : List Char} {tag : OpenTag} {tags : List OpenTag}

/-! ### Open tags in the text -/

/-- Every open tag stands in the text, with the mark `>` behind its name. -/
theorem OpenTags.exists_of_mem (h : OpenTags limit cs tags) (htag : tag ∈ tags) :
    ∃ front rest, cs = front ++ '<' :: tag.name.text.toList ++ '>' :: rest ∧
      Legal tag.name.text.toList ∧ tag.stop = (front ++ '<' :: tag.name.text.toList).length := by
  induction h with
  | top => cases htag
  | @into cs ds n tags es _ hn _ _ ih =>
    rcases List.mem_cons.1 htag with rfl | htag
    · exact ⟨cs, ds, by simp [openingText], hn, rfl⟩
    · obtain ⟨front, rest, rfl, hlegal, hstop⟩ := ih htag
      exact ⟨front, rest ++ openingText n.text.toList ++ ds, by simp, hlegal, hstop⟩

theorem OpenTags.stop_lt (h : OpenTags limit cs tags) (htag : tag ∈ tags) :
    tag.stop < cs.length := by
  obtain ⟨front, rest, rfl, -, hstop⟩ := h.exists_of_mem htag
  simp only [hstop, List.length_append, List.length_cons]
  omega

/-- Containers further in open further on. -/
theorem OpenTags.pairwise_stops (h : OpenTags limit cs tags) :
    (OpenTag.stops tags).Pairwise (· < ·) := by
  induction h with
  | top => exact List.Pairwise.nil
  | @into cs _ n _ _ h _ _ _ ih =>
    rw [OpenTag.stops_cons, List.pairwise_append]
    refine ⟨ih, List.pairwise_singleton _ _, ?_⟩
    intro k hk last hlast
    obtain ⟨tag, htag, rfl⟩ := List.mem_map.1 hk
    obtain rfl := List.mem_singleton.1 hlast
    calc
      tag.stop < cs.length := h.stop_lt (List.mem_reverse.1 htag)
      _ ≤ (cs ++ '<' :: n.text.toList).length := by simp

theorem OpenTags.mono (h : OpenTags limit cs tags) (hle : limit ≤ limit') :
    OpenTags limit' cs tags := by
  induction h with
  | top hes hdepth => exact .top hes (Nat.le_trans hdepth hle)
  | into _ hn hes hdepth ih => exact .into ih hn hes (Nat.le_trans hdepth hle)

end Markup

namespace Grammar

variable {limit : Nat} {cs : List Char} {tags : List OpenTag} {start p : Position}

theorem ClosingReading.alternatives_eq_nil {name : String} {origin : Position} {failed : Failure}
    (h : ClosingReading name p (.failure origin failed)) : failed.alternatives = [] := by
  cases h <;> rfl

/-- Where a failure to read a closing tag is found, reading it does fail. -/
theorem ClosingReading.exists_failure {n : Name} {origin : Position} {failed : Failure}
    (h : ClosingReading n.text p (.failure origin failed)) :
    ∃ failed', closeTag n.text p = .ok (.failure p failed') ∧ failed'.alternatives = [] := by
  have hfails : ∃ failed', closeTag n.text p = .ok (.failure p failed') := by
    cases h with
    | mismatch hne hm hpasses =>
      obtain ⟨failed', hclose, -⟩ := closeTag_of_other hm (fun heq => hne (by rw [heq])) hpasses
      exact ⟨failed', hclose⟩
    | unopened hopening => exact closeTag_of_not_prefixed n.text hopening
    | nameless _ hpasses hstarts =>
      obtain ⟨cause, htag⟩ := tag_nameless "</" ">" hpasses hstarts
      simp only [closeTag, closingName, htag]
      exact ⟨_, rfl⟩
    | unfinished hpasses hm hgt =>
      simp only [closeTag, closingName, tag_unfinished "</" ">" hpasses hm hgt]
      exact ⟨_, rfl⟩
  obtain ⟨failed', hclose⟩ := hfails
  obtain ⟨outcome, hreading, hclosing⟩ := closeTag_reading n.text p
  rw [hclose] at hreading
  cases hreading
  exact ⟨failed', hclose, hclosing.alternatives_eq_nil⟩

/-- At the end of a text that leaves containers open, reading fails past each open tag; where none
is left open, it does not fail. -/
theorem topLevelElements_at_end (hlimit : 0 < limit) (h : OpenTags limit cs tags)
    (hpasses : start.Passes cs p) (hend : p.after = []) (hstart : start.offset = 0) :
    ∃ outcome, topLevelElements limit start = .ok outcome ∧
      ((tags = [] ∧ outcome.failure? = none) ∨
        ∃ failed last, outcome.failure? = some failed ∧ failed.Leads (OpenTag.stops tags) last ∧
          last.alternatives = []) := by
  cases tags with
  | nil =>
    cases h with
    | @top _ es hes hdepth =>
      have hread :=
        topLevelElements_of_spaced hlimit hes hdepth hpasses (noClosing_of_end hend) start
      rw [topLevelElements_of_end limit hend] at hread
      rcases hr : topLevelElements limit start with fault | ⟨q, fs⟩ | ⟨q, failed⟩ <;>
        rw [hr] at hread <;> cases hread
      exact ⟨_, rfl, .inl ⟨rfl, rfl⟩⟩
  | cons tag tags =>
    have hblank : ¬ Starts Blank p.after := by simp [hend]
    have hother : ¬ TagBegins p.after := fun hbegins => hbegins.ne_nil hend
    have hunopened : ¬ ['<', '/'] <+: p.after := by simp [hend]
    obtain ⟨failed, hclose, hlast⟩ :=
      (ClosingReading.unopened hunopened).exists_failure (n := tag.name)
    obtain ⟨origin, failed', hread, hleads⟩ :=
      topLevelElements_leads_of_closing hlimit h hpasses hblank hother hclose
    refine ⟨_, hread, .inr ⟨failed', failed, rfl, ?_, hlast⟩⟩
    simpa [hstart] using hleads

end Grammar

namespace Markup

variable {R : List Char → Element → Prop} {limit limit' : Nat} {cs ds rest : List Char}
  {e : Element} {es : List Element} {tags tags' : List OpenTag}

/-- The text determines where the open tags stand: reading it as far as it goes finds them. -/
theorem OpenTags.stops_unique (h : OpenTags limit cs tags) (h' : OpenTags limit' cs tags') :
    OpenTag.stops tags = OpenTag.stops tags' := by
  have hlimit : 0 < max limit limit' + 1 := Nat.succ_pos _
  obtain ⟨p, hpasses, hend⟩ := Position.exists_passes_start cs []
  obtain ⟨outcome, hread, hreport⟩ :=
    topLevelElements_at_end hlimit (h.mono (by omega)) hpasses hend (Position.offset_start _)
  obtain ⟨outcome', hread', hreport'⟩ :=
    topLevelElements_at_end hlimit (h'.mono (by omega)) hpasses hend (Position.offset_start _)
  rw [hread] at hread'
  cases hread'
  rcases hreport with ⟨rfl, hnone⟩ | ⟨failed, last, hsome, hleads, hlast⟩ <;>
    rcases hreport' with ⟨rfl, hnone'⟩ | ⟨failed', last', hsome', hleads', hlast'⟩
  · rfl
  · rw [hnone] at hsome'
    cases hsome'
  · rw [hsome] at hnone'
    cases hnone'
  · rw [hsome] at hsome'
    cases hsome'
    exact hleads.unique hlast hleads' hlast'

/-! ### Texts that break off in a tag -/

/-- The text is empty or ends in `>` or a blank, as it does between two tags. -/
def Ended (cs : List Char) : Prop := ∀ c ∈ cs.getLast?, c = '>' ∨ Blank c

theorem Ended.append (h : Ended cs) (h' : Ended ds) : Ended (cs ++ ds) := by
  intro c hc
  rw [List.getLast?_append, Option.mem_def, Option.or_eq_some_iff] at hc
  rcases hc with hc | ⟨-, hc⟩
  · exact h' c hc
  · exact h c hc

theorem Blanks.ended (h : Blanks cs) : Ended cs := fun c hc => .inr (h c (List.mem_of_getLast? hc))

theorem ended_mark (cs : List Char) : Ended (cs ++ ['>']) := by
  intro c hc
  rw [List.getLast?_concat] at hc
  exact .inl (Option.some.inj hc).symm

theorem Spaced.ended (hR : ∀ {cs e}, R cs e → Ended cs) (h : Spaced R cs es) : Ended cs := by
  induction h with
  | nil hbs => exact hbs.ended
  | cons hbs he _ ih => exact (hbs.ended.append (hR he)).append ih

theorem Derives.ended (h : Derives cs e) : Ended cs := by
  cases h with
  | @selfClosing n _ =>
    have hended := ended_mark ('<' :: n.text.toList ++ ['/'])
    simpa [selfClosingText] using hended
  | @container n ds es _ _ =>
    have hended := ended_mark (openingText n.text.toList ++ ds ++ '<' :: '/' :: n.text.toList)
    simpa [closingText] using hended

theorem DerivesTop.ended (h : DerivesTop cs e) : Ended cs := by
  cases h with
  | element h => exact h.ended
  | @closed n bs _ _ =>
    have hended := ended_mark (selfClosingText n.text.toList ++ bs ++ '<' :: '/' :: n.text.toList)
    simpa [closingText] using hended

theorem OpenTags.ended (h : OpenTags limit cs tags) : Ended cs := by
  induction h with
  | top hes _ => exact hes.ended DerivesTop.ended
  | @into cs ds n tags es _ _ hes _ ih =>
    exact (ih.append (ended_mark ('<' :: n.text.toList))).append (hes.ended Derives.ended)

/-- A tag that has been begun and not ended, if any: `</` and perhaps a name, or `<` and a name. -/
inductive BegunTag : List Char → Prop
  | none : BegunTag []
  | closing {m : List Char} : m = [] ∨ Legal m → BegunTag ('<' :: '/' :: m)
  | opening {m : List Char} : Legal m → BegunTag ('<' :: m)

theorem BegunTag.not_mem (h : BegunTag rest) : ∀ c ∈ rest, ¬ (c = '>' ∨ Blank c) := by
  have hname : ∀ {m : List Char}, Legal m → ∀ c ∈ m, ¬ (c = '>' ∨ Blank c) := by
    rintro m hm c hc (rfl | rfl | rfl | rfl)
    all_goals exact hm.not_mem (by decide) hc
  have hmark : ¬ ('<' = '>' ∨ Blank '<') := by decide
  have hslash : ¬ ('/' = '>' ∨ Blank '/') := by decide
  intro c hc
  cases h with
  | none => cases hc
  | closing hm =>
    rcases List.mem_cons.1 hc with rfl | hc
    · exact hmark
    · rcases List.mem_cons.1 hc with rfl | hc
      · exact hslash
      · rcases hm with rfl | hm
        · cases hc
        · exact hname hm c hc
  | opening hm =>
    rcases List.mem_cons.1 hc with rfl | hc
    · exact hmark
    · exact hname hm c hc

theorem BegunTag.exists_mark (h : BegunTag rest) :
    rest = [] ∨ ∃ xs, rest = '<' :: xs ∧ '<' ∉ xs := by
  cases h with
  | none => exact .inl rfl
  | @closing m hm =>
    refine .inr ⟨'/' :: m, rfl, ?_⟩
    rcases hm with rfl | hm
    · decide
    · exact Document.mark_not_mem_closing hm
  | @opening m hm => exact .inr ⟨m, rfl, hm.not_mem (by decide)⟩

/-- An ended text does not end in a tag that has been begun. -/
theorem Ended.eq_nil_of_append (h : Ended (cs ++ rest)) (hrest : BegunTag rest) : rest = [] := by
  rcases List.eq_nil_or_concat rest with rfl | ⟨front, c, rfl⟩
  · rfl
  · refine absurd (h c ?_) (hrest.not_mem c (by simp))
    simp

/-- The containers of `tags` are open at the end of the text, which may break off in a tag. -/
def OpenAtEnd (limit : Nat) (cs : List Char) (tags : List OpenTag) : Prop :=
  ∃ front rest, cs = front ++ rest ∧ OpenTags limit front tags ∧ BegunTag rest

/-- The text determines where the open tags stand, also if it breaks off in a tag: what has been
begun of that tag is what stands behind the last `<`, or nothing. -/
theorem OpenAtEnd.stops_unique (h : OpenAtEnd limit cs tags) (h' : OpenAtEnd limit' cs tags') :
    OpenTag.stops tags = OpenTag.stops tags' := by
  obtain ⟨front, rest, rfl, htags, hrest⟩ := h
  obtain ⟨front', rest', heq, htags', hrest'⟩ := h'
  have hfront : front = front' := by
    rcases hrest.exists_mark with rfl | ⟨xs, rfl, hxs⟩ <;>
      rcases hrest'.exists_mark with rfl | ⟨ys, rfl, hys⟩
    · simpa using heq
    · rw [List.append_nil] at heq
      have hended := htags.ended
      rw [heq] at hended
      cases hended.eq_nil_of_append hrest'
    · rw [List.append_nil] at heq
      have hended := htags'.ended
      rw [← heq] at hended
      cases hended.eq_nil_of_append hrest
    · exact (Document.mark_unique hxs hys heq).1
  subst hfront
  exact htags.stops_unique htags'

end Markup

namespace Document

variable {limit : Nat} {text : String} {p q r origin : Position} {n : Name} {tag : OpenTag}
  {tags : List OpenTag} {failed : Failure}

/-! ### What a failure leads past -/

/-- The failure says that `>` is missing behind `<` and a name. -/
def MissesEnd (before : List Char) (failed : Failure) : Prop :=
  failed.kind = .expectedLiteral ∧ failed.expected = some ">" ∧
    ∃ m, Legal m ∧ '<' :: m <:+ before

/-- The offset lies behind the name of a tag that opens an element. -/
def BehindName (cs : List Char) (offset : Nat) : Prop :=
  ∃ front m rest, cs = front ++ '<' :: m ++ rest ∧ LongestName m rest ∧
    offset = (front ++ '<' :: m).length

/-- The open tags before a position stand in its text, and so they do behind it. -/
theorem behindName_of_mem {rest : List Char} (h : OpenTags limit p.before.reverse tags)
    (hp : p.Passes rest q) {offset : Nat} (hoffset : offset ∈ OpenTag.stops tags) :
    offset < q.offset ∧ BehindName q.chars offset := by
  obtain ⟨tag, hmem, rfl⟩ := List.mem_map.1 hoffset
  have htag := List.mem_reverse.1 hmem
  obtain ⟨front, rest', hfront, hlegal, hstop⟩ := h.exists_of_mem htag
  constructor
  · have hlt := h.stop_lt htag
    rw [List.length_reverse, ← p.offset_eq] at hlt
    rw [hp.offset]
    omega
  · refine ⟨front, _, '>' :: (rest' ++ p.after), ?_, hlegal.longestName (by decide), hstop⟩
    rw [hp.chars, Position.chars, hfront]
    simp

/-- The offsets are those of the tags that a failure at `q` has to record: the tags open there, and
the opening tag that breaks off there, if there is one. -/
structure Records (q : Position) (failed : Failure) (tags : List OpenTag) (offsets : List Nat) :
    Prop where
  opens : OpenAtEnd nestingLimit q.before.reverse tags
  ne_nil : offsets ≠ []
  ordered : offsets.Pairwise (· < ·)
  behind : ∀ offset ∈ offsets, offset ≤ q.offset ∧ BehindName q.chars offset
  broken : MissesEnd q.before.reverse failed → offsets = OpenTag.stops tags ++ [q.offset]
  unbroken : ¬ MissesEnd q.before.reverse failed → offsets = OpenTag.stops tags

/-- Behind the name of an opening tag that breaks off, this tag is recorded behind the open ones. -/
theorem records_opening (htags : OpenTags nestingLimit p.before.reverse tags)
    (hp : p.Passes ('<' :: n.text.toList) q) (hn : LongestName n.text.toList q.after)
    (hmisses : MissesEnd q.before.reverse failed) :
    Records q failed tags (OpenTag.stops tags ++ [q.offset]) where
  opens := ⟨_, _, hp.reverse_before, htags, .opening hn.legal⟩
  ne_nil := by simp
  ordered := by
    rw [List.pairwise_append]
    refine ⟨htags.pairwise_stops, List.pairwise_singleton _ _, ?_⟩
    intro offset hmem stop hstop
    rw [List.mem_singleton.1 hstop]
    exact (behindName_of_mem htags hp hmem).1
  behind := by
    intro offset hmem
    rcases List.mem_append.1 hmem with hmem | hmem
    · obtain ⟨hlt, hbehind⟩ := behindName_of_mem htags hp hmem
      exact ⟨Nat.le_of_lt hlt, hbehind⟩
    · rw [List.mem_singleton.1 hmem]
      refine ⟨Nat.le_refl _, p.before.reverse, n.text.toList, q.after, ?_, hn, ?_⟩
      · rw [← hp.reverse_before]
        rfl
      · rw [← hp.reverse_before, List.length_reverse, q.offset_eq]
  broken := fun _ => rfl
  unbroken := fun hnot => absurd hmisses hnot

/-- Where a container has to be closed, just the open tags are recorded. -/
theorem records_closing {rest : List Char}
    (htags : OpenTags nestingLimit p.before.reverse (tag :: tags)) (hp : p.Passes rest q)
    (hrest : BegunTag rest) (hmisses : ¬ MissesEnd q.before.reverse failed) :
    Records q failed (tag :: tags) (OpenTag.stops (tag :: tags)) where
  opens := ⟨_, _, hp.reverse_before, htags, hrest⟩
  ne_nil := by simp
  ordered := htags.pairwise_stops
  behind := by
    intro offset hmem
    obtain ⟨hlt, hbehind⟩ := behindName_of_mem htags hp hmem
    exact ⟨Nat.le_of_lt hlt, hbehind⟩
  broken := fun hyes => absurd hyes hmisses
  unbroken := fun _ => rfl

/-- A failure to read a closing tag lies where the tag has been begun, and does not miss the end of
an opening tag. -/
theorem records_of_reading {name : String} {inner : Failure}
    (htags : OpenTags nestingLimit r.before.reverse (tag :: tags))
    (hreading : ClosingReading name r (.failure r inner)) (hechoes : failed.Echoes inner) :
    ∃ q, q.chars = r.chars ∧ failed.offset = q.offset ∧
      Records q failed (tag :: tags) (OpenTag.stops (tag :: tags)) := by
  obtain ⟨tried, rfl⟩ := hechoes
  cases hreading with
  | mismatch =>
    refine ⟨r, rfl, rfl, records_closing htags (Position.passes_nil r) .none ?_⟩
    rintro ⟨hkind, -⟩
    cases hkind
  | unopened =>
    refine ⟨r, rfl, rfl, records_closing htags (Position.passes_nil r) .none ?_⟩
    rintro ⟨-, hexpected, -⟩
    simp [Failure.plain] at hexpected
  | nameless _ hpasses _ =>
    refine ⟨_, hpasses.chars, rfl, records_closing htags hpasses (.closing (.inl rfl)) ?_⟩
    rintro ⟨hkind, -⟩
    cases hkind
  | unfinished hpasses hm _ =>
    refine ⟨_, hpasses.chars, rfl, records_closing htags hpasses (.closing (.inr hm.legal)) ?_⟩
    -- Behind the last `<` stands a slash, not a name.
    rintro ⟨-, -, m, hm', front, hfront⟩
    rw [hpasses.reverse_before] at hfront
    obtain ⟨-, rfl⟩ := mark_unique (hm'.not_mem (by decide)) (mark_not_mem_closing hm.legal) hfront
    exact hm'.not_mem (c := '/') (by decide) List.mem_cons_self

/-- Where an element breaks off, the failure leads past the tags that it has to record. -/
theorem leads_of_breakdown
    (hread : topLevelElements nestingLimit (.start text) = .ok (.failure origin failed))
    (hr : r.chars = text.toList) (h : Breakdown nestingLimit r failed) :
    ∃ q tags offsets last, q.chars = text.toList ∧ failed.offset = q.offset ∧
      Records q failed tags offsets ∧ failed.Leads offsets last ∧ last.alternatives = [] := by
  cases h with
  | @tag ns n p hopen hpasses hn hslash hgt hechoes =>
    obtain ⟨tags, htags, -⟩ := hopen.exists_openTags
    obtain ⟨room, hroom⟩ := Nat.exists_eq_add_of_le htags.length_le
    have hbegins : TagBegins p.after := by
      rw [hpasses.after]
      exact ⟨_, rfl, hn.legal.starts _⟩
    have hstart := Position.passes_before (hpasses.chars.symm.trans hr)
    obtain ⟨origin', failed', hread', hleads⟩ := topLevelElements_leads (by decide) htags hroom.symm
      hstart hbegins (element_of_broken room hpasses hn hslash hgt)
    rw [hread] at hread'
    cases hread'
    have hlast : ({ unended r with alternatives := [unslashed r, unended r] } : Failure).Leads
        [r.offset] (unended r) :=
      .step rfl (missesSlash_unslashed r) ⟨_, rfl⟩ (.refl _)
    have hrecord : failed.Leads (OpenTag.stops tags ++ [r.offset]) (unended r) := by
      simpa using hleads.trans hlast
    obtain ⟨tried, rfl⟩ := hechoes
    have hmisses : MissesEnd r.before.reverse { unended r with alternatives := tried } :=
      ⟨rfl, rfl, _, hn.legal, _, hpasses.reverse_before.symm⟩
    exact ⟨r, tags, _, _, hr, rfl, records_opening htags hpasses hn hmisses, hrecord, rfl⟩
  | @closing n ns inner hopen hblank hother hreading hechoes =>
    obtain ⟨tags, htags, hnames⟩ := hopen.exists_openTags
    obtain ⟨tag, tags, rfl, rfl, -⟩ := List.map_eq_cons_iff.1 hnames
    obtain ⟨last, hclose, hlast⟩ := hreading.exists_failure
    obtain ⟨origin', failed', hread', hleads⟩ := topLevelElements_leads_of_closing (by decide) htags
      (Position.passes_before hr) hblank hother hclose
    rw [hread] at hread'
    cases hread'
    have hrecord : failed.Leads (OpenTag.stops (tag :: tags)) last := by simpa using hleads
    obtain ⟨q, hq, hoffset, hrecords⟩ := records_of_reading htags hreading hechoes
    exact ⟨q, _, _, last, hq.trans hr, hoffset, hrecords, hrecord, hlast⟩

/-- **The alternatives of a failure record the open tags.** Where an element of a document breaks
off, going from the reported failure to the second alternative again and again meets only failures
that repeat it, each with two alternatives, until one without any. The first alternatives on the way
miss `/>` behind the names of the containers that are open where the failure lies, from the
outermost to the innermost, and at last behind the name of the tag that breaks off, if that is an
opening one. -/
theorem alternatives_record_open_tags (h : tryParse text = .ok (.failure p failed))
    (htrailing : failed.kind ≠ .trailingInput) (hdeep : failed.kind ≠ .nestingTooDeep) :
    ∃ before after tags offsets last,
      text.toList = before ++ after ∧ failed.offset = before.length ∧
      failed.Leads offsets last ∧ last.alternatives = [] ∧
      offsets ≠ [] ∧ offsets.Pairwise (· < ·) ∧
      (∀ offset ∈ offsets, offset ≤ before.length ∧ BehindName text.toList offset) ∧
      OpenAtEnd nestingLimit before tags ∧
      (∀ limit tags', OpenAtEnd limit before tags' → OpenTag.stops tags' = OpenTag.stops tags) ∧
      (MissesEnd before failed → offsets = OpenTag.stops tags ++ [before.length]) ∧
      (¬ MissesEnd before failed → offsets = OpenTag.stops tags) := by
  obtain ⟨-, origin, hread⟩ := topLevelElements_of_failure h
  obtain ⟨here, cs, es, hpasses, hcs, hdepth, -, hfailure⟩ :=
    topLevelElements_breakdown (by decide) hread
  cases hfailure with
  | deep => exact absurd rfl hdeep
  | trailing => exact absurd rfl htrailing
  | broken hbegins hfailed =>
    have hopen : Unclosed nestingLimit here.before.reverse [] :=
      .top (hpasses.reverse_before ▸ hcs) hdepth
    obtain ⟨r, hr, hbreakdown⟩ := element_breakdown hopen (by simp) hbegins hfailed
    obtain ⟨q, tags, offsets, last, hq, hoffset, hrecords, hleads, hlast⟩ :=
      leads_of_breakdown hread (hr.trans hpasses.chars) hbreakdown
    have hlength : q.offset = q.before.reverse.length := by rw [List.length_reverse, q.offset_eq]
    refine ⟨q.before.reverse, q.after, tags, offsets, last, hq.symm, ?_, hleads, hlast,
      hrecords.ne_nil, hrecords.ordered, ?_, hrecords.opens,
      fun _ _ hopens => hopens.stops_unique hrecords.opens, ?_, hrecords.unbroken⟩
    · rw [hoffset, hlength]
    · rw [← hlength, ← hq]
      exact hrecords.behind
    · rw [← hlength]
      exact hrecords.broken

/-- In `<a> <b><c` the failure to find `>` at the end records the two containers that are open there
and the tag that breaks off. -/
theorem open_tags_recorded_at_broken_tag :
    ∃ p failed last, tryParse "<a> <b><c" = .ok (.failure p failed) ∧
      failed.kind = .expectedLiteral ∧ failed.offset = 9 ∧ failed.Leads [2, 6, 9] last ∧
      last.alternatives = [] := by
  have hview : ((tryParse "<a> <b><c").toOption.bind Outcome.failure?).map
      (fun failed => (failed.kind, failed.offset, failed.expected)) =
        some (.expectedLiteral, 9, some ">") := by decide +kernel
  obtain ⟨p, failed, hfails, hfailed⟩ := Outcome.exists_of_failure? hview
  obtain ⟨hkind, hfailed⟩ := Prod.mk.inj hfailed
  obtain ⟨hoffset, hexpected⟩ := Prod.mk.inj hfailed
  obtain ⟨before, after, tags, offsets, last, htext, hlength, hleads, hlast, -, -, -, -, hunique,
      hbroken, -⟩ :=
    alternatives_record_open_tags hfails (by rw [hkind]; decide) (by rw [hkind]; decide)
  have hnine : "<a> <b><c".toList.length = before.length := by
    have hnine : "<a> <b><c".toList.length = 9 := by decide
    omega
  obtain ⟨rfl, -⟩ : "<a> <b><c".toList = before ∧ [] = after :=
    List.append_inj (by simpa using htext) hnine
  let a : Name := ⟨"a", by decide⟩
  let b : Name := ⟨"b", by decide⟩
  have hblank : Blanks [' '] := by simp [Blanks, Blank]
  have hnone : OpenTags nestingLimit [] [] := .top (.nil blanks_nil) (by decide)
  have houter := OpenTags.into (n := a) hnone (by decide) (.nil hblank) (by decide)
  have hinner := OpenTags.into (n := b) houter (by decide) (.nil blanks_nil) (by decide)
  have hopens : OpenAtEnd nestingLimit "<a> <b><c".toList _ :=
    ⟨_, ['<', 'c'], by decide, hinner, .opening (by decide)⟩
  have hmisses : MissesEnd "<a> <b><c".toList failed :=
    ⟨hkind, hexpected, ['c'], by decide, "<a> <b>".toList, by decide⟩
  have hstops : offsets = [2, 6, 9] := by
    rw [hbroken hmisses, ← hunique _ _ hopens, ← hnine]
    decide
  exact ⟨p, failed, last, hfails, hkind, hoffset, hstops ▸ hleads, hlast⟩

end Document

end TagScript
