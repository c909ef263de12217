import TagScript.Console
import TagScript.Proofs.FieldMap
import TagScript.Proofs.Switches

/-!
# Overriding settings

* `Agree` says that two lists of fields are read in the same way, setting by setting. Building them
  then has the `SameResult`, where only fields that are no settings may be reported in another
  order, and an equal one just if they are not (`Agree.build_eq_iff`).
* `Passable` says which fields can be passed as updates.
* `agree_of_override`: laying fields over settings that came from fields is like laying them over
  these fields, since settings are read back from their own fields (`reads_toFields`).
* `override_override` and `override_override_eq_iff`: two overrides have the same result as one, and
  an equal one just if names that are no settings come in the same order.
* `override_takes`, `override_unchanged`: an override that succeeds takes the updates that are
  present, and nothing else changes.
* `overrides_compose_and_keep_validity` puts together what overriding does, and
  `reported_order_differs_behind_absent_field` shows that the order of what is reported matters.
-/

namespace TagScript.Settings

variable {fields others u₁ u₂ merged : Fields} {s s' s₁ : Settings}

/-! ### Building -/

/-- Settings are read back from their own fields. -/
theorem reads_toFields (s : Settings) : Reads s.toFields s :=
  (Reads.of_build (override_nil s)).1

/-- The issues of the settings, in their order. -/
def knownIssues (fields : Fields) : List Issue :=
  issueOf (field fields "log_level" default.logLevel readLevel) ++
    issueOf (field fields "output_format" default.outputFormat readFormat) ++
    issueOf (field fields "dry_run" default.dryRun readSwitch) ++
    issueOf (field fields "stop_on_error" default.stopOnError readSwitch)

theorem field_of_mem_issueOf {α : Type} {key : String} {absent : α} {read : Datum → Except Rule α}
    {issue : Issue} (h : issue ∈ issueOf (field fields key absent read)) : issue.field = key := by
  unfold field at h
  split at h
  · cases h
  · split at h
    · cases h
    · simp only [issueOf, List.mem_singleton] at h
      rw [h]

/-- An issue of the settings names one of them. -/
theorem field_of_mem_knownIssues {issue : Issue} (h : issue ∈ knownIssues fields) :
    issue.field ∈ keys := by
  simp only [knownIssues, List.mem_append] at h
  obtain ((h | h) | h) | h := h <;> simp [field_of_mem_issueOf h, keys]

theorem field_of_mem_extras {issue : Issue} (h : issue ∈ extras fields) : issue.field ∉ keys := by
  simp only [extras, List.mem_map, List.mem_filter] at h
  obtain ⟨f, ⟨-, hf⟩, rfl⟩ := h
  simpa using hf

theorem build_of_extras (h : extras fields ≠ []) :
    build fields = .error (knownIssues fields ++ extras fields) := by
  unfold build
  dsimp only
  split
  · next hextras => exact absurd hextras h
  · rfl

/-! ### Fields that are read in the same way -/

/-- Each of the settings is read in the same way from both fields. -/
structure Agree (fields others : Fields) : Prop where
  level : field fields "log_level" default.logLevel readLevel =
    field others "log_level" default.logLevel readLevel
  format : field fields "output_format" default.outputFormat readFormat =
    field others "output_format" default.outputFormat readFormat
  dry : field fields "dry_run" default.dryRun readSwitch =
    field others "dry_run" default.dryRun readSwitch
  stop : field fields "stop_on_error" default.stopOnError readSwitch =
    field others "stop_on_error" default.stopOnError readSwitch

/-- The same settings, or the same issues: first those of settings, then those of other fields, in
an order of their own. -/
inductive SameResult : Except (List Issue) Settings → Except (List Issue) Settings → Prop
  | same (result : Except (List Issue) Settings) : SameResult result result
  | reordered {known unknown unknown' : List Issue} (hknown : ∀ issue ∈ known, issue.field ∈ keys)
      (hunknown : ∀ issue ∈ unknown, issue.field ∉ keys) (hperm : unknown.Perm unknown') :
      SameResult (.error (known ++ unknown)) (.error (known ++ unknown'))

theorem Agree.build_eq (h : Agree fields others) (hextras : extras fields = extras others) :
    build fields = build others := by
  unfold build
  rw [h.level, h.format, h.dry, h.stop, hextras]

/-- Fields that agree either have the same result, or both have fields that are no settings, behind
the same issues of settings. -/
theorem Agree.build_cases (h : Agree fields others) (hperm : (extras fields).Perm (extras others)) :
    (extras fields = extras others ∧ build fields = build others) ∨
      ∃ known, (∀ issue ∈ known, issue.field ∈ keys) ∧
        build fields = .error (known ++ extras fields) ∧
        build others = .error (known ++ extras others) := by
  by_cases hnil : extras fields = []
  · have hsame : extras fields = extras others := hnil.trans (List.nil_perm.1 (hnil ▸ hperm)).symm
    exact .inl ⟨hsame, h.build_eq hsame⟩
  · have hnil' : extras others ≠ [] := fun heq => hnil (List.perm_nil.1 (heq ▸ hperm))
    have hknown : knownIssues fields = knownIssues others := by
      rw [knownIssues, h.level, h.format, h.dry, h.stop, knownIssues]
    refine .inr ⟨_, fun _ => field_of_mem_knownIssues, build_of_extras hnil, ?_⟩
    rw [build_of_extras hnil', hknown]

theorem Agree.sameResult (h : Agree fields others)
    (hperm : (extras fields).Perm (extras others)) : SameResult (build fields) (build others) := by
  obtain ⟨-, hsame⟩ | ⟨known, hknown, hbuild, hbuild'⟩ := h.build_cases hperm
  · rw [hsame]
    exact .same _
  · rw [hbuild, hbuild']
    exact .reordered hknown (fun _ => field_of_mem_extras) hperm

theorem Agree.build_eq_iff (h : Agree fields others)
    (hperm : (extras fields).Perm (extras others)) :
    build fields = build others ↔ extras fields = extras others := by
  obtain ⟨hextras, hsame⟩ | ⟨known, -, hbuild, hbuild'⟩ := h.build_cases hperm
  · simp only [hextras, hsame]
  · rw [hbuild, hbuild', Except.error.injEq, List.append_cancel_left_eq]

/-- Whether a setting is read from what lies on top or from below depends on what lies on top
only. -/
theorem field_eq_of_lookup_or {α : Type} {key : String} {absent : α} {read : Datum → Except Rule α}
    {lower lower' : Fields} {upper : Option Datum}
    (hfields : fields.lookup key = upper.or (lower.lookup key))
    (hothers : others.lookup key = upper.or (lower'.lookup key))
    (hlower : field lower key absent read = field lower' key absent read) :
    field fields key absent read = field others key absent read := by
  cases upper with
  | none => simpa only [field, hfields, hothers, Option.none_or] using hlower
  | some d => simp only [field, hfields, hothers, Option.some_or]

/-- Fields that read as the same settings can stand for each other below others. -/
theorem Reads.agree {lower lower' : Fields} {upper : String → Option Datum}
    (hlower : Reads lower s) (hlower' : Reads lower' s)
    (hfields : ∀ key, fields.lookup key = (upper key).or (lower.lookup key))
    (hothers : ∀ key, others.lookup key = (upper key).or (lower'.lookup key)) :
    Agree fields others where
  level := field_eq_of_lookup_or (hfields _) (hothers _) (hlower.level.trans hlower'.level.symm)
  format := field_eq_of_lookup_or (hfields _) (hothers _) (hlower.format.trans hlower'.format.symm)
  dry := field_eq_of_lookup_or (hfields _) (hothers _) (hlower.dry.trans hlower'.dry.symm)
  stop := field_eq_of_lookup_or (hfields _) (hothers _) (hlower.stop.trans hlower'.stop.symm)

/-! ### Updates -/

/-- The fields can be passed as updates: each name occurs once, and none is reserved. The name
`self` is reserved wherever it stands, and `cls` where its datum is present, since absent fields are
dropped first. -/
structure Passable (updates : Fields) : Prop where
  distinct : updates.Distinct
  notSelf : "self" ∉ updates.map Prod.fst
  notCls : "cls" ∉ updates.present.map Prod.fst

instance (updates : Fields) : Decidable (Passable updates) :=
  decidable_of_iff (updates.Distinct ∧ "self" ∉ updates.map Prod.fst ∧
    "cls" ∉ updates.present.map Prod.fst)
    ⟨fun ⟨hdistinct, hself, hcls⟩ => ⟨hdistinct, hself, hcls⟩,
      fun ⟨hdistinct, hself, hcls⟩ => ⟨hdistinct, hself, hcls⟩⟩

/-- Updates laid over others can be passed as well. -/
theorem Passable.put (h₁ : Passable u₁) (h₂ : Passable u₂)
    (hmerged : merged.Perm (u₁.put u₂.present)) : Passable merged where
  distinct := (h₁.distinct.put u₂.present).of_perm hmerged
  notSelf := by
    have hpresent : "self" ∉ u₂.present.map Prod.fst :=
      fun hmem => h₂.notSelf ((List.filter_sublist.map Prod.fst).subset hmem)
    rw [← Fields.lookup_eq_none_iff, (h₁.distinct.put u₂.present).lookup_of_perm hmerged,
      h₁.distinct.lookup_put h₂.distinct.present, (Fields.lookup_eq_none_iff _ _).2 hpresent,
      (Fields.lookup_eq_none_iff _ _).2 h₁.notSelf, Option.or_none]
  notCls := by
    rw [← Fields.lookup_eq_none_iff, h₁.distinct.lookup_present_put h₂.distinct hmerged,
      (Fields.lookup_eq_none_iff _ _).2 h₂.notCls, (Fields.lookup_eq_none_iff _ _).2 h₁.notCls,
      Option.or_none]

/-! ### One override -/

theorem distinct_toFields (s : Settings) : s.toFields.Distinct := by
  simp [Fields.Distinct, toFields]

theorem lookup_override (s : Settings) (h : fields.Distinct) (key : String) :
    (s.toFields.put fields.present).lookup key =
      (fields.present.lookup key).or (s.toFields.lookup key) :=
  s.distinct_toFields.lookup_put h.present key

/-- Settings have no fields that are no settings, so that only those of updates are reported. -/
theorem extras_override (s : Settings) (h : fields.Distinct) :
    extras (s.toFields.put fields.present) = extras fields.present := by
  have hnew : ∀ update ∈ fields.present, (!keys.contains update.1) = true →
      update.1 ∉ s.toFields.map Prod.fst := by
    intro update _ hunknown
    simpa [keys, toFields] using hunknown
  have hnone : s.toFields.filter (fun field => !keys.contains field.1) = [] := by
    simp [toFields, keys]
  unfold extras
  rw [s.distinct_toFields.filter_put (fun key => !keys.contains key) h.present hnew, hnone,
    List.nil_append]

/-- The fields that are no settings. -/
def unknown (fields : Fields) : Fields := fields.filter fun field => !keys.contains field.1

theorem mem_unknown {update : String × Datum} :
    update ∈ unknown fields ↔ update ∈ fields ∧ update.1 ∉ keys := by
  simp [unknown]

theorem extras_eq_map_unknown (fields : Fields) :
    extras fields = (unknown fields).map fun field => ⟨field.1, none, .extraForbidden, field.2⟩ :=
  rfl

theorem names_extras (fields : Fields) :
    (extras fields).map (·.field) = (unknown fields).map Prod.fst := by
  rw [extras_eq_map_unknown, List.map_map]
  rfl

/-- An override that succeeds has no fields but settings. -/
theorem unknown_present_of_override (hdistinct : fields.Distinct) (h : s.override fields = .ok s') :
    unknown fields.present = [] := by
  have hextras := (Reads.of_build h).2
  rwa [extras_override s hdistinct, extras_eq_map_unknown, List.map_eq_nil_iff] at hextras

/-- Updates that are all absent change nothing. -/
theorem override_of_absent (s : Settings) (h : ∀ update ∈ fields, update.2 = .null) :
    s.override fields = .ok s := by
  have hpresent : fields.present = [] := by
    apply List.filter_eq_nil_iff.2
    intro update hupdate
    simp [h update hupdate, Datum.isNull]
  rw [override, hpresent]
  exact override_nil s

/-- The name is that of a setting, and the setting is what the datum is read as. -/
structure Takes (s : Settings) (key : String) (d : Datum) : Prop where
  known : key ∈ keys
  level : key = "log_level" → readLevel d = .ok s.logLevel
  format : key = "output_format" → readFormat d = .ok s.outputFormat
  dry : key = "dry_run" → readSwitch d = .ok s.dryRun
  stop : key = "stop_on_error" → readSwitch d = .ok s.stopOnError

theorem read_of_field {α : Type} {key : String} {absent v : α} {read : Datum → Except Rule α}
    {d : Datum} (hlookup : fields.lookup key = some d) (h : field fields key absent read = .ok v) :
    read d = .ok v := by
  simp only [field, hlookup] at h
  split at h
  · next hread =>
    cases h
    exact hread
  · cases h

/-- Settings take what stands in the fields they are read from. -/
theorem Reads.takes (h : Reads fields s) {key : String} {d : Datum} (hkey : key ∈ keys)
    (hlookup : fields.lookup key = some d) : Takes s key d where
  known := hkey
  level hname := read_of_field (hname ▸ hlookup) h.level
  format hname := read_of_field (hname ▸ hlookup) h.format
  dry hname := read_of_field (hname ▸ hlookup) h.dry
  stop hname := read_of_field (hname ▸ hlookup) h.stop

/-- Settings that take the same datum agree on what they take it for. -/
theorem Takes.lookup_toFields_eq {key : String} {d : Datum} (h : Takes s key d)
    (h' : Takes s' key d) : s.toFields.lookup key = s'.toFields.lookup key := by
  have hkey := h.known
  simp only [keys, List.mem_cons, List.not_mem_nil, or_false] at hkey
  obtain rfl | rfl | rfl | rfl := hkey
  · have hlevel := (h.level rfl).symm.trans (h'.level rfl)
    simp [toFields, Except.ok.inj hlevel]
  · have hformat := (h.format rfl).symm.trans (h'.format rfl)
    simp [toFields, List.lookup_cons, Except.ok.inj hformat]
  · have hdry := (h.dry rfl).symm.trans (h'.dry rfl)
    simp [toFields, List.lookup_cons, Except.ok.inj hdry]
  · have hstop := (h.stop rfl).symm.trans (h'.stop rfl)
    simp [toFields, List.lookup_cons, Except.ok.inj hstop]

theorem lookup_toFields_eq_none_iff (s : Settings) (key : String) :
    s.toFields.lookup key = none ↔ key ∉ keys :=
  Fields.lookup_eq_none_iff s.toFields key

/-- Every update that is present is taken. -/
theorem override_takes (hdistinct : fields.Distinct) (h : s.override fields = .ok s')
    {key : String} {d : Datum} (hmem : (key, d) ∈ fields) (hd : d ≠ .null) : Takes s' key d := by
  have hpresent : (key, d) ∈ fields.present := by
    refine Fields.mem_present.2 ⟨hmem, ?_⟩
    cases d with
    | null => exact absurd rfl hd
    | _ => rfl
  have hknown : key ∈ keys := by
    by_contra hkey
    have hunknown := mem_unknown.2 ⟨hpresent, hkey⟩
    rw [unknown_present_of_override hdistinct h] at hunknown
    cases hunknown
  apply (Reads.of_build h).1.takes hknown
  rw [lookup_override s hdistinct, hdistinct.present.lookup_eq_some_iff.2 hpresent, Option.some_or]

/-- A setting without an update that is present stays as it is. -/
theorem override_unchanged (hdistinct : fields.Distinct) (h : s.override fields = .ok s')
    {key : String} (hkey : ∀ update ∈ fields, update.1 = key → update.2 = .null) :
    s'.toFields.lookup key = s.toFields.lookup key := by
  have hpresent : fields.present.lookup key = none := by
    rw [hdistinct.lookup_present, Option.filter_eq_none_iff]
    intro d hd
    have hnull : d = .null := hkey (key, d) (hdistinct.lookup_eq_some_iff.1 hd) rfl
    simp [hnull, Datum.isNull]
  have hlookup : (s.toFields.put fields.present).lookup key = s.toFields.lookup key := by
    rw [lookup_override s hdistinct, hpresent, Option.none_or]
  cases hd : s.toFields.lookup key with
  | none => rwa [lookup_toFields_eq_none_iff] at hd ⊢
  | some d =>
    -- Both settings are read from the datum that stands under the name.
    have hknown : key ∈ keys := by
      by_contra hkey
      rw [(lookup_toFields_eq_none_iff s key).2 hkey] at hd
      cases hd
    have htakes : Takes s key d := (reads_toFields s).takes hknown hd
    have htakes' : Takes s' key d := (Reads.of_build h).1.takes hknown (hlookup.trans hd)
    rw [htakes'.lookup_toFields_eq htakes, hd]

/-! ### Two overrides -/

/-- Behind the second updates lies what the first ones made of the settings. -/
theorem lookup_override_merged (s : Settings) (h₁ : u₁.Distinct) (h₂ : u₂.Distinct)
    (hmerged : merged.Perm (u₁.put u₂.present)) (key : String) :
    (s.toFields.put merged.present).lookup key =
      (u₂.present.lookup key).or ((s.toFields.put u₁.present).lookup key) := by
  have hdistinct : merged.Distinct := (h₁.put u₂.present).of_perm hmerged
  rw [lookup_override s hdistinct, h₁.lookup_present_put h₂ hmerged, Option.or_assoc,
    lookup_override s h₁]

/-- Settings that came from an override stand for the fields of this override. -/
theorem agree_of_override (h₁ : u₁.Distinct) (h₂ : u₂.Distinct)
    (hmerged : merged.Perm (u₁.put u₂.present)) (h : s.override u₁ = .ok s₁) :
    Agree (s₁.toFields.put u₂.present) (s.toFields.put merged.present) :=
  (reads_toFields s₁).agree (Reads.of_build h).1 (lookup_override s₁ h₂)
    (lookup_override_merged s h₁ h₂ hmerged)

theorem lookup_present_of_unknown (hdistinct : fields.Distinct) (h : unknown fields.present = [])
    {key : String} (hkey : key ∉ keys) : fields.present.lookup key = none := by
  apply Option.eq_none_iff_forall_not_mem.2
  intro d hd
  have hmem : (key, d) ∈ unknown fields.present :=
    mem_unknown.2 ⟨hdistinct.present.lookup_eq_some_iff.1 hd, hkey⟩
  rw [h] at hmem
  cases hmem

/-- The second updates bring all fields that are no settings. -/
theorem unknown_merged_perm (h₁ : u₁.Distinct) (h₂ : u₂.Distinct)
    (hmerged : merged.Perm (u₁.put u₂.present)) (h : unknown u₁.present = []) :
    (unknown u₂.present).Perm (unknown merged.present) := by
  have hdistinct : merged.Distinct := (h₁.put u₂.present).of_perm hmerged
  apply (List.perm_ext_iff_of_nodup (h₂.present.nodup.filter _)
    (hdistinct.present.nodup.filter _)).2
  rintro ⟨key, d⟩
  change (key, d) ∈ unknown u₂.present ↔ (key, d) ∈ unknown merged.present
  rw [mem_unknown, mem_unknown, ← h₂.present.lookup_eq_some_iff,
    ← hdistinct.present.lookup_eq_some_iff, h₁.lookup_present_put h₂ hmerged]
  refine and_congr_left fun hkey => ?_
  rw [lookup_present_of_unknown h₁ h hkey, Option.or_none]

/-- The fields that are no settings stand in alphabetical order. -/
def Alphabetical (fields : Fields) : Prop := (unknown fields).Pairwise fun a b => a.1 < b.1

instance (fields : Fields) : Decidable (Alphabetical fields) :=
  inferInstanceAs (Decidable (List.Pairwise _ _))

theorem Alphabetical.present (h : Alphabetical fields) : Alphabetical fields.present :=
  List.Pairwise.sublist (List.filter_sublist.filter _) h

theorem Alphabetical.unknown_eq (h : Alphabetical fields) (hothers : Alphabetical others)
    (hperm : (unknown fields).Perm (unknown others)) : unknown fields = unknown others :=
  hperm.eq_of_pairwise (fun _ _ _ _ hlt hgt => absurd hgt (String.lt_asymm hlt)) h hothers

/-- Where no name but that of a setting stands in both updates, those that are new come in the order
of the second ones. -/
theorem unknown_put (h₁ : u₁.Distinct) (h₂ : u₂.Distinct) (h : unknown u₁.present = [])
    (hnew : ∀ key ∈ u₁.map Prod.fst, key ∈ u₂.map Prod.fst → key ∈ keys) :
    unknown u₂.present = unknown (u₁.put u₂.present).present := by
  have hfilter : unknown (u₁.put u₂.present) = unknown u₁ ++ unknown u₂.present := by
    apply h₁.filter_put (fun key => !keys.contains key) h₂.present
    intro update hupdate hunknown hmem
    have hmem₂ : update.1 ∈ u₂.map Prod.fst := List.mem_map_of_mem (Fields.mem_present.1 hupdate).1
    simp [hnew update.1 hmem hmem₂] at hunknown
  have hcomm : ∀ fields : Fields, unknown fields.present = (unknown fields).present :=
    fun fields => List.filter_comm _ _ fields
  have hidem : u₂.present.present = u₂.present := by simp [Fields.present]
  calc unknown u₂.present
      = unknown u₁.present ++ unknown u₂.present.present := by rw [h, hidem, List.nil_append]
    _ = (unknown u₁ ++ unknown u₂.present).present := by
        rw [hcomm, hcomm]
        exact (List.filter_append _ _).symm
    _ = unknown (u₁.put u₂.present).present := by rw [← hfilter, ← hcomm]

/-- Both ways report the same fields that are no settings. -/
theorem extras_override_perm (h₁ : u₁.Distinct) (h₂ : u₂.Distinct)
    (hmerged : merged.Perm (u₁.put u₂.present)) (h : s.override u₁ = .ok s₁) :
    (extras (s₁.toFields.put u₂.present)).Perm (extras (s.toFields.put merged.present)) := by
  have hdistinct : merged.Distinct := (h₁.put u₂.present).of_perm hmerged
  rw [extras_override s₁ h₂, extras_override s hdistinct]
  exact (unknown_merged_perm h₁ h₂ hmerged (unknown_present_of_override h₁ h)).map _

theorem override_override (h₁ : u₁.Distinct) (h₂ : u₂.Distinct)
    (hmerged : merged.Perm (u₁.put u₂.present)) (h : s.override u₁ = .ok s₁) :
    SameResult (s₁.override u₂) (s.override merged) :=
  (agree_of_override h₁ h₂ hmerged h).sameResult (extras_override_perm h₁ h₂ hmerged h)

/-- The results are equal just if the names that are no settings come in the same order. -/
theorem override_override_eq_iff (h₁ : u₁.Distinct) (h₂ : u₂.Distinct)
    (hmerged : merged.Perm (u₁.put u₂.present)) (h : s.override u₁ = .ok s₁) :
    s₁.override u₂ = s.override merged ↔
      (unknown u₂.present).map Prod.fst = (unknown merged.present).map Prod.fst := by
  have hdistinct : merged.Distinct := (h₁.put u₂.present).of_perm hmerged
  have hunknown := unknown_merged_perm h₁ h₂ hmerged (unknown_present_of_override h₁ h)
  have hperm := extras_override_perm h₁ h₂ hmerged h
  rw [override, override, (agree_of_override h₁ h₂ hmerged h).build_eq_iff hperm,
    extras_override s₁ h₂, extras_override s hdistinct]
  constructor
  · intro hextras
    rw [← names_extras, hextras, names_extras]
  · intro hnames
    have hsame : unknown u₂.present = unknown merged.present :=
      (h₂.present.filter _).eq_of_perm hunknown hnames
    rw [extras_eq_map_unknown, hsame, extras_eq_map_unknown]

/-! ### Overrides of the console -/

/-- The word of a format is taken over. -/
theorem override_format (s : Settings) {word : String} {format : OutputFormat}
    (h : OutputFormat.ofWord? word = some format) :
    s.override [("output_format", .str word)] = .ok { s with outputFormat := format } := by
  simp [override, Fields.put, Fields.set, Fields.present, Datum.isNull, toFields, build, field,
    readLevel, readFormat, readSwitch, List.lookup_cons, extras, keys, h]

/-- The options of a subcommand can be passed as updates. -/
theorem passable_updates (command : Console.Subcommand) (options : List Console.Given) :
    Passable (Console.updates command options) := by
  have hnil : Passable [] := by decide
  unfold Console.updates
  cases command with
  | parse => exact hnil
  | commands =>
    dsimp only
    split
    · exact ⟨by simp [Fields.Distinct], by simp, by simp [Fields.present, Datum.isNull]⟩
    · exact hnil
  | run =>
    dsimp only
    cases Console.given options "--dry-run" <;> cases Console.given options "--keep-going" <;>
      decide

/-- The options of a subcommand always give settings. -/
theorem override_updates (s : Settings) (command : Console.Subcommand)
    {options : List Console.Given} (h : Console.checkFormat options = .ok ()) :
    ∃ s', s.override (Console.updates command options) = .ok s' := by
  cases command with
  | parse => exact ⟨s, override_nil s⟩
  | run => exact ⟨_, override_flags s _ _⟩
  | commands =>
    unfold Console.checkFormat at h
    unfold Console.updates
    dsimp only
    split at h
    · next hnone =>
      rw [hnone]
      exact ⟨s, override_nil s⟩
    · next word hword =>
      split at h
      · next format hformat =>
        rw [hword]
        exact ⟨_, override_format s hformat⟩
      · cases h

end TagScript.Settings

namespace TagScript.Console

theorem crash_runDocument_ne_badSettings (settings : Settings) (script : List Attempt)
    (d : Document) : (runDocument settings script d).crash ≠ some .badSettings := by
  unfold runDocument
  dsimp only
  split <;> simp

theorem crash_perform_ne_badSettings (request : Request) (command : Subcommand)
    (settings : Settings) (source : Source) :
    (perform request command settings source).crash ≠ some .badSettings := by
  unfold perform withDocument
  split
  · simp [Reply.broken]
  · dsimp only
    split
    · cases command with
      | parse => simp [Reply.behind, printTree, Reply.printed]
      | commands => simp [Reply.behind, printCommands, Reply.printed]
      | run => exact crash_runDocument_ne_badSettings settings request.script _
    · simp [Reply.failed]

theorem crash_performOn_ne_badSettings (request : Request) (command : Subcommand)
    (settings : Settings) (opened : Option (String × ByteArray)) (inlineText : Option String) :
    (performOn request command settings opened inlineText).crash ≠ some .badSettings := by
  unfold performOn
  split
  · simp [Reply.misused, Reply.failed]
  · simp [Reply.misused, Reply.failed]
  · exact crash_perform_ne_badSettings request command settings _
  · split
    · exact crash_perform_ne_badSettings request command settings _
    · simp [Reply.broken]

theorem crash_runSubcommand_ne_badSettings (request : Request) (command : Subcommand)
    (settings : Settings) (args : List String) :
    (runSubcommand request command settings args).crash ≠ some .badSettings := by
  unfold runSubcommand
  split
  · simp [Reply.misused, Reply.failed]
  · split
    · simp [Reply.printed]
    · split
      · simp [Reply.misused, Reply.failed]
      · next hformat =>
        split
        · simp [Reply.misused, Reply.failed]
        · obtain ⟨settings', hsettings⟩ := settings.override_updates command hformat
          rw [hsettings]
          exact crash_performOn_ne_badSettings request command settings' _ _

theorem crash_informs {options : List Given} {reply : Reply} (h : informs options = some reply) :
    reply.crash = none := by
  obtain ⟨option, -, rfl⟩ := Option.map_eq_some_iff.1 h
  split <;> rfl

theorem crash_refuse (args : List String) (name : String) : (refuse args name).crash = none := by
  unfold refuse
  dsimp only
  split
  · split
    · rfl
    · next options others _ =>
      cases hinforms : informs options with
      | none => rfl
      | some reply => exact crash_informs hinforms
  · rfl

/-- The program does not break on settings: those of the environment and of its own options are
refused in words, and those of the subcommands are always valid. -/
theorem crash_execute_ne_badSettings (request : Request) :
    (execute request).crash ≠ some .badSettings := by
  unfold execute
  split
  · simp [Reply.failed]
  split
  · simp [Reply.misused, Reply.failed]
  split
  · next reply hreply => simp [crash_informs hreply]
  split
  · simp [Reply.misused, Reply.failed]
  split
  · simp [crash_refuse]
  split
  · simp [Reply.misused, Reply.failed]
  · exact crash_runSubcommand_ne_badSettings request _ _ _

end TagScript.Console

namespace TagScript.Settings

/-- **Overriding settings.** All settings can be built from their own fields, and their log level
has one of the known names, with its number. Updates that are absent change nothing. If updates
succeed, further updates have the same result as one override in which they are laid over the first
ones, but for the order in which fields that are no settings are reported. The results are equal
just if the names of these fields come in the same order; so they are if the names stand in
alphabetical order, or if no such name stands in both updates. An override that succeeds takes every
update that is present and leaves the other settings as they are. The options of the subcommands
always succeed, so that the program never breaks on them. -/
theorem overrides_compose_and_keep_validity (s : Settings) :
    build s.toFields = .ok s ∧
    [("CRITICAL", 50), ("FATAL", 50), ("ERROR", 40), ("WARNING", 30), ("WARN", 30), ("INFO", 20),
      ("DEBUG", 10), ("NOTSET", 0)].lookup s.logLevel.name = some s.logLevel.number ∧
    (∀ updates, Passable updates → (∀ update ∈ updates, update.2 = .null) →
      s.override updates = .ok s) ∧
    (∀ u₁ u₂ s₁, Passable u₁ → Passable u₂ → s.override u₁ = .ok s₁ →
      (∀ merged : Fields, merged.Perm (u₁.put u₂.present) →
        Passable merged ∧ SameResult (s₁.override u₂) (s.override merged) ∧
        (s₁.override u₂ = s.override merged ↔
          (unknown u₂.present).map Prod.fst = (unknown merged.present).map Prod.fst) ∧
        (Alphabetical u₂ → Alphabetical merged → s₁.override u₂ = s.override merged)) ∧
      ((∀ key ∈ u₁.map Prod.fst, key ∈ u₂.map Prod.fst → key ∈ keys) →
        s₁.override u₂ = s.override (u₁.put u₂.present))) ∧
    (∀ updates s', Passable updates → s.override updates = .ok s' →
      (∀ key d, (key, d) ∈ updates → d ≠ .null → Takes s' key d) ∧
      ∀ key, (∀ update ∈ updates, update.1 = key → update.2 = .null) →
        s'.toFields.lookup key = s.toFields.lookup key) ∧
    (∀ command options, Console.checkFormat options = .ok () →
      Passable (Console.updates command options) ∧
        ∃ s', s.override (Console.updates command options) = .ok s') ∧
    ∀ request, (Console.execute request).crash ≠ some .badSettings := by
  refine ⟨override_nil s, ?_, fun _ _ => override_of_absent s, ?_, ?_,
    fun command options h => ⟨passable_updates command options, s.override_updates command h⟩,
    Console.crash_execute_ne_badSettings⟩
  · cases s.logLevel <;> decide
  · intro u₁ u₂ s₁ hu₁ hu₂ hoverride
    have h₁ := hu₁.distinct
    have h₂ := hu₂.distinct
    have hunknown := unknown_present_of_override h₁ hoverride
    refine ⟨fun merged hmerged => ?_, fun hnew => ?_⟩
    · have hiff := override_override_eq_iff h₁ h₂ hmerged hoverride
      refine ⟨hu₁.put hu₂ hmerged, override_override h₁ h₂ hmerged hoverride, hiff, ?_⟩
      intro halpha halphaMerged
      rw [hiff, halpha.present.unknown_eq halphaMerged.present
        (unknown_merged_perm h₁ h₂ hmerged hunknown)]
    · rw [override_override_eq_iff h₁ h₂ (List.Perm.refl _) hoverride,
        unknown_put h₁ h₂ hunknown hnew]
  · intro updates s' hupdates hoverride
    exact ⟨fun _ _ => override_takes hupdates.distinct hoverride,
      fun _ => override_unchanged hupdates.distinct hoverride⟩

/-- A dry run at another level, with a switch that is none and a field that is no setting: in one
override or in two, the same issues are reported. -/
theorem override_level_then_bad_fields :
    ∃ s₁, Passable [("log_level", .str "info"), ("colour", .null)] ∧
      Passable [("dry_run", .int 1), ("stop_on_error", .list []), ("depth", .int 3)] ∧
      default.override [("log_level", .str "info"), ("colour", .null)] = .ok s₁ ∧
      s₁.logLevel = .info ∧
      s₁.override [("dry_run", .int 1), ("stop_on_error", .list []), ("depth", .int 3)] =
        default.override [("log_level", .str "info"), ("colour", .null), ("dry_run", .int 1),
          ("stop_on_error", .list []), ("depth", .int 3)] ∧
      s₁.override [("dry_run", .int 1), ("stop_on_error", .list []), ("depth", .int 3)] =
        .error [⟨"stop_on_error", none, .boolType, .list []⟩,
          ⟨"depth", none, .extraForbidden, .int 3⟩] := by
  have hfirst : default.override [("log_level", .str "info"), ("colour", .null)] =
      .ok ⟨.info, .text, false, true⟩ := rfl
  have hpassable₁ : Passable [("log_level", .str "info"), ("colour", .null)] := by
    decide
  have hpassable₂ :
      Passable [("dry_run", .int 1), ("stop_on_error", .list []), ("depth", .int 3)] := by
    decide
  refine ⟨_, hpassable₁, hpassable₂, hfirst, rfl, ?_, rfl⟩
  obtain ⟨-, -, -, hcompose, -⟩ := overrides_compose_and_keep_validity default
  obtain ⟨hmerge, -⟩ := hcompose _ _ _ hpassable₁ hpassable₂ hfirst
  obtain ⟨-, -, hsame, -⟩ := hmerge _ (.refl _)
  exact hsame.2 rfl

/-- Two overrides do not always report issues in the order of one: an absent field that is no
setting keeps its place when it is given a value later on. -/
theorem reported_order_differs_behind_absent_field :
    (default.override [("y", .null)] = .ok default ∧
      default.override [("x", .int 1), ("y", .int 2)] =
        .error [⟨"x", none, .extraForbidden, .int 1⟩, ⟨"y", none, .extraForbidden, .int 2⟩] ∧
      default.override (Fields.put [("y", .null)] (Fields.present [("x", .int 1), ("y", .int 2)])) =
        .error [⟨"y", none, .extraForbidden, .int 2⟩, ⟨"x", none, .extraForbidden, .int 1⟩]) ∧
    ¬ ∀ (s s₁ : Settings) (u₁ u₂ : Fields), Passable u₁ → Passable u₂ → s.override u₁ = .ok s₁ →
      s₁.override u₂ = s.override (u₁.put u₂.present) := by
  have hfirst : default.override [("y", .null)] = .ok default := rfl
  have hsecond : default.override [("x", .int 1), ("y", .int 2)] =
      .error [⟨"x", none, .extraForbidden, .int 1⟩, ⟨"y", none, .extraForbidden, .int 2⟩] := rfl
  have hmerged :
      default.override (Fields.put [("y", .null)] (Fields.present [("x", .int 1), ("y", .int 2)])) =
        .error [⟨"y", none, .extraForbidden, .int 2⟩, ⟨"x", none, .extraForbidden, .int 1⟩] := rfl
  refine ⟨⟨hfirst, hsecond, hmerged⟩, fun hcompose => ?_⟩
  have hpassable₁ : Passable [("y", .null)] := by decide
  have hpassable₂ : Passable [("x", .int 1), ("y", .int 2)] := by decide
  have hsame := hcompose _ _ _ _ hpassable₁ hpassable₂ hfirst
  rw [hsecond, hmerged] at hsame
  simp at hsame

end TagScript.Settings
