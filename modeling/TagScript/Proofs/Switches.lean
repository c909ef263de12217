import TagScript.Settings

/-!
# Where the switches of the settings come from

* `Text.Space` lists the characters that count as space, and `Text.Spells` says that a text is a
  word in any letter case, with spaces around it.
* `Turns` says that an environment variable turns a switch on or off, by the words for it.
  `switchText_eq_ok_iff`: these are the texts that are read so.
* `Reads` says what fields give for each of the settings, which is so for fields that settings are
  built from (`Reads.of_build`).
* `switches_of_environment`: in settings read from an environment, a switch stands as its variable
  turns it, and as by default if there is no such variable.
* `override_flags`: options can turn dry runs on and stopping on errors off, and change nothing
  else; `switches_of_override_level`: the log level does not touch the switches.
-/

namespace TagScript.Text

/-! ### Words with spaces around them -/

/-- The character is white space of Unicode or one of the four separators of ASCII. -/
def Space (c : Char) : Prop :=
  (0x9 ≤ c.toNat ∧ c.toNat ≤ 0xd) ∨ (0x1c ≤ c.toNat ∧ c.toNat ≤ 0x20) ∨
    c.toNat ∈ [0x85, 0xa0, 0x1680] ∨ (0x2000 ≤ c.toNat ∧ c.toNat ≤ 0x200a) ∨
    c.toNat ∈ [0x2028, 0x2029, 0x202f, 0x205f, 0x3000]

/-- The text is the word in any letter case, with any spaces around it. -/
def Spells (given word : String) : Prop :=
  ∃ before body after, given.toList = before ++ body ++ after ∧
    (∀ c ∈ before ++ after, Space c) ∧ body.map Char.toLower = word.toList

theorem isSpace_iff {c : Char} : isSpace c = true ↔ Space c := by
  rw [isSpace, CodeRange.covers_iff (by decide), Space]
  generalize c.toNat = n
  simp only [spaces, List.mem_cons, List.not_mem_nil, or_false, exists_eq_or_imp, exists_eq_left]
  omega

/-- A space has no other letter case. -/
theorem toLower_of_space {c : Char} (h : Space c) : c.toLower = c := by
  unfold Char.toLower
  split
  · next hupper =>
    have hge : 65 ≤ c.toNat := hupper.1
    have hle : c.toNat ≤ 90 := hupper.2
    simp only [Space, List.mem_cons, List.not_mem_nil, or_false] at h
    omega
  · rfl

/-- A word without spaces is spelled by the texts that are the word, but for spaces at the ends and
letter case. -/
theorem spells_iff {given word : String} (hword : ∀ c ∈ word.toList, isSpace c = false) :
    Spells given word ↔ (strip given).map Char.toLower = word := by
  rw [← String.toList_inj, String.toList_map]
  constructor
  · rintro ⟨before, body, after, hgiven, hspaces, hbody⟩
    have hnone : ∀ c ∈ body, isSpace c = false := by
      intro c hc
      rw [Bool.eq_false_iff]
      intro hspace
      -- A space would stand in the word as well.
      have hmem : c.toLower ∈ word.toList := hbody ▸ List.mem_map_of_mem hc
      rw [toLower_of_space (isSpace_iff.1 hspace)] at hmem
      exact absurd hspace (by simp [hword c hmem])
    rw [toList_strip_of_append hgiven (fun c hc => isSpace_iff.2 (hspaces c hc)) hnone, hbody]
  · intro hlower
    obtain ⟨before, after, hgiven, hspaces⟩ := exists_eq_append_strip given
    exact ⟨before, _, after, hgiven, fun c hc => isSpace_iff.1 (hspaces c hc), hlower⟩

end TagScript.Text

namespace TagScript.Settings

open Text

/-- The words that turn a switch to the given side. -/
def switchWords : Bool → List String
  | true => ["1", "true", "yes", "on"]
  | false => ["0", "false", "no", "off", ""]

/-- The variable is set to a text that turns its switch to the given side. -/
def Turns (environment : Environment) (variableName : String) (side : Bool) : Prop :=
  ∃ given, environment.lookup variableName = some given ∧
    ∃ word ∈ switchWords side, Spells given word

variable {environment : Environment} {fields : Fields} {s s' : Settings}

/-! ### Texts of switches -/

theorem exists_spells_iff {given : String} {side : Bool} :
    (∃ word ∈ switchWords side, Spells given word) ↔
      (strip given).map Char.toLower ∈ switchWords side := by
  have hall : (switchWords side).all (fun word => word.toList.all (!isSpace ·)) = true := by
    cases side <;> decide
  have hwords : ∀ word ∈ switchWords side, ∀ c ∈ word.toList, isSpace c = false := by
    simpa using hall
  constructor
  · rintro ⟨word, hword, hspells⟩
    rwa [(spells_iff (hwords word hword)).1 hspells]
  · intro hlower
    exact ⟨_, hlower, (spells_iff (hwords _ hlower)).2 rfl⟩

/-- A text turns a switch to the side whose words it spells. -/
theorem switchText_eq_ok_iff {variableName given : String} {side : Bool} :
    switchText variableName given = .ok side ↔ ∃ word ∈ switchWords side, Spells given word := by
  rw [exists_spells_iff, switchText]
  generalize (strip given).map Char.toLower = text
  have hon : onTexts.contains text = true ↔ text ∈ switchWords true := List.contains_iff_mem
  have hoff : offTexts.contains text = true ↔ text ∈ switchWords false := List.contains_iff_mem
  have hdisjoint : ∀ word ∈ switchWords true, word ∉ switchWords false := by decide
  by_cases htrue : text ∈ switchWords true
  · rw [if_pos (hon.2 htrue)]
    cases side <;> simp [htrue, hdisjoint text htrue]
  · rw [if_neg (mt hon.1 htrue)]
    by_cases hfalse : text ∈ switchWords false
    · rw [if_pos (hoff.2 hfalse)]
      cases side <;> simp [htrue, hfalse]
    · rw [if_neg (mt hoff.1 hfalse)]
      cases side <;> simp [htrue, hfalse]

/-- A variable that is set turns its switch as its text is read. -/
theorem turns_iff {variableName given : String} {side : Bool}
    (h : environment.lookup variableName = some given) :
    Turns environment variableName side ↔ switchText variableName given = .ok side := by
  simp [Turns, h, switchText_eq_ok_iff]

/-! ### Settings from fields -/

/-- Each of the settings is read from the fields. -/
structure Reads (fields : Fields) (s : Settings) : Prop where
  level : field fields "log_level" default.logLevel readLevel = .ok s.logLevel
  format : field fields "output_format" default.outputFormat readFormat = .ok s.outputFormat
  dry : field fields "dry_run" default.dryRun readSwitch = .ok s.dryRun
  stop : field fields "stop_on_error" default.stopOnError readSwitch = .ok s.stopOnError

theorem Reads.of_build (h : build fields = .ok s) : Reads fields s ∧ extras fields = [] := by
  unfold build at h
  dsimp only at h
  split at h
  · next hlevel hformat hdry hstop hextras =>
    cases h
    exact ⟨⟨hlevel, hformat, hdry, hstop⟩, hextras⟩
  · cases h

/-! ### The environment -/

theorem lookup_textField_of_ne {key key' : String} (h : key ≠ key') (variableName : String) :
    (textField environment variableName key').lookup key = none := by
  have hkey : (key == key') = false := by simpa using h
  unfold textField
  split <;> simp [List.lookup_cons, hkey]

theorem lookup_switchField_of_ne {key key' variableName : String} {fields : Fields} (h : key ≠ key')
    (hfields : switchField environment variableName key' = .ok fields) :
    fields.lookup key = none := by
  have hkey : (key == key') = false := by simpa using h
  unfold switchField at hfields
  split at hfields
  · cases hfields
    rfl
  · next given _ =>
    cases hswitch : switchText variableName given <;> rw [hswitch] at hfields <;> cases hfields
    simp [List.lookup_cons, hkey]

/-- A field made from a variable is read as the side to which the variable turns it. -/
theorem read_switchField {key variableName : String} {fields others : Fields} {absent side : Bool}
    (hfields : switchField environment variableName key = .ok fields)
    (hlookup : others.lookup key = fields.lookup key)
    (hread : field others key absent readSwitch = .ok side) :
    side = !absent ↔ Turns environment variableName (!absent) := by
  unfold switchField at hfields
  rw [field, hlookup] at hread
  split at hfields
  · next hnone =>
    cases hfields
    cases hread
    simp [Turns, hnone]
  · next given hsome =>
    cases hswitch : switchText variableName given <;> rw [hswitch] at hfields <;> cases hfields
    next b =>
      obtain rfl : b = side := by simpa [readSwitch] using hread
      rw [turns_iff hsome, hswitch, Except.ok.injEq]

/-- The switches of settings that were read from an environment stand as by default, unless their
variables turn them. -/
theorem switches_of_environment (h : ofEnvironment environment = .ok s) :
    (s.dryRun = true ↔ Turns environment "TAGSHELL_DRY_RUN" true) ∧
      (s.stopOnError = false ↔ Turns environment "TAGSHELL_STOP_ON_ERROR" false) := by
  unfold ofEnvironment at h
  rcases hdry : switchField environment "TAGSHELL_DRY_RUN" "dry_run" with e | dry <;>
    simp only [hdry] at h
  · cases h
  rcases hstop : switchField environment "TAGSHELL_STOP_ON_ERROR" "stop_on_error" with e | stop <;>
    simp only [hstop] at h
  · cases h
  -- Each key stands in one of the four parts only.
  generalize hlevel : textField environment "TAGSHELL_LOG_LEVEL" "log_level" = level at h
  generalize hformat : textField environment "TAGSHELL_OUTPUT_FORMAT" "output_format" = format at h
  rcases hbuild : build (level ++ format ++ dry ++ stop) with issues | built <;>
    rw [hbuild] at h <;> cases h
  have hreads := (Reads.of_build hbuild).1
  have hlookupDry : (level ++ format ++ dry ++ stop).lookup "dry_run" = dry.lookup "dry_run" := by
    rw [List.lookup_append, List.lookup_append, List.lookup_append, ← hlevel, ← hformat,
      lookup_textField_of_ne (by decide), lookup_textField_of_ne (by decide),
      lookup_switchField_of_ne (by decide) hstop]
    simp
  have hlookupStop :
      (level ++ format ++ dry ++ stop).lookup "stop_on_error" = stop.lookup "stop_on_error" := by
    rw [List.lookup_append, List.lookup_append, List.lookup_append, ← hlevel, ← hformat,
      lookup_textField_of_ne (by decide), lookup_textField_of_ne (by decide),
      lookup_switchField_of_ne (by decide) hdry]
    simp
  exact ⟨read_switchField hdry hlookupDry hreads.dry,
    read_switchField hstop hlookupStop hreads.stop⟩

/-! ### Options -/

/-- Options turn dry runs on and stopping on errors off, and keep everything else. -/
theorem override_flags (s : Settings) (dry keepGoing : Bool) :
    s.override ((if dry then [("dry_run", .bool true)] else []) ++
        (if keepGoing then [("stop_on_error", .bool false)] else [])) =
      .ok ⟨s.logLevel, s.outputFormat, s.dryRun || dry, s.stopOnError && !keepGoing⟩ := by
  cases dry <;> cases keepGoing <;>
    simp [override, Fields.put, Fields.set, Fields.present, Datum.isNull, toFields, build, field,
      readLevel, readFormat, readSwitch, List.lookup_cons, extras, keys]

/-- Without updates the settings stay as they are. -/
theorem override_nil (s : Settings) : s.override [] = .ok s := by
  simpa using override_flags s false false

/-- Another log level leaves the switches alone. -/
theorem switches_of_override_level {name : String}
    (h : s.override [("log_level", .str name)] = .ok s') :
    s'.dryRun = s.dryRun ∧ s'.stopOnError = s.stopOnError := by
  obtain ⟨-, -, hdry, hstop⟩ := (Reads.of_build h).1
  have hfields : s.toFields.put (Fields.present [("log_level", .str name)]) =
      [("log_level", .str name), ("output_format", .str s.outputFormat.word),
       ("dry_run", .bool s.dryRun), ("stop_on_error", .bool s.stopOnError)] := by
    simp [Fields.put, Fields.set, Fields.present, Datum.isNull, toFields]
  rw [hfields] at hdry hstop
  constructor
  · symm
    simpa [field, readSwitch, List.lookup_cons] using hdry
  · symm
    simpa [field, readSwitch, List.lookup_cons] using hstop

end TagScript.Settings
