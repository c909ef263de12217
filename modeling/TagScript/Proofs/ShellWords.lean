import TagScript.Proofs.CommandMarkup
import TagScript.Proofs.Requests

/-!
# Commands as lines of a shell

* `ShellWord.split?` splits a line into words by the rules of quoting, without knowing how the line
  was written. Blanks and line feeds outside quotes separate words, text between quotes stands for
  itself, and parts that touch are one word. A line that would make the shell do anything else is
  refused.
* `words?_quoteChars`: a word that was quoted is read back whatever follows, and so `split?_join`.
* `quote_of_legal`: names of tags need no quotes.
* `PrintsLines` and `ShowsWords` say which lines a printed text consists of and which words stand in
  them, by splitting the text only.
* `shell_lines_lose_nothing` puts these together for commands and for the lines that are printed of
  them.
-/

namespace TagScript.Text.ShellWord

open TagScript.Markup

/-! ### Splitting by the rules of quoting -/

/-- Where in a line the splitter stands: outside quotes, with a word begun or not, or between two
quotes. -/
inductive Mode where
  | outside (begun : Bool)
  | single
  | double
deriving DecidableEq

/-- The characters that separate words. -/
def separators : List Char := [' ', '\t', '\n']

/-- The characters that ask the shell for more than words even between double quotes. -/
def expanders : List Char := ['\\', '$', '\x60']

/-- The characters that ask the shell for more than words outside quotes. -/
def operators : List Char :=
  expanders ++ ['|', '&', ';', '<', '>', '(', ')', '*', '?', '[', ']', '{', '}', '#', '~', '!', '^']

/-- The words of the rest of a line. If a word was begun, the first of them is the rest of it. -/
def words? : Mode → List Char → Option (List (List Char))
  | .outside begun, [] => some (if begun then [[]] else [])
  | .outside begun, c :: cs =>
    if c ∈ separators then (words? (.outside false) cs).map (if begun then ([] :: ·) else id)
    else if c = '\x27' then words? .single cs
    else if c = '"' then words? .double cs
    else if c ∈ operators then none
    else (words? (.outside true) cs).map (List.modifyHead (c :: ·))
  | .single, [] => none
  | .single, c :: cs =>
    if c = '\x27' then words? (.outside true) cs
    else (words? .single cs).map (List.modifyHead (c :: ·))
  | .double, [] => none
  | .double, c :: cs =>
    if c = '"' then words? (.outside true) cs
    else if c ∈ expanders then none
    else (words? .double cs).map (List.modifyHead (c :: ·))

/-- The words of a line. -/
def split? (line : String) : Option (List String) :=
  (words? (.outside false) line.toList).map (List.map String.ofList)

/-! ### Quoted words are read back -/

/-- Putting one character and then some before the first word is putting them all there. -/
theorem map_modifyHead_modifyHead (c : Char) (cs : List Char) (words : Option (List (List Char))) :
    (words.map (List.modifyHead (cs ++ ·))).map (List.modifyHead (c :: ·)) =
      words.map (List.modifyHead ((c :: cs) ++ ·)) := by
  rw [Option.map_map]
  congr 1
  funext ws
  cases ws <;> rfl

theorem map_modifyHead_nil (words : Option (List (List Char))) :
    words.map (List.modifyHead ([] ++ ·)) = words := by
  cases words with
  | none => rfl
  | some ws => cases ws <;> rfl

/-- A plain character belongs to a word and does nothing else. -/
theorem words?_plain {c : Char} (hc : isPlain c = true) (begun : Bool) (cs : List Char) :
    words? (.outside begun) (c :: cs) =
      (words? (.outside true) cs).map (List.modifyHead (c :: ·)) := by
  have hnot : ∀ {ds : List Char}, ds.any isPlain = false → c ∉ ds := by
    intro ds hds hmem
    exact absurd hc (List.any_eq_false.1 hds c hmem)
  have hquotes : c ∉ ['\x27', '"'] := hnot (by decide)
  rw [List.mem_cons, List.mem_singleton, not_or] at hquotes
  rw [words?, if_neg (hnot (by decide)), if_neg hquotes.1, if_neg hquotes.2,
    if_neg (hnot (by decide))]

/-- Plain characters are read as part of a word. -/
theorem words?_plain_append {w : List Char} (hw : ∀ c ∈ w, isPlain c = true) (rest : List Char) :
    words? (.outside true) (w ++ rest) =
      (words? (.outside true) rest).map (List.modifyHead (w ++ ·)) := by
  induction w with
  | nil => exact (map_modifyHead_nil _).symm
  | cons c w ih =>
    rw [List.forall_mem_cons] at hw
    rw [List.cons_append, words?_plain hw.1, ih hw.2, map_modifyHead_modifyHead]

/-- Between single quotes everything is read as it was meant. A single quote was written as the end
of the quotes, itself between double quotes, and new single quotes, all of it in one word. -/
theorem words?_single (w rest : List Char) :
    words? .single (w.flatMap quoteChar ++ '\x27' :: rest) =
      (words? (.outside true) rest).map (List.modifyHead (w ++ ·)) := by
  induction w with
  | nil => exact (map_modifyHead_nil _).symm
  | cons c w ih =>
    have hchar : ∀ cs, words? .single (quoteChar c ++ cs) =
        (words? .single cs).map (List.modifyHead (c :: ·)) := by
      intro cs
      by_cases hc : c = '\x27'
      · rw [hc]
        rfl
      · rw [quoteChar, if_neg hc, List.singleton_append, words?, if_neg hc]
    rw [List.flatMap_cons, List.append_assoc, hchar, ih, map_modifyHead_modifyHead]

/-- A quoted word is read back whatever stands behind it. -/
theorem words?_quoteChars (begun : Bool) (w rest : List Char) :
    words? (.outside begun) (quoteChars w ++ rest) =
      (words? (.outside true) rest).map (List.modifyHead (w ++ ·)) := by
  unfold quoteChars
  split
  · next hw =>
    simp only [Bool.and_eq_true, List.all_eq_true] at hw
    cases w with
    | nil => cases hw.1
    | cons c w =>
      rw [List.forall_mem_cons] at hw
      rw [List.cons_append, words?_plain hw.2.1, words?_plain_append hw.2.2,
        map_modifyHead_modifyHead]
  · have hopens : words? (.outside begun) ('\x27' :: (w.flatMap quoteChar ++ '\x27' :: rest)) =
        words? .single (w.flatMap quoteChar ++ '\x27' :: rest) := by
      rfl
    rw [List.cons_append, List.append_assoc, List.singleton_append, hopens, words?_single]

theorem words?_join (ws : List String) :
    words? (.outside false) (join ws).toList = some (ws.map String.toList) := by
  induction ws with
  | nil => rfl
  | cons w ws ih =>
    have hquote : (quote w).toList = quoteChars w.toList := String.toList_ofList
    cases ws with
    | nil =>
      have hjoin : (join [w]).toList = quoteChars w.toList ++ [] := by simp [join, hquote]
      rw [hjoin, words?_quoteChars]
      simp [words?]
    | cons v ws =>
      have hjoin : (join (w :: v :: ws)).toList =
          quoteChars w.toList ++ ' ' :: (join (v :: ws)).toList := by
        simp [join, hquote]
      have hspace : words? (.outside true) (' ' :: (join (v :: ws)).toList) =
          (words? (.outside false) (join (v :: ws)).toList).map ([] :: ·) := by
        rfl
      rw [hjoin, words?_quoteChars, hspace, ih]
      simp

/-- Words that were quoted and joined are found again. -/
theorem split?_join (ws : List String) : split? (join ws) = some ws := by
  rw [split?, words?_join, Option.map_some, List.map_map]
  simp

example : join ["it's", "", "$b"] = "'it'\"'\"'s' '' '$b'" ∧
    split? "'it'\"'\"'s' '' '$b'" = some ["it's", "", "$b"] ∧ split? "$b" = none := by
  decide

/-! ### Names need no quotes -/

theorem isPlain_of_nameChar {c : Char} (h : NameChar c) : isPlain c = true := by
  have hname := isNameChar_iff.2 h
  simp only [Lexeme.isNameChar, Bool.or_eq_true, decide_eq_true_eq] at hname
  rcases hname with ((halphanum | rfl) | rfl) | rfl
  · rw [isPlain, halphanum, Bool.true_or]
  all_goals rfl

theorem quote_of_legal {s : String} (h : Legal s.toList) : quote s = s := by
  have hplain : ∀ c ∈ s.toList, isPlain c = true :=
    fun c hc => isPlain_of_nameChar (h.nameChar c hc)
  rw [quote, quoteChars, if_pos, String.ofList_toList]
  rw [Bool.and_eq_true, List.all_eq_true]
  exact ⟨by simpa using h.ne_nil, hplain⟩

/-- Legal words are written as they are. -/
theorem join_of_legal {ws : List String} (h : ∀ w ∈ ws, Legal w.toList) :
    join ws = " ".intercalate ws := by
  have hquote : ws.map quote = ws := by
    rw [List.map_congr_left fun w hw => quote_of_legal (h w hw), List.map_id']
  rw [join, hquote]

end TagScript.Text.ShellWord

namespace TagScript.Console

open TagScript.Markup TagScript.Text

/-! ### Printed commands -/

/-- The printed text consists of the given lines, with a line feed behind each of them. -/
def PrintsLines (printed : String) (ls : List String) : Prop :=
  printed.toList.splitOn '\n' = ls.map String.toList ++ [[]]

/-- The printed text consists of lines, and in each of them the words of one of the lists stand
between the spaces. -/
def ShowsWords (printed : String) (wordLists : List (List String)) : Prop :=
  ∃ ls : List (List Char), printed.toList.splitOn '\n' = ls ++ [[]] ∧
    ls.map (·.splitOn ' ') = wordLists.map (List.map String.toList)

variable {commands : List Command}

/-- Commands of legal words are printed one in a line. -/
theorem printsLines_unlines (h : ∀ c ∈ commands, ∀ word ∈ c.argv, Legal word.toList) :
    PrintsLines (unlines (commands.map Command.line)) (commands.map Command.line) := by
  refine splitOn_unlines fun s hs => ?_
  obtain ⟨c, hc, rfl⟩ := List.mem_map.1 hs
  rw [Command.line, ShellWord.join_of_legal (h c hc)]
  exact oneLine_intercalate (by decide) fun word hword => oneLine_of_legal (h c hc word hword)

/-- Lines of legal words show the words. -/
theorem showsWords_unlines (h : ∀ c ∈ commands, ∀ word ∈ c.argv, Legal word.toList) :
    ShowsWords (unlines (commands.map Command.line)) (commands.map Command.argv) := by
  refine ⟨_, printsLines_unlines h, ?_⟩
  rw [List.map_map, List.map_map, List.map_map]
  refine List.map_congr_left fun c hc => ?_
  show c.line.toList.splitOn ' ' = c.argv.map String.toList
  rw [Command.line, ShellWord.join_of_legal (h c hc)]
  exact splitOn_intercalate rfl (List.cons_ne_nil _ _) fun word hword =>
    (h c hc word hword).not_mem (by decide)

/-- **Shell lines lose nothing.** The line of a command, whatever texts it consists of, is split into
its words by the rules of quoting, so that commands with the same line have the same words. The
lines of the commands of a document that was read are their words with single spaces between them,
and whether they are printed as text or shown by a dry run, what stands between the spaces of each
printed line is the words of one command. -/
theorem shell_lines_lose_nothing :
    (∀ c : Command, ShellWord.split? c.line = some c.argv) ∧
    (∀ c c' : Command, c.line = c'.line → c.argv = c'.argv) ∧
    ∀ (text : String) (sourceName : Option String) (d : Document),
      Document.parse text sourceName = .ok d →
        (∀ c ∈ d.project, c.line = " ".intercalate c.argv) ∧
        (∀ request settings source, Asks request .commands settings source →
          settings.outputFormat = .text → source.text = text →
            ShowsWords (execute request).stdout (d.project.map Command.argv)) ∧
        ∀ request keepGoing, AsksToRun request text true keepGoing →
          ShowsWords (execute request).stdout (d.project.map Command.argv) := by
  have hsplit : ∀ c : Command, ShellWord.split? c.line = some c.argv :=
    fun c => ShellWord.split?_join c.argv
  refine ⟨hsplit, fun c c' hline => ?_, fun text sourceName d hd => ?_⟩
  · have hwords := hsplit c
    rw [hline, hsplit c'] at hwords
    exact (Option.some.inj hwords).symm
  · have hlegal := Document.legal_of_parse hd
    refine ⟨fun c hc => ShellWord.join_of_legal (hlegal c hc), ?_, ?_⟩
    · rintro request settings source hasks hformat rfl
      have hstdout : (execute request).stdout = unlines (d.project.map Command.line) := by
        rw [execute_of_asks hasks, stdout_perform_of_parse request .commands settings source hd]
        simp only [printCommands, hformat]
        rfl
      rw [hstdout]
      exact showsWords_unlines hlegal
    · intro request keepGoing hasks
      obtain ⟨settings, name, hasks, hdry, -⟩ := asks_of_asksToRun hasks
      have hstdout : (execute request).stdout = unlines (d.project.map Command.line) := by
        rw [execute_of_asks hasks, stdout_perform_of_parse request .run settings ⟨name, text⟩ hd]
        exact (runDocument_of_dry (hdry.2 (.inl rfl)) request.script d).2.1
      rw [hstdout]
      exact showsWords_unlines hlegal

/-- A command of an empty text, a text of quotes and one of other marks is found in its line. From
`<a> <x/></a><b/>` the words `a x` and `b` are printed, and a dry run shows them too. -/
theorem words_of_marked_command_and_of_printed_commands :
    (∃ c : Command, c.argv = ["a b", "", "'\"'\"'", "#$\\\n"] ∧
      ShellWord.split? c.line = some c.argv) ∧
    ∃ printing dry : Request, ∃ d : Document,
      Asks printing .commands Settings.default ⟨"<text>", "<a> <x/></a><b/>"⟩ ∧
      AsksToRun dry "<a> <x/></a><b/>" true false ∧
      Document.parse "<a> <x/></a><b/>" none = .ok d ∧
      d.project.map Command.argv = [["a", "x"], ["b"]] ∧
      ShowsWords (execute printing).stdout [["a", "x"], ["b"]] ∧
      ShowsWords (execute dry).stdout [["a", "x"], ["b"]] := by
  obtain ⟨hsplit, -, hread⟩ := shell_lines_lose_nothing
  constructor
  · exact ⟨⟨⟨"a b", by decide⟩, ["", "'\"'\"'", "#$\\\n"]⟩, rfl, hsplit _⟩
  · let b : Element := .selfClosing ⟨"b", by decide⟩
    let x : Element := .selfClosing ⟨"x", by decide⟩
    let d : Document := ⟨[.container ⟨"a", by decide⟩ [x], b]⟩
    let openFile : String → Except OpenError ByteArray := fun _ => .error .missing
    have hsettings : Settings.ofEnvironment [] = .ok Settings.default := rfl
    have hd : Document.parse "<a> <x/></a><b/>" none = .ok d :=
      Document.parse_of_toOption (by decide +kernel)
    have hprinting := asks_textLine hsettings .commands "<a> <x/></a><b/>" "" openFile []
    have hdry := asksToRun_runLine hsettings "<a> <x/></a><b/>" true false "" openFile []
    obtain ⟨-, hprints, hshows⟩ := hread _ none d hd
    exact ⟨_, _, d, hprinting, hdry, hd, rfl, hprints _ _ _ hprinting rfl rfl, hshows _ _ hdry⟩

end TagScript.Console
