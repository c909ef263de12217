import TagScript.Proofs.Execution

/-!
# What a run calls, returns and logs

A run takes its commands up to the first that ends it. Which one this is can be read off the script
of attempts, and with it the calls, the result and the log.

* `Attempt.FirstEnd` says that an attempt is the first that ends a run.
* `Run.Traces.eq_of_firstEnd` and `Run.Traces.eq_length` count the calls of a run.
* `Command.notes` is what the log says of one command; `log_execute` puts the log of a run together,
  by one step for each command.
* `runAll_takes_commands_up_to_first_end` collects what follows for runs and for dry runs.
-/

namespace TagScript

open Attempt

variable {stopOnError : Bool} {c : Command} {cs : List Command} {script : List Attempt} {n : Nat}

namespace Attempt

/-- The attempt of the call number `n` ends a run, and none before it does. -/
structure FirstEnd (stopOnError : Bool) (script : List Attempt) (n : Nat) : Prop where
  ends : (nth script n).Ends stopOnError
  goes_on : ∀ i < n, ¬ (nth script i).Ends stopOnError

/-- A program behind which a run goes on was started and ended with a code. -/
theorem exists_code_of_not_ends {attempt : Attempt} (h : ¬ attempt.Ends stopOnError) :
    ∃ code, attempt = .exited code := by
  cases attempt with
  | exited code => exact ⟨code, rfl⟩
  | notFound => exact absurd trivial h
  | permissionDenied => exact absurd trivial h
  | systemError => exact absurd trivial h

/-- A program could not be started, or it ended with a code. -/
theorem error?_or_code (attempt : Attempt) (program : String) :
    (∃ e, attempt.error? program = some e) ∨ ∃ code, attempt = .exited code := by
  cases attempt with
  | exited code => exact .inr ⟨code, rfl⟩
  | notFound => exact .inl ⟨_, rfl⟩
  | permissionDenied => exact .inl ⟨_, rfl⟩
  | systemError => exact .inl ⟨_, rfl⟩

/-- If all the programs were started, they ended with codes. -/
theorem exists_codes_of_made (h : ∀ i < n, ∃ code, nth script i = .exited code) :
    ∃ codes : List Int, made script n = codes.map .exited := by
  induction n generalizing script with
  | zero => exact ⟨[], rfl⟩
  | succ n ih =>
    obtain ⟨code, hcode⟩ := h 0 (Nat.succ_pos n)
    have hrest : ∀ i < n, ∃ code, nth script.tail i = .exited code := by
      intro i hi
      rw [← nth_succ]
      exact h (i + 1) (Nat.succ_lt_succ hi)
    obtain ⟨codes, hcodes⟩ := ih hrest
    exact ⟨code :: codes, by rw [made_succ, hcode, hcodes, List.map_cons]⟩

end Attempt

/-! ### How many calls -/

namespace Run.Traces

variable {run : Run} {m : Nat}

/-- A run ends with the first call that ends it. -/
theorem eq_of_firstEnd (h : run.Traces stopOnError cs script m) (hn : n < cs.length)
    (hfirst : FirstEnd stopOnError script n) : m = n + 1 := by
  rcases Nat.lt_or_ge n m with hlt | hge
  · exact h.eq_succ_of_ends hlt hfirst.ends
  · obtain ⟨i, rfl, hends⟩ := h.ends (by omega)
    exact absurd hends (hfirst.goes_on i (by omega))

/-- A run that no call ends takes every command. -/
theorem eq_length (h : run.Traces stopOnError cs script m)
    (hgoes : ∀ i < cs.length, ¬ (nth script i).Ends stopOnError) : m = cs.length := by
  rcases Nat.lt_or_eq_of_le h.le_length with hlt | heq
  · obtain ⟨i, rfl, hends⟩ := h.ends hlt
    exact absurd hends (hgoes i (by omega))
  · exact heq

/-- A run whose programs were all started results in their codes. -/
theorem exists_codes (h : run.Traces stopOnError cs script n)
    (hcodes : ∀ i < n, ∃ code, nth script i = .exited code) :
    ∃ codes, run.result = .ok codes ∧ codes.map .exited = made script n := by
  obtain ⟨codes, hmade⟩ := exists_codes_of_made hcodes
  exact ⟨codes, (h.result_ok codes).2 hmade, hmade.symm⟩

/-- A run whose last program could not be started results in the error of that program. -/
theorem result_of_error (h : run.Traces stopOnError cs script (n + 1)) (hc : cs[n]? = some c)
    {e : RunError} (he : (nth script n).error? c.program.text = some e) :
    run.result = .error e := by
  cases hresult : run.result with
  | ok codes =>
    have hmade := (h.result_ok codes).1 hresult
    have hlt : n < codes.length := by
      rw [length_of_made hmade]
      exact Nat.lt_succ_self n
    have hcode := (getElem?_of_made hmade (Nat.lt_succ_self n)).1 (List.getElem?_eq_getElem hlt)
    rw [hcode] at he
    cases he
  | error e' =>
    obtain ⟨i, c', hi, hc', he'⟩ := h.result_error e' hresult
    obtain rfl : n = i := by omega
    rw [hc] at hc'
    cases hc'
    rw [he] at he'
    cases he'
    rfl

end Run.Traces

/-! ### The log -/

namespace Command

variable {e : RunError} {code : Int}

/-- A first program that cannot be started ends a run at once. -/
theorem execute_cons_of_error (cs : List Command)
    (he : (nth script 0).error? c.program.text = some e) :
    execute stopOnError (c :: cs) script = .failed e c.argv [c.startNote] := by
  rw [nth_zero] at he
  rw [execute]
  cases hattempt : script.head?.getD (.exited 0) <;> rw [hattempt] at he <;> cases he <;> rfl

/-- A first program that fails ends a run that is to stop on errors. -/
theorem execute_cons_of_stop (cs : List Command) (hfirst : nth script 0 = .exited code)
    (hcode : code ≠ 0) :
    execute true (c :: cs) script =
      .after code [c.argv] (c.startNote :: c.endNotes code ++ [c.stopNote]) .done := by
  rw [nth_zero] at hfirst
  simp [execute, hfirst, hcode]

/-- Behind any other first program a run goes on. -/
theorem execute_cons_of_goes_on (cs : List Command) (hfirst : nth script 0 = .exited code)
    (hgoes : ¬ (Attempt.exited code).Ends stopOnError) :
    execute stopOnError (c :: cs) script =
      (execute stopOnError cs script.tail).after code [c.argv]
        (c.startNote :: c.endNotes code) := by
  have htest : (decide (code ≠ 0) && stopOnError) = false := by simpa [Ends] using hgoes
  rw [nth_zero] at hfirst
  simp only [execute, hfirst, htest]
  rfl

/-- What the log says of a command that met an attempt: that it is run, and if it ended with a code
other than 0, a warning with this code and, if the run stops for it, one that it does. -/
def notes (stopOnError : Bool) (c : Command) : Attempt → List Log.Entry
  | .exited code =>
    ⟨.info, .runner, s!"Running: {c.line}"⟩ ::
      if code = 0 then []
      else
        ⟨.warning, .runner, s!"Command {c.line} exited with status {code}"⟩ ::
          if stopOnError then [⟨.warning, .runner, s!"Stopping after failed command {c.line}"⟩]
          else []
  | _ => [⟨.info, .runner, s!"Running: {c.line}"⟩]

theorem notes_of_error {attempt : Attempt} (he : attempt.error? c.program.text = some e) :
    c.notes stopOnError attempt = [c.startNote] := by
  cases attempt with
  | exited code => cases he
  | notFound => rfl
  | permissionDenied => rfl
  | systemError => rfl

theorem notes_of_stop (hcode : code ≠ 0) :
    c.notes true (.exited code) = c.startNote :: c.endNotes code ++ [c.stopNote] := by
  simp [notes, endNotes, startNote, stopNote, hcode]

theorem notes_of_goes_on (hgoes : ¬ (Attempt.exited code).Ends stopOnError) :
    c.notes stopOnError (.exited code) = c.startNote :: c.endNotes code := by
  by_cases hcode : code = 0
  · simp [notes, endNotes, startNote, hcode]
  · have hstop : stopOnError = false := by simpa [Ends, hcode] using hgoes
    simp [notes, endNotes, startNote, hcode, hstop]

/-- The log of a run holds what there is to say of each command that was called, in order. -/
theorem log_execute (stopOnError : Bool) (cs : List Command) (script : List Attempt) :
    (execute stopOnError cs script).log =
      (List.zipWith (notes stopOnError) cs
        (made script (execute stopOnError cs script).calls.length)).flatten := by
  induction cs generalizing script with
  | nil => rfl
  | cons c cs ih =>
    rcases error?_or_code (nth script 0) c.program.text with ⟨e, he⟩ | ⟨code, hfirst⟩
    · rw [execute_cons_of_error cs he]
      simp only [Run.failed, List.length_singleton, made_succ, made_zero, List.zipWith_cons_cons,
        List.zipWith_nil_right, notes_of_error he]
      rfl
    · by_cases hends : (Attempt.exited code).Ends stopOnError
      · obtain ⟨hcode, rfl⟩ := hends
        rw [execute_cons_of_stop cs hfirst hcode]
        simp [Run.after, Run.done, made_succ, hfirst, notes_of_stop hcode]
      · rw [execute_cons_of_goes_on cs hfirst hends]
        simp [Run.after, made_succ, hfirst, notes_of_goes_on hends, ih script.tail]

/-- The log of a run that made the first `n` calls. -/
theorem log_of_traces (h : (execute stopOnError cs script).Traces stopOnError cs script n) :
    (execute stopOnError cs script).log =
      (List.zipWith (notes stopOnError) cs (made script n)).flatten := by
  rw [log_execute, h.calls, List.length_map, List.length_take, Nat.min_eq_left h.le_length]

/-- **A run takes its commands up to the first that ends it.** If no attempt ends the run, every
command is called, and the result is the codes. Otherwise the commands up to the first such attempt
are called; the result is its error if the program could not be started, and else the codes. Either
way the log says of each command that was called what `notes` lists, and of no other. A dry run
calls nothing, notes every command and results in zeros. -/
theorem runAll_takes_commands_up_to_first_end (stopOnError : Bool) (cs : List Command)
    (script : List Attempt) :
    ((∀ i < cs.length, ¬ (nth script i).Ends stopOnError) →
      let run := runAll false stopOnError cs script
      run.calls = cs.map argv ∧
        (∃ codes, run.result = .ok codes ∧ codes.map .exited = made script cs.length) ∧
        run.log = (List.zipWith (notes stopOnError) cs (made script cs.length)).flatten) ∧
    (∀ n c, cs[n]? = some c → FirstEnd stopOnError script n →
      let run := runAll false stopOnError cs script
      run.calls = (cs.take (n + 1)).map argv ∧
        (match nth script n with
          | .notFound => run.result = .error (.cannotRun c.program.text "program not found")
          | .permissionDenied => run.result = .error (.cannotRun c.program.text "permission denied")
          | .systemError => run.result = .error .systemError
          | .exited _ =>
            ∃ codes, run.result = .ok codes ∧ codes.map .exited = made script (n + 1)) ∧
        run.log = (List.zipWith (notes stopOnError) cs (made script (n + 1))).flatten) ∧
    runAll true stopOnError cs script =
      ⟨.ok (List.replicate cs.length 0), [],
        cs.map fun c => ⟨.info, .runner, s!"Dry run: {c.line}"⟩⟩ := by
  obtain ⟨m, htraces⟩ := execute_traces stopOnError cs script
  refine ⟨fun hgoes => ?_, fun n c hc hfirst => ?_, ?_⟩
  · obtain rfl := htraces.eq_length hgoes
    have hcalls := htraces.calls
    rw [List.take_length] at hcalls
    exact ⟨hcalls, htraces.exists_codes fun i hi => exists_code_of_not_ends (hgoes i hi),
      log_of_traces htraces⟩
  · have hn := (List.getElem?_eq_some_iff.1 hc).1
    obtain rfl := htraces.eq_of_firstEnd hn hfirst
    refine ⟨htraces.calls, ?_, log_of_traces htraces⟩
    cases hattempt : nth script n with
    | notFound => exact htraces.result_of_error hc (by rw [hattempt]; rfl)
    | permissionDenied => exact htraces.result_of_error hc (by rw [hattempt]; rfl)
    | systemError => exact htraces.result_of_error hc (by rw [hattempt]; rfl)
    | exited code =>
      -- The programs before the last one ended with codes as well, or it would not be the first.
      refine htraces.exists_codes fun i hi => ?_
      rcases Nat.lt_succ_iff_lt_or_eq.1 hi with hlt | rfl
      · exact exists_code_of_not_ends (hfirst.goes_on i hlt)
      · exact ⟨code, hattempt⟩
  · exact dryRun_eq cs

/-- Past a failed first command a run that does not stop on errors comes to a second that cannot be
started, and leaves out the third. With a script that is used up after the first code, which is 0,
all three end with 0. -/
theorem run_past_failure_to_missing_program :
    let a : Command := ⟨⟨"a", by decide⟩, ["x"]⟩
    let b : Command := ⟨⟨"b", by decide⟩, []⟩
    let c : Command := ⟨⟨"c", by decide⟩, []⟩
    let broken := runAll false false [a, b, c] [.exited 3, .notFound]
    let whole := runAll false true [a, b, c] [.exited 0]
    FirstEnd false [.exited 3, .notFound] 1 ∧ broken.calls = [["a", "x"], ["b"]] ∧
      broken.result = .error (.cannotRun "b" "program not found") ∧
      broken.log.map (·.level) = [.info, .warning, .info] ∧
      (∀ i < 3, ¬ (nth [.exited 0] i).Ends true) ∧ whole.calls = [["a", "x"], ["b"], ["c"]] ∧
      whole.result = .ok [0, 0, 0] ∧ whole.log.map (·.level) = [.info, .info, .info] := by
  intro a b c broken whole
  have hfirst : FirstEnd false [.exited 3, .notFound] 1 := by
    refine ⟨trivial, fun i hi => ?_⟩
    obtain rfl : i = 0 := by omega
    simp [nth, Ends]
  have hgoes : ∀ i < 3, ¬ (nth [.exited 0] i).Ends true := by
    intro i hi
    have hzero : nth [.exited 0] i = .exited 0 := by cases i <;> rfl
    simp [hzero, Ends]
  obtain ⟨-, hends, -⟩ :=
    runAll_takes_commands_up_to_first_end false [a, b, c] [.exited 3, .notFound]
  obtain ⟨hcalls, hresult, hlog⟩ := hends 1 b rfl hfirst
  obtain ⟨hall, -⟩ := runAll_takes_commands_up_to_first_end true [a, b, c] [.exited 0]
  obtain ⟨hcallsAll, ⟨codes, hresultAll, hcodes⟩, hlogAll⟩ := hall hgoes
  have hzeros : codes.map Attempt.exited = [0, 0, 0].map .exited := hcodes
  rw [List.map_inj_right fun _ _ => Attempt.exited.inj] at hzeros
  rw [hzeros] at hresultAll
  exact ⟨hfirst, hcalls, hresult, congrArg (List.map (·.level)) hlog, hgoes, hcallsAll, hresultAll,
    congrArg (List.map (·.level)) hlogAll⟩

end Command

end TagScript
