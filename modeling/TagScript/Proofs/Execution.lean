import TagScript.Run

/-!
# How far a run of commands goes

The calls of a run meet the attempts of a script one by one. A run goes on until the commands are
used up or an attempt ends it.

* `Attempt.nth` is what a call meets, `Attempt.Ends` says that a run goes no further behind it.
* `Run.Traces` says of a run that it made the first `n` calls, where these lead and why there were
  not more; `execute_traces` says it of every run, by one step for each command.
-/

namespace TagScript

namespace Attempt

/-- What the call number `i` meets; the script goes on with code 0 once it is used up. -/
def nth (script : List Attempt) (i : Nat) : Attempt := script[i]?.getD (.exited 0)

@[simp] theorem nth_zero (script : List Attempt) :
    nth script 0 = script.head?.getD (.exited 0) := by
  rw [nth, ← List.head?_eq_getElem?]

@[simp] theorem nth_succ (script : List Attempt) (i : Nat) :
    nth script (i + 1) = nth script.tail i := by
  rw [nth, nth, List.getElem?_tail]

/-- Where a script starts all programs, every call ends with a code. -/
theorem exists_code_nth {script : List Attempt}
    (h : ∀ attempt ∈ script, ∃ code, attempt = .exited code) (i : Nat) :
    ∃ code, nth script i = .exited code := by
  rw [nth]
  cases hget : script[i]? with
  | none => exact ⟨0, rfl⟩
  | some attempt => exact h attempt (List.mem_of_getElem? hget)

/-- The attempts that the first `n` calls meet. -/
def made (script : List Attempt) (n : Nat) : List Attempt := (List.range n).map (nth script)

@[simp] theorem made_zero (script : List Attempt) : made script 0 = [] := rfl

/-- If all the programs were started, they ended with the codes one by one. -/
theorem getElem?_of_made {script : List Attempt} {n i : Nat} {codes : List Int} {code : Int}
    (h : made script n = codes.map .exited) (hi : i < n) :
    codes[i]? = some code ↔ nth script i = .exited code := by
  have hmade : (codes.map Attempt.exited)[i]? = some (nth script i) := by
    simp [← h, made, hi]
  rw [List.getElem?_map, Option.map_eq_some_iff] at hmade
  obtain ⟨code', hcode, hnth⟩ := hmade
  simp [hcode, ← hnth]

/-- If all the programs were started, their codes are 0 just if they all ended with 0. -/
theorem forall_zero_iff_of_made {script : List Attempt} {n : Nat} {codes : List Int}
    (h : made script n = codes.map .exited) :
    (∀ code ∈ codes, code = 0) ↔ ∀ i < n, nth script i = .exited 0 := by
  calc (∀ code ∈ codes, code = 0)
    _ ↔ ∀ attempt ∈ codes.map Attempt.exited, attempt = .exited 0 := by simp
    _ ↔ ∀ attempt ∈ made script n, attempt = .exited 0 := by rw [h]
    _ ↔ ∀ i < n, nth script i = .exited 0 := by simp [made]

theorem length_of_made {script : List Attempt} {n : Nat} {codes : List Int}
    (h : made script n = codes.map .exited) : codes.length = n := by
  simpa [made] using congrArg List.length h.symm

theorem made_succ (script : List Attempt) (n : Nat) :
    made script (n + 1) = nth script 0 :: made script.tail n := by
  simp [made, List.range_succ_eq_map, Function.comp_def]

/-- The error of an attempt to start a program, if it is one. -/
def error? (program : String) : Attempt → Option RunError
  | exited _ => none
  | notFound => some (.cannotRun program "program not found")
  | permissionDenied => some (.cannotRun program "permission denied")
  | systemError => some .systemError

/-- A script without failures of the system has none for any call. -/
theorem error?_nth_ne_systemError {script : List Attempt} (h : .systemError ∉ script) (i : Nat)
    (program : String) : (nth script i).error? program ≠ some .systemError := by
  intro herror
  have hi : nth script i = .systemError := by
    cases hattempt : nth script i <;> simp [hattempt, error?] at herror ⊢
  rw [nth] at hi
  cases hget : script[i]? with
  | none => simp [hget] at hi
  | some attempt =>
    obtain rfl : attempt = .systemError := by simpa [hget] using hi
    exact h (List.mem_of_getElem? hget)

/-- A run goes no further behind the attempt: the program could not be started, or it failed and the
run is to stop on errors. -/
def Ends (stopOnError : Bool) : Attempt → Prop
  | exited code => code ≠ 0 ∧ stopOnError = true
  | _ => True

end Attempt

open Attempt

/-- The run made the first `n` calls and no more. -/
structure Run.Traces (stopOnError : Bool) (cs : List Command) (script : List Attempt) (n : Nat)
    (run : Run) : Prop where
  le_length : n ≤ cs.length
  calls : run.calls = (cs.take n).map Command.argv
  /-- Only the last call can end the run, -/
  goes_on : ∀ i, i + 1 < n → ¬ (nth script i).Ends stopOnError
  /-- and it does if there are commands left. -/
  ends : n < cs.length → ∃ i, n = i + 1 ∧ (nth script i).Ends stopOnError
  /-- The result is the codes, if all programs could be started, -/
  result_ok : ∀ codes, run.result = .ok codes ↔ made script n = codes.map .exited
  /-- and else the error of the last call. -/
  result_error : ∀ e, run.result = .error e →
    ∃ i c, n = i + 1 ∧ cs[i]? = some c ∧ (nth script i).error? c.program.text = some e

namespace Run.Traces

variable {stopOnError : Bool} {cs : List Command} {script : List Attempt} {n i : Nat} {run : Run}

/-- A call that ends the run is its last one. -/
theorem eq_succ_of_ends (h : run.Traces stopOnError cs script n) (hi : i < n)
    (hends : (nth script i).Ends stopOnError) : n = i + 1 := by
  rcases Nat.lt_or_ge (i + 1) n with hlt | hge
  · exact absurd hends (h.goes_on i hlt)
  · omega

/-- A run of programs that all end with code 0 calls every command. -/
theorem eq_length_of_zero (h : run.Traces stopOnError cs script n)
    (hzero : ∀ i < n, nth script i = .exited 0) : n = cs.length := by
  rcases Nat.lt_or_eq_of_le h.le_length with hlt | heq
  · obtain ⟨i, rfl, hends⟩ := h.ends hlt
    rw [hzero i (Nat.lt_succ_self i)] at hends
    exact absurd rfl hends.1
  · exact heq

end Run.Traces

namespace Command

variable {stopOnError : Bool} {c : Command} {cs : List Command} {script : List Attempt} {n : Nat}
  {code : Int} {log : List Log.Entry} {rest : Run}

/-- A run that cannot start its first program ends with it. -/
theorem traces_failed {e : RunError} (cs : List Command) (log : List Log.Entry)
    (he : (nth script 0).error? c.program.text = some e) :
    (Run.failed e c.argv log).Traces stopOnError (c :: cs) script 1 where
  le_length := by simp
  calls := rfl
  goes_on := by omega
  ends := by
    refine fun _ => ⟨0, rfl, ?_⟩
    cases hfirst : nth script 0 <;> simp_all [error?, Ends]
  result_ok := by
    intro codes
    rw [made_succ, made_zero]
    cases hfirst : nth script 0 <;> simp_all [error?, Run.failed]
    all_goals cases codes <;> simp
  result_error := by
    intro e' he'
    obtain rfl : e = e' := by simpa [Run.failed] using he'
    exact ⟨0, c, rfl, rfl, he⟩

/-- The code of the first program stands before those of the rest. -/
theorem result_after (calls : List (List String)) (log : List Log.Entry)
    (hfirst : nth script 0 = .exited code)
    (h : ∀ codes, rest.result = .ok codes ↔ made script.tail n = codes.map .exited)
    (codes : List Int) :
    (rest.after code calls log).result = .ok codes ↔ made script (n + 1) = codes.map .exited := by
  rw [made_succ, hfirst, Run.after]
  cases codes with
  | nil => cases rest.result <;> simp [Except.map]
  | cons first codes =>
    rw [List.map_cons, List.cons.injEq, Attempt.exited.injEq, ← h codes]
    cases rest.result <;> simp [Except.map]

/-- A run that stops on the code of its first program ends with it. -/
theorem traces_stopped (cs : List Command) (log : List Log.Entry)
    (hfirst : nth script 0 = .exited code) (hcode : code ≠ 0) :
    (Run.done.after code [c.argv] log).Traces true (c :: cs) script 1 where
  le_length := by simp
  calls := rfl
  goes_on := by omega
  ends := fun _ => ⟨0, rfl, by rw [hfirst]; exact ⟨hcode, rfl⟩⟩
  result_ok := result_after _ _ hfirst fun codes => by simp [Run.done, eq_comm]
  result_error := by
    intro e he
    cases he

/-- A run that goes on behind its first program makes one call more than the rest. -/
theorem traces_after (log : List Log.Entry) (hfirst : nth script 0 = .exited code)
    (hgoes : ¬ (Attempt.exited code).Ends stopOnError)
    (h : rest.Traces stopOnError cs script.tail n) :
    (rest.after code [c.argv] log).Traces stopOnError (c :: cs) script (n + 1) where
  le_length := by simpa using h.le_length
  calls := by simp [Run.after, h.calls]
  goes_on := by
    intro i hi
    cases i with
    | zero => rwa [hfirst]
    | succ i =>
      rw [nth_succ]
      exact h.goes_on i (by omega)
  ends := by
    intro hlt
    obtain ⟨i, rfl, hends⟩ := h.ends (by simpa using hlt)
    exact ⟨i + 1, rfl, by rwa [nth_succ]⟩
  result_ok := result_after _ _ hfirst h.result_ok
  result_error := by
    intro e he
    have herror : rest.result = .error e := by
      revert he
      rw [Run.after]
      cases rest.result <;> simp [Except.map]
    obtain ⟨i, c', rfl, hc', herror⟩ := h.result_error e herror
    exact ⟨i + 1, c', rfl, by simpa using hc', by rwa [nth_succ]⟩

/-- Every run makes some of its calls and then ends in one of the ways it can. -/
theorem execute_traces (stopOnError : Bool) (cs : List Command) (script : List Attempt) :
    ∃ n, (execute stopOnError cs script).Traces stopOnError cs script n := by
  induction cs generalizing script with
  | nil =>
    refine ⟨0, Nat.le_refl 0, rfl, by omega, by simp, fun codes => ?_, fun e he => by cases he⟩
    simp [execute, Run.done, eq_comm]
  | cons c cs ih =>
    rw [execute]
    have hfirst := nth_zero script
    cases hattempt : script.head?.getD (.exited 0) with
    | notFound => exact ⟨1, traces_failed cs _ (by rw [hfirst, hattempt]; rfl)⟩
    | permissionDenied => exact ⟨1, traces_failed cs _ (by rw [hfirst, hattempt]; rfl)⟩
    | systemError => exact ⟨1, traces_failed cs _ (by rw [hfirst, hattempt]; rfl)⟩
    | exited code =>
      rw [hattempt] at hfirst
      obtain ⟨n, hrest⟩ := ih script.tail
      by_cases hstop : code ≠ 0 ∧ stopOnError = true
      · obtain ⟨hcode, rfl⟩ := hstop
        simp only [ne_eq, hcode, not_false_eq_true, decide_true, Bool.and_self, if_true]
        exact ⟨1, traces_stopped cs _ hfirst hcode⟩
      · have htest : (decide (code ≠ 0) && stopOnError) = false := by simpa using hstop
        simp only [htest]
        exact ⟨n + 1, traces_after _ hfirst hstop hrest⟩

end Command

end TagScript
