import ProjectContext.Proofs.CommandLine.Switch

/-!
# Verbose runs

What a run prints and how it ends is decided by the command alone, and the switch for a verbose log
decides only which events of the log are shown (`verbosity_changes_log`).
-/

namespace ProjectContext.CommandLine

variable {fs : FileSystem} {i : Invocation} {words : List Bytes}

/-- The events of a run that are shown. -/
def Invocation.shown (i : Invocation) (fs : FileSystem) : List LogEvent :=
  LogEvent.fromLevel (logLevel i.verbose) (i.command.render fs).log

theorem shown_of_quiet (fs : FileSystem) (quiet : i.verbose = false) :
    i.shown fs = (i.loud.shown fs).filter (·.level ≠ .debug) := by
  have same : i.loud.command = i.command := rfl
  rw [Invocation.shown, Invocation.shown, quiet, same, LogEvent.fromLevel, LogEvent.fromLevel,
    List.filter_filter]
  refine List.filter_congr fun e _ => ?_
  cases e <;> rfl

theorem outcome_of_ok {text : String} (printed : (i.command.render fs).result = .ok text) :
    i.outcome fs = { code := 0, output := text ++ "\n"
                     errors := textOfLines ((i.shown fs).map LogEvent.terminalLine) } := by
  rw [Invocation.outcome, printed]
  rfl

theorem outcome_of_error {failure : Failure}
    (failed : (i.command.render fs).result = .error failure) :
    i.outcome fs = { code := 1, output := ""
                     errors := textOfLines ((i.shown fs).map LogEvent.terminalLine) ++
                       failure.text } := by
  rw [Invocation.outcome, failed]
  rfl

theorem outcome_loud (i : Invocation) (fs : FileSystem) :
    (i.loud.outcome fs).code = (i.outcome fs).code ∧
      (i.loud.outcome fs).output = (i.outcome fs).output := by
  have same : i.loud.command = i.command := rfl
  cases result : (i.command.render fs).result with
  | ok text =>
    rw [outcome_of_ok result, outcome_of_ok (i := i.loud) result]
    exact ⟨rfl, rfl⟩
  | error failure =>
    rw [outcome_of_error result, outcome_of_error (i := i.loud) result]
    exact ⟨rfl, rfl⟩

/-- A run prints what its command has rendered, or nothing at all if anything has failed. The switch
may be put in front of any word but those behind two hyphens and the value of an option. -/
theorem verbosity_changes_log (fs : FileSystem) (parsed : read words = .ok i) :
    (let result := (i.command.render fs).result
      let lines := textOfLines ((i.shown fs).map LogEvent.terminalLine)
      ((run fs words).code = 0 ↔ ∃ text, result = .ok text) ∧
      (∀ text, result = .ok text →
        run fs words = { code := 0, output := text ++ "\n", errors := lines }) ∧
      ∀ failure, result = .error failure →
        run fs words = { code := 1, output := "", errors := lines ++ failure.text }) ∧
    ∀ front back w, words = front ++ back → w ∈ verboseWords →
      (∀ word ∈ front, Word.ofBytes word ≠ .escape) →
      (i.verbose = false → read front ≠ .error .invalidValue →
        read (front ++ w :: back) = .ok { i with verbose := true }) ∧
      ∀ j, read (front ++ w :: back) = .ok j →
        j = { i with verbose := true } ∧
        (run fs (front ++ w :: back)).code = (run fs words).code ∧
        (run fs (front ++ w :: back)).output = (run fs words).output ∧
        (i.verbose = false → i.shown fs = (j.shown fs).filter (·.level ≠ .debug)) := by
  have ran {words : List Bytes} {i : Invocation} (parsed : read words = .ok i) :
      run fs words = i.outcome fs := by
    rw [run, parsed]
  refine ⟨?_, fun front back w split switch unescaped => ?_⟩
  · rw [ran parsed]
    refine ⟨?_, fun text => outcome_of_ok, fun failure => outcome_of_error⟩
    cases result : (i.command.render fs).result with
    | ok text => simp [outcome_of_ok result]
    | error failure => simp [outcome_of_error result]
  · rw [split] at parsed
    have inserted : read (front ++ w :: back) = .ok i.loud ∨ _ :=
      readFrom_insert switch unescaped parsed
    refine ⟨fun quiet complete => ?_, fun j added => ?_⟩
    · rcases inserted with added | ⟨-, verbose | incomplete⟩
      · exact added
      · rw [quiet] at verbose
        cases verbose
      · exact absurd incomplete complete
    · rcases inserted with loud | ⟨⟨e, failed⟩, -⟩
      · obtain rfl : i.loud = j := Except.ok.inj (loud.symm.trans added)
        rw [split, ran added, ran parsed]
        exact ⟨rfl, (outcome_loud i fs).1, (outcome_loud i fs).2, shown_of_quiet fs⟩
      · have failed : read (front ++ w :: back) = .error e := failed
        rw [added] at failed
        cases failed

def documentedFile : FileSystem where
  top := [(.ofString "d", .directory [(.ofString "a.py", .file (.ofString "class A: pass"))])]

/-- The switch behind the name of the subcommand. -/
theorem verbose_report_of_documentedFile :
    read ([.ofString "report"] ++ .ofString "-v" :: [.ofString "d"]) =
      .ok ⟨true, .report { path := .ofString "d" } .text⟩ ∧
    (run documentedFile [.ofString "report", .ofString "-v", .ofString "d"]).output =
      (run documentedFile [.ofString "report", .ofString "d"]).output := by
  have parsed : read [.ofString "report", .ofString "d"] =
      .ok ⟨false, .report { path := .ofString "d" } .text⟩ := rfl
  have front : read [.ofString "report"] = .error .missingRequiredArgument := rfl
  obtain ⟨added, agrees⟩ := (verbosity_changes_log documentedFile parsed).2 [.ofString "report"]
    [.ofString "d"] (.ofString "-v") rfl (by decide) (by decide)
  have loud := added rfl (by rw [front]; nofun)
  exact ⟨loud, (agrees _ loud).2.2.1⟩

end ProjectContext.CommandLine
