import HeaderLint.Proofs.Linter
import HeaderLint.Proofs.Report.Text
import HeaderLint.Proofs.Report.Verdict
import HeaderLint.Proofs.Run.Workspace
import Mathlib

set_option autoImplicit false

namespace HeaderLint

theorem Linter.lintCommits_eq (linter : Linter) (commits : List Commit) :
    linter.lintCommits commits = commits.map fun commit =>
      { linter.lint commit.text with commit := some commit.id.name } := by
  simp only [lintCommits, lintAll, List.unzip_eq_map, List.map_map, List.zipWith_map,
    List.zipWith_self]
  rfl

theorem countP_lintCommits (linter : Linter) (commits : List Commit) :
    (linter.lintCommits commits).countP (!·.isValid) =
      commits.countP fun commit => !(linter.lint commit.text).isValid := by
  rw [Linter.lintCommits_eq, List.countP_map]
  rfl

theorem length_warnings_lintCommits (linter : Linter) (commits : List Commit) :
    ((linter.lintCommits commits).flatMap (·.warnings)).length =
      (commits.map fun commit => (linter.lint commit.text).warnings.length).sum := by
  rw [Linter.lintCommits_eq, List.length_flatMap, List.map_map]
  rfl

structure ReportsOn (linter : Linter) (commit : Commit) (report : Report) : Prop where
  name : report.commit = some commit.id.name
  input : report.input = some commit.text
  outcomes : report.outcomes = (linter.lint commit.text).outcomes
  isValid : report.isValid = (linter.lint commit.text).isValid
  breaking : report.breaking = (linter.lint commit.text).breaking

@[simp] theorem reportsOn_iff {linter : Linter} {commit : Commit} {report : Report} :
    ReportsOn linter commit report ↔
      { linter.lint commit.text with commit := some commit.id.name } = report := by
  constructor
  next =>
    rintro ⟨name, input, outcomes, -, breaking⟩
    cases report
    simp_all only [Report.mk.injEq, and_true]
    rfl
  next =>
    rintro rfl
    exact ⟨rfl, rfl, rfl, rfl, rfl⟩

theorem forall₂_reportsOn_iff {linter : Linter} {commits : List Commit} {reports : List Report} :
    List.Forall₂ (ReportsOn linter) commits reports ↔ linter.lintCommits commits = reports := by
  have same : ReportsOn linter = fun commit report =>
      { linter.lint commit.text with commit := some commit.id.name } = report :=
    funext₂ fun _ _ => propext reportsOn_iff
  rw [same, Linter.lintCommits_eq]
  exact (List.forall₂_map_left_iff (R := Eq)).symm.trans (by rw [List.forall₂_eq_eq_eq])

theorem ReportsOn.exists_text? {linter : Linter} {commit : Commit} {report : Report}
    (reportsOn : ReportsOn linter commit report) (colour verbose : Bool) :
    ∃ text, report.text? colour verbose = some text := by
  have named : ∀ name ∈ report.commit, (shortName? name).isSome = true :=
    reportsOn.name ▸ commit.id.isSome_shortName?
  obtain ⟨_, -, -, text⟩ := Report.exists_text? named colour verbose
  exact ⟨_, text⟩

def Shows (format : Option OutputFormat) (colour verbose : Bool) (reports : List Report)
    (lines : List String) : Prop :=
  match format with
  | some .json => lines = [Report.json reports]
  | _ => List.Forall₂ (fun report line => report.text? colour verbose = some line) reports lines

namespace Invocation

variable {invocation : Invocation} {colour : Bool} {workspace : Workspace} {config : Config}
  {linter : Linter}

theorem shows_shown {commits : List Commit} {reports : List Report}
    (reportsOn : List.Forall₂ (ReportsOn linter) commits reports) (verbose : Bool) :
    Shows invocation.format colour verbose reports (invocation.shown colour verbose reports) := by
  have texts : List.Forall₂ (fun report line => report.text? colour verbose = some line) reports
      (reports.filterMap (·.text? colour verbose)) := by
    induction reportsOn with
    | nil => exact .nil
    | cons here _ ih =>
      obtain ⟨text, shown⟩ := here.exists_text? colour verbose
      rw [List.filterMap_cons_some shown]
      exact .cons shown ih
  rw [shown]
  rcases invocation.format with - | - | -
  next => exact texts
  next => exact texts
  next => rfl

@[simp] theorem exitStatus_eq_zero_iff {result : Except Error Unit} :
    exitStatus result = 0 ↔ result = .ok () := by
  rcases result with error | done
  next =>
    have failed : exitStatus (.error error) ≠ 0 := by
      cases error <;> exact nofun
    exact iff_of_false failed nofun
  next => exact iff_of_true rfl rfl

theorem check_run {history : History} {commits : List Commit} {target : String} {verbose : Bool}
    (command : invocation.command = .check target verbose)
    (ready : (workspace.machine colour).prepared invocation.config = .ok (config, linter))
    (repository : workspace.history = some history)
    (resolved : history.range target = .ok commits) :
    workspace.run colour invocation =
      ((verdict (invocation.strict || config.strict) (linter.lintCommits commits)).mapError .lint,
        workspace.printed (invocation.shown colour verbose (linter.lintCommits commits))) := by
  rw [Workspace.run, Machine.run, run, command]
  refine (prepare_then_run invocation colour workspace ready _).trans ?_
  refine (history_then_run colour workspace repository _).trans ?_
  refine (run_settled .history (history.range target) _ workspace).trans ?_
  rw [resolved]
  exact conclude_run ..

theorem lint_run {text : String} {file : Option String} {verbose : Bool}
    (command : invocation.command = .lint (some text) file verbose)
    (ready : (workspace.machine colour).prepared invocation.config = .ok (config, linter)) :
    workspace.run colour invocation =
      ((verdict (invocation.strict || config.strict) [linter.lint text]).mapError .lint,
        workspace.printed (invocation.shown colour verbose [linter.lint text])) :=
  lint_read_run _ _ _ command ready rfl

theorem lint_eq_ok_iff (invocation : Invocation) {text : String} {file : Option String}
    {verbose : Bool} (command : invocation.command = .lint (some text) file verbose)
    (ready : (workspace.machine colour).prepared invocation.config = .ok (config, linter)) :
    (workspace.run colour invocation).1 = .ok () ↔
      (linter.lint text).Passes (invocation.strict || config.strict) := by
  rw [lint_run command ready, mapError_eq_ok, verdict_eq_ok_iff, List.forall_mem_singleton]

/-- To check a range is to judge the message of each of its commits on its own. The reports come in
the order of the commits, and the run succeeds if each message would pass alone. -/
theorem check_exact (invocation : Invocation) (colour : Bool) {history : History}
    {commits : List Commit} {target : String} {verbose : Bool}
    (command : invocation.command = .check target verbose)
    (ready : (workspace.machine colour).prepared invocation.config = .ok (config, linter))
    (repository : workspace.history = some history)
    (resolved : history.range target = .ok commits) :
    let result := workspace.run colour invocation
    let invalid := commits.countP fun commit => !(linter.lint commit.text).isValid
    let warnings := (commits.map fun commit => (linter.lint commit.text).warnings.length).sum
    (∃ reports lines, List.Forall₂ (ReportsOn linter) commits reports ∧
      Shows invocation.format colour verbose reports lines ∧
      result.2 = workspace.printed lines) ∧
    (∀ format quiet, result.1 = .ok () ↔ ∀ commit ∈ commits,
      (workspace.run colour
        { invocation with command := .lint (some commit.text) none quiet, format }).1 = .ok ()) ∧
    (exitStatus result.1 = 0 ↔ result.1 = .ok ()) ∧
    ∀ error, result.1 = .error error →
      error = .lint (if 0 < invalid then .invalid invalid else .strictWarnings warnings) := by
  intro result invalid warnings
  have ran : result = _ := check_run command ready repository resolved
  rw [ran]
  have reportsOn : List.Forall₂ (ReportsOn linter) commits (linter.lintCommits commits) :=
    forall₂_reportsOn_iff.mpr rfl
  refine ⟨⟨_, _, reportsOn, shows_shown reportsOn verbose, rfl⟩, fun format quiet => ?_,
    exitStatus_eq_zero_iff, fun error failed => ?_⟩
  next =>
    rw [mapError_eq_ok, verdict_eq_ok_iff, Linter.lintCommits_eq, List.forall_mem_map]
    refine forall₂_congr fun commit _ => ?_
    exact (lint_eq_ok_iff { invocation with command := .lint _ _ quiet, format } rfl ready).symm
  next =>
    cases ended : verdict (invocation.strict || config.strict) (linter.lintCommits commits) with
    | error fault =>
      rw [ended] at failed
      rw [← Except.error.inj failed, verdict_error ended, countP_lintCommits,
        length_warnings_lintCommits]
    | ok =>
      rw [ended] at failed
      cases failed

end Invocation

namespace Lineage

def first : Commit :=
  { id := { name := "eeee", short := by decide }, time := 1, parents := []
    stored := Text.Utf8.encode "feat(cli): add it".toList }

-- The header of the second message has no type.
def second : Commit :=
  { id := { name := "ffff", short := by decide }, time := 2, parents := [first.id]
    stored := Text.Utf8.encode "add more".toList }

def workspace : Workspace :=
  { files := { home := ["home"], entries := [] }
    history := some { commits := [first, second], names := [("HEAD", second.id)] } }

theorem check_exact_lineage :
    ∃ linter, Linter.build .builtin Config.preset.rules = .ok linter ∧
      (∃ reports refused, List.Forall₂ (ReportsOn linter) [second, first] reports ∧
        Shows none false false reports [refused, "✓ eeee feat(cli): add it\n  Valid"] ∧
        refused.toList.head? = some '✗' ∧
        (workspace.run false { command := .check ".." false }).2 =
          workspace.printed [refused, "✓ eeee feat(cli): add it\n  Valid"]) ∧
      (workspace.run false { command := .check ".." false }).1 = .error (.lint (.invalid 1)) := by
  obtain ⟨linter, built⟩ : ∃ linter, Linter.build .builtin Config.preset.rules = .ok linter :=
    ⟨_, rfl⟩
  have ready : (workspace.machine false).prepared none = .ok (Config.preset, linter) :=
    Machine.prepared_none _ built
  have resolved :
      History.range { commits := [first, second], names := [("HEAD", second.id)] } ".." =
        .ok [second, first] := by cbv
  let refusal := { linter.lint second.text with commit := some second.id.name }
  let acceptance := { linter.lint first.text with commit := some first.id.name }
  have counts : [second, first].countP (fun commit => !(linter.lint commit.text).isValid) = 1 := by
    obtain rfl := Except.ok.inj built
    decide +kernel
  have invalid : (linter.lint second.text).isValid = false := by
    obtain rfl := Except.ok.inj built
    decide +kernel
  have accepted :
      acceptance.text? false false = some "✓ eeee feat(cli): add it\n  Valid" := by
    obtain rfl := Except.ok.inj built
    decide +kernel
  have opens : refusal.Opens false '✗' := by
    have errors : refusal.errors ≠ [] := fun none =>
      Bool.false_ne_true (invalid.symm.trans (Report.isValid_iff_errors.mpr none))
    rw [Report.opens_iff second.id.isSome_shortName?, if_neg errors]
  obtain ⟨⟨reports, lines, reportsOn, shows, printed⟩, alone, _, counted⟩ :=
    Invocation.check_exact { command := .check ".." false } false rfl ready rfl resolved
  refine ⟨linter, built, ?_, ?_⟩
  next =>
    have both : [refusal, acceptance] = reports :=
      (linter.lintCommits_eq _).symm.trans (forall₂_reportsOn_iff.mp reportsOn)
    rw [← both] at shows reportsOn
    have texts : List.Forall₂ (fun report line => Report.text? false false report = some line)
        [refusal, acceptance] lines := shows
    rcases texts with - | ⟨refused, - | ⟨passed, - | -⟩⟩
    obtain rfl := Option.some.inj (passed.symm.trans accepted)
    obtain ⟨text, rendered, head⟩ := opens
    obtain rfl := Option.some.inj (refused.symm.trans rendered)
    exact ⟨_, _, reportsOn, shows, head, printed⟩
  next =>
    cases ended : (workspace.run false { command := .check ".." false }).1 with
    | error error => rw [counted error ended, counts, if_pos Nat.one_pos]
    | ok =>
      have passed := (alone none false).mp ended second List.mem_cons_self
      rw [Invocation.lint_eq_ok_iff _ rfl ready] at passed
      rw [Report.Passes, invalid] at passed
      exact absurd passed.1 Bool.false_ne_true

end Lineage

end HeaderLint
