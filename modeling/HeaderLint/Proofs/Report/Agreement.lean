import HeaderLint.Proofs.Linter
import HeaderLint.Proofs.Report.Json
import HeaderLint.Proofs.Report.Text
import HeaderLint.Proofs.Report.Verdict
import HeaderLint.Proofs.Run.Check

set_option autoImplicit false

namespace HeaderLint

namespace Report

variable {report : Report}

def failures (report : Report) : List Outcome :=
  report.outcomes.filter (!·.passed)

def tally (errors warnings : Nat) : String :=
  if errors = 0 then
    if warnings = 0 then "Valid" else "Valid (" ++ toString warnings ++ " warnings)"
  else "Invalid (" ++ toString errors ++ " errors, " ++ toString warnings ++ " warnings)"

theorem summary_eq_tally (report : Report) :
    report.summary = tally report.errors.length report.warnings.length := by
  rw [summary, tally]
  simp

theorem valid_prefix_tally_iff {errors warnings : Nat} :
    "Valid".toList <+: (tally errors warnings).toList ↔ errors = 0 := by
  rw [tally]
  split
  next none =>
    apply iff_of_true _ none
    split
    next => exact List.prefix_rfl
    next =>
      rw [String.append_assoc, String.toList_append]
      exact (List.prefix_append _ [' ', '(']).trans (List.prefix_append _ _)
  next some =>
    apply iff_of_false _ some
    simp [String.toList_append]

/-- A failure is an error or else a warning, because nothing that is disabled is judged. -/
theorem failures_perm (enabled : ∀ outcome ∈ report.outcomes, outcome.severity ≠ .disabled) :
    report.failures.Perm (report.errors ++ report.warnings) := by
  have errors : report.errors = report.failures.filter (·.severity == .error) := by
    rw [failures, List.filter_filter]
    exact List.filter_congr fun outcome _ => Bool.and_comm _ _
  have warnings : report.warnings = report.failures.filter (!·.severity == .error) := by
    rw [failures, List.filter_filter]
    apply List.filter_congr
    intro outcome mem
    cases severity : outcome.severity with
    | disabled => exact absurd severity (enabled outcome mem)
    | warning => simp [Outcome.isWarning, severity]
    | error => simp [Outcome.isWarning, severity]
  rw [errors, warnings]
  exact (List.filter_append_perm _ _).symm

theorem not_mem_warnings_of_mem_errors {outcome : Outcome} (isError : outcome ∈ report.errors) :
    outcome ∉ report.warnings := by
  intro isWarning
  have error := (Outcome.isError_iff.mp (List.mem_filter.mp isError).2).2
  have warning := (Outcome.isWarning_iff.mp (List.mem_filter.mp isWarning).2).2
  exact Severity.noConfusion (error.symm.trans warning)

structure Renders (colour verbose : Bool) (report : Report) (heading : String)
    (lines : List String) : Prop where
  first : report.heading? colour = some heading
  heads : report.Heads colour heading
  text : report.text? colour verbose = some ("\n".intercalate
    (heading :: lines ++ ["  " ++ Style.faint.paint colour report.summary]))

theorem exists_renders (enabled : ∀ outcome ∈ report.outcomes, outcome.severity ≠ .disabled)
    (named : ∀ commit ∈ report.commit, (shortName? commit).isSome = true) (colour verbose : Bool) :
    ∃ heading lines, report.Renders colour verbose heading lines ∧
      List.Forall₂ (Outcome.Prints colour) (report.shown verbose) lines := by
  obtain ⟨heading, isHeading, heads, text⟩ := exists_text? named colour verbose
  refine ⟨heading, _, ⟨isHeading, heads, text⟩, ?_⟩
  rw [List.forall₂_map_right_iff, List.forall₂_same]
  intro outcome mem
  exact (Outcome.prints_iff (enabled outcome (List.mem_filter.mp mem).1)).mpr rfl

/-- A report whose parts say the same: what its text shows is what it counts. -/
structure Agrees (report : Report) : Prop where
  valid : report.isValid = true ↔ report.errors = []
  enabled : ∀ outcome ∈ report.outcomes, outcome.severity ≠ .disabled
  split : report.failures.Perm (report.errors ++ report.warnings)
  apart : ∀ outcome ∈ report.errors, outcome ∉ report.warnings
  summary : report.summary = tally report.errors.length report.warnings.length
  marked : ∀ verbose, report.Opens verbose (if report.errors = [] then '✓' else '✗')
  printed : ∀ colour, ∃ heading lines, report.Renders colour false heading lines ∧
    List.Forall₂ (Outcome.Prints colour) report.failures lines ∧
    lines.length = report.errors.length + report.warnings.length
  verbose : ∀ colour, ∃ heading lines, report.Renders colour true heading lines ∧
    List.Forall₂ (Outcome.Prints colour) report.outcomes lines

theorem agrees (enabled : ∀ outcome ∈ report.outcomes, outcome.severity ≠ .disabled)
    (named : ∀ commit ∈ report.commit, (shortName? commit).isSome = true) : report.Agrees := by
  constructor
  case valid => exact isValid_iff_errors
  case enabled => exact enabled
  case split => exact failures_perm enabled
  case apart => exact fun outcome => not_mem_warnings_of_mem_errors
  case summary => exact summary_eq_tally report
  case marked => exact fun verbose => (opens_iff named).mpr rfl
  case printed =>
    intro colour
    obtain ⟨heading, lines, renders, prints⟩ := exists_renders enabled named colour false
    refine ⟨heading, lines, renders, prints, ?_⟩
    have length := (failures_perm enabled).length_eq
    rw [List.length_append] at length
    exact prints.length_eq.symm.trans length
  case verbose =>
    intro colour
    have all : report.shown true = report.outcomes := List.filter_eq_self.mpr fun _ _ => rfl
    exact all ▸ exists_renders enabled named colour true

theorem summary_valid_iff : "Valid".toList <+: report.summary.toList ↔ report.errors = [] := by
  rw [summary_eq_tally, valid_prefix_tally_iff, List.length_eq_zero_iff]

theorem Agrees.opens_check_iff (agrees : report.Agrees) (verbose : Bool) :
    report.Opens verbose '✓' ↔ report.errors = [] := by
  obtain ⟨text, rendered, opens⟩ := agrees.marked verbose
  rw [Opens, rendered]
  simp [opens]

end Report

namespace Linter

open ActiveRule

variable {registry : Registry} {rules : RuleSet} {linter : Linter} {report : Report}

inductive Makes (linter : Linter) : Report → Prop
  | message (message : Message) : Makes linter (linter.lintMessage message)
  | text (text : String) : Makes linter (linter.lint text)
  | commit (id : CommitId) (text : String) :
      Makes linter { linter.lint text with commit := some id.name }

theorem makes_lintAll (linter : Linter) (texts : List String) :
    ∀ report ∈ linter.lintAll texts, linter.Makes report :=
  List.forall_mem_map.mpr fun text _ => .text text

theorem makes_lintCommits (linter : Linter) (commits : List Commit) :
    ∀ report ∈ linter.lintCommits commits, linter.Makes report := by
  rw [lintCommits_eq]
  exact List.forall_mem_map.mpr fun commit _ => .commit commit.id commit.text

theorem severity_ne_disabled (built : build registry rules = .ok linter) (message : Message) :
    ∀ outcome ∈ (linter.lintMessage message).outcomes, outcome.severity ≠ .disabled := by
  have each (item : String × Entry) (outcome : Outcome)
      (judges : Judges registry message item outcome) :
      item.2.severity ≠ .disabled ↔ outcome.severity ≠ .disabled := by
    rw [judges.severity]
  exact (forall_mem_iff_of_forall₂ (outcomes_of_build built message) each).mp
    fun item mem => (mem_enabled.mp mem).2

theorem Makes.agrees (made : linter.Makes report) (built : build registry rules = .ok linter) :
    report.Agrees := by
  cases made with
  | message message => exact Report.agrees (severity_ne_disabled built message) nofun
  | text text => exact Report.agrees (severity_ne_disabled built (Message.parse text)) nofun
  | commit id text =>
    exact Report.agrees (severity_ne_disabled built (Message.parse text)) id.isSome_shortName?

/-- Whatever reports a linter makes, the document of them, the verdict on them, their errors, their
summaries and their texts agree on which are valid. -/
theorem reporters_agree (built : build registry rules = .ok linter) {reports : List Report}
    (made : ∀ report ∈ reports, linter.Makes report) :
    let accepted := verdict false reports = .ok ()
    (∃ document results valid, Document.Json.read? (Report.json reports).toList = some document ∧
      document.field? "results" = some (.list results) ∧
      results.map (·.field? "valid") = reports.map (fun report => some (.boolean report.isValid)) ∧
      document.field? "valid" = some (.boolean valid) ∧ (valid = true ↔ accepted)) ∧
    (accepted ↔ ∀ report ∈ reports, report.errors = []) ∧
    (accepted ↔ ∀ report ∈ reports, "Valid".toList <+: report.summary.toList) ∧
    (∀ verbose, accepted ↔ ∀ report ∈ reports, report.Opens verbose '✓') ∧
    (∀ strict count, verdict strict reports = .error (.invalid count) ↔
      0 < count ∧ count = reports.countP (!·.isValid)) ∧
    ∀ report ∈ reports, report.Agrees := by
  intro accepted
  have agrees (report : Report) (mem : report ∈ reports) : report.Agrees :=
    (made report mem).agrees built
  have valid : accepted ↔ ∀ report ∈ reports, report.isValid = true := by
    simp [accepted, Report.Passes]
  have errors : accepted ↔ ∀ report ∈ reports, report.errors = [] := by
    simp only [valid, Report.isValid_iff_errors]
  refine ⟨?_, errors, ?_, fun verbose => ?_, fun _ _ => verdict_eq_invalid_iff, agrees⟩
  next =>
    refine ⟨_, _, _, Report.read?_json reports, rfl, ?_, rfl, List.all_eq_true.trans valid.symm⟩
    rw [List.map_map]
    exact List.map_congr_left fun report _ => report.recorded_document.valid
  next => simp only [errors, Report.summary_valid_iff]
  next =>
    rw [errors]
    exact forall₂_congr fun report mem => ((agrees report mem).opens_check_iff verbose).symm

def typeThenScope : RuleSet :=
  { entries := [("type-empty", ⟨.error, .never, none⟩), ("scope-empty", ⟨.warning, .never, none⟩)]
    nodup := by decide
    filled := by decide }

-- The first text only lacks its scope; the second has no type either.
theorem reporters_agree_typeThenScope :
    ∃ linter, build .builtin typeThenScope = .ok linter ∧
      let reports := linter.lintAll ["feat: add it", "add it"]
      verdict false reports = .error (.invalid 1) ∧
      (¬ ∀ report ∈ reports, "Valid".toList <+: report.summary.toList) ∧
      (linter.lint "add it").Opens true '✗' ∧
      (linter.lint "add it").errors.length + (linter.lint "add it").warnings.length = 2 ∧
      (linter.lint "add it").Renders false false "✗ add it"
        ["  ✗ type-empty: type may not be empty", "  ⚠ scope-empty: scope may not be empty"] := by
  obtain ⟨linter, built⟩ : ∃ linter, build .builtin typeThenScope = .ok linter := ⟨_, rfl⟩
  obtain ⟨_, _, summaries, _, invalid, agrees⟩ :=
    reporters_agree built (makes_lintAll linter ["feat: add it", "add it"])
  have mem : linter.lint "add it" ∈ linter.lintAll ["feat: add it", "add it"] :=
    List.mem_map_of_mem (by decide)
  have counts : (linter.lint "add it").errors.length = 1 ∧
      (linter.lint "add it").warnings.length = 1 ∧
      (linter.lintAll ["feat: add it", "add it"]).countP (!·.isValid) = 1 := by
    obtain rfl := Except.ok.inj built
    decide +kernel
  have said : (linter.lint "add it").heading? false = some "✗ add it" ∧
      (linter.lint "add it").failures =
        [⟨"type-empty", .error, false, "type-empty: type may not be empty"⟩,
          ⟨"scope-empty", .warning, false, "scope-empty: scope may not be empty"⟩] := by
    obtain rfl := Except.ok.inj built
    decide +kernel
  have failed := (invalid false 1).mpr ⟨Nat.one_pos, counts.2.2.symm⟩
  refine ⟨linter, built, failed, ?_, ?_, ?_, ?_⟩
  next =>
    rw [← summaries, failed]
    exact nofun
  next =>
    have marked := (agrees _ mem).marked true
    rwa [if_neg (List.ne_nil_of_length_pos (by omega))] at marked
  next => omega
  next =>
    obtain ⟨heading, lines, renders, prints, _⟩ := (agrees _ mem).printed false
    obtain rfl := Option.some.inj (renders.first.symm.trans said.1)
    rw [said.2] at prints
    rcases prints with - | ⟨typeLine, - | ⟨scopeLine, - | -⟩⟩
    rw [Outcome.prints_iff (by decide)] at typeLine scopeLine
    rwa [← typeLine, ← scopeLine] at renders

end Linter

namespace Invocation

/-- The reports of a check agree too, and the error that it ends with counts the invalid ones. -/
theorem check_agrees (invocation : Invocation) (colour : Bool) {workspace : Workspace}
    {config : Config} {linter : Linter} {history : History} {commits : List Commit}
    {target : String} {verbose : Bool} (command : invocation.command = .check target verbose)
    (ready : (workspace.machine colour).prepared invocation.config = .ok (config, linter))
    (repository : workspace.history = some history)
    (resolved : history.range target = .ok commits) :
    let result := workspace.run colour invocation
    ∃ reports lines, List.Forall₂ (ReportsOn linter) commits reports ∧
      Shows invocation.format colour verbose reports lines ∧
      result.2 = workspace.printed lines ∧
      (∀ report ∈ reports, report.Agrees) ∧
      ∀ count, result.1 = .error (.lint (.invalid count)) ↔
        0 < count ∧ count = reports.countP (!·.isValid) := by
  intro result
  have ran : result = _ := check_run command ready repository resolved
  have built := (Machine.prepared_eq_ok_iff _).mp ready
  have reportsOn : List.Forall₂ (ReportsOn linter) commits (linter.lintCommits commits) :=
    forall₂_reportsOn_iff.mpr rfl
  rw [ran]
  refine ⟨_, _, reportsOn, shows_shown reportsOn verbose, rfl, fun report mem => ?_, fun count => ?_⟩
  next => exact (linter.makes_lintCommits commits report mem).agrees built.2
  next =>
    rw [mapError_eq_error, ← verdict_eq_invalid_iff]
    constructor
    next =>
      rintro ⟨fault, failed, same⟩
      rw [failed, Error.lint.inj same]
    next => exact fun failed => ⟨_, failed, rfl⟩

end Invocation

end HeaderLint
