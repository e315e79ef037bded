import HeaderLint.Proofs.Linter
import HeaderLint.Proofs.Report.Verdict

set_option autoImplicit false

namespace HeaderLint

def Severity.promoted : Severity → Severity
  | .warning => .error
  | severity => severity

@[simp] theorem Severity.promoted_eq_disabled_iff {severity : Severity} :
    severity.promoted = .disabled ↔ severity = .disabled := by
  cases severity <;> simp [promoted]

@[simp] theorem Severity.promoted_eq_error_iff {severity : Severity} :
    severity.promoted = .error ↔ severity = .error ∨ severity = .warning := by
  cases severity <;> simp [promoted]

def Entry.promoted (entry : Entry) : Entry :=
  { entry with severity := entry.severity.promoted }

def RuleSet.promoted (rules : RuleSet) : RuleSet where
  entries := rules.entries.map fun item => (item.1, item.2.promoted)
  nodup := by simpa [Function.comp_def] using rules.nodup
  filled := by
    simp only [List.forall_mem_map]
    exact rules.filled

theorem RuleSet.enabled_promoted (rules : RuleSet) :
    rules.promoted.enabled = rules.enabled.map fun item => (item.1, item.2.promoted) := by
  rw [enabled, enabled, promoted, List.filter_map]
  congr 2
  funext item
  simp [Entry.promoted, bne]

structure Outcome.Alike (outcome other : Outcome) : Prop where
  rule : other.rule = outcome.rule
  passed : other.passed = outcome.passed
  message : other.message = outcome.message

def Outcome.promoted (outcome : Outcome) : Outcome :=
  { outcome with severity := outcome.severity.promoted }

theorem Outcome.alike_promoted (outcome : Outcome) : outcome.Alike outcome.promoted :=
  ⟨rfl, rfl, rfl⟩

namespace Report

def promoted (report : Report) : Report :=
  { report with outcomes := report.outcomes.map Outcome.promoted }

theorem warnings_eq_nil_iff {report : Report} :
    report.warnings = [] ↔
      ∀ outcome ∈ report.outcomes, outcome.severity = .warning → outcome.passed = true := by
  rw [warnings, List.filter_eq_nil_iff]
  refine forall₂_congr fun outcome _ => ?_
  cases passed : outcome.passed <;> simp [Outcome.isWarning, passed]

@[simp] theorem passes_promoted_iff {report : Report} :
    report.promoted.Passes false ↔ report.Passes true := by
  simp only [Passes, Linter.isValid_iff, warnings_eq_nil_iff, promoted, List.forall_mem_map,
    Outcome.promoted, Severity.promoted_eq_error_iff, or_imp, forall_and, forall_const,
    Bool.false_eq_true, false_imp_iff, and_true]

end Report

namespace Linter

variable {registry : Registry} {rules : RuleSet} {linter : Linter}

def promoted (linter : Linter) : Linter :=
  { rules := linter.rules.map fun active => { active with entry := active.entry.promoted } }

theorem build_promoted (built : build registry rules = .ok linter) :
    build registry rules.promoted = .ok linter.promoted := by
  rw [build_eq_ok_iff, RuleSet.enabled_promoted, promoted, List.forall₂_map_left_iff,
    List.forall₂_map_right_iff]
  refine (build_eq_ok_iff.mp built).imp fun item active binds => ?_
  exact ⟨binds.name, congrArg Entry.promoted binds.entry, binds.registered, binds.accepted⟩

theorem lint_promoted (linter : Linter) (text : String) :
    linter.promoted.lint text = (linter.lint text).promoted := by
  simp only [lint, lintMessage, promoted, Report.promoted, List.map_map]
  rfl

theorem lintAll_promoted (linter : Linter) (texts : List String) :
    linter.promoted.lintAll texts = (linter.lintAll texts).map Report.promoted := by
  simp only [lintAll, List.map_map]
  exact List.map_congr_left fun text _ => lint_promoted linter text

/-- A strict run accepts what any run accepts after all warnings became errors; the rules judge
alike, and a strict run accepts no more than one that is not. -/
theorem strict_exact (built : build registry rules = .ok linter) :
    (∃ raised, build registry rules.promoted = .ok raised ∧
      ∀ texts,
        (verdict true (linter.lintAll texts) = .ok () ↔
          verdict false (raised.lintAll texts) = .ok ()) ∧
        List.Forall₂
          (fun report other => List.Forall₂ Outcome.Alike report.outcomes other.outcomes)
          (linter.lintAll texts) (raised.lintAll texts)) ∧
    ∀ reports, verdict true reports = .ok () → verdict false reports = .ok () := by
  refine ⟨⟨linter.promoted, build_promoted built, fun texts => ?_⟩, fun _ => verdict_lenient⟩
  rw [lintAll_promoted]
  constructor
  next =>
    simp
  next =>
    rw [List.forall₂_map_right_iff, List.forall₂_same]
    intro report _
    rw [Report.promoted, List.forall₂_map_right_iff, List.forall₂_same]
    exact fun outcome _ => outcome.alike_promoted

end Linter

def typeAdvised : RuleSet :=
  { entries := [("type-empty", ⟨.warning, .never, none⟩), ("subject-empty", ⟨.error, .never, none⟩)]
    nodup := by decide
    filled := by decide }

theorem strict_exact_typeAdvised :
    ∃ linter raised, Linter.build .builtin typeAdvised = .ok linter ∧
      Linter.build .builtin typeAdvised.promoted = .ok raised ∧
      verdict true (linter.lintAll [": add it"]) = .error (.strictWarnings 1) ∧
      verdict false (linter.lintAll [": add it"]) = .ok () ∧
      verdict false (raised.lintAll [": add it"]) ≠ .ok () ∧
      verdict false (raised.lintAll ["feat: add it"]) = .ok () := by
  obtain ⟨linter, built⟩ : ∃ linter, Linter.build .builtin typeAdvised = .ok linter := ⟨_, rfl⟩
  obtain ⟨⟨raised, rebuilt, same⟩, _⟩ := Linter.strict_exact built
  have warned : verdict true (linter.lintAll [": add it"]) = .error (.strictWarnings 1) := by
    obtain rfl := Except.ok.inj built
    decide +kernel
  have accepted : verdict true (linter.lintAll ["feat: add it"]) = .ok () := by
    obtain rfl := Except.ok.inj built
    decide +kernel
  have mild : verdict false (linter.lintAll [": add it"]) = .ok () := by
    obtain rfl := Except.ok.inj built
    decide +kernel
  refine ⟨linter, raised, built, rebuilt, warned, mild, fun passed => ?_, (same _).1.mp accepted⟩
  simp [(same _).1.mpr passed] at warned

end HeaderLint
