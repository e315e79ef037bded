import HeaderLint.Report.Text

set_option autoImplicit false

namespace HeaderLint

namespace Outcome

variable {outcome : Outcome}

@[simp] theorem isError_iff :
    outcome.isError = true ↔ outcome.passed = false ∧ outcome.severity = .error := by
  simp [isError]

@[simp] theorem isWarning_iff :
    outcome.isWarning = true ↔ outcome.passed = false ∧ outcome.severity = .warning := by
  simp [isWarning]

inductive Prints (colour : Bool) (outcome : Outcome) : String → Prop
  | passed (passed : outcome.passed = true) : outcome.Prints colour
      ("  " ++ Style.success.paint colour "✓" ++ " " ++ Style.faint.paint colour outcome.message)
  | error (isError : outcome.isError = true) : outcome.Prints colour
      ("  " ++ Style.failure.paint colour "✗" ++ " " ++
        Style.failureText.paint colour outcome.message)
  | warning (isWarning : outcome.isWarning = true) : outcome.Prints colour
      ("  " ++ Style.caution.paint colour "⚠" ++ " " ++
        Style.cautionText.paint colour outcome.message)

-- An outcome that is disabled would be shown as a warning, which it is not.
theorem prints_iff {colour : Bool} {line : String} (enabled : outcome.severity ≠ .disabled) :
    outcome.Prints colour line ↔ "  " ++ outcome.text colour = line := by
  rw [text, ← String.append_assoc, ← String.append_assoc, mark, body]
  constructor
  next =>
    intro prints
    cases prints with
    | passed passed => simp [passed]
    | error isError => simp [isError_iff.mp isError]
    | warning isWarning => simp [isWarning_iff.mp isWarning]
  next =>
    rintro rfl
    cases passed : outcome.passed with
    | true => exact .passed passed
    | false =>
      cases severity : outcome.severity with
      | disabled => exact absurd severity enabled
      | warning => exact .warning (isWarning_iff.mpr ⟨passed, severity⟩)
      | error => exact .error (isError_iff.mpr ⟨passed, severity⟩)

end Outcome

theorem CommitId.isSome_shortName? (id : CommitId) :
    ∀ name ∈ some id.name, (shortName? name).isSome = true := by
  simpa using id.short

namespace Report

variable {report : Report}

@[simp] theorem isValid_iff_errors : report.isValid = true ↔ report.errors = [] := by
  simp only [isValid, errors, List.all_eq_true, List.filter_eq_nil_iff, Bool.not_eq_true,
    Bool.not_eq_true']

def mark (colour : Bool) (report : Report) : String :=
  if report.isValid then Style.success.paint colour "✓" else Style.failure.paint colour "✗"

def Opens (report : Report) (verbose : Bool) (c : Char) : Prop :=
  ∃ text, report.text? false verbose = some text ∧ text.toList.head? = some c

@[simp] theorem toList_mark (report : Report) :
    (report.mark false).toList = [if report.errors = [] then '✓' else '✗'] := by
  rw [mark]
  simp only [isValid_iff_errors]
  split <;> rfl

theorem prefix_intercalate (separator first : String) (others : List String) :
    first.toList <+: (separator.intercalate (first :: others)).toList := by
  rw [String.toList_intercalate, List.map_cons]
  cases others with
  | nil => simp
  | cons second others =>
    rw [List.map_cons, List.intercalate_cons_cons, List.append_assoc]
    exact List.prefix_append _ _

def alarm (colour : Bool) (report : Report) : String :=
  if report.breaking then " " ++ Style.alarm.paint colour "[breaking]" else ""

inductive Heads (colour : Bool) (report : Report) : String → Prop
  | message (anonymous : report.commit = none) : report.Heads colour
      (report.mark colour ++ " " ++ report.header ++ report.alarm colour)
  | commit {name short : String} (named : report.commit = some name)
      (isShort : shortName? name = some short) : report.Heads colour
      (report.mark colour ++ " " ++ Style.commit.paint colour short ++ " " ++ report.header ++
        report.alarm colour)

theorem Heads.mark_prefix {colour : Bool} {heading : String}
    (heads : report.Heads colour heading) : (report.mark colour).toList <+: heading.toList := by
  cases heads with
  | message => simp [String.append_assoc]
  | commit => simp [String.append_assoc]

theorem heading?_of_anonymous (anonymous : report.commit = none) (colour : Bool) :
    report.heading? colour =
      some (report.mark colour ++ " " ++ report.header ++ report.alarm colour) := by
  rw [heading?, anonymous]
  exact congrArg some (by simp only [String.append_empty]; rfl)

theorem heading?_of_commit {name short : String} (commit : report.commit = some name)
    (isShort : shortName? name = some short) (colour : Bool) :
    report.heading? colour = some (report.mark colour ++ " " ++ Style.commit.paint colour short ++
      " " ++ report.header ++ report.alarm colour) := by
  rw [heading?, commit]
  simp only [isShort, Option.map_some, Option.bind_eq_bind, Option.bind_some, String.append_assoc]
  rfl

variable (named : ∀ commit ∈ report.commit, (shortName? commit).isSome = true)

include named

theorem exists_heading? (colour : Bool) :
    ∃ heading, report.heading? colour = some heading ∧ report.Heads colour heading := by
  cases commit : report.commit with
  | none => exact ⟨_, heading?_of_anonymous commit colour, .message commit⟩
  | some name =>
    obtain ⟨short, isShort⟩ := Option.isSome_iff_exists.mp (named name commit)
    exact ⟨_, heading?_of_commit commit isShort colour, .commit commit isShort⟩

theorem exists_text? (colour verbose : Bool) :
    ∃ heading, report.heading? colour = some heading ∧ report.Heads colour heading ∧
      report.text? colour verbose = some ("\n".intercalate
        (heading :: (report.shown verbose).map (fun outcome => "  " ++ outcome.text colour) ++
          ["  " ++ Style.faint.paint colour report.summary])) := by
  obtain ⟨heading, isHeading, heads⟩ := exists_heading? named colour
  refine ⟨heading, isHeading, heads, ?_⟩
  rw [text?, isHeading]
  rfl

theorem exists_mark_prefix_text? (colour verbose : Bool) :
    ∃ text, report.text? colour verbose = some text ∧
      (report.mark colour).toList <+: text.toList := by
  obtain ⟨heading, -, heads, rendered⟩ := exists_text? named colour verbose
  exact ⟨_, rendered, heads.mark_prefix.trans (prefix_intercalate _ _ _)⟩

theorem opens_iff {verbose : Bool} {c : Char} :
    report.Opens verbose c ↔ c = if report.errors = [] then '✓' else '✗' := by
  obtain ⟨text, rendered, rest, whole⟩ := exists_mark_prefix_text? named false verbose
  rw [Opens, rendered]
  simp only [Option.some.injEq, exists_eq_left', ← whole, toList_mark, List.singleton_append,
    List.head?_cons]
  exact eq_comm

end Report

end HeaderLint
