import HeaderLint.Config.Preset
import HeaderLint.Proofs.Linter
import HeaderLint.Proofs.Message.Parse

set_option autoImplicit false

namespace HeaderLint

open Text

structure Message.SameHeader (a b : Message) : Prop where
  header : a.header = b.header
  type : a.type = b.type
  scope : a.scope = b.scope
  subject : a.subject = b.subject
  marked : a.marked = b.marked

theorem Message.sameHeader_parse {a b : String}
    (same : headerLine a.toList = headerLine b.toList) : (parse a).SameHeader (parse b) := by
  rw [← firstLine_eq_headerLine, ← firstLine_eq_headerLine] at same
  constructor <;> simp only [parse, ofChars, same]

theorem Field.of_sameHeader {a b : Message} (same : a.SameHeader b) (field : Field) :
    field.of a = field.of b := by
  cases field with
  | type => exact same.type
  | scope => exact same.scope
  | subject => exact same.subject

namespace Rule

def ReadsHeader (rule : Rule) : Prop :=
  ∀ a b applicability value, Message.SameHeader a b →
    rule.evaluate a applicability value = rule.evaluate b applicability value

theorem membership_readsHeader (field : Field) : (membership field).ReadsHeader := by
  intro a b applicability value same
  simp only [membership, Membership.evaluate, Field.of_sameHeader same]

theorem emptiness_readsHeader (field : Field) : (emptiness field).ReadsHeader := by
  intro a b applicability value same
  simp only [emptiness, Emptiness.evaluate, Field.of_sameHeader same]

theorem casing_readsHeader (field : Field) : (casing field).ReadsHeader := by
  intro a b applicability value same
  simp only [casing, Casing.evaluate, Field.of_sameHeader same]

theorem fullStop_readsHeader : fullStop.ReadsHeader := by
  intro a b applicability value same
  simp only [fullStop, FullStop.evaluate, same.subject]

theorem headerLength_readsHeader (bound : Bound) : (headerLength bound).ReadsHeader := by
  intro a b applicability value same
  have length : a.headerLength = b.headerLength := congrArg String.length same.header
  simp only [headerLength, HeaderLength.evaluate, length]

theorem headerTrim_readsHeader : headerTrim.ReadsHeader := by
  intro a b applicability value same
  simp only [headerTrim, HeaderTrim.evaluate, same.header]

theorem exclamationMark_readsHeader : exclamationMark.ReadsHeader := by
  intro a b applicability value same
  simp only [exclamationMark, ExclamationMark.evaluate, same.header]

end Rule

namespace Registry

theorem readsHeader_of_mem {item : String × Rule} (mem : item ∈ builtinRules) :
    item.2.ReadsHeader := by
  simp only [builtinRules, List.mem_cons, List.not_mem_nil, or_false] at mem
  rcases mem with rfl | rfl | rfl | rfl | rfl | rfl | rfl | rfl | rfl | rfl | rfl | rfl | rfl
  all_goals
    simp only [Rule.membership_readsHeader, Rule.emptiness_readsHeader, Rule.casing_readsHeader,
      Rule.fullStop_readsHeader, Rule.exclamationMark_readsHeader, Rule.headerLength_readsHeader,
      Rule.headerTrim_readsHeader]

end Registry

namespace Linter

variable {rules : RuleSet} {linter : Linter}

theorem readsHeader_of_build (built : build .builtin rules = .ok linter) :
    ∀ active ∈ linter.rules, active.rule.ReadsHeader := by
  have each (item : String × Entry) (active : ActiveRule)
      (binds : ActiveRule.Binds .builtin item active) : True ↔ active.rule.ReadsHeader := by
    simp [Registry.readsHeader_of_mem (Registry.find?_builtin_eq_some_iff.mp binds.registered)]
  exact (forall_mem_iff_of_forall₂ (build_eq_ok_iff.mp built) each).mp fun _ _ => trivial

theorem outcomes_of_sameHeader (built : build .builtin rules = .ok linter) {a b : Message}
    (same : a.SameHeader b) : (linter.lintMessage a).outcomes = (linter.lintMessage b).outcomes := by
  apply List.map_congr_left
  intro active mem
  simp only [ActiveRule.outcome, readsHeader_of_build built active mem a b _ _ same]

/-- What a linter says of a text, breaking changes aside, it says of all texts with that header. -/
theorem lint_header_only (built : build .builtin rules = .ok linter) {a b : String}
    (same : headerLine a.toList = headerLine b.toList) :
    let report := linter.lint a
    let other := linter.lint b
    report.outcomes = other.outcomes ∧ report.isValid = other.isValid ∧
    report.summary = other.summary ∧ report.errors = other.errors ∧
    report.warnings = other.warnings ∧
    report = { other with input := report.input, breaking := report.breaking } := by
  have outcomes : (linter.lint a).outcomes = (linter.lint b).outcomes :=
    outcomes_of_sameHeader built (Message.sameHeader_parse same)
  have errors : (linter.lint a).errors = (linter.lint b).errors := by
    rw [Report.errors, outcomes, ← Report.errors]
  have warnings : (linter.lint a).warnings = (linter.lint b).warnings := by
    rw [Report.warnings, outcomes, ← Report.warnings]
  have isValid : (linter.lint a).isValid = (linter.lint b).isValid := by
    rw [Report.isValid, outcomes, ← Report.isValid]
  have summary : (linter.lint a).summary = (linter.lint b).summary := by
    simp only [Report.summary, errors, warnings, isValid]
  exact ⟨outcomes, isValid, summary, errors, warnings,
    congrArg (fun outcomes => { linter.lint a with outcomes }) outcomes⟩

theorem lint_header_only_preset :
    ∃ linter, build .builtin Config.preset.rules = .ok linter ∧
      headerLine "feat(cli): add it\r\n\nBREAKING CHANGE: all of it".toList =
        headerLine "feat(cli): add it".toList ∧
      (linter.lint "feat(cli): add it\r\n\nBREAKING CHANGE: all of it").breaking = true ∧
      (linter.lint "feat(cli): add it").breaking = false ∧
      (linter.lint "feat(cli): add it\r\n\nBREAKING CHANGE: all of it").outcomes =
        (linter.lint "feat(cli): add it").outcomes := by
  obtain ⟨linter, built⟩ : ∃ linter, build .builtin Config.preset.rules = .ok linter := ⟨_, rfl⟩
  have same : headerLine "feat(cli): add it\r\n\nBREAKING CHANGE: all of it".toList =
      headerLine "feat(cli): add it".toList := by decide
  refine ⟨linter, built, same, ?_, ?_, (lint_header_only built same).1⟩
  next => rfl
  next => rfl

end Linter

end HeaderLint
