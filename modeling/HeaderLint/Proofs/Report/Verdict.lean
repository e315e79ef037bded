import HeaderLint.Report.Verdict

set_option autoImplicit false

namespace HeaderLint

def Report.Passes (strict : Bool) (report : Report) : Prop :=
  report.isValid = true ∧ (strict = true → report.warnings = [])

theorem Report.Passes.lenient {report : Report} (passes : report.Passes true) :
    report.Passes false :=
  ⟨passes.1, nofun⟩

theorem verdict_cases (strict : Bool) (reports : List Report) :
    (0 < reports.countP (!·.isValid) ∧
      verdict strict reports = .error (.invalid (reports.countP (!·.isValid)))) ∨
    (reports.countP (!·.isValid) = 0 ∧ strict = true ∧ 0 < (reports.flatMap (·.warnings)).length ∧
      verdict strict reports = .error (.strictWarnings (reports.flatMap (·.warnings)).length)) ∨
    ((∀ report ∈ reports, report.Passes strict) ∧ verdict strict reports = .ok ()) := by
  by_cases invalid : 0 < reports.countP (!·.isValid)
  next => exact .inl ⟨invalid, by simp only [verdict, invalid, if_true]⟩
  next =>
    have noneInvalid : reports.countP (!·.isValid) = 0 := Nat.eq_zero_of_not_pos invalid
    by_cases warned : strict = true ∧ 0 < (reports.flatMap (·.warnings)).length
    next =>
      refine .inr (.inl ⟨noneInvalid, warned.1, warned.2, ?_⟩)
      simp only [verdict, invalid, warned.1, warned.2, Bool.true_and, decide_true, if_true,
        if_false]
    next =>
      have valid : ∀ report ∈ reports, report.isValid = true := by
        simpa [List.countP_eq_zero] using noneInvalid
      refine .inr (.inr ⟨fun report mem => ⟨valid report mem, fun isStrict => ?_⟩, ?_⟩)
      next =>
        have silent : (reports.flatMap (·.warnings)).length = 0 :=
          Nat.eq_zero_of_not_pos fun warns => warned ⟨isStrict, warns⟩
        exact List.flatMap_eq_nil_iff.mp (List.length_eq_zero_iff.mp silent) report mem
      next => simp only [verdict, invalid, if_false, Bool.and_eq_true, decide_eq_true_eq, warned]

@[simp] theorem verdict_eq_ok_iff {strict : Bool} {reports : List Report} :
    verdict strict reports = .ok () ↔ ∀ report ∈ reports, report.Passes strict := by
  rcases verdict_cases strict reports with
    ⟨invalids, failed⟩ | ⟨_, isStrict, warnings, failed⟩ | ⟨all, passed⟩
  next =>
    obtain ⟨report, mem, invalid⟩ := List.countP_pos_iff.mp invalids
    simp only [failed, reduceCtorEq, false_iff]
    exact fun all => by simp [(all report mem).1] at invalid
  next =>
    obtain ⟨warning, mem⟩ := List.exists_mem_of_length_pos warnings
    obtain ⟨report, among, warns⟩ := List.mem_flatMap.mp mem
    simp only [failed, reduceCtorEq, false_iff]
    exact fun all => List.ne_nil_of_mem warns ((all report among).2 isStrict)
  next => exact iff_of_true passed all

theorem verdict_error {strict : Bool} {reports : List Report} {fault : LintError}
    (failed : verdict strict reports = .error fault) :
    fault =
      if 0 < reports.countP (!·.isValid) then .invalid (reports.countP (!·.isValid))
      else .strictWarnings (reports.flatMap (·.warnings)).length := by
  rcases verdict_cases strict reports with
    ⟨invalids, ended⟩ | ⟨allValid, _, _, ended⟩ | ⟨_, passed⟩
  next =>
    rw [if_pos invalids]
    exact Except.error.inj (failed.symm.trans ended)
  next =>
    rw [if_neg (Nat.not_lt.mpr (Nat.le_of_eq allValid))]
    exact Except.error.inj (failed.symm.trans ended)
  next => exact absurd (failed.symm.trans passed) (by simp)

@[simp] theorem verdict_eq_invalid_iff {strict : Bool} {reports : List Report} {count : Nat} :
    verdict strict reports = .error (.invalid count) ↔
      0 < count ∧ count = reports.countP (!·.isValid) := by
  constructor
  next =>
    intro failed
    have counted := verdict_error failed
    split at counted
    next some =>
      obtain rfl := LintError.invalid.inj counted
      exact ⟨some, rfl⟩
    next => cases counted
  next =>
    rintro ⟨some, rfl⟩
    simp only [verdict, some, if_true]

theorem verdict_lenient {reports : List Report} (passed : verdict true reports = .ok ()) :
    verdict false reports = .ok () :=
  verdict_eq_ok_iff.mpr fun report mem => (verdict_eq_ok_iff.mp passed report mem).lenient

end HeaderLint
