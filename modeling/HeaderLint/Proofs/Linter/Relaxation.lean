import HeaderLint.Proofs.Config.RuleSet
import HeaderLint.Proofs.Linter
import HeaderLint.Proofs.Rule.Builtin
import Mathlib.Logic.Relation

set_option autoImplicit false

namespace HeaderLint

inductive Severity.Lowers : Severity → Severity → Prop
  | errorToWarning : Lowers .error .warning
  | errorToDisabled : Lowers .error .disabled
  | warningToDisabled : Lowers .warning .disabled

theorem Severity.Lowers.ne_disabled {severity lower : Severity} (lowers : severity.Lowers lower) :
    severity ≠ .disabled := by
  cases lowers <;> simp

theorem Severity.Lowers.ne_error {severity lower : Severity} (lowers : severity.Lowers lower) :
    lower ≠ .error := by
  cases lowers <;> simp

-- A list of what is wanted may grow; one of what is not may shrink, but something must stay in it.
def Applicability.Widens : Applicability → List String → List String → Prop
  | .always, items, others => items ⊆ others
  | .never, items, others => others ≠ [] ∧ others ⊆ items

theorem Applicability.Widens.ne_nil {applicability : Applicability} {items others : List String}
    (widens : applicability.Widens items others) (filled : items ≠ []) : others ≠ [] := by
  cases applicability with
  | always => exact fun empty => filled (List.subset_nil.mp (empty ▸ widens))
  | never => exact widens.1

def Rule.Bound.Loosens : Bound → Applicability → Int → Int → Prop
  | .max, .always, n, m | .min, .never, n, m => n ≤ m
  | .min, .always, n, m | .max, .never, n, m => 0 ≤ m ∧ m ≤ n

/-- A change to the entry of a rule that makes the rule weigh less or ask for less. A single name of
a case counts as the list of it. -/
inductive Entry.Relaxes (name : String) : Entry → Entry → Prop
  | severity {entry : Entry} {lower : Severity} (lowers : entry.severity.Lowers lower) :
      Relaxes name entry { entry with severity := lower }
  | members {severity : Severity} {applicability : Applicability} {items others : List String}
      (named : name ∈ ["type-enum", "scope-enum"]) (widens : applicability.Widens items others) :
      Relaxes name ⟨severity, applicability, some (.list items)⟩
        ⟨severity, applicability, some (.list others)⟩
  | cases {severity : Severity} {applicability : Applicability} {old new : Value}
      {names others : List String} (named : name ∈ ["type-case", "scope-case", "subject-case"])
      (before : old.strings? = some names) (after : new.strings? = some others)
      (widens : applicability.Widens names others)
      (known : ∀ other ∈ others, other ∈ names ∨ (LetterCase.ofName? other).isSome) :
      Relaxes name ⟨severity, applicability, some old⟩ ⟨severity, applicability, some new⟩
  | length {severity : Severity} {applicability : Applicability} {n m : Int} {bound : Rule.Bound}
      (named : name = "header-" ++ bound.name ++ "-length")
      (loosens : bound.Loosens applicability n m) :
      Relaxes name ⟨severity, applicability, some (.number n)⟩
        ⟨severity, applicability, some (.number m)⟩

def RuleSet.Relaxes (rules others : RuleSet) : Prop :=
  ∃ name old new, rules.find? name = some old ∧ Entry.Relaxes name old new ∧
    rules.insert name new = .ok others

namespace Rule

structure Eases (rule : Rule) (old new : Entry) : Prop where
  accepts : rule.check old.value = .ok () → rule.check new.value = .ok ()
  passes : ∀ message, (rule.evaluate message old.applicability old.value).passed = true →
    (rule.evaluate message new.applicability new.value).passed = true

section Eases

variable {severity : Severity} {applicability : Applicability}

theorem membership_eases (field : Field) {items others : List String}
    (widens : applicability.Widens items others) :
    (membership field).Eases ⟨severity, applicability, some (.list items)⟩
      ⟨severity, applicability, some (.list others)⟩ := by
  constructor
  next =>
    simp only [membership_check_eq_ok_iff]
    exact widens.ne_nil
  next =>
    intro message
    simp only [membership_passed_iff]
    cases applicability with
    | always =>
      rintro ⟨actual, present, member⟩
      exact ⟨actual, present, widens member⟩
    | never => exact fun absent actual present member => absent actual present (widens.2 member)

theorem cases_subset {old new : Value} {names others : List String}
    (before : old.strings? = some names) (after : new.strings? = some others)
    (within : names ⊆ others) : Casing.cases (some old) ⊆ Casing.cases (some new) := by
  intro letterCase
  rw [mem_cases_iff before, mem_cases_iff after]
  exact fun ⟨name, named, known⟩ => ⟨name, within named, known⟩

theorem casing_eases (field : Field) {old new : Value} {names others : List String}
    (before : old.strings? = some names) (after : new.strings? = some others)
    (widens : applicability.Widens names others)
    (known : ∀ other ∈ others, other ∈ names ∨ (LetterCase.ofName? other).isSome) :
    (casing field).Eases ⟨severity, applicability, some old⟩ ⟨severity, applicability, some new⟩ := by
  constructor
  next =>
    simp only [casing_check_eq_ok_iff before, casing_check_eq_ok_iff after]
    exact fun oldKnown other mem => (known other mem).elim (oldKnown other) id
  next =>
    intro message
    simp only [casing_passed_iff]
    intro passed actual present filled
    have decided := passed actual present filled
    cases applicability with
    | always =>
      obtain ⟨letterCase, among, fits⟩ := decided
      exact ⟨letterCase, cases_subset before after widens among, fits⟩
    | never => exact fun letterCase among => decided letterCase (cases_subset after before widens.2 among)

theorem headerLength_eases {bound : Bound} {n m : Int} (loosens : bound.Loosens applicability n m) :
    (headerLength bound).Eases ⟨severity, applicability, some (.number n)⟩
      ⟨severity, applicability, some (.number m)⟩ := by
  constructor
  next =>
    simp only [headerLength_check_eq_ok_iff]
    intro natural
    cases bound <;> cases applicability <;> simp only [Bound.Loosens] at loosens <;> omega
  next =>
    intro message
    simp only [headerLength_passed]
    cases bound <;> cases applicability <;>
      simp only [Bound.Loosens, Bound.admits, Applicability.expects, decide_eq_true_eq,
        Bool.not_eq_true', decide_eq_false_iff_not] at loosens ⊢ <;> omega

end Eases

end Rule

namespace Registry

theorem find?_members {name : String} (named : name ∈ ["type-enum", "scope-enum"]) :
    ∃ field, builtin.find? name = some (.membership field) := by
  simp only [List.mem_cons, List.not_mem_nil, or_false] at named
  rcases named with rfl | rfl
  next => exact ⟨.type, rfl⟩
  next => exact ⟨.scope, rfl⟩

theorem find?_cases {name : String} (named : name ∈ ["type-case", "scope-case", "subject-case"]) :
    ∃ field, builtin.find? name = some (.casing field) := by
  simp only [List.mem_cons, List.not_mem_nil, or_false] at named
  rcases named with rfl | rfl | rfl
  next => exact ⟨.type, rfl⟩
  next => exact ⟨.scope, rfl⟩
  next => exact ⟨.subject, rfl⟩

theorem find?_length (bound : Rule.Bound) :
    builtin.find? ("header-" ++ bound.name ++ "-length") = some (.headerLength bound) := by
  cases bound <;> rfl

end Registry

namespace Entry.Relaxes

variable {name : String} {old new : Entry}

theorem enabled (relaxes : Relaxes name old new) (stays : new.severity ≠ .disabled) :
    old.severity ≠ .disabled := by
  cases relaxes with
  | severity lowers => exact lowers.ne_disabled
  | members | cases | length => exact stays

theorem error (relaxes : Relaxes name old new) (stays : new.severity = .error) :
    old.severity = .error := by
  cases relaxes with
  | severity lowers => exact absurd stays lowers.ne_error
  | members | cases | length => exact stays

theorem eases (relaxes : Relaxes name old new) {rule : Rule}
    (registered : Registry.builtin.find? name = some rule) : rule.Eases old new := by
  cases relaxes with
  | severity lowers => exact ⟨id, fun _ => id⟩
  | members named widens =>
    obtain ⟨field, found⟩ := Registry.find?_members named
    obtain rfl := Option.some.inj (found.symm.trans registered)
    exact Rule.membership_eases field widens
  | cases named before after widens known =>
    obtain ⟨field, found⟩ := Registry.find?_cases named
    obtain rfl := Option.some.inj (found.symm.trans registered)
    exact Rule.casing_eases field before after widens known
  | @length severity applicability n m bound named loosens =>
    subst named
    obtain rfl := Option.some.inj ((Registry.find?_length bound).symm.trans registered)
    exact Rule.headerLength_eases loosens

theorem hasEmptyList_iff {severity : Severity} {applicability : Applicability} {value : Value}
    {items : List String} (read : value.strings? = some items) :
    (Entry.mk severity applicability (some value)).hasEmptyList = false ↔ items ≠ [] := by
  cases value with
  | number n => simp [Value.strings?] at read
  | text s => simp [hasEmptyList, ← Option.some.inj read]
  | list items => simp [hasEmptyList, ← Option.some.inj read]

theorem filled (relaxes : Relaxes name old new) (before : old.hasEmptyList = false) :
    new.hasEmptyList = false := by
  cases relaxes with
  | severity => exact before
  | members _ widens =>
    rw [hasEmptyList_iff rfl] at before ⊢
    exact widens.ne_nil before
  | cases _ names others widens =>
    rw [hasEmptyList_iff names] at before
    rw [hasEmptyList_iff others]
    exact widens.ne_nil before
  | length => rfl

end Entry.Relaxes

namespace Linter

variable {rules others : RuleSet} {linter : Linter}

theorem lint_relaxes (built : build .builtin rules = .ok linter) (relaxes : rules.Relaxes others) :
    ∃ relaxed, build .builtin others = .ok relaxed ∧
      ∀ text, (linter.lint text).isValid = true → (relaxed.lint text).isValid = true := by
  obtain ⟨name, old, new, found, step, inserted⟩ := relaxes
  have usable := exists_build_iff.mp ⟨linter, built⟩
  have present : (name, old) ∈ rules.entries := RuleSet.find?_eq_some_iff.mp found
  have entries : ∀ item ∈ others.entries, item = (name, new) ∨ item ∈ rules.entries := by
    rw [(RuleSet.insert_eq_ok_iff.mp inserted).2]
    exact fun item => RuleSet.mem_put
  have accepted : ∀ item ∈ others.enabled, ∃ rule, Registry.builtin.find? item.1 = some rule ∧
      rule.check item.2.value = .ok () := by
    intro item mem
    obtain ⟨among, stays⟩ := mem_enabled.mp mem
    rcases entries item among with rfl | kept
    next =>
      obtain ⟨rule, registered, taken⟩ := usable _ (mem_enabled.mpr ⟨present, step.enabled stays⟩)
      exact ⟨rule, registered, (step.eases registered).accepts taken⟩
    next => exact usable item (mem_enabled.mpr ⟨kept, stays⟩)
  obtain ⟨relaxed, rebuilt⟩ := exists_build_iff.mpr accepted
  refine ⟨relaxed, rebuilt, fun text valid => ?_⟩
  rw [isValid_lint_iff built] at valid
  rw [isValid_lint_iff rebuilt]
  intro item mem weighs
  obtain ⟨among, stays⟩ := mem_enabled.mp mem
  rcases entries item among with rfl | kept
  next =>
    obtain ⟨rule, registered, passed⟩ :=
      valid _ (mem_enabled.mpr ⟨present, step.enabled stays⟩) (step.error weighs)
    exact ⟨rule, registered, (step.eases registered).passes _ passed⟩
  next => exact valid item (mem_enabled.mpr ⟨kept, stays⟩) weighs

theorem exists_insert_of_relaxes {name : String} {old new : Entry}
    (found : rules.find? name = some old) (relaxes : old.Relaxes name new) :
    ∃ next, rules.insert name new = .ok next :=
  RuleSet.exists_insert (relaxes.filled (rules.filled _ (RuleSet.find?_eq_some_iff.mp found)))

/-- However often a set of rules is relaxed, its linter builds and accepts what it accepted; no
relaxation of an entry is refused. -/
theorem lint_relaxed (built : build .builtin rules = .ok linter)
    (relaxed : Relation.ReflTransGen RuleSet.Relaxes rules others) :
    (∃ lenient, build .builtin others = .ok lenient ∧
      ∀ text, (linter.lint text).isValid = true → (lenient.lint text).isValid = true) ∧
    ∀ name old new, others.find? name = some old → Entry.Relaxes name old new →
      ∃ next, others.insert name new = .ok next := by
  refine ⟨?_, fun name old new => exists_insert_of_relaxes⟩
  induction relaxed with
  | refl => exact ⟨linter, built, fun _ => id⟩
  | tail _ step ih =>
    obtain ⟨between, rebuilt, kept⟩ := ih
    obtain ⟨lenient, last, accepts⟩ := lint_relaxes rebuilt step
    exact ⟨lenient, last, fun text valid => accepts text (kept text valid)⟩

end Linter

def featuresOnly : RuleSet :=
  { entries := [("type-enum", ⟨.error, .always, some (.list ["feat"])⟩),
      ("subject-case", ⟨.error, .never, some (.list ["upper-case", "pascal-case"])⟩)]
    nodup := by decide
    filled := by decide }

def featuresOrFixes : RuleSet :=
  { entries := [("type-enum", ⟨.error, .always, some (.list ["fix", "feat"])⟩),
      ("subject-case", ⟨.error, .never, some (.text "upper-case")⟩)]
    nodup := by decide
    filled := by decide }

theorem relaxed_featuresOrFixes :
    Relation.ReflTransGen RuleSet.Relaxes featuresOnly featuresOrFixes := by
  have types : Entry.Relaxes "type-enum" ⟨.error, .always, some (.list ["feat"])⟩
      ⟨.error, .always, some (.list ["fix", "feat"])⟩ :=
    .members (by decide) (List.subset_cons_self "fix" ["feat"])
  have cases : Entry.Relaxes "subject-case"
      ⟨.error, .never, some (.list ["upper-case", "pascal-case"])⟩
      ⟨.error, .never, some (.text "upper-case")⟩ :=
    .cases (by decide) rfl rfl ⟨by simp, by simp⟩ (by simp)
  obtain ⟨between, inserted⟩ := @Linter.exists_insert_of_relaxes featuresOnly _ _ _ rfl types
  have entries := (RuleSet.insert_eq_ok_iff.mp inserted).2
  have found : between.find? "subject-case" =
      some ⟨.error, .never, some (.list ["upper-case", "pascal-case"])⟩ := by
    rw [RuleSet.find?, entries]
    rfl
  have last : between.insert "subject-case" ⟨.error, .never, some (.text "upper-case")⟩ =
      .ok featuresOrFixes := by
    rw [RuleSet.insert_eq_ok_iff, entries]
    exact ⟨rfl, rfl⟩
  exact .tail (.single ⟨_, _, _, rfl, types, inserted⟩) ⟨_, _, _, found, cases, last⟩

theorem lint_relaxed_featuresOrFixes :
    ∃ linter, Linter.build .builtin featuresOnly = .ok linter ∧
      Relation.ReflTransGen RuleSet.Relaxes featuresOnly featuresOrFixes ∧
      (linter.lint "feat: add it").isValid = true ∧
      ∃ lenient, Linter.build .builtin featuresOrFixes = .ok lenient ∧
        (lenient.lint "feat: add it").isValid = true := by
  obtain ⟨linter, built⟩ : ∃ linter, Linter.build .builtin featuresOnly = .ok linter := ⟨_, rfl⟩
  have valid : (linter.lint "feat: add it").isValid = true := by
    obtain rfl := Except.ok.inj built
    decide +kernel
  obtain ⟨⟨lenient, rebuilt, accepts⟩, _⟩ := Linter.lint_relaxed built relaxed_featuresOrFixes
  exact ⟨linter, built, relaxed_featuresOrFixes, valid, lenient, rebuilt, accepts _ valid⟩

end HeaderLint
