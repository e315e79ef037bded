import HeaderLint.Proofs.Config.RuleSet
import HeaderLint.Proofs.Linter

set_option autoImplicit false

namespace HeaderLint

namespace RuleSet

variable {name : String} {entry : Entry}

theorem filter_put (entries : List (String × Entry)) :
    (put name entry entries).filter (·.1 != name) = entries.filter (·.1 != name) := by
  induction entries with
  | nil => simp [put]
  | cons head rest ih =>
    by_cases same : head.1 = name
    next => simp [put, same]
    next => simp only [put, same, if_false, List.filter_cons, ih]

theorem filter_enabled_insert {rules next : RuleSet} (inserted : rules.insert name entry = .ok next) :
    next.enabled.filter (·.1 != name) = rules.enabled.filter (·.1 != name) := by
  rw [enabled, enabled, (insert_eq_ok_iff.mp inserted).2, List.filter_comm, filter_put,
    List.filter_comm]

end RuleSet

namespace ActiveRule

variable {registry : Registry} {message : Message} {item : String × Entry}

def judged? (registry : Registry) (message : Message) (item : String × Entry) : Option Outcome :=
  (registry.find? item.1).map fun rule => outcome { name := item.1, entry := item.2, rule } message

theorem Binds.judged? {active : ActiveRule} (binds : Binds registry item active) :
    judged? registry message item = some (active.outcome message) := by
  obtain ⟨sameName, sameEntry, registered, _⟩ := binds
  rw [ActiveRule.judged?, registered, ← sameName, ← sameEntry]
  rfl

theorem rule_of_judged? {outcome : Outcome} (judged : judged? registry message item = some outcome) :
    outcome.rule = item.1 := by
  obtain ⟨rule, _, rfl⟩ := Option.map_eq_some_iff.mp judged
  rfl

theorem filter_judged? (p : String → Bool) :
    (judged? registry message item).filter (p ·.rule) =
      if p item.1 then judged? registry message item else none := by
  cases judged : judged? registry message item with
  | none => simp
  | some outcome => simp [Option.filter, rule_of_judged? judged]

end ActiveRule

namespace Linter

open ActiveRule

variable {registry : Registry} {rules : RuleSet} {linter : Linter}

theorem map_outcome_of_binds {entries : List (String × Entry)} {actives : List ActiveRule}
    (bound : List.Forall₂ (Binds registry) entries actives) (message : Message) :
    actives.map (·.outcome message) = entries.filterMap (judged? registry message) := by
  induction bound with
  | nil => rfl
  | cons binds _ ih => rw [List.map_cons, List.filterMap_cons_some binds.judged?, ih]

theorem outcomes_eq_filterMap (built : build registry rules = .ok linter) (message : Message) :
    (linter.lintMessage message).outcomes = rules.enabled.filterMap (judged? registry message) :=
  map_outcome_of_binds (build_eq_ok_iff.mp built) message

theorem filter_outcomes (built : build registry rules = .ok linter) (message : Message)
    (p : String → Bool) :
    (linter.lintMessage message).outcomes.filter (p ·.rule) =
      (rules.enabled.filter (p ·.1)).filterMap (judged? registry message) := by
  rw [outcomes_eq_filterMap built, List.filter_filterMap, List.filterMap_filter]
  simp only [filter_judged?]

theorem map_rule_outcomes (built : build registry rules = .ok linter) (message : Message) :
    (linter.lintMessage message).outcomes.map (·.rule) = rules.enabled.map Prod.fst := by
  rw [← ruleNames_of_build built, lintMessage, ruleNames, List.map_map]
  rfl

/-- The outcomes of one report in the order of other entries, and what does not depend on order. -/
structure Rearranged (entries : List (String × Entry)) (report other : Report) : Prop where
  outcomes : other.outcomes.Perm report.outcomes
  order : other.outcomes.map (·.rule) = entries.map Prod.fst
  isValid : other.isValid = report.isValid
  errors : other.errors.length = report.errors.length
  warnings : other.warnings.length = report.warnings.length

theorem rearranged_of_perm {others : RuleSet} {other : Linter}
    (perm : others.entries.Perm rules.entries) (built : build registry rules = .ok linter)
    (rebuilt : build registry others = .ok other) (text : String) :
    Rearranged others.enabled (linter.lint text) (other.lint text) := by
  have outcomes : (other.lint text).outcomes.Perm (linter.lint text).outcomes := by
    have here := outcomes_eq_filterMap built (Message.parse text)
    have there := outcomes_eq_filterMap rebuilt (Message.parse text)
    rw [lint, lint, here, there]
    exact (perm.filter _).filterMap _
  constructor
  case outcomes => exact outcomes
  case order => exact map_rule_outcomes rebuilt (Message.parse text)
  case isValid => exact outcomes.all_eq
  case errors => exact (outcomes.filter _).length_eq
  case warnings => exact (outcomes.filter _).length_eq

/-- Rules do not interfere: an entry that is inserted or replaced changes no outcome of another rule,
and to reorder the entries is to reorder the outcomes. -/
theorem independent (registry : Registry) :
    (∀ (rules next : RuleSet) (name : String) (entry : Entry), rules.insert name entry = .ok next →
      ∀ linter other, build registry rules = .ok linter → build registry next = .ok other →
        ∀ text, (other.lint text).outcomes.filter (·.rule != name) =
          (linter.lint text).outcomes.filter (·.rule != name)) ∧
    ∀ rules others : RuleSet, others.entries.Perm rules.entries →
      ((∃ other, build registry others = .ok other) ↔ ∃ linter, build registry rules = .ok linter) ∧
      ∀ linter other, build registry rules = .ok linter → build registry others = .ok other →
        ∀ text, Rearranged others.enabled (linter.lint text) (other.lint text) := by
  constructor
  next =>
    intro rules next name entry inserted linter other built rebuilt text
    have here := filter_outcomes built (Message.parse text) (· != name)
    have there := filter_outcomes rebuilt (Message.parse text) (· != name)
    rw [RuleSet.filter_enabled_insert inserted] at there
    exact there.trans here.symm
  next =>
    intro rules others perm
    refine ⟨?_, fun linter other built rebuilt => rearranged_of_perm perm built rebuilt⟩
    have enabled : others.enabled.Perm rules.enabled := perm.filter _
    rw [exists_build_iff, exists_build_iff]
    exact forall_congr' fun item => imp_congr_left enabled.mem_iff

def threeEmpty : RuleSet :=
  { entries := [("type-empty", ⟨.error, .never, none⟩), ("scope-empty", ⟨.disabled, .never, none⟩),
      ("subject-empty", ⟨.warning, .never, none⟩)]
    nodup := by decide
    filled := by decide }

def threeReversed : RuleSet :=
  { entries := threeEmpty.entries.reverse
    nodup := by decide
    filled := by decide }

theorem independent_threeEmpty :
    ∃ next linter enabled other,
      threeEmpty.insert "scope-empty" ⟨.error, .never, none⟩ = .ok next ∧
      build .builtin threeEmpty = .ok linter ∧ build .builtin next = .ok enabled ∧
      build .builtin threeReversed = .ok other ∧
      (enabled.lint "feat").outcomes.length = 3 ∧
      (enabled.lint "feat").outcomes.filter (·.rule != "scope-empty") =
        (linter.lint "feat").outcomes.filter (·.rule != "scope-empty") ∧
      (other.lint "feat").outcomes.map (·.rule) = ["subject-empty", "type-empty"] ∧
      (other.lint "feat").isValid = (linter.lint "feat").isValid := by
  obtain ⟨next, inserted⟩ : ∃ next,
      threeEmpty.insert "scope-empty" ⟨.error, .never, none⟩ = .ok next := ⟨_, rfl⟩
  obtain ⟨linter, built⟩ : ∃ linter, build .builtin threeEmpty = .ok linter := ⟨_, rfl⟩
  have reversed : threeReversed.entries.Perm threeEmpty.entries := List.reverse_perm _
  obtain ⟨others, reordered⟩ := independent .builtin
  obtain ⟨other, rebuilt⟩ := (reordered _ _ reversed).1.mpr ⟨linter, built⟩
  obtain ⟨enabled, enabling⟩ : ∃ enabled, build .builtin next = .ok enabled := by
    obtain rfl := Except.ok.inj inserted
    exact ⟨_, rfl⟩
  have rearranged := (reordered _ _ reversed).2 linter other built rebuilt "feat"
  refine ⟨next, linter, enabled, other, inserted, built, enabling, rebuilt, ?_,
    others _ _ _ _ inserted linter enabled built enabling "feat", rearranged.order,
    rearranged.isValid⟩
  obtain rfl := Except.ok.inj inserted
  obtain rfl := Except.ok.inj enabling
  rfl

end Linter

end HeaderLint
