import HeaderLint.Linter
import HeaderLint.Proofs.Except
import HeaderLint.Proofs.Registry
import Mathlib.Data.List.Forall2

set_option autoImplicit false

namespace HeaderLint

theorem forall_mem_iff_of_forall₂ {A B : Type} {R : A → B → Prop} {p : A → Prop} {q : B → Prop}
    {as : List A} {bs : List B} (related : List.Forall₂ R as bs)
    (agree : ∀ a b, R a b → (p a ↔ q b)) : (∀ a ∈ as, p a) ↔ ∀ b ∈ bs, q b := by
  induction related with
  | nil => simp
  | cons here _ ih => simp only [List.forall_mem_cons, agree _ _ here, ih]

theorem exists_forall₂ {A B : Type} {R : A → B → Prop} {as : List A}
    (each : ∀ a ∈ as, ∃ b, R a b) : ∃ bs, List.Forall₂ R as bs := by
  induction as with
  | nil => exact ⟨[], .nil⟩
  | cons a as ih =>
    obtain ⟨b, here⟩ := each a List.mem_cons_self
    obtain ⟨bs, behind⟩ := ih fun a mem => each a (List.mem_cons_of_mem _ mem)
    exact ⟨b :: bs, .cons here behind⟩

namespace RuleSet

def enabled (rules : RuleSet) : List (String × Entry) :=
  rules.entries.filter fun item => item.2.severity != .disabled

end RuleSet

namespace ActiveRule

structure Binds (registry : Registry) (item : String × Entry) (active : ActiveRule) : Prop where
  name : active.name = item.1
  entry : active.entry = item.2
  registered : registry.find? item.1 = some active.rule
  accepted : active.rule.check item.2.value = .ok ()

@[simp] theorem bind_eq_ok_iff {registry : Registry} {name : String} {entry : Entry}
    {active : ActiveRule} :
    bind registry name entry = .ok active ↔ Binds registry (name, entry) active := by
  simp only [bind, bind_eq_ok, Registry.resolve_eq_ok_iff, mapError_eq_ok]
  constructor
  next =>
    rintro ⟨rule, registered, _, accepted, made⟩
    obtain rfl := Except.ok.inj made
    exact ⟨rfl, rfl, registered, accepted⟩
  next =>
    rintro ⟨rfl, rfl, registered, accepted⟩
    exact ⟨active.rule, registered, (), accepted, rfl⟩

structure Judges (registry : Registry) (message : Message) (item : String × Entry)
    (outcome : Outcome) : Prop where
  rule : outcome.rule = item.1
  severity : outcome.severity = item.2.severity
  judged : ∃ rule, registry.find? item.1 = some rule ∧
    outcome.passed = (rule.evaluate message item.2.applicability item.2.value).passed ∧
    outcome.message =
      item.1 ++ ": " ++ (rule.evaluate message item.2.applicability item.2.value).message

theorem Binds.judges {registry : Registry} {item : String × Entry} {active : ActiveRule}
    (binds : Binds registry item active) (message : Message) :
    Judges registry message item (active.outcome message) := by
  obtain ⟨sameName, sameEntry, registered, _⟩ := binds
  refine ⟨sameName, congrArg Entry.severity sameEntry, active.rule, registered, ?_, ?_⟩
  next => rw [← sameEntry]; rfl
  next => rw [← sameEntry, ← sameName]; rfl

end ActiveRule

namespace Linter

open ActiveRule

variable {registry : Registry} {rules : RuleSet} {linter : Linter}

theorem activeRules_eq_ok_iff {entries : List (String × Entry)} {actives : List ActiveRule} :
    activeRules registry entries = .ok actives ↔
      List.Forall₂ (Binds registry) (entries.filter fun item => item.2.severity != .disabled)
        actives := by
  induction entries generalizing actives with
  | nil => simp [activeRules, eq_comm]
  | cons item rest ih =>
    obtain ⟨name, entry⟩ := item
    cases enabled : entry.severity != .disabled with
    | false => simp [activeRules, Entry.isEnabled, enabled, ih]
    | true =>
      simp only [activeRules, Entry.isEnabled, enabled, if_true, bind_eq_ok, bind_eq_ok_iff, ih,
        List.filter_cons, List.forall₂_cons_left_iff]
      constructor
      next =>
        rintro ⟨active, binds, others, bound, made⟩
        exact ⟨active, others, binds, bound, (Except.ok.inj made).symm⟩
      next =>
        rintro ⟨active, others, binds, bound, rfl⟩
        exact ⟨active, binds, others, bound, rfl⟩

@[simp] theorem build_eq_ok_iff :
    build registry rules = .ok linter ↔
      List.Forall₂ (Binds registry) rules.enabled linter.rules := by
  rw [build, bind_eq_ok]
  constructor
  next =>
    rintro ⟨actives, bound, made⟩
    obtain rfl := Except.ok.inj made
    exact activeRules_eq_ok_iff.mp bound
  next =>
    intro bound
    exact ⟨linter.rules, activeRules_eq_ok_iff.mpr bound, rfl⟩

@[simp] theorem mem_enabled {item : String × Entry} :
    item ∈ rules.enabled ↔ item ∈ rules.entries ∧ item.2.severity ≠ .disabled := by
  simp [RuleSet.enabled]

theorem exists_build_iff :
    (∃ linter, build registry rules = .ok linter) ↔
      ∀ item ∈ rules.enabled, ∃ rule, registry.find? item.1 = some rule ∧
        rule.check item.2.value = .ok () := by
  constructor
  next =>
    rintro ⟨linter, built⟩
    have each (item : String × Entry) (active : ActiveRule) (binds : Binds registry item active) :
        (∃ rule, registry.find? item.1 = some rule ∧ rule.check item.2.value = .ok ()) ↔ True :=
      iff_true_intro ⟨active.rule, binds.registered, binds.accepted⟩
    exact (forall_mem_iff_of_forall₂ (build_eq_ok_iff.mp built) each).mpr fun _ _ => trivial
  next =>
    intro usable
    have each (item : String × Entry) (mem : item ∈ rules.enabled) :
        ∃ active, Binds registry item active := by
      obtain ⟨rule, registered, accepted⟩ := usable item mem
      exact ⟨{ name := item.1, entry := item.2, rule }, rfl, rfl, registered, accepted⟩
    obtain ⟨actives, bound⟩ := exists_forall₂ each
    exact ⟨{ rules := actives }, build_eq_ok_iff.mpr bound⟩

theorem ruleNames_of_build (built : build registry rules = .ok linter) :
    linter.ruleNames = rules.enabled.map Prod.fst := by
  have same : List.Forall₂ (· = ·) (rules.enabled.map Prod.fst) linter.ruleNames := by
    rw [ruleNames, List.forall₂_map_left_iff, List.forall₂_map_right_iff]
    exact (build_eq_ok_iff.mp built).imp fun _ _ binds => binds.name.symm
  rw [List.forall₂_eq_eq_eq] at same
  exact same.symm

theorem outcomes_of_build (built : build registry rules = .ok linter) (message : Message) :
    List.Forall₂ (Judges registry message) rules.enabled (linter.lintMessage message).outcomes := by
  rw [lintMessage, List.forall₂_map_right_iff]
  exact (build_eq_ok_iff.mp built).imp fun _ _ binds => binds.judges message

theorem isValid_iff {report : Report} :
    report.isValid = true ↔
      ∀ outcome ∈ report.outcomes, outcome.severity = .error → outcome.passed = true := by
  rw [Report.isValid, List.all_eq_true]
  refine forall₂_congr fun outcome _ => ?_
  cases passed : outcome.passed <;> simp [Outcome.isError, passed]

theorem isValid_lint_iff (built : build registry rules = .ok linter) (text : String) :
    (linter.lint text).isValid = true ↔
      ∀ item ∈ rules.enabled, item.2.severity = .error →
        ∃ rule, registry.find? item.1 = some rule ∧
          (rule.evaluate (Message.parse text) item.2.applicability item.2.value).passed = true := by
  rw [isValid_iff]
  refine (forall_mem_iff_of_forall₂ (outcomes_of_build built _) fun item outcome judges => ?_).symm
  obtain ⟨-, severity, rule, registered, passed, -⟩ := judges
  rw [severity, passed]
  simp [registered]

theorem getElem?_lintAll (linter : Linter) (texts : List String) (i : Nat) :
    (linter.lintAll texts)[i]? = texts[i]?.map linter.lint := by
  rw [lintAll, List.getElem?_map]

theorem lint_eq_map_build (rules : RuleSet) (text : String) :
    HeaderLint.lint rules text = (build .builtin rules).map (·.lint text) := by
  rw [HeaderLint.lint]
  cases build .builtin rules <;> rfl

/-- A report holds one outcome for each enabled entry, in the order of the entries, and each is what
the entry's rule says of the message. -/
theorem lint_exact (built : build registry rules = .ok linter) (text : String) :
    let message := Message.parse text
    let report := linter.lint text
    linter.ruleNames = rules.enabled.map Prod.fst ∧
    List.Forall₂ (Judges registry message) rules.enabled report.outcomes ∧
    (report.isValid = true ↔
      ∀ outcome ∈ report.outcomes, outcome.severity = .error → outcome.passed = true) ∧
    report.breaking = message.isBreaking ∧ report.input = some text ∧
    (∀ texts, (linter.lintAll texts).length = texts.length ∧
      ∀ i : Nat, (linter.lintAll texts)[i]? = texts[i]?.map linter.lint) ∧
    (registry = .builtin → HeaderLint.lint rules text = .ok (linter.lint text)) := by
  refine ⟨ruleNames_of_build built, outcomes_of_build built _, isValid_iff, rfl, rfl,
    fun texts => ⟨List.length_map _, getElem?_lintAll linter texts⟩, ?_⟩
  rintro rfl
  rw [lint_eq_map_build, built]
  rfl

end Linter

def typeOnly : RuleSet :=
  { entries := [("scope-empty", ⟨.disabled, .never, none⟩), ("type-empty", ⟨.error, .never, none⟩)]
    nodup := by decide
    filled := by decide }

theorem lint_exact_typeOnly :
    ∃ linter, Linter.build .builtin typeOnly = .ok linter ∧ linter.ruleNames = ["type-empty"] ∧
      (linter.lint "add it").outcomes.length = 1 ∧
      lint typeOnly "add it" = .ok (linter.lint "add it") := by
  obtain ⟨linter, built⟩ : ∃ linter, Linter.build .builtin typeOnly = .ok linter := ⟨_, rfl⟩
  obtain ⟨names, outcomes, _, _, _, _, free⟩ := Linter.lint_exact built "add it"
  exact ⟨linter, built, names, outcomes.length_eq.symm, free rfl⟩

end HeaderLint
