import HeaderLint.Proofs.Linter

set_option autoImplicit false

namespace HeaderLint

variable {registry : Registry} {item : String × Entry} {error : ConfigError}

def Usable (registry : Registry) (item : String × Entry) : Prop :=
  ∃ rule, registry.find? item.1 = some rule ∧ rule.check item.2.value = .ok ()

inductive Refuses (registry : Registry) (item : String × Entry) : ConfigError → Prop
  | unknown (absent : registry.find? item.1 = none) :
      Refuses registry item (.unknownRule item.1)
  | value {rule : Rule} {fault : ValueFault} (registered : registry.find? item.1 = some rule)
      (refused : rule.check item.2.value = .error fault) :
      Refuses registry item (.invalidValue item.1 fault.message)

def Stops (registry : Registry) (entries : List (String × Entry)) (error : ConfigError) : Prop :=
  ∃ before item after, entries = before ++ item :: after ∧
    (∀ other ∈ before, Usable registry other) ∧ Refuses registry item error

@[simp] theorem not_stops_nil : ¬ Stops registry [] error := by
  rintro ⟨before, item, after, split, _⟩
  simp at split

@[simp] theorem stops_cons {rest : List (String × Entry)} :
    Stops registry (item :: rest) error ↔
      Refuses registry item error ∨ Usable registry item ∧ Stops registry rest error := by
  constructor
  next =>
    rintro ⟨before, bad, after, split, usable, refuses⟩
    rcases before with - | ⟨first, before⟩
    next =>
      obtain ⟨rfl, -⟩ := List.cons.inj split
      exact .inl refuses
    next =>
      obtain ⟨rfl, rfl⟩ := List.cons.inj split
      obtain ⟨here, behind⟩ := List.forall_mem_cons.mp usable
      exact .inr ⟨here, before, bad, after, rfl, behind, refuses⟩
  next =>
    rintro (refuses | ⟨here, before, bad, after, rfl, usable, refuses⟩)
    next => exact ⟨[], item, rest, rfl, nofun, refuses⟩
    next => exact ⟨item :: before, bad, after, rfl, List.forall_mem_cons.mpr ⟨here, usable⟩, refuses⟩

namespace ActiveRule

variable {name : String} {entry : Entry}

@[simp] theorem bind_eq_error_iff :
    bind registry name entry = .error error ↔ Refuses registry (name, entry) error := by
  simp only [bind, Registry.resolve]
  cases registered : registry.find? name with
  | none =>
    constructor
    next =>
      intro failed
      obtain rfl := Except.error.inj failed
      exact .unknown registered
    next =>
      intro refuses
      cases refuses with
      | unknown => rfl
      | value known => simp [registered] at known
  | some rule =>
    simp only [bind_eq_error, mapError_eq_error]
    constructor
    next =>
      rintro (absent | ⟨_, same, ⟨fault, refused, rfl⟩ | ⟨_, _, made⟩⟩)
      next => cases absent
      next =>
        obtain rfl := Except.ok.inj same
        exact .value registered refused
      next => cases made
    next =>
      intro refuses
      cases refuses with
      | unknown absent => simp [registered] at absent
      | value known refused =>
        obtain rfl := Option.some.inj (registered.symm.trans known)
        exact .inr ⟨rule, rfl, .inl ⟨_, refused, rfl⟩⟩

theorem exists_bind_iff :
    (∃ active, bind registry name entry = .ok active) ↔ Usable registry (name, entry) := by
  simp only [bind_eq_ok_iff]
  constructor
  next =>
    rintro ⟨active, binds⟩
    exact ⟨active.rule, binds.registered, binds.accepted⟩
  next =>
    rintro ⟨rule, registered, accepted⟩
    exact ⟨{ name, entry, rule }, rfl, rfl, registered, accepted⟩

end ActiveRule

namespace Linter

open ActiveRule

theorem activeRules_filter (registry : Registry) (entries : List (String × Entry)) :
    activeRules registry (entries.filter fun item => item.2.severity != .disabled) =
      activeRules registry entries := by
  induction entries with
  | nil => rfl
  | cons item rest ih =>
    cases enabled : item.2.severity != .disabled with
    | false => simp [activeRules, Entry.isEnabled, enabled, ih]
    | true => simp [activeRules, Entry.isEnabled, enabled, ih]

theorem activeRules_eq_error_iff {entries : List (String × Entry)} :
    activeRules registry entries = .error error ↔
      Stops registry (entries.filter fun item => item.2.severity != .disabled) error := by
  induction entries with
  | nil => simp [activeRules]
  | cons item rest ih =>
    obtain ⟨name, entry⟩ := item
    cases enabled : entry.severity != .disabled with
    | false => simp [activeRules, Entry.isEnabled, enabled, ih]
    | true =>
      simp only [activeRules, Entry.isEnabled, enabled, if_true, bind_eq_error, bind_eq_error_iff,
        ih, List.filter_cons, stops_cons, ← exists_bind_iff]
      refine or_congr_right ⟨?_, ?_⟩
      next =>
        rintro ⟨active, bound, stops | ⟨_, _, made⟩⟩
        next => exact ⟨⟨active, bound⟩, stops⟩
        next => cases made
      next =>
        rintro ⟨⟨active, bound⟩, stops⟩
        exact ⟨active, bound, .inl stops⟩

theorem build_eq_error_iff {rules : RuleSet} :
    build registry rules = .error error ↔ Stops registry rules.enabled error := by
  rw [build, bind_eq_error, activeRules_eq_error_iff, RuleSet.enabled]
  constructor
  next =>
    rintro (stops | ⟨_, _, made⟩)
    next => exact stops
    next => cases made
  next => exact .inl

theorem build_congr {rules others : RuleSet} (same : others.enabled = rules.enabled) :
    build registry others = build registry rules := by
  rw [build, build, ← activeRules_filter registry others.entries,
    ← activeRules_filter registry rules.entries]
  change (activeRules registry others.enabled >>= _) = activeRules registry rules.enabled >>= _
  rw [same]

end Linter

namespace RuleSet

def withoutDisabled (rules : RuleSet) : RuleSet :=
  { entries := rules.enabled
    nodup := rules.nodup.sublist (List.filter_sublist.map Prod.fst)
    filled := fun item mem => rules.filled item (List.mem_filter.mp mem).1 }

theorem enabled_withoutDisabled (rules : RuleSet) :
    rules.withoutDisabled.enabled = rules.enabled := by
  simp [withoutDisabled, enabled]

end RuleSet

namespace Linter

/-- There is a linter just when every enabled entry can be used; otherwise the error is that of the
first one that cannot. What is disabled has no part in it, and might as well not be there. -/
theorem build_exact (registry : Registry) (rules : RuleSet) :
    ((∃ linter, build registry rules = .ok linter) ↔
      ∀ item ∈ rules.enabled, Usable registry item) ∧
    (∀ error, build registry rules = .error error ↔ Stops registry rules.enabled error) ∧
    (∀ others : RuleSet, others.enabled = rules.enabled →
      build registry others = build registry rules) ∧
    build registry rules.withoutDisabled = build registry rules ∧
    ∀ text, (build registry rules.withoutDisabled).map (·.lint text) =
      (build registry rules).map (·.lint text) := by
  have same : build registry rules.withoutDisabled = build registry rules :=
    build_congr rules.enabled_withoutDisabled
  refine ⟨exists_build_iff, fun error => build_eq_error_iff, fun others => build_congr, same,
    fun text => ?_⟩
  rw [same]

-- Of two faults the first is reported, and what is disabled has none.
example : Linter.build .builtin
    { entries := [("no-such-rule", ⟨.disabled, .never, none⟩), ("type-empty", ⟨.error, .never, none⟩),
        ("header-trim", ⟨.warning, .always, some (.number 1)⟩), ("no-rule", ⟨.error, .always, none⟩)]
      nodup := by decide
      filled := by decide } =
    .error (.invalidValue "header-trim" "this rule takes no value") :=
  rfl

end Linter

end HeaderLint
