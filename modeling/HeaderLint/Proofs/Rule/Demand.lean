import HeaderLint.Proofs.Linter
import HeaderLint.Proofs.Rule.Builtin
import HeaderLint.Proofs.Text.Blank

set_option autoImplicit false

namespace HeaderLint

open Text

/-- What an entry asks of a message, the exclamation mark aside. -/
inductive Demand where
  | oneOf (field : Field) (allowed : List String)
  | vacancy (field : Field)
  | cased (field : Field) (cases : List LetterCase)
  | ending (stop : String)
  | length (bound : Rule.Bound) (limit : Nat)
  | trimmed

namespace Demand

def ruleName : Demand → String
  | oneOf field _ => field.label ++ "-enum"
  | vacancy field => field.label ++ "-empty"
  | cased field _ => field.label ++ "-case"
  | ending _ => "subject-full-stop"
  | length bound _ => "header-" ++ bound.name ++ "-length"
  | trimmed => "header-trim"

/-- How a value says what is asked. Every name of a case stands for one. -/
inductive ReadFrom : Option Value → Demand → Prop
  | oneOf {field : Field} {allowed : List String} (filled : allowed ≠ []) :
      ReadFrom (some (.list allowed)) (.oneOf field allowed)
  | vacancy {field : Field} : ReadFrom none (.vacancy field)
  | caseName {field : Field} {letterCase : LetterCase} :
      ReadFrom (some (.text letterCase.name)) (.cased field [letterCase])
  | caseNames {field : Field} {cases : List LetterCase} :
      ReadFrom (some (.list (cases.map LetterCase.name))) (.cased field cases)
  | period : ReadFrom none (.ending ".")
  | ending {stop : String} (filled : stop ≠ "") : ReadFrom (some (.text stop)) (.ending stop)
  | length {bound : Rule.Bound} {limit : Nat} :
      ReadFrom (some (.number limit)) (.length bound limit)
  | trimmed : ReadFrom none .trimmed

def Exempts : Demand → Message → Prop
  | cased field _, message => ∀ actual ∈ field.of message, actual = ""
  | ending _, message => ∀ subject ∈ message.subject, subject = ""
  | _, _ => False

def Holds : Demand → Message → Prop
  | oneOf field allowed, message => ∃ actual ∈ field.of message, actual ∈ allowed
  | vacancy field, message => ∀ actual ∈ field.of message, actual = ""
  | cased field cases, message =>
      ∃ actual ∈ field.of message, ∃ letterCase ∈ cases, letterCase.fits actual.toList = true
  | ending stop, message => ∃ subject ∈ message.subject, stop.toList <:+ subject.toList
  | length .max limit, message => message.header.toList.length ≤ limit
  | length .min limit, message => limit ≤ message.header.toList.length
  | trimmed, message =>
      (∀ c ∈ message.header.toList.head?, isBlank c = false) ∧
        ∀ c ∈ message.header.toList.getLast?, isBlank c = false

def Met (demand : Demand) (applicability : Applicability) (message : Message) : Prop :=
  demand.Exempts message ∨
    match applicability with
    | .always => demand.Holds message
    | .never => ¬ demand.Holds message

def rule : Demand → Rule
  | oneOf field _ => .membership field
  | vacancy field => .emptiness field
  | cased field _ => .casing field
  | ending _ => .fullStop
  | length bound _ => .headerLength bound
  | trimmed => .headerTrim

section Passed

variable {message : Message} {applicability : Applicability}

theorem met_iff_of_asked {demand : Demand} {condition : Bool} (asked : ¬ demand.Exempts message)
    (holds : demand.Holds message ↔ condition = true) :
    demand.Met applicability message ↔ applicability.expects condition = true := by
  unfold Met
  rw [or_iff_right asked, holds]
  cases applicability <;> simp [Applicability.expects]

theorem met_iff_of_field {demand : Demand} {field : Option String} {condition : String → Bool}
    (exempts : demand.Exempts message ↔ ∀ actual ∈ field, actual = "")
    (holds : demand.Holds message ↔ ∃ actual ∈ field, condition actual = true) :
    demand.Met applicability message ↔
      ∀ actual ∈ field, actual ≠ "" → applicability.expects (condition actual) = true := by
  cases field with
  | none => simp [Met, exempts]
  | some actual =>
    by_cases empty : actual = ""
    next => simp [Met, exempts, empty]
    next =>
      have asked : ¬ demand.Exempts message := by simp [exempts, empty]
      have here : demand.Holds message ↔ condition actual = true := holds.trans (by simp)
      rw [met_iff_of_asked asked here]
      simp [empty]

theorem oneOf_passed_iff {field : Field} {allowed : List String} :
    ((Rule.membership field).evaluate message applicability (some (.list allowed))).passed = true ↔
      (oneOf field allowed).Met applicability message := by
  rw [Rule.membership_passed_iff]
  cases applicability <;> simp [Met, Exempts, Holds]

theorem vacancy_passed_iff {field : Field} (value : Option Value) :
    ((Rule.emptiness field).evaluate message applicability value).passed = true ↔
      (vacancy field).Met applicability message := by
  rw [Rule.emptiness_passed]
  refine (met_iff_of_asked id ?_).symm
  simp [Holds, Option.all_eq_true]

theorem cases_of_names {value : Value} {cases : List LetterCase}
    (read : value.strings? = some (cases.map LetterCase.name)) :
    Rule.Casing.cases (some value) = cases := by
  have known (letterCase : LetterCase) : LetterCase.ofName? letterCase.name = some letterCase :=
    LetterCase.ofName?_eq_some_iff.mpr rfl
  simp [Rule.Casing.cases, read, List.filterMap_map, known]

theorem cased_passed_iff {field : Field} {value : Value} {cases : List LetterCase}
    (read : value.strings? = some (cases.map LetterCase.name)) :
    ((Rule.casing field).evaluate message applicability (some value)).passed = true ↔
      (cased field cases).Met applicability message := by
  let fitting (actual : String) : Bool := cases.any (·.fits actual.toList)
  have met : (cased field cases).Met applicability message ↔ ∀ actual ∈ field.of message,
      actual ≠ "" → applicability.expects (fitting actual) = true :=
    met_iff_of_field Iff.rfl (by simp [Holds, fitting])
  rw [Rule.casing_passed_iff, cases_of_names read, met]
  refine forall₃_congr fun actual _ _ => ?_
  cases applicability <;> simp [Applicability.expects, fitting]

theorem ending_passed_iff {stop : String} {value : Option Value}
    (read : (value.bind Value.text?).getD "." = stop) :
    (Rule.fullStop.evaluate message applicability value).passed = true ↔
      (ending stop).Met applicability message := by
  rw [Rule.fullStop_passed_iff, read]
  exact (met_iff_of_field Iff.rfl (by simp [Holds])).symm

theorem length_passed_iff {bound : Rule.Bound} {limit : Nat} :
    ((Rule.headerLength bound).evaluate message applicability
      (some (.number limit))).passed = true ↔ (length bound limit).Met applicability message := by
  have counted : message.header.toList.length = message.headerLength := String.length_toList
  rw [Rule.headerLength_passed, Int.toNat_natCast]
  refine (met_iff_of_asked id ?_).symm
  cases bound <;> simp only [Holds, Rule.Bound.admits, counted, decide_eq_true_eq]

theorem trimmed_passed_iff (value : Option Value) :
    (Rule.headerTrim.evaluate message applicability value).passed = true ↔
      trimmed.Met applicability message := by
  rw [Rule.headerTrim_passed]
  refine (met_iff_of_asked id ?_).symm
  rw [beq_iff_eq, trim_eq_iff]
  constructor
  next => exact fun ⟨first, last⟩ => ⟨⟨[], [], by simp⟩, first, last⟩
  next => exact fun ⟨_, first, last⟩ => ⟨first, last⟩

theorem passed_iff {demand : Demand} {value : Option Value} (reads : ReadFrom value demand) :
    (demand.rule.evaluate message applicability value).passed = true ↔
      demand.Met applicability message := by
  cases reads with
  | oneOf => exact oneOf_passed_iff
  | vacancy => exact vacancy_passed_iff none
  | caseName => exact cased_passed_iff rfl
  | caseNames => exact cased_passed_iff rfl
  | period => exact ending_passed_iff rfl
  | ending => exact ending_passed_iff rfl
  | length => exact length_passed_iff
  | trimmed => exact trimmed_passed_iff none

end Passed

section Accepted

variable {value : Option Value}

theorem readFrom_of_membership {field : Field}
    (accepted : (Rule.membership field).check value = .ok ()) :
    ∃ allowed, ReadFrom value (.oneOf field allowed) := by
  match value with
  | some (.list allowed) => exact ⟨allowed, .oneOf (Rule.membership_check_eq_ok_iff.mp accepted)⟩
  | some (.number _) | some (.text _) | none => cases accepted

theorem exists_cases_of_known {names : List String}
    (known : ∀ name ∈ names, (LetterCase.ofName? name).isSome) :
    ∃ cases : List LetterCase, names = cases.map LetterCase.name := by
  induction names with
  | nil => exact ⟨[], rfl⟩
  | cons name names ih =>
    rw [List.forall_mem_cons] at known
    obtain ⟨letterCase, found⟩ := Option.isSome_iff_exists.mp known.1
    obtain ⟨cases, rest⟩ := ih known.2
    have name := LetterCase.ofName?_eq_some_iff.mp found
    exact ⟨letterCase :: cases, by rw [List.map_cons, name, ← rest]⟩

theorem readFrom_of_casing {field : Field}
    (accepted : (Rule.casing field).check value = .ok ()) :
    ∃ cases, ReadFrom value (.cased field cases) := by
  match value with
  | some (.text name) =>
    have known := (Rule.casing_check_eq_ok_iff rfl).mp accepted
    obtain ⟨letterCase, found⟩ := Option.isSome_iff_exists.mp (known name (by simp))
    obtain rfl := LetterCase.ofName?_eq_some_iff.mp found
    exact ⟨[letterCase], .caseName⟩
  | some (.list names) =>
    obtain ⟨cases, rfl⟩ := exists_cases_of_known ((Rule.casing_check_eq_ok_iff rfl).mp accepted)
    exact ⟨cases, .caseNames⟩
  | some (.number _) | none => cases accepted

theorem readFrom_of_fullStop (accepted : Rule.fullStop.check value = .ok ()) :
    ∃ stop, ReadFrom value (.ending stop) := by
  match value with
  | none => exact ⟨".", .period⟩
  | some (.text stop) =>
    refine ⟨stop, .ending ?_⟩
    rintro rfl
    cases accepted
  | some (.number _) | some (.list _) => cases accepted

theorem readFrom_of_headerLength {bound : Rule.Bound}
    (accepted : (Rule.headerLength bound).check value = .ok ()) :
    ∃ limit, ReadFrom value (.length bound limit) := by
  match value with
  | some (.number n) =>
    obtain ⟨limit, rfl⟩ := Int.eq_ofNat_of_zero_le (Rule.headerLength_check_eq_ok_iff.mp accepted)
    exact ⟨limit, .length⟩
  | some (.text _) | some (.list _) | none => cases accepted

end Accepted

structure StatedBy (item : String × Entry) (demand : Demand) : Prop where
  named : demand.ruleName = item.1
  reads : ReadFrom item.2.value demand

open Registry

theorem rule_of_ruleName {demand : Demand} {rule : Rule}
    (mem : (demand.ruleName, rule) ∈ builtinRules) : rule = demand.rule := by
  cases demand with
  | oneOf field _ =>
    cases field with
    | type | scope => simpa [builtinRules, ruleName, Field.label, Demand.rule] using mem
    | subject => simp [builtinRules, ruleName, Field.label] at mem
  | vacancy field | cased field _ =>
    cases field <;> simpa [builtinRules, ruleName, Field.label, Demand.rule] using mem
  | length bound _ =>
    cases bound <;> simpa [builtinRules, ruleName, Rule.Bound.name, Demand.rule] using mem
  | ending | trimmed => simpa [builtinRules, ruleName, Demand.rule] using mem

def kinds : List Demand :=
  [ .oneOf .type [], .oneOf .scope [], .vacancy .type, .vacancy .scope, .vacancy .subject,
    .cased .type [], .cased .scope [], .cased .subject [], .ending ".",
    .length .max 0, .length .min 0, .trimmed ]

theorem filter_builtinRules :
    builtinRules.filter (fun item => item.1 ≠ "subject-exclamation-mark") =
      kinds.map fun demand => (demand.ruleName, demand.rule) :=
  rfl

theorem exists_readFrom {value : Option Value} (kind : Demand)
    (accepted : kind.rule.check value = .ok ()) :
    ∃ demand, demand.ruleName = kind.ruleName ∧ ReadFrom value demand := by
  cases kind with
  | oneOf field _ =>
    obtain ⟨allowed, reads⟩ := readFrom_of_membership accepted
    exact ⟨oneOf field allowed, rfl, reads⟩
  | vacancy field =>
    obtain rfl := Rule.takesNoValue_eq_ok_iff.mp accepted
    exact ⟨vacancy field, rfl, .vacancy⟩
  | cased field _ =>
    obtain ⟨cases, reads⟩ := readFrom_of_casing accepted
    exact ⟨cased field cases, rfl, reads⟩
  | ending _ =>
    obtain ⟨stop, reads⟩ := readFrom_of_fullStop accepted
    exact ⟨ending stop, rfl, reads⟩
  | length bound _ =>
    obtain ⟨limit, reads⟩ := readFrom_of_headerLength accepted
    exact ⟨length bound limit, rfl, reads⟩
  | trimmed =>
    obtain rfl := Rule.takesNoValue_eq_ok_iff.mp accepted
    exact ⟨trimmed, rfl, .trimmed⟩

theorem exists_statedBy {item : String × Entry} {rule : Rule}
    (mem : (item.1, rule) ∈ builtinRules) (accepted : rule.check item.2.value = .ok ())
    (other : item.1 ≠ "subject-exclamation-mark") : ∃ demand : Demand, demand.StatedBy item := by
  have among : (item.1, rule) ∈ kinds.map fun demand => (demand.ruleName, demand.rule) := by
    rw [← filter_builtinRules, List.mem_filter]
    exact ⟨mem, by simpa using other⟩
  obtain ⟨kind, -, same⟩ := List.mem_map.mp among
  obtain ⟨name, rfl⟩ := Prod.mk.inj same
  obtain ⟨demand, named, reads⟩ := exists_readFrom kind accepted
  exact ⟨demand, named.trans name, reads⟩

structure Decides (item : String × Entry) (message : Message) (outcome : Outcome) : Prop where
  rule : outcome.rule = item.1
  stated : ∃ demand : Demand, demand.StatedBy item
  passed : ∀ demand : Demand, demand.StatedBy item →
    (outcome.passed = true ↔ demand.Met item.2.applicability message)

theorem decides_of_binds {item : String × Entry} {active : ActiveRule}
    (binds : active.Binds builtin item) (other : item.1 ≠ "subject-exclamation-mark")
    (message : Message) : Decides item message (active.outcome message) := by
  have mem := find?_builtin_eq_some_iff.mp binds.registered
  refine ⟨binds.name, exists_statedBy mem binds.accepted other, fun demand stated => ?_⟩
  rw [← stated.named] at mem
  rw [← passed_iff stated.reads, ← rule_of_ruleName mem, ← binds.entry]
  rfl

end Demand

namespace Linter

/-- A message passes an entry if it meets what the entry states, and every entry that a linter is
built of states something; the exclamation mark is aside. -/
theorem demands_exact {rules : RuleSet} {linter : Linter}
    (built : build .builtin rules = .ok linter) (text : String) :
    List.Forall₂
      (fun item outcome => item.1 ≠ "subject-exclamation-mark" →
        Demand.Decides item (Message.parse text) outcome)
      rules.enabled (linter.lint text).outcomes := by
  have outcomes : (linter.lint text).outcomes =
      linter.rules.map (·.outcome (Message.parse text)) := rfl
  rw [outcomes, List.forall₂_map_right_iff]
  exact (build_eq_ok_iff.mp built).imp fun item active binds other =>
    Demand.decides_of_binds binds other _

end Linter

-- The stop is a period, which no value says.
def mixedDemands : RuleSet :=
  { entries := [("scope-enum", ⟨.error, .never, some (.list ["wip"])⟩),
      ("subject-case", ⟨.error, .always, some (.list ["kebab-case", "lower-case"])⟩),
      ("subject-full-stop", ⟨.warning, .never, none⟩)]
    nodup := by decide
    filled := by decide }

theorem demands_exact_mixedDemands :
    ∃ linter, Linter.build .builtin mixedDemands = .ok linter ∧
      ∃ scope subject stop, (linter.lint "feat(wip): add it.").outcomes = [scope, subject, stop] ∧
        scope.passed ≠ true ∧ subject.passed = true ∧ stop.passed ≠ true := by
  obtain ⟨linter, built⟩ : ∃ linter, Linter.build .builtin mixedDemands = .ok linter := ⟨_, rfl⟩
  have judged := Linter.demands_exact built "feat(wip): add it."
  obtain ⟨scope, others, ofScope, second, outcomes⟩ := List.forall₂_cons_left_iff.mp judged
  obtain ⟨subject, rest, ofSubject, third, rfl⟩ := List.forall₂_cons_left_iff.mp second
  obtain ⟨stop, none, ofStop, finished, rfl⟩ := List.forall₂_cons_left_iff.mp third
  obtain rfl := List.forall₂_nil_left_iff.mp finished
  have scopeMet := (ofScope (by decide)).passed (.oneOf .scope ["wip"]) ⟨rfl, .oneOf (by simp)⟩
  have subjectMet := (ofSubject (by decide)).passed (.cased .subject [.kebab, .lower])
    ⟨rfl, @Demand.ReadFrom.caseNames .subject [.kebab, .lower]⟩
  have stopMet := (ofStop (by decide)).passed (.ending ".") ⟨rfl, .period⟩
  refine ⟨linter, built, scope, subject, stop, outcomes, fun passes => ?_, ?_, fun passes => ?_⟩
  next =>
    rcases scopeMet.mp passes with exempt | absent
    next => exact exempt
    next => exact absent ⟨"wip", rfl, by simp⟩
  next => exact subjectMet.mpr (.inr ⟨"add it.", rfl, .lower, by simp, rfl⟩)
  next =>
    rcases stopMet.mp passes with exempt | absent
    next => exact absurd (exempt "add it." rfl) (by decide)
    next => exact absent ⟨"add it.", rfl, by decide⟩

end HeaderLint
