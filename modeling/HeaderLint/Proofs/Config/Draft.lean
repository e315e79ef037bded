import HeaderLint.Config.Draft
import HeaderLint.Proofs.Config.Entry
import HeaderLint.Proofs.Config.RuleSet

set_option autoImplicit false

namespace HeaderLint

namespace Item

-- What the places of an array may hold, and nothing is a place that the array does not have.
def IsSeverity (item : Option Item) : Prop :=
  item = some (.integer 0) ∨ item = some (.integer 1) ∨ item = some (.integer 2)

def IsApplicability (item : Option Item) : Prop :=
  item = none ∨ item = some (.text "always") ∨ item = some (.text "never")

def IsValue (item : Option Item) : Prop :=
  item ≠ some (.list [])

inductive Weighs : Option Item → Severity → Prop
  | disabled : Weighs (some (.integer 0)) .disabled
  | warning : Weighs (some (.integer 1)) .warning
  | error : Weighs (some (.integer 2)) .error

inductive Applies : Option Item → Applicability → Prop
  | omitted : Applies none .always
  | always : Applies (some (.text "always")) .always
  | never : Applies (some (.text "never")) .never

inductive Gives : Option Item → Option Value → Prop
  | omitted : Gives none none
  | number (n : Int) : Gives (some (.integer n)) (some (.number n))
  | text (s : String) : Gives (some (.text s)) (some (.text s))
  | list {items kept : List String} (first : FirstOccurrences items kept) :
      Gives (some (.list items)) (some (.list kept))

def severityText : Option Item → String
  | none => "missing severity"
  | some (.integer n) => "expected 0, 1 or 2, got " ++ toString n
  | some _ => "severity must be a number"

def applicabilityText : Option Item → String
  | some (.text s) => "expected \"always\" or \"never\", got \"" ++ s ++ "\""
  | _ => "applicability must be a string"

theorem severity_cases (item : Option Item) :
    (∃ severity, Item.severity item = .ok severity ∧ IsSeverity item ∧ Weighs item severity) ∨
    ∃ fault, Item.severity item = .error fault ∧ ¬ IsSeverity item ∧
      ∀ name, fault.inRule name = .invalidSeverity name (severityText item) := by
  rcases item with - | n | s | items
  next => exact .inr ⟨_, rfl, by simp [IsSeverity], fun _ => rfl⟩
  next =>
    by_cases level : n = 0 ∨ n = 1 ∨ n = 2
    next =>
      rcases level with rfl | rfl | rfl
      next => exact .inl ⟨_, rfl, by simp [IsSeverity], .disabled⟩
      next => exact .inl ⟨_, rfl, by simp [IsSeverity], .warning⟩
      next => exact .inl ⟨_, rfl, by simp [IsSeverity], .error⟩
    next =>
      have unknown : Severity.ofLevel? n = none := by
        unfold Severity.ofLevel?
        split <;> simp_all
      refine .inr ⟨.unknownLevel n, ?_, by simpa [IsSeverity] using level, fun _ => rfl⟩
      simp [Item.severity, unknown]
  next => exact .inr ⟨_, rfl, by simp [IsSeverity], fun _ => rfl⟩
  next => exact .inr ⟨_, rfl, by simp [IsSeverity], fun _ => rfl⟩

theorem applicability_cases (item : Option Item) :
    (∃ applicability, Item.applicability item = .ok applicability ∧ IsApplicability item ∧
      Applies item applicability) ∨
    ∃ fault, Item.applicability item = .error fault ∧ ¬ IsApplicability item ∧
      ∀ name, fault.inRule name = .invalidApplicability name (applicabilityText item) := by
  rcases item with - | n | s | items
  next => exact .inl ⟨_, rfl, .inl rfl, .omitted⟩
  next => exact .inr ⟨_, rfl, by simp [IsApplicability], fun _ => rfl⟩
  next =>
    by_cases known : s = "always" ∨ s = "never"
    next =>
      rcases known with rfl | rfl
      next => exact .inl ⟨_, rfl, .inr (.inl rfl), .always⟩
      next => exact .inl ⟨_, rfl, .inr (.inr rfl), .never⟩
    next =>
      have unknown : Applicability.ofName? s = none := by
        simp_all [Applicability.ofName?]
      refine .inr ⟨.unknownApplicability s, ?_, by simpa [IsApplicability] using known,
        fun _ => rfl⟩
      simp [Item.applicability, unknown]
  next => exact .inr ⟨_, rfl, by simp [IsApplicability], fun _ => rfl⟩

theorem value_cases (item : Option Item) :
    (∃ value, Item.value item = .ok value ∧ IsValue item ∧ Gives item value) ∨
    Item.value item = .error .emptyList ∧ ¬ IsValue item := by
  rcases item with - | n | s | items
  next => exact .inl ⟨_, rfl, by simp [IsValue], .omitted⟩
  next => exact .inl ⟨_, rfl, by simp [IsValue], .number n⟩
  next => exact .inl ⟨_, rfl, by simp [IsValue], .text s⟩
  next =>
    cases items with
    | nil => exact .inr ⟨rfl, by simp [IsValue]⟩
    | cons first rest =>
      refine .inl ⟨some (.list (first :: rest).eraseDups), ?_, by simp [IsValue],
        .list (.of_eraseDups (first :: rest))⟩
      rw [Item.value, Value.ofItems_eq]
      exact List.cons_ne_nil first rest

end Item

open Item

structure WellFormed (items : List Item) : Prop where
  length : 1 ≤ items.length ∧ items.length ≤ 3
  severity : IsSeverity items[0]?
  applicability : IsApplicability items[1]?
  value : IsValue items[2]?

structure Decodes (items : List Item) (entry : Entry) : Prop where
  severity : Weighs items[0]? entry.severity
  applicability : Applies items[1]? entry.applicability
  value : Gives items[2]? entry.value

inductive Blames (name : String) (items : List Item) : ConfigError → Prop
  | length (long : 3 < items.length) :
      Blames name items
        (.invalidValue name ("expected at most 3 elements, got " ++ toString items.length))
  | severity (short : items.length ≤ 3) (bad : ¬ IsSeverity items[0]?) :
      Blames name items (.invalidSeverity name (severityText items[0]?))
  | applicability (short : items.length ≤ 3) (severity : IsSeverity items[0]?)
      (bad : ¬ IsApplicability items[1]?) :
      Blames name items (.invalidApplicability name (applicabilityText items[1]?))
  | value (short : items.length ≤ 3) (severity : IsSeverity items[0]?)
      (applicability : IsApplicability items[1]?) (bad : ¬ IsValue items[2]?) :
      Blames name items (.emptySet name)

theorem Item.IsSeverity.length_pos {items : List Item} (severity : IsSeverity items[0]?) :
    1 ≤ items.length := by
  rcases severity with first | first | first <;> exact (List.getElem?_eq_some_iff.mp first).1

theorem Blames.not_wellFormed {name : String} {items : List Item} {error : ConfigError}
    (blames : Blames name items error) : ¬ WellFormed items := by
  intro wellFormed
  cases blames with
  | length long => have short := wellFormed.length.2; omega
  | severity _ bad => exact bad wellFormed.severity
  | applicability _ _ bad => exact bad wellFormed.applicability
  | value _ _ _ bad => exact bad wellFormed.value

namespace Draft

variable {name : String} {items : List Item}

theorem entryOf_of_short (short : items.length ≤ 3) :
    entryOf name items =
      (do return Entry.mk (← Item.severity items[0]?) (← Item.applicability items[1]?)
            (← Item.value items[2]?) : Except EntryFault Entry).mapError (·.inRule name) := by
  simp only [entryOf, Entry.ofItems, if_neg (Nat.not_lt.mpr short)]

theorem entryOf_cases (name : String) (items : List Item) :
    (∃ entry, entryOf name items = .ok entry ∧ WellFormed items ∧ Decodes items entry) ∨
    ∃ error, entryOf name items = .error error ∧ Blames name items error := by
  rcases Nat.lt_or_ge 3 items.length with long | short
  next =>
    refine .inr ⟨_, ?_, .length long⟩
    simp only [entryOf, Entry.ofItems, if_pos long]
    rfl
  rw [entryOf_of_short short]
  rcases severity_cases items[0]? with
    ⟨severity, severityRead, isSeverity, weighs⟩ | ⟨fault, refused, bad, text⟩
  next =>
    rcases applicability_cases items[1]? with
      ⟨applicability, applicabilityRead, isApplicability, applies⟩ | ⟨fault, refused, bad, text⟩
    next =>
      rcases value_cases items[2]? with ⟨value, valueRead, isValue, gives⟩ | ⟨refused, bad⟩
      next =>
        simp only [severityRead, applicabilityRead, valueRead]
        exact .inl ⟨_, rfl, ⟨⟨isSeverity.length_pos, short⟩, isSeverity, isApplicability, isValue⟩,
          weighs, applies, gives⟩
      next =>
        simp only [severityRead, applicabilityRead, refused]
        exact .inr ⟨_, rfl, .value short isSeverity isApplicability bad⟩
    next =>
      simp only [severityRead, refused]
      refine .inr ⟨_, rfl, ?_⟩
      simp only [text name]
      exact .applicability short isSeverity bad
  next =>
    simp only [refused]
    refine .inr ⟨_, rfl, ?_⟩
    simp only [text name]
    exact .severity short bad

theorem hasEmptyList_of_gives {item : Option Item} {entry : Entry} (isValue : IsValue item)
    (gives : Gives item entry.value) : entry.hasEmptyList = false := by
  rw [Entry.hasEmptyList]
  generalize entry.value = value at gives
  cases gives with
  | omitted | number | text => rfl
  | @list items kept first =>
    have filled : kept ≠ [] := by
      rintro rfl
      refine isValue (congrArg (some ∘ Item.list) (List.eq_nil_iff_forall_not_mem.mpr fun a mem => ?_))
      exact List.not_mem_nil ((first.mem a).mpr mem)
    simpa using filled

theorem exists_insert_of_entryOf (rules : RuleSet) {entry : Entry}
    (read : entryOf name items = .ok entry) : ∃ next, rules.insert name entry = .ok next := by
  rcases entryOf_cases name items with ⟨other, same, wellFormed, decodes⟩ | ⟨error, refused, _⟩
  next =>
    obtain rfl := Except.ok.inj (same.symm.trans read)
    exact RuleSet.exists_insert (hasEmptyList_of_gives wellFormed.value decodes.value)
  next => rw [refused] at read; cases read

def last? (drafted : List (String × List Item)) (name : String) : Option (List Item) :=
  drafted.reverse.lookup name

/-- A set of rules that holds each drafted name once, where it first came, with what came last. -/
structure Holds (drafted : List (String × List Item)) (rules : RuleSet) : Prop where
  names : FirstOccurrences (drafted.map Prod.fst) rules.names
  entry : ∀ name items, last? drafted name = some items →
    ∃ entry, rules.find? name = some entry ∧ Decodes items entry

theorem holds_nil : Holds [] .empty :=
  ⟨.nil, fun _ _ found => by cases found⟩

theorem Holds.insert {drafted : List (String × List Item)} {rules next : RuleSet} {entry : Entry}
    (holds : Holds drafted rules) (decodes : Decodes items entry)
    (inserted : rules.insert name entry = .ok next) : Holds (drafted ++ [(name, items)]) next := by
  constructor
  next =>
    rw [List.map_append, RuleSet.names_insert inserted]
    exact holds.names.concat name
  next =>
    intro key array found
    rw [last?, List.reverse_concat, lookup_cons_ite] at found
    rw [RuleSet.find?_insert inserted]
    by_cases same : key = name
    next =>
      rw [if_pos same] at found ⊢
      exact ⟨entry, rfl, Option.some.inj found ▸ decodes⟩
    next =>
      rw [if_neg same] at found ⊢
      exact holds.entry key array found

def Rejects (drafted : List (String × List Item)) (error : ConfigError) : Prop :=
  ∃ before name items after, drafted = before ++ (name, items) :: after ∧
    (∀ rule ∈ before, WellFormed rule.2) ∧ Blames name items error

theorem Rejects.not_wellFormed {drafted : List (String × List Item)} {error : ConfigError}
    (rejects : Rejects drafted error) : ¬ ∀ rule ∈ drafted, WellFormed rule.2 := by
  obtain ⟨before, name, items, after, rfl, _, blames⟩ := rejects
  exact fun wellFormed => blames.not_wellFormed (wellFormed (name, items) (by simp))

theorem rejects_cons {rule : String × List Item} {rest : List (String × List Item)}
    {error : ConfigError} (wellFormed : WellFormed rule.2) (rejects : Rejects rest error) :
    Rejects (rule :: rest) error := by
  obtain ⟨before, name, items, after, rfl, fine, blames⟩ := rejects
  exact ⟨rule :: before, name, items, after, rfl, List.forall_mem_cons.mpr ⟨wellFormed, fine⟩, blames⟩

theorem ruleSet_cons {rules next : RuleSet} {entry : Entry}
    (read : entryOf name items = .ok entry) (inserted : rules.insert name entry = .ok next)
    (rest : List (String × List Item)) :
    ruleSet rules ((name, items) :: rest) = ruleSet next rest := by
  rw [ruleSet, read]
  change (rules.insert name entry >>= fun rules => ruleSet rules rest) = _
  rw [inserted]
  rfl

theorem ruleSet_cases (drafted : List (String × List Item)) {before : List (String × List Item)}
    {rules : RuleSet} (holds : Holds before rules) :
    (∃ final, ruleSet rules drafted = .ok final ∧ (∀ rule ∈ drafted, WellFormed rule.2) ∧
      Holds (before ++ drafted) final) ∨
    ∃ error, ruleSet rules drafted = .error error ∧ Rejects drafted error := by
  induction drafted generalizing before rules with
  | nil => exact .inl ⟨rules, rfl, by simp, by simpa using holds⟩
  | cons head rest ih =>
    obtain ⟨name, items⟩ := head
    rcases entryOf_cases name items with ⟨entry, read, wellFormed, decodes⟩ | ⟨error, refused, blames⟩
    next =>
      obtain ⟨next, inserted⟩ := exists_insert_of_entryOf rules read
      rw [ruleSet_cons read inserted]
      rcases ih (holds.insert decodes inserted) with ⟨final, made, fine, whole⟩ | ⟨error, failed, rejects⟩
      next =>
        refine .inl ⟨final, made, List.forall_mem_cons.mpr ⟨wellFormed, fine⟩, ?_⟩
        simpa using whole
      next => exact .inr ⟨error, failed, rejects_cons wellFormed rejects⟩
    next =>
      refine .inr ⟨error, ?_, [], name, items, rest, rfl, by simp, blames⟩
      rw [ruleSet, refused]
      rfl

theorem config_of_ruleSet {draft : Draft} {final : RuleSet}
    (made : ruleSet .empty draft.rules = .ok final) :
    draft.config = .ok { rules := final, strict := draft.strict } := by
  rw [config, made]
  rfl

theorem config_cases (draft : Draft) :
    (∃ config, draft.config = .ok config ∧ (∀ rule ∈ draft.rules, WellFormed rule.2) ∧
      config.strict = draft.strict ∧ Holds draft.rules config.rules) ∨
    ∃ error, draft.config = .error error ∧ Rejects draft.rules error := by
  rcases ruleSet_cases draft.rules holds_nil with ⟨final, made, fine, holds⟩ | ⟨error, failed, rejects⟩
  next =>
    exact .inl ⟨_, config_of_ruleSet made, fine, rfl, holds⟩
  next =>
    refine .inr ⟨error, ?_, rejects⟩
    rw [config, failed]
    rfl

/-- A draft is accepted just when all its arrays are well formed. Then every name is held once, in
the order in which the names first came, with the entry that came last under it; otherwise the error
is that of the first bad array. An entry that was read is never refused for an empty list. -/
theorem config_exact (draft : Draft) :
    ((∃ config, draft.config = .ok config) ↔ ∀ rule ∈ draft.rules, WellFormed rule.2) ∧
    (∀ config, draft.config = .ok config →
      config.strict = draft.strict ∧ Holds draft.rules config.rules) ∧
    (∀ error, draft.config = .error error → Rejects draft.rules error) ∧
    ∀ rules name items entry, entryOf name items = .ok entry →
      ∃ next, RuleSet.insert rules name entry = .ok next := by
  rcases config_cases draft with ⟨made, read, fine, strict, holds⟩ | ⟨error, failed, rejects⟩
  next =>
    refine ⟨⟨fun _ => fine, fun _ => ⟨made, read⟩⟩, ?_, ?_, fun rules _ _ _ =>
      exists_insert_of_entryOf rules⟩
    next =>
      intro config same
      obtain rfl := Except.ok.inj (read.symm.trans same)
      exact ⟨strict, holds⟩
    next =>
      intro error refused
      rw [read] at refused
      cases refused
  next =>
    refine ⟨⟨?_, fun fine => absurd fine rejects.not_wellFormed⟩, ?_, ?_, fun rules _ _ _ =>
      exists_insert_of_entryOf rules⟩
    next =>
      rintro ⟨config, read⟩
      rw [failed] at read
      cases read
    next =>
      intro config read
      rw [failed] at read
      cases read
    next =>
      intro other same
      obtain rfl := Except.error.inj (failed.symm.trans same)
      exact rejects

end Draft

end HeaderLint
