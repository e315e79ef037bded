import HeaderLint.Config.RuleSet

set_option autoImplicit false

namespace HeaderLint

inductive Item where
  | integer (n : Int)
  | text (s : String)
  | list (items : List String)
  deriving Repr, DecidableEq

inductive EntryFault where
  | tooManyElements (count : Nat)
  | missingSeverity
  | severityNotANumber
  | unknownLevel (level : Int)
  | applicabilityNotAString
  | unknownApplicability (text : String)
  | emptyList
  deriving Repr, DecidableEq

def EntryFault.inRule (rule : String) : EntryFault → ConfigError
  | tooManyElements count =>
      .invalidValue rule ("expected at most 3 elements, got " ++ toString count)
  | missingSeverity => .invalidSeverity rule "missing severity"
  | severityNotANumber => .invalidSeverity rule "severity must be a number"
  | unknownLevel level => .invalidSeverity rule ("expected 0, 1 or 2, got " ++ toString level)
  | applicabilityNotAString => .invalidApplicability rule "applicability must be a string"
  | unknownApplicability text => .invalidApplicability rule (Applicability.refusal text)
  | emptyList => .emptySet rule

namespace Item

def severity : Option Item → Except EntryFault Severity
  | some (.integer level) =>
      match Severity.ofLevel? level with
      | some severity => .ok severity
      | none => .error (.unknownLevel level)
  | some _ => .error .severityNotANumber
  | none => .error .missingSeverity

def applicability : Option Item → Except EntryFault Applicability
  | some (.text s) =>
      match Applicability.ofName? s with
      | some applicability => .ok applicability
      | none => .error (.unknownApplicability s)
  | some _ => .error .applicabilityNotAString
  | none => .ok .always

def value : Option Item → Except EntryFault (Option Value)
  | some (.integer n) => .ok (some (.number n))
  | some (.text s) => .ok (some (.text s))
  | some (.list []) => .error .emptyList
  | some (.list items) => .ok (some (.ofItems items))
  | none => .ok none

end Item

def Entry.ofItems (items : List Item) : Except EntryFault Entry := do
  if items.length > 3 then throw (.tooManyElements items.length)
  let severity ← Item.severity items[0]?
  let applicability ← Item.applicability items[1]?
  let value ← Item.value items[2]?
  return { severity, applicability, value }

/-- A configuration as written: names may repeat and arrays may hold anything. -/
structure Draft where
  rules : List (String × List Item) := []
  strict : Bool := false
  deriving Repr, DecidableEq

namespace Draft

def entryOf (name : String) (items : List Item) : Except ConfigError Entry :=
  (Entry.ofItems items).mapError (·.inRule name)

def ruleSet (rules : RuleSet) : List (String × List Item) → Except ConfigError RuleSet
  | [] => .ok rules
  | (name, items) :: rest => do
      let rules ← rules.insert name (← entryOf name items)
      ruleSet rules rest

-- The first bad array ends the reading; a name that comes again replaces its entry.
def config (draft : Draft) : Except ConfigError Config := do
  return { rules := ← ruleSet .empty draft.rules, strict := draft.strict }

end Draft

end HeaderLint
