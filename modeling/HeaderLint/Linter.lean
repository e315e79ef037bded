import HeaderLint.Config.RuleSet
import HeaderLint.Registry
import HeaderLint.Report

set_option autoImplicit false

namespace HeaderLint

structure ActiveRule where
  name : String
  entry : Entry
  rule : Rule

namespace ActiveRule

def bind (registry : Registry) (name : String) (entry : Entry) : Except ConfigError ActiveRule := do
  let rule ← registry.resolve name
  (rule.check entry.value).mapError fun fault => .invalidValue name fault.message
  return { name, entry, rule }

def outcome (active : ActiveRule) (message : Message) : Outcome :=
  let evaluation := active.rule.evaluate message active.entry.applicability active.entry.value
  { rule := active.name
    severity := active.entry.severity
    passed := evaluation.passed
    message := active.name ++ ": " ++ evaluation.message }

end ActiveRule

structure Linter where
  rules : List ActiveRule

namespace Linter

def activeRules (registry : Registry) :
    List (String × Entry) → Except ConfigError (List ActiveRule)
  | [] => .ok []
  | (name, entry) :: rest =>
      if entry.isEnabled then do
        let active ← ActiveRule.bind registry name entry
        return active :: (← activeRules registry rest)
      else activeRules registry rest

def build (registry : Registry) (rules : RuleSet) : Except ConfigError Linter := do
  return { rules := ← activeRules registry rules.entries }

def ruleNames (linter : Linter) : List String :=
  linter.rules.map (·.name)

def lintMessage (linter : Linter) (message : Message) : Report :=
  { breaking := message.isBreaking
    outcomes := linter.rules.map (·.outcome message) }

def lint (linter : Linter) (text : String) : Report :=
  { linter.lintMessage (Message.parse text) with input := some text }

def lintAll (linter : Linter) (texts : List String) : List Report :=
  texts.map linter.lint

end Linter

def lint (rules : RuleSet) (text : String) : Except ConfigError Report := do
  return (← Linter.build .builtin rules).lint text

end HeaderLint
