import HeaderLint.Config.Entry
import HeaderLint.Text.Lines

set_option autoImplicit false

namespace HeaderLint

structure Outcome where
  rule : String
  severity : Severity
  passed : Bool
  message : String
  deriving Repr, DecidableEq

namespace Outcome

def isError (outcome : Outcome) : Bool :=
  !outcome.passed && outcome.severity == .error

def isWarning (outcome : Outcome) : Bool :=
  !outcome.passed && outcome.severity == .warning

end Outcome

structure Report where
  input : Option String := none
  commit : Option String := none
  breaking : Bool := false
  outcomes : List Outcome
  deriving Repr, DecidableEq

namespace Report

def errors (report : Report) : List Outcome :=
  report.outcomes.filter (·.isError)

def warnings (report : Report) : List Outcome :=
  report.outcomes.filter (·.isWarning)

def isValid (report : Report) : Bool :=
  report.outcomes.all (!·.isError)

-- The first line of the input; unlike the header that rules see, it keeps a carriage return that
-- no line feed follows.
def header (report : Report) : String :=
  match report.input with
  | none => ""
  | some input => .ofList ((Text.lines input.toList).head?.getD [])

def summary (report : Report) : String :=
  let errors := toString report.errors.length
  let warnings := toString report.warnings.length
  if report.isValid then
    if report.warnings.isEmpty then "Valid" else "Valid (" ++ warnings ++ " warnings)"
  else "Invalid (" ++ errors ++ " errors, " ++ warnings ++ " warnings)"

end Report

end HeaderLint
