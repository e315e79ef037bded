import HeaderLint.Commit
import HeaderLint.Report
import HeaderLint.Style

set_option autoImplicit false

namespace HeaderLint

namespace Outcome

def mark (colour : Bool) (outcome : Outcome) : String :=
  if outcome.passed then Style.success.paint colour "✓"
  else if outcome.severity == .error then Style.failure.paint colour "✗"
  else Style.caution.paint colour "⚠"

def body (colour : Bool) (outcome : Outcome) : String :=
  if outcome.passed then Style.faint.paint colour outcome.message
  else if outcome.severity == .error then Style.failureText.paint colour outcome.message
  else Style.cautionText.paint colour outcome.message

def text (colour : Bool) (outcome : Outcome) : String :=
  outcome.mark colour ++ " " ++ outcome.body colour

end Outcome

namespace Report

def heading? (colour : Bool) (report : Report) : Option String := do
  let mark := if report.isValid then Style.success.paint colour "✓"
    else Style.failure.paint colour "✗"
  let commit ← match report.commit with
    | none => some ""
    | some commit => (shortName? commit).map fun short => Style.commit.paint colour short ++ " "
  let alarm := if report.breaking then " " ++ Style.alarm.paint colour "[breaking]" else ""
  return mark ++ " " ++ commit ++ report.header ++ alarm

def shown (verbose : Bool) (report : Report) : List Outcome :=
  report.outcomes.filter fun outcome => verbose || !outcome.passed

def text? (colour verbose : Bool) (report : Report) : Option String := do
  let heading ← report.heading? colour
  let outcomes := (report.shown verbose).map fun outcome => "  " ++ outcome.text colour
  let summary := "  " ++ Style.faint.paint colour report.summary
  return "\n".intercalate (heading :: outcomes ++ [summary])

end Report

end HeaderLint
