import HeaderLint.Error
import HeaderLint.Report

set_option autoImplicit false

namespace HeaderLint

-- Warnings count against the messages only in strict mode, and only when no message is invalid.
def verdict (strict : Bool) (reports : List Report) : Except LintError Unit :=
  let invalid := reports.countP (!·.isValid)
  let warnings := (reports.flatMap (·.warnings)).length
  if 0 < invalid then .error (.invalid invalid)
  else if strict && 0 < warnings then .error (.strictWarnings warnings)
  else .ok ()

end HeaderLint
