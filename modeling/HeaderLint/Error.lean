set_option autoImplicit false

namespace HeaderLint

inductive ConfigError where
  | notFound (path : String)
  | unreadable (detail : String)
  | unknownRule (name : String)
  | invalidSeverity (rule detail : String)
  | invalidApplicability (rule detail : String)
  | invalidValue (rule detail : String)
  | emptySet (rule : String)
  deriving Repr, DecidableEq

def ConfigError.message : ConfigError → String
  | notFound path => "Configuration file not found: " ++ path
  | unreadable detail => "Failed to parse configuration: " ++ detail
  | unknownRule name => "Unknown rule '" ++ name ++ "'"
  | invalidSeverity rule detail => "Invalid severity for '" ++ rule ++ "': " ++ detail
  | invalidApplicability rule detail => "Invalid applicability for '" ++ rule ++ "': " ++ detail
  | invalidValue rule detail => "Invalid value for '" ++ rule ++ "': " ++ detail
  | emptySet rule =>
      "Empty value set for '" ++ rule ++ "': an empty list rejects every message"

inductive HistoryError where
  | notARepository
  | openFailed (detail : String)
  | invalidReference (reference : String)
  | commandFailed (command detail : String)
  deriving Repr, DecidableEq

def HistoryError.message : HistoryError → String
  | notARepository => "Not a git repository"
  | openFailed detail => "Failed to open repository: " ++ detail
  | invalidReference reference => "Invalid commit reference: " ++ reference
  | commandFailed command detail => "Git command failed: " ++ command ++ " - " ++ detail

inductive LintError where
  | invalid (count : Nat)
  | strictWarnings (count : Nat)
  deriving Repr, DecidableEq

def LintError.message : LintError → String
  | invalid count => toString count ++ " message(s) failed linting"
  | strictWarnings count => toString count ++ " warning(s) in strict mode"

inductive Error where
  | config (cause : ConfigError)
  | history (cause : HistoryError)
  | lint (cause : LintError)
  | during (activity detail : String)
  deriving Repr, DecidableEq

namespace Error

def message : Error → String
  | config cause => "Configuration error: " ++ cause.message
  | history cause => "Git error: " ++ cause.message
  | lint cause => "Lint failed: " ++ cause.message
  | during activity detail => activity ++ ": " ++ detail

def isConfig : Error → Bool
  | config _ => true
  | _ => false

def exitStatus (error : Error) : Nat :=
  if error.isConfig then 2 else 1

end Error

end HeaderLint
