set_option autoImplicit false

namespace HeaderLint

inductive OutputFormat where
  | text
  | json
  deriving Repr, DecidableEq

inductive Command where
  | lint (message file : Option String) (verbose : Bool)
  | check (target : String) (verbose : Bool)
  | rules
  | init (force : Bool) (path : String)
  | version
  deriving Repr, DecidableEq

structure Invocation where
  command : Command
  strict : Bool := false
  debug : Bool := false
  format : Option OutputFormat := none
  config : Option String := none
  deriving Repr, DecidableEq

inductive UsageError where
  | unknownArgument
  | invalidValue
  | tooManyValues
  | argumentConflict
  | invalidSubcommand
  | missingSubcommand
  | nothingGiven
  | helpRequested
  | versionRequested
  deriving Repr, DecidableEq

def UsageError.exitStatus : UsageError → Nat
  | helpRequested => 0
  | versionRequested => 0
  | _ => 2

end HeaderLint
