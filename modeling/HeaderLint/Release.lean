import HeaderLint.Commit

set_option autoImplicit false

namespace HeaderLint

structure Release where
  version : String
  commit : CommitId
  date : String
  deriving Repr, DecidableEq

namespace Release

def current : Release where
  version := "1.0.0"
  commit := { name := "VERGEN_IDEMPOTENT_OUTPUT", short := by decide }
  date := "VERGEN_IDEMPOTENT_OUTPUT"

def lines (release : Release) : List String :=
  [ "cclint " ++ release.version ++ " (" ++ release.commit.shortName ++ ")",
    "git commit: " ++ release.commit.name,
    "commit date: " ++ release.date ]

end Release

end HeaderLint
