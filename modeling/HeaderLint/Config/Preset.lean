import HeaderLint.Config.RuleSet

set_option autoImplicit false

namespace HeaderLint.Config

def defaultTypes : List String :=
  ["fix", "build", "revert", "wip", "feat", "chore", "ci", "docs", "style", "refactor", "perf",
    "test", "instr"]

def defaultScopes : List String :=
  ["blueprint", "build-engine", "common", "runtime-core", "runtime-go", "runtime-java",
    "runtime-nodejs", "runtime-python", "runtime-rust", "api", "cli", "tool-releaser",
    "tool-test-runner", "validator-go", "validator-java", "validator-nodejs", "validator-python",
    "validator-rust", "templates-go", "templates-java", "templates-nodejs", "templates-python",
    "templates-rust"]

def defaultEntries : List (String × Entry) :=
  [ ("header-max-length", ⟨.error, .always, some (.number 100)⟩),
    ("header-trim", ⟨.error, .always, none⟩),
    ("subject-case", ⟨.error, .never,
      some (.list ["sentence-case", "start-case", "pascal-case", "upper-case"])⟩),
    ("subject-empty", ⟨.error, .never, none⟩),
    ("subject-full-stop", ⟨.error, .never, some (.text ".")⟩),
    ("type-case", ⟨.error, .always, some (.text "lower-case")⟩),
    ("type-empty", ⟨.error, .never, none⟩),
    ("type-enum", ⟨.error, .always, some (.list defaultTypes)⟩),
    ("scope-enum", ⟨.error, .always, some (.list defaultScopes)⟩) ]

def preset : Config :=
  { rules := { entries := defaultEntries, nodup := by decide, filled := by decide }
    strict := false }

def itemLine (item : String) : String :=
  "    \"" ++ item ++ "\","

def exampleLines : List String :=
  [ "# cclint configuration",
    "# Entries are [severity, applicability, value]",
    "# severity: 0 = disabled, 1 = warning, 2 = error",
    "",
    "strict = false",
    "",
    "[rules]",
    "header-max-length = [2, \"always\", 100]",
    "header-trim = [2, \"always\"]",
    "subject-case = [2, \"never\", [\"sentence-case\", \"start-case\", \"pascal-case\", " ++
      "\"upper-case\"]]",
    "subject-empty = [2, \"never\"]",
    "subject-full-stop = [2, \"never\", \".\"]",
    "type-case = [2, \"always\", \"lower-case\"]",
    "type-empty = [2, \"never\"]",
    "type-enum = [2, \"always\", ["] ++
  defaultTypes.map itemLine ++
  [ "]]",
    "scope-enum = [2, \"always\", ["] ++
  defaultScopes.map itemLine ++
  [ "]]" ]

def exampleText : String :=
  String.join (exampleLines.map (· ++ "\n"))

end HeaderLint.Config
