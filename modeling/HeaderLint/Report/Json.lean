import HeaderLint.Document.Pretty
import HeaderLint.Report

set_option autoImplicit false

namespace HeaderLint

def Outcome.document (outcome : Outcome) : Document :=
  .table
    [ ("message", .text outcome.message),
      ("passed", .boolean outcome.passed),
      ("rule", .text outcome.rule),
      ("severity", .text outcome.severity.name) ]

namespace Report

def optionalField (name : String) : Option String → List (String × Document)
  | none => []
  | some content => [(name, .text content)]

def document (report : Report) : Document :=
  .table
    ([("breaking", .boolean report.breaking)] ++
      optionalField "commit_sha" report.commit ++
      optionalField "input" report.input ++
      [ ("outcomes", .list (report.outcomes.map Outcome.document)),
        ("valid", .boolean report.isValid) ])

def allDocument (reports : List Report) : Document :=
  .table
    [ ("results", .list (reports.map document)),
      ("valid", .boolean (reports.all isValid)) ]

def json (reports : List Report) : String :=
  .ofList (Document.Json.pretty 0 (allDocument reports))

end Report

end HeaderLint
