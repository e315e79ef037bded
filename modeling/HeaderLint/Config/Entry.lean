set_option autoImplicit false

namespace HeaderLint

/-- How much a failing rule weighs; a disabled rule is not evaluated. -/
inductive Severity where
  | disabled
  | warning
  | error
  deriving Repr, DecidableEq

namespace Severity

def ofLevel? : Int → Option Severity
  | 0 => some disabled
  | 1 => some warning
  | 2 => some error
  | _ => none

def name : Severity → String
  | disabled => "disabled"
  | warning => "warning"
  | error => "error"

end Severity

inductive Applicability where
  | always
  | never
  deriving Repr, DecidableEq, Inhabited

namespace Applicability

def expects : Applicability → Bool → Bool
  | always, condition => condition
  | never, condition => !condition

def name : Applicability → String
  | always => "always"
  | never => "never"

def ofName? (text : String) : Option Applicability :=
  if text == "always" then some always else if text == "never" then some never else none

def refusal (text : String) : String :=
  "expected \"always\" or \"never\", got \"" ++ text ++ "\""

end Applicability

inductive Value where
  | number (n : Int)
  | text (s : String)
  | list (items : List String)
  deriving Repr, DecidableEq

namespace Value

def ofItems (items : List String) : Value :=
  .list (items.foldl (fun kept item => if kept.contains item then kept else kept ++ [item]) [])

def number? : Value → Option Int
  | number n => some n
  | _ => none

def text? : Value → Option String
  | text s => some s
  | _ => none

def list? : Value → Option (List String)
  | list items => some items
  | _ => none

def strings? : Value → Option (List String)
  | number _ => none
  | text s => some [s]
  | list items => some items

end Value

structure Entry where
  severity : Severity
  applicability : Applicability
  value : Option Value
  deriving Repr, DecidableEq

namespace Entry

def isEnabled (entry : Entry) : Bool :=
  entry.severity != .disabled

def hasEmptyList (entry : Entry) : Bool :=
  entry.value == some (.list [])

end Entry

end HeaderLint
