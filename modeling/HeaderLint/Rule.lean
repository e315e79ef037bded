import HeaderLint.Config.Entry
import HeaderLint.Message

set_option autoImplicit false

namespace HeaderLint

inductive ValueFault where
  | emptyList
  | notAList
  | missingList
  | notCaseNames
  | unknownCase (name : String)
  | notAStop
  | negativeLength (n : Int)
  | notALength
  | valueNotTaken
  | other (text : String)
  deriving Repr, DecidableEq

def ValueFault.message : ValueFault → String
  | emptyList => "allowed set must not be empty"
  | notAList => "expected a list of strings"
  | missingList => "missing list of values"
  | notCaseNames => "expected a case name or a list of case names"
  | unknownCase name => "unknown case '" ++ name ++ "'"
  | notAStop => "expected a non-empty string"
  | negativeLength n => "length must not be negative, got " ++ toString n
  | notALength => "expected a length"
  | valueNotTaken => "this rule takes no value"
  | other text => text

structure Evaluation where
  passed : Bool
  message : String
  deriving Repr, DecidableEq

structure Rule where
  check : Option Value → Except ValueFault Unit
  evaluate : Message → Applicability → Option Value → Evaluation

namespace Rule

def takesNoValue : Option Value → Except ValueFault Unit
  | none => .ok ()
  | some _ => .error .valueNotTaken

end Rule

inductive Field where
  | type
  | scope
  | subject
  deriving Repr, DecidableEq

namespace Field

def label : Field → String
  | type => "type"
  | scope => "scope"
  | subject => "subject"

def of (field : Field) (message : Message) : Option String :=
  match field with
  | type => message.type
  | scope => message.scope
  | subject => message.subject

end Field

end HeaderLint
