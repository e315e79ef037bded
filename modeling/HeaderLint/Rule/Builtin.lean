import HeaderLint.LetterCase
import HeaderLint.Rule

set_option autoImplicit false

namespace HeaderLint

open Text

def listed (items : List String) : String :=
  "[" ++ ", ".intercalate items ++ "]"

namespace Rule

namespace Membership

def check : Option Value → Except ValueFault Unit
  | some (.list []) => .error .emptyList
  | some (.list _) => .ok ()
  | some _ => .error .notAList
  | none => .error .missingList

def evaluate (field : Field) (message : Message) (applicability : Applicability)
    (value : Option Value) : Evaluation :=
  let allowed := (value.bind Value.list?).getD []
  match field.of message, applicability with
  | none, .always =>
      ⟨false, "missing " ++ field.label ++ "; expected one of " ++ listed allowed⟩
  | none, .never => ⟨true, "no " ++ field.label ++ " to check"⟩
  | some actual, _ =>
      let named := field.label ++ " '" ++ actual ++ "' "
      if applicability.expects (allowed.contains actual) then ⟨true, named ++ "is accepted"⟩
      else
        match applicability with
        | .always => ⟨false, named ++ "is not one of " ++ listed allowed⟩
        | .never => ⟨false, named ++ "must not be one of " ++ listed allowed⟩

end Membership

def membership (field : Field) : Rule :=
  { check := Membership.check, evaluate := Membership.evaluate field }

namespace Emptiness

def evaluate (field : Field) (message : Message) (applicability : Applicability)
    (_ : Option Value) : Evaluation :=
  let empty := (field.of message).all String.isEmpty
  if applicability.expects empty then ⟨true, field.label ++ " emptiness is as expected"⟩
  else
    match applicability with
    | .always => ⟨false, field.label ++ " must be empty"⟩
    | .never => ⟨false, field.label ++ " may not be empty"⟩

end Emptiness

def emptiness (field : Field) : Rule :=
  { check := takesNoValue, evaluate := Emptiness.evaluate field }

namespace Casing

def checkNames : List String → Except ValueFault Unit
  | [] => .ok ()
  | name :: rest =>
      match LetterCase.ofName? name with
      | some _ => checkNames rest
      | none => .error (.unknownCase name)

def check (value : Option Value) : Except ValueFault Unit :=
  match value.bind Value.strings? with
  | some names => checkNames names
  | none => .error .notCaseNames

def cases (value : Option Value) : List LetterCase :=
  ((value.bind Value.strings?).getD []).filterMap LetterCase.ofName?

def evaluate (field : Field) (message : Message) (applicability : Applicability)
    (value : Option Value) : Evaluation :=
  match (field.of message).filter (!·.isEmpty) with
  | none => ⟨true, "no " ++ field.label ++ " to check"⟩
  | some actual =>
      let named := field.label ++ " '" ++ actual ++ "' "
      let names := listed ((cases value).map LetterCase.name)
      if applicability.expects ((cases value).any (·.fits actual.toList)) then
        ⟨true, named ++ "has an accepted case"⟩
      else
        match applicability with
        | .always => ⟨false, named ++ "must be in one of " ++ names⟩
        | .never => ⟨false, named ++ "must not be in any of " ++ names⟩

end Casing

def casing (field : Field) : Rule :=
  { check := Casing.check, evaluate := Casing.evaluate field }

namespace FullStop

def check : Option Value → Except ValueFault Unit
  | none => .ok ()
  | some (.text s) => if s.isEmpty then .error .notAStop else .ok ()
  | some _ => .error .notAStop

def evaluate (message : Message) (applicability : Applicability) (value : Option Value) :
    Evaluation :=
  let stop := (value.bind Value.text?).getD "."
  match message.subject.filter (!·.isEmpty) with
  | none => ⟨true, "no subject to check"⟩
  | some subject =>
      if applicability.expects (stop.toList.isSuffixOf subject.toList) then
        ⟨true, "subject ending is as expected"⟩
      else
        match applicability with
        | .always => ⟨false, "subject must end with '" ++ stop ++ "'"⟩
        | .never => ⟨false, "subject may not end with '" ++ stop ++ "'"⟩

end FullStop

def fullStop : Rule :=
  { check := FullStop.check, evaluate := FullStop.evaluate }

inductive Bound where
  | max
  | min
  deriving Repr, DecidableEq

namespace Bound

def admits : Bound → (limit length : Nat) → Bool
  | max, limit, length => length ≤ limit
  | min, limit, length => limit ≤ length

def name : Bound → String
  | max => "max"
  | min => "min"

def beyond : Bound → String
  | max => "longer"
  | min => "shorter"

end Bound

namespace HeaderLength

def check : Option Value → Except ValueFault Unit
  | some (.number n) => if n < 0 then .error (.negativeLength n) else .ok ()
  | _ => .error .notALength

def evaluate (bound : Bound) (message : Message) (applicability : Applicability)
    (value : Option Value) : Evaluation :=
  let limit := ((value.bind Value.number?).getD 0).toNat
  let length := message.headerLength
  let counted := "header is " ++ toString length ++ " characters, "
  if applicability.expects (bound.admits limit length) then
    ⟨true, "header length " ++ toString length ++ " is acceptable"⟩
  else
    match applicability with
    | .always => ⟨false, counted ++ bound.name ++ " is " ++ toString limit⟩
    | .never => ⟨false, counted ++ "must be " ++ bound.beyond ++ " than " ++ toString limit⟩

end HeaderLength

def headerLength (bound : Bound) : Rule :=
  { check := HeaderLength.check, evaluate := HeaderLength.evaluate bound }

namespace HeaderTrim

def evaluate (message : Message) (applicability : Applicability) (_ : Option Value) :
    Evaluation :=
  let header := message.header.toList
  if applicability.expects (trim header == header) then
    ⟨true, "header whitespace is as expected"⟩
  else
    match applicability with
    | .always => ⟨false, "header must not have leading or trailing whitespace"⟩
    | .never => ⟨false, "header must have leading or trailing whitespace"⟩

end HeaderTrim

def headerTrim : Rule :=
  { check := takesNoValue, evaluate := HeaderTrim.evaluate }

namespace ExclamationMark

def evaluate (message : Message) (applicability : Applicability) (_ : Option Value) :
    Evaluation :=
  if applicability.expects (mentions ['!', ':'] message.header.toList) then
    ⟨true, "exclamation mark is as expected"⟩
  else
    match applicability with
    | .always => ⟨false, "header must have an exclamation mark before the colon"⟩
    | .never => ⟨false, "header may not have an exclamation mark before the colon"⟩

end ExclamationMark

-- The header has an exclamation mark right before a colon, be it the first colon or a later one.
def exclamationMark : Rule :=
  { check := takesNoValue, evaluate := ExclamationMark.evaluate }

end Rule

end HeaderLint
