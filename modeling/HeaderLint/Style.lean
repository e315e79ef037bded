set_option autoImplicit false

namespace HeaderLint

inductive Style where
  | success
  | failure
  | caution
  | commit
  | alarm
  | failureText
  | cautionText
  | faint
  deriving Repr, DecidableEq

namespace Style

def sequence (code : String) : String :=
  "\x1b[" ++ code ++ "m"

-- The display attributes that are switched on, the colour first.
def codes : Style → List String
  | success => ["32", "1"]
  | failure => ["31", "1"]
  | caution => ["33", "1"]
  | commit => ["36"]
  | alarm => ["35", "1"]
  | failureText => ["31"]
  | cautionText => ["33"]
  | faint => ["2"]

def paint (style : Style) (colour : Bool) (text : String) : String :=
  if colour then String.join (style.codes.map sequence) ++ text ++ sequence "0" else text

end Style

end HeaderLint
