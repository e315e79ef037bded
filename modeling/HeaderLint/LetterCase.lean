import HeaderLint.LetterCase.Words
import HeaderLint.Text.CaseMap

set_option autoImplicit false

namespace HeaderLint

open Text

inductive LetterCase where
  | lower
  | upper
  | camel
  | kebab
  | pascal
  | sentence
  | snake
  | start
  deriving Repr, DecidableEq

namespace LetterCase

def all : List LetterCase :=
  [lower, upper, camel, kebab, pascal, sentence, snake, start]

def name : LetterCase → String
  | lower => "lower-case"
  | upper => "upper-case"
  | camel => "camel-case"
  | kebab => "kebab-case"
  | pascal => "pascal-case"
  | sentence => "sentence-case"
  | snake => "snake-case"
  | start => "start-case"

def ofName? (text : String) : Option LetterCase :=
  all.find? (·.name == text)

def titled (word : List Char) : List Char :=
  capitalize (Text.lower word)

def convert (letterCase : LetterCase) (s : List Char) : List Char :=
  match letterCase with
  | lower => Text.lower s
  | upper => Text.upper s
  | sentence => titled s
  | camel =>
      match words s with
      | [] => []
      | first :: others => Text.lower first ++ others.flatMap titled
  | pascal => (words s).flatMap titled
  | kebab => ['-'].intercalate ((words s).map Text.lower)
  | snake => ['_'].intercalate ((words s).map Text.lower)
  -- Only the first letter of a word is changed, so capitals inside it stay.
  | start => [' '].intercalate ((words s).map capitalize)

def hasCasedLetter (s : List Char) : Bool :=
  s.any fun c => isLowercase c || isUppercase c

-- A text is in a case if converting it changes nothing; without a letter that has case it is in
-- every case.
def fits (letterCase : LetterCase) (s : List Char) : Bool :=
  !hasCasedLetter s || letterCase.convert s == s

end LetterCase

end HeaderLint
