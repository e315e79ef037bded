import HeaderLint.Text.Alphanumeric
import HeaderLint.Text.Cased
import HeaderLint.Text.Numeric

set_option autoImplicit false

namespace HeaderLint.LetterCase

open Text

def breaksBetween (c next : Char) : Bool :=
  isUppercase next && (isLowercase c || isNumeric c)

def continues (c : Char) : List Char → Bool
  | [] => false
  | next :: _ => isAlphanumeric next && !breaksBetween c next

def words : List Char → List (List Char)
  | [] => []
  | c :: rest =>
      let others := words rest
      if !isAlphanumeric c then others
      else
        match continues c rest, others with
        | true, word :: others => (c :: word) :: others
        | _, others => [c] :: others

end HeaderLint.LetterCase
