import HeaderLint.Text.Blank
import HeaderLint.Text.Cut
import HeaderLint.Text.Lines

set_option autoImplicit false

namespace HeaderLint

open Text

def isComment (line : List Char) : Bool :=
  ['#'].isPrefixOf line

-- A comment that mentions `>8` ends the message, as the line does that an editor puts above the
-- changes to be committed.
def isScissors (line : List Char) : Bool :=
  ['#', ' '].isPrefixOf line && mentions ['>', '8'] line

def stripComments (s : List Char) : List Char :=
  let kept := ((lines s).takeWhile (!isScissors ·)).filter (!isComment ·)
  trimEnd (joinLines kept)

end HeaderLint
