set_option autoImplicit false

namespace HeaderLint.Text

def isLineFeed (c : Char) : Bool :=
  c == '\n'

def dropReturn : List Char → List Char
  | [] => []
  | ['\r'] => []
  | c :: rest => c :: dropReturn rest

def firstLine (s : List Char) : List Char :=
  dropReturn (s.takeWhile (!isLineFeed ·))

def afterFirstLine? (s : List Char) : Option (List Char) :=
  match s.dropWhile (!isLineFeed ·) with
  | [] => none
  | _ :: rest => some rest

def pieces : List Char → List (List Char)
  | [] => [[]]
  | c :: rest =>
      if isLineFeed c then [] :: pieces rest
      else
        match pieces rest with
        | [] => [[c]]
        | piece :: others => (c :: piece) :: others

-- Pieces that a line feed closed lose a carriage return; the open piece at the end keeps its own
-- and counts only if it holds something.
def closeLines : List (List Char) → List (List Char)
  | [] => []
  | [last] => if last.isEmpty then [] else [last]
  | piece :: others => dropReturn piece :: closeLines others

def lines (s : List Char) : List (List Char) :=
  closeLines (pieces s)

def joinLines (ls : List (List Char)) : List Char :=
  ['\n'].intercalate ls

end HeaderLint.Text
