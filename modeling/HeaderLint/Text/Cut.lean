set_option autoImplicit false

namespace HeaderLint.Text

def cut? (part : List Char) : List Char → Option (List Char × List Char)
  | [] => if part.isEmpty then some ([], []) else none
  | c :: rest =>
      if part.isPrefixOf (c :: rest) then some ([], (c :: rest).drop part.length)
      else (cut? part rest).map fun (before, after) => (c :: before, after)

def mentions (part s : List Char) : Bool :=
  (cut? part s).isSome

end HeaderLint.Text
