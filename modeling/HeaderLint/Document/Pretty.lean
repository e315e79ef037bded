import HeaderLint.Document

set_option autoImplicit false

namespace HeaderLint.Document.Json

def hexChar (n : Nat) : Char :=
  if n < 10 then Char.ofNat ('0'.toNat + n) else Char.ofNat ('a'.toNat + (n - 10))

def escaped (c : Char) : List Char :=
  match c with
  | '"' => ['\\', '"']
  | '\\' => ['\\', '\\']
  | '\x08' => ['\\', 'b']
  | '\x0c' => ['\\', 'f']
  | '\n' => ['\\', 'n']
  | '\r' => ['\\', 'r']
  | '\t' => ['\\', 't']
  | c =>
      if c.toNat < 0x20 then ['\\', 'u', '0', '0', hexChar (c.toNat / 16), hexChar (c.toNat % 16)]
      else [c]

def quoted (s : String) : List Char :=
  '"' :: s.toList.flatMap escaped ++ ['"']

def newline (depth : Nat) : List Char :=
  '\n' :: List.replicate (2 * depth) ' '

mutual

def pretty (depth : Nat) : Document → List Char
  | .null => ['n', 'u', 'l', 'l']
  | .boolean true => ['t', 'r', 'u', 'e']
  | .boolean false => ['f', 'a', 'l', 's', 'e']
  | .integer n => (toString n).toList
  | .real digits => digits
  | .text s => quoted s
  | .list [] => ['[', ']']
  | .list items => '[' :: prettyItems (depth + 1) items ++ newline depth ++ [']']
  | .table [] => ['{', '}']
  | .table fields => '{' :: prettyFields (depth + 1) fields ++ newline depth ++ ['}']

def prettyItems (depth : Nat) : List Document → List Char
  | [] => []
  | [item] => newline depth ++ pretty depth item
  | item :: rest => newline depth ++ pretty depth item ++ ',' :: prettyItems depth rest

def prettyFields (depth : Nat) : List (String × Document) → List Char
  | [] => []
  | [(name, value)] => newline depth ++ quoted name ++ ':' :: ' ' :: pretty depth value
  | (name, value) :: rest =>
      newline depth ++ quoted name ++ ':' :: ' ' :: pretty depth value ++
        ',' :: prettyFields depth rest

end

end HeaderLint.Document.Json
