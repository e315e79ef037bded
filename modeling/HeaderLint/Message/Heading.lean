set_option autoImplicit false

namespace HeaderLint

/-- The conventional opening of a header: a type, a scope in parentheses, an exclamation mark, each
but the type optional, and a colon. -/
structure Heading where
  type : List Char
  scope : Option (List Char)
  marked : Bool
  deriving Repr, DecidableEq

namespace Heading

def isTypeChar (c : Char) : Bool :=
  !(c == '(' || c == '!' || c == ':')

def isScopeChar (c : Char) : Bool :=
  c != ')'

def close? (type : List Char) (scope : Option (List Char)) : List Char → Option Heading
  | '!' :: ':' :: _ => some { type, scope, marked := true }
  | ':' :: _ => some { type, scope, marked := false }
  | _ => none

def read? (header : List Char) : Option Heading :=
  let type := header.takeWhile isTypeChar
  match header.dropWhile isTypeChar with
  | '(' :: inner =>
      match inner.dropWhile isScopeChar with
      | ')' :: rest => close? type (some (inner.takeWhile isScopeChar)) rest
      | _ => none
  | rest => close? type none rest

end Heading

end HeaderLint
