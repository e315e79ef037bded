import HeaderLint.Document

set_option autoImplicit false

namespace HeaderLint.Document.Json

def isBlank (c : Char) : Bool :=
  c == ' ' || c == '\t' || c == '\n' || c == '\r'

def skipBlanks (s : List Char) : List Char :=
  s.dropWhile isBlank

inductive CodeUnit where
  | plain (c : Char)
  | escaped (n : Nat)
  deriving Repr, DecidableEq

def escape? : Char → Option Char
  | '"' => some '"'
  | '\\' => some '\\'
  | '/' => some '/'
  | 'b' => some '\x08'
  | 'f' => some '\x0c'
  | 'n' => some '\n'
  | 'r' => some '\r'
  | 't' => some '\t'
  | _ => none

def units : List Char → Option (List CodeUnit × List Char)
  | [] => none
  | '"' :: rest => some ([], rest)
  | '\\' :: 'u' :: a :: b :: c :: d :: rest => do
      let n ← hexNumber? [a, b, c, d]
      let (more, rest) ← units rest
      return (.escaped n :: more, rest)
  | '\\' :: c :: rest => do
      let c ← escape? c
      let (more, rest) ← units rest
      return (.plain c :: more, rest)
  | c :: rest => do
      if c.toNat < 0x20 then none
      let (more, rest) ← units rest
      return (.plain c :: more, rest)

-- Two escaped halves make one character past the first plane; a half alone makes none.
def characters : List CodeUnit → Option (List Char)
  | [] => some []
  | .plain c :: rest => (characters rest).map (c :: ·)
  | .escaped high :: .escaped low :: rest =>
      if 0xD800 ≤ high ∧ high < 0xDC00 ∧ 0xDC00 ≤ low ∧ low < 0xE000 then
        (characters rest).map
          (Char.ofNat (0x10000 + (high - 0xD800) * 0x400 + (low - 0xDC00)) :: ·)
      else do
        let c ← scalar? high
        (characters (.escaped low :: rest)).map (c :: ·)
  | .escaped n :: rest => do
      let c ← scalar? n
      (characters rest).map (c :: ·)

def string? (s : List Char) : Option (String × List Char) := do
  let (units, rest) ← units s
  return (.ofList (← characters units), rest)

def digits (s : List Char) : List Char × List Char :=
  s.span Char.isDigit

def fraction? : List Char → Option (List Char × List Char)
  | '.' :: rest =>
      match digits rest with
      | ([], _) => none
      | (ds, rest) => some ('.' :: ds, rest)
  | s => some ([], s)

def exponent? : List Char → Option (List Char × List Char)
  | c :: rest =>
      if c == 'e' || c == 'E' then
        let (sign, rest) := match rest with
          | '+' :: rest => (['+'], rest)
          | '-' :: rest => (['-'], rest)
          | rest => ([], rest)
        match digits rest with
        | ([], _) => none
        | (ds, rest) => some (c :: sign ++ ds, rest)
      else some ([], c :: rest)
  | [] => some ([], [])

def whole? : List Char → Option (List Char × List Char)
  | '0' :: rest => some (['0'], rest)
  | s =>
      match digits s with
      | ([], _) => none
      | (ds, rest) => some (ds, rest)

def naturalOf (digits : List Char) : Nat :=
  digits.foldl (fun n c => n * 10 + (c.toNat - '0'.toNat)) 0

-- A number without fraction and exponent is an integer, except that a negative zero is none.
def number? (s : List Char) : Option (Document × List Char) := do
  let (negative, unsigned) := match s with
    | '-' :: rest => (true, rest)
    | s => (false, s)
  let (whole, rest) ← whole? unsigned
  let (fraction, rest) ← fraction? rest
  let (exponent, rest) ← exponent? rest
  let n := naturalOf whole
  if fraction.isEmpty && exponent.isEmpty && !(negative && n == 0) then
    return (.integer (if negative then -n else n), rest)
  else
    let sign := if negative then ['-'] else []
    return (.real (sign ++ whole ++ fraction ++ exponent), rest)

mutual

-- Reads one value; `fuel` bounds how deep values nest and how many stand in a row.
def value? : (fuel : Nat) → List Char → Option (Document × List Char)
  | 0, _ => none
  | fuel + 1, s =>
      match s with
      | '"' :: rest => (string? rest).map fun (content, rest) => (.text content, rest)
      | '[' :: rest =>
          match skipBlanks rest with
          | ']' :: rest => some (.list [], rest)
          | rest => (items? fuel rest).map fun (items, rest) => (.list items, rest)
      | '{' :: rest =>
          match skipBlanks rest with
          | '}' :: rest => some (.table [], rest)
          | rest => (fields? fuel rest).map fun (fields, rest) => (.table fields, rest)
      | 't' :: rest => (after? ['r', 'u', 'e'] rest).map (.boolean true, ·)
      | 'f' :: rest => (after? ['a', 'l', 's', 'e'] rest).map (.boolean false, ·)
      | 'n' :: rest => (after? ['u', 'l', 'l'] rest).map (.null, ·)
      | s => number? s

def items? : (fuel : Nat) → List Char → Option (List Document × List Char)
  | 0, _ => none
  | fuel + 1, s => do
      let (item, rest) ← value? fuel (skipBlanks s)
      match skipBlanks rest with
      | ',' :: rest =>
          let (items, rest) ← items? fuel rest
          return (item :: items, rest)
      | ']' :: rest => return ([item], rest)
      | _ => none

def fields? : (fuel : Nat) → List Char → Option (List (String × Document) × List Char)
  | 0, _ => none
  | fuel + 1, s => do
      let (name, rest) ← string? (← after? ['"'] (skipBlanks s))
      let rest ← after? [':'] (skipBlanks rest)
      let (value, rest) ← value? fuel (skipBlanks rest)
      match skipBlanks rest with
      | ',' :: rest =>
          let (fields, rest) ← fields? fuel rest
          return ((name, value) :: fields, rest)
      | '}' :: rest => return ([(name, value)], rest)
      | _ => none

end

def read? (s : List Char) : Option Document := do
  let (document, rest) ← value? (s.length + 1) (skipBlanks s)
  if (skipBlanks rest).isEmpty then some document else none

end HeaderLint.Document.Json
