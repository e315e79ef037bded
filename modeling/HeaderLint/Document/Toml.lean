import HeaderLint.Document

set_option autoImplicit false

namespace HeaderLint.Document.Toml

def isBlank (c : Char) : Bool :=
  c == ' ' || c == '\t'

def skipBlanks (s : List Char) : List Char :=
  s.dropWhile isBlank

-- Text that comments and strings may hold as it stands: no control character but the tab.
def isPrintable (c : Char) : Bool :=
  c == '\t' || (0x20 ≤ c.toNat && c.toNat != 0x7F)

def newline? : List Char → Option (List Char)
  | '\n' :: rest => some rest
  | '\r' :: '\n' :: rest => some rest
  | _ => none

def skipComment : List Char → List Char
  | '#' :: rest => rest.dropWhile isPrintable
  | s => s

def lineEnd? (s : List Char) : Option (List Char) :=
  match skipComment (skipBlanks s) with
  | [] => some []
  | s => newline? s

def skipSpace? : (inComment : Bool) → List Char → Option (List Char)
  | _, '\n' :: rest => skipSpace? false rest
  | _, '\r' :: '\n' :: rest => skipSpace? false rest
  | true, c :: rest => if isPrintable c then skipSpace? true rest else none
  | false, c :: rest =>
      if isBlank c then skipSpace? false rest
      else if c == '#' then skipSpace? true rest
      else some (c :: rest)
  | _, [] => some []

def escape? : Char → Option Char
  | '"' => some '"'
  | '\\' => some '\\'
  | 'b' => some '\x08'
  | 'f' => some '\x0c'
  | 'n' => some '\n'
  | 'r' => some '\r'
  | 't' => some '\t'
  | _ => none

def prepend (c : Char) (read : Option (List Char × List Char)) : Option (List Char × List Char) :=
  read.map fun (more, rest) => (c :: more, rest)

def basic? : List Char → Option (List Char × List Char)
  | '"' :: rest => some ([], rest)
  | '\\' :: 'u' :: a :: b :: c :: d :: rest => do
      let n ← hexNumber? [a, b, c, d]
      prepend (← scalar? n) (basic? rest)
  | '\\' :: 'U' :: a :: b :: c :: d :: e :: f :: g :: h :: rest => do
      let n ← hexNumber? [a, b, c, d, e, f, g, h]
      prepend (← scalar? n) (basic? rest)
  | '\\' :: c :: rest => do prepend (← escape? c) (basic? rest)
  | c :: rest => if isPrintable c then prepend c (basic? rest) else none
  | [] => none

def literal? : List Char → Option (List Char × List Char)
  | '\'' :: rest => some ([], rest)
  | c :: rest => if isPrintable c then prepend c (literal? rest) else none
  | [] => none

-- Up to two more quotes after three belong to the string that the last three close.
def closing (quote : Char) : List Char → List Char × List Char
  | [] => ([], [])
  | [c] => if c == quote then ([c], []) else ([], [c])
  | c :: next :: rest =>
      if c == quote && next == quote then ([c, next], rest)
      else if c == quote then ([c], next :: rest)
      else ([], c :: next :: rest)

/-- Where a string of several lines stands: in its text, after a backslash that a line end must
follow, or in the white space that such a backslash swallows. -/
inductive Fold where
  | none
  | awaited
  | folding
  deriving Repr, DecidableEq

def multiBasic? : Fold → List Char → Option (List Char × List Char)
  | .awaited, '\n' :: rest => multiBasic? .folding rest
  | .awaited, '\r' :: '\n' :: rest => multiBasic? .folding rest
  | .awaited, c :: rest => if isBlank c then multiBasic? .awaited rest else Option.none
  | .folding, '\n' :: rest => multiBasic? .folding rest
  | .folding, '\r' :: '\n' :: rest => multiBasic? .folding rest
  | .folding, ' ' :: rest => multiBasic? .folding rest
  | .folding, '\t' :: rest => multiBasic? .folding rest
  | _, '"' :: '"' :: '"' :: rest => some (closing '"' rest)
  | _, '\\' :: 'u' :: a :: b :: c :: d :: rest => do
      let n ← hexNumber? [a, b, c, d]
      prepend (← scalar? n) (multiBasic? .none rest)
  | _, '\\' :: 'U' :: a :: b :: c :: d :: e :: f :: g :: h :: rest => do
      let n ← hexNumber? [a, b, c, d, e, f, g, h]
      prepend (← scalar? n) (multiBasic? .none rest)
  | _, '\\' :: '\n' :: rest => multiBasic? .folding rest
  | _, '\\' :: '\r' :: '\n' :: rest => multiBasic? .folding rest
  | _, '\\' :: c :: rest =>
      if isBlank c then multiBasic? .awaited rest
      else do prepend (← escape? c) (multiBasic? .none rest)
  | _, '\n' :: rest => prepend '\n' (multiBasic? .none rest)
  | _, '\r' :: '\n' :: rest => prepend '\n' (multiBasic? .none rest)
  | _, c :: rest => if isPrintable c then prepend c (multiBasic? .none rest) else Option.none
  | _, [] => Option.none

def multiLiteral? : List Char → Option (List Char × List Char)
  | '\'' :: '\'' :: '\'' :: rest => some (closing '\'' rest)
  | '\n' :: rest => prepend '\n' (multiLiteral? rest)
  | '\r' :: '\n' :: rest => prepend '\n' (multiLiteral? rest)
  | c :: rest => if isPrintable c then prepend c (multiLiteral? rest) else none
  | [] => none

-- A line end right after the opening quotes is not part of the string.
def skipNewline (s : List Char) : List Char :=
  (newline? s).getD s

def string? : List Char → Option (List Char × List Char)
  | '"' :: '"' :: '"' :: rest => multiBasic? .none (skipNewline rest)
  | '"' :: rest => basic? rest
  | '\'' :: '\'' :: '\'' :: rest => multiLiteral? (skipNewline rest)
  | '\'' :: rest => literal? rest
  | _ => none

def isBareKeyChar (c : Char) : Bool :=
  c.isAlphanum || c == '-' || c == '_'

def key? : List Char → Option (String × List Char)
  | '"' :: rest => (basic? rest).map fun (name, rest) => (.ofList name, rest)
  | '\'' :: rest => (literal? rest).map fun (name, rest) => (.ofList name, rest)
  | s =>
      match s.span isBareKeyChar with
      | ([], _) => none
      | (name, rest) => some (.ofList name, rest)

def digits? (digit? : Char → Option Nat) (base : Nat) (value : Nat) :
    List Char → Option (Nat × List Char)
  | [] => some (value, [])
  | '_' :: c :: rest => do digits? digit? base (value * base + (← digit? c)) rest
  | c :: rest =>
      match digit? c with
      | some d => digits? digit? base (value * base + d) rest
      | none => if c == '_' then none else some (value, c :: rest)

def natural? (digit? : Char → Option Nat) (base : Nat) : List Char → Option (Nat × List Char)
  | [] => none
  | c :: rest => do digits? digit? base (← digit? c) rest

def digitBelow? (base : Nat) (c : Char) : Option Nat :=
  (hexDigit? c).filter (· < base)

def decimal? : List Char → Option (Nat × List Char)
  | '0' :: rest => some (0, rest)
  | s => natural? (digitBelow? 10) 10 s

def integer? : List Char → Option (Int × List Char)
  | '0' :: 'x' :: rest => (natural? (digitBelow? 16) 16 rest).map fun (n, rest) => (n, rest)
  | '0' :: 'o' :: rest => (natural? (digitBelow? 8) 8 rest).map fun (n, rest) => (n, rest)
  | '0' :: 'b' :: rest => (natural? (digitBelow? 2) 2 rest).map fun (n, rest) => (n, rest)
  | '-' :: rest => (decimal? rest).map fun (n, rest) => (-n, rest)
  | '+' :: rest => (decimal? rest).map fun (n, rest) => (n, rest)
  | s => (decimal? s).map fun (n, rest) => (n, rest)

mutual

-- Reads one value; `fuel` bounds how deep values nest and how many stand in a row. Fractional
-- numbers and dates have no place in a configuration and are not read.
def value? : (fuel : Nat) → List Char → Option (Document × List Char)
  | 0, _ => none
  | fuel + 1, s =>
      match s with
      | '"' :: _ => (string? s).map fun (content, rest) => (.text (.ofList content), rest)
      | '\'' :: _ => (string? s).map fun (content, rest) => (.text (.ofList content), rest)
      | '[' :: rest => do
          match ← skipSpace? false rest with
          | ']' :: rest => return (.list [], rest)
          | rest =>
              let (items, rest) ← items? fuel rest
              return (.list items, rest)
      | '{' :: rest =>
          match skipBlanks rest with
          | '}' :: rest => some (.table [], rest)
          | rest => do
              let (fields, rest) ← fields? fuel rest
              if (fields.map Prod.fst).Nodup then return (.table fields, rest) else none
      | 't' :: rest => (after? ['r', 'u', 'e'] rest).map (.boolean true, ·)
      | 'f' :: rest => (after? ['a', 'l', 's', 'e'] rest).map (.boolean false, ·)
      | s => (integer? s).map fun (n, rest) => (.integer n, rest)

def items? : (fuel : Nat) → List Char → Option (List Document × List Char)
  | 0, _ => none
  | fuel + 1, s => do
      let (item, rest) ← value? fuel s
      match ← skipSpace? false rest with
      | ']' :: rest => return ([item], rest)
      | ',' :: rest =>
          match ← skipSpace? false rest with
          | ']' :: rest => return ([item], rest)
          | rest =>
              let (items, rest) ← items? fuel rest
              return (item :: items, rest)
      | _ => none

def fields? : (fuel : Nat) → List Char → Option (List (String × Document) × List Char)
  | 0, _ => none
  | fuel + 1, s => do
      let (name, rest) ← key? s
      let rest ← after? ['='] (skipBlanks rest)
      let (value, rest) ← value? fuel (skipBlanks rest)
      match skipBlanks rest with
      | '}' :: rest => return ([(name, value)], rest)
      | ',' :: rest =>
          let (fields, rest) ← fields? fuel (skipBlanks rest)
          return ((name, value) :: fields, rest)
      | _ => none

end

/-- A line that says something: the name of a table, or a field, of a parent named on the line or of
the table in force. Tables inside tables are not read. -/
inductive Statement where
  | heading (name : String)
  | field (parent : Option String) (name : String) (value : Document)
  deriving Repr, BEq

def heading? (s : List Char) : Option (Statement × List Char) := do
  let (name, rest) ← key? (skipBlanks s)
  let rest ← after? [']'] (skipBlanks rest)
  return (.heading name, ← lineEnd? rest)

def field? (s : List Char) : Option (Statement × List Char) := do
  let (first, rest) ← key? s
  let (parent, name, rest) ← match skipBlanks rest with
    | '.' :: rest => (key? (skipBlanks rest)).map fun (name, rest) => (some first, name, rest)
    | rest => some (none, first, rest)
  let rest ← after? ['='] (skipBlanks rest)
  let (value, rest) ← value? (rest.length + 1) (skipBlanks rest)
  return (.field parent name value, ← lineEnd? rest)

def statements? : (fuel : Nat) → List Char → Option (List Statement)
  | 0, _ => none
  | fuel + 1, s =>
      match skipBlanks s with
      | [] => some []
      | '[' :: rest => do
          let (statement, rest) ← heading? rest
          return statement :: (← statements? fuel rest)
      | s =>
          match lineEnd? s with
          | some rest => statements? fuel rest
          | none => do
              let (statement, rest) ← field? s
              return statement :: (← statements? fuel rest)

/-- A field of the top level while lines are still added. A table that dotted names began takes more
of them and no heading; one that a heading began takes what follows it and no second heading. -/
inductive Slot where
  | value (document : Document)
  | dotted (fields : List (String × Document))
  | headed (fields : List (String × Document))
  deriving Repr, BEq

def Slot.document : Slot → Document
  | value document => document
  | dotted fields => .table fields
  | headed fields => .table fields

structure Outline where
  slots : List (String × Slot) := []
  current : Option String := none
  deriving Repr, BEq

namespace Outline

def extend? (name : String) (value : Document) :
    List (String × Document) → Option (List (String × Document))
  | fields => if (fields.lookup name).isSome then none else some (fields ++ [(name, value)])

def replace (name : String) (slot : Slot) (slots : List (String × Slot)) : List (String × Slot) :=
  slots.map fun (key, old) => if key == name then (key, slot) else (key, old)

def add? (outline : Outline) : Statement → Option Outline
  | .heading name =>
      match outline.slots.lookup name with
      | some _ => none
      | none => some { slots := outline.slots ++ [(name, .headed [])], current := some name }
  | .field parent name value =>
      match outline.current, parent with
      | none, none =>
          match outline.slots.lookup name with
          | some _ => none
          | none => some { outline with slots := outline.slots ++ [(name, .value value)] }
      | none, some parent =>
          match outline.slots.lookup parent with
          | some (.dotted fields) => do
              let fields ← extend? name value fields
              return { outline with slots := replace parent (.dotted fields) outline.slots }
          | some _ => none
          | none =>
              some { outline with slots := outline.slots ++ [(parent, .dotted [(name, value)])] }
      | some current, none =>
          match outline.slots.lookup current with
          | some (.headed fields) => do
              let fields ← extend? name value fields
              return { outline with slots := replace current (.headed fields) outline.slots }
          | _ => none
      | some _, some _ => none

def document (outline : Outline) : Document :=
  .table (outline.slots.map fun (name, slot) => (name, slot.document))

end Outline

def read? (s : List Char) : Option Document := do
  let s := (after? ['\ufeff'] s).getD s
  let statements ← statements? (s.length + 1) s
  return (← statements.foldlM Outline.add? {}).document

end HeaderLint.Document.Toml
