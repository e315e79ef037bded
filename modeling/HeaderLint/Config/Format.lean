import HeaderLint.Config.Draft
import HeaderLint.Document.Json
import HeaderLint.Document.Toml

set_option autoImplicit false

namespace HeaderLint

namespace Item

-- Integers are those of sixty-four bits.
def isWord (n : Int) : Bool :=
  -0x8000000000000000 ≤ n && n ≤ 0x7FFFFFFFFFFFFFFF

def text? : Document → Option String
  | .text s => some s
  | _ => none

def ofDocument? : Document → Option Item
  | .integer n => if isWord n then some (.integer n) else none
  | .text s => some (.text s)
  | .list items => (items.mapM text?).map .list
  | _ => none

end Item

namespace Draft

def rule? : String × Document → Option (String × List Item)
  | (name, .list items) => (items.mapM Item.ofDocument?).map (name, ·)
  | _ => none

def rules? : Document → Option (List (String × List Item))
  | .table fields => fields.mapM rule?
  | _ => none

def strict? : Document → Option Bool
  | .boolean b => some b
  | _ => none

-- The two parts of a configuration; each comes at most once and nothing else does.
def field? (seen : Option (List (String × List Item)) × Option Bool) :
    String × Document → Option (Option (List (String × List Item)) × Option Bool)
  | (name, document) =>
      if name == "rules" then
        if seen.1.isSome then none else (rules? document).map fun rules => (some rules, seen.2)
      else if name == "strict" then
        if seen.2.isSome then none else (strict? document).map fun strict => (seen.1, some strict)
      else none

def ofDocument? : Document → Option Draft
  | .table fields => do
      let (rules, strict) ← fields.foldlM field? (none, none)
      return { rules := rules.getD [], strict := strict.getD false }
  | .list [] => some {}
  | .list [rules] => do return { rules := ← rules? rules }
  | .list [rules, strict] => do return { rules := ← rules? rules, strict := ← strict? strict }
  | _ => none

end Draft

namespace Config

inductive Format where
  | toml
  | json
  deriving Repr, DecidableEq

namespace Format

def name : Format → String
  | toml => "TOML"
  | json => "JSON"

def document? : Format → List Char → Option Document
  | toml, s => Document.Toml.read? s
  | json, s => Document.Json.read? s

def lowerAscii (s : List Char) : List Char :=
  s.map Char.toLower

def parts (path : List Char) : List (List Char) :=
  path.splitOn '/'

-- The last name on a path, past closing slashes and dots that mean the same directory.
def fileName? (path : List Char) : Option (List Char) :=
  let parts := (parts path).filter (!·.isEmpty)
  match (parts.reverse.dropWhile (· == ['.'])).head? with
  | none => none
  | some name => if name == ['.', '.'] then none else some name

-- What follows the last dot of a name, if something stands before that dot.
def extension? (name : List Char) : Option (List Char) :=
  let reversed := name.reverse
  match reversed.dropWhile (· != '.') with
  | [] => none
  | [_] => none
  | _ :: _ :: _ => some (reversed.takeWhile (· != '.')).reverse

-- Files are TOML unless their name ends in `.json`, in capitals or not.
def ofPath (path : String) : Format :=
  match (fileName? path.toList).bind extension? with
  | none => toml
  | some extension => if lowerAscii extension == "json".toList then json else toml

end Format

def read (format : Format) (text : String) : Except ConfigError Config :=
  match (format.document? text.toList).bind Draft.ofDocument? with
  | none => .error (.unreadable ("Failed to parse " ++ format.name))
  | some draft => draft.config

end Config

end HeaderLint
