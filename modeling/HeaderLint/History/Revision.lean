import HeaderLint.Error
import HeaderLint.History
import HeaderLint.Pattern.Read

set_option autoImplicit false

namespace HeaderLint

open Text

inductive Step where
  | parent (n : Nat)
  | generation (n : Nat)
  | fitting (pattern : List Char)
  deriving Repr, DecidableEq

inductive Start where
  | name (name : String)
  | fitting (pattern : List Char)
  deriving Repr, DecidableEq

def Start.name? : Start → Option String
  | .name words => some words
  | .fitting _ => none

structure Revision where
  start : Start
  steps : List Step := []
  deriving Repr, DecidableEq

namespace History

def octets (bytes : List UInt8) : List Char :=
  bytes.map (Char.ofNat ·.toNat)

def fitting? (pattern : List Char) (commits : List Commit) : Option Commit :=
  (Pattern.read? (octets (Utf8.encode pattern))).bind fun pattern =>
    commits.find? fun commit => pattern.occursIn (octets commit.message)

end History

namespace Step

-- A parent counts from one; the parent zero is the commit itself.
def follow (history : History) : Step → Commit → Option Commit
  | parent 0, commit => some commit
  | parent (n + 1), commit => commit.parents[n]?.bind history.commit?
  | generation 0, commit => some commit
  | generation (n + 1), commit =>
      (commit.parents.head?.bind history.commit?).bind (follow history (generation n))
  | fitting pattern, commit => History.fitting? pattern (history.ancestry commit)

end Step

namespace Revision

def isDigit (c : Char) : Bool :=
  '0' ≤ c && c ≤ '9'

def number (digits : List Char) : Nat :=
  digits.foldl (fun n c => 10 * n + (c.toNat - '0'.toNat)) 0

def count (digits : List Char) : Nat :=
  if digits.isEmpty then 1 else number digits

-- What stands in braces after a caret: a kind of thing that a commit is, or a pattern after a slash.
-- No commit is of another kind.
def braced? : List Char → Option Step
  | [] => some (.parent 0)
  | '/' :: pattern => some (.fitting pattern)
  | kind => if kind == "commit".toList then some (.parent 0) else none

def steps? : List Char → Option (List Step)
  | [] => some []
  | ['@'] => some []
  | '^' :: '{' :: rest =>
      match _closed : rest.dropWhile (· != '}') with
      | [] => none
      | _ :: more => do return (← braced? (rest.takeWhile (· != '}'))) :: (← steps? more)
  | '^' :: rest =>
      (steps? (rest.dropWhile isDigit)).map (.parent (count (rest.takeWhile isDigit)) :: ·)
  | '~' :: rest =>
      (steps? (rest.dropWhile isDigit)).map (.generation (count (rest.takeWhile isDigit)) :: ·)
  | _ => none
termination_by s => s.length
decreasing_by
  · have shorter := (List.dropWhile_suffix (l := rest) (· != '}')).length_le
    grind
  all_goals
    have shorter := (List.dropWhile_suffix (l := rest) isDigit).length_le
    grind

def cutName : List Char → List Char × List Char
  | [] => ([], [])
  | '@' :: '{' :: rest => ([], '@' :: '{' :: rest)
  | c :: rest =>
      if c == '^' || c == '~' || c == ':' then ([], c :: rest)
      else
        let (name, marks) := cutName rest
        (c :: name, marks)

-- How many changes ago a name is meant, as the digits at the start of what stands in braces say;
-- spaces and a plus sign may stand before them.
def age? (content : List Char) : Option Nat :=
  let unsigned := match content.dropWhile Pattern.isSpace with
    | '+' :: rest => rest
    | rest => rest
  match unsigned.takeWhile isDigit with
  | [] => none
  | digits => some (number digits)

-- An age can only be zero, which is what a name stands for now.
def dropAges? : List Char → Option (List Char)
  | '@' :: '{' :: rest =>
      match age? (rest.takeWhile (· != '}')), _closed : rest.dropWhile (· != '}') with
      | some 0, _ :: marks => dropAges? marks
      | _, _ => none
  | marks => some marks
termination_by s => s.length
decreasing_by
  have shorter := (List.dropWhile_suffix (l := rest) (· != '}')).length_le
  grind

-- The name that a revision starts from. With an at sign at its end, a name without marks
-- is `HEAD`, whatever stands before that sign; so is an absent name with an age.
def startName (name marks : List Char) : String :=
  let isHead :=
    if marks.isEmpty then name.getLast? == some '@' else marks.head? == some '@' && name.isEmpty
  if isHead then "HEAD" else .ofList name

def read? (s : List Char) : Option Revision :=
  if s.contains '\x00' then none
  else
    match s with
    | ':' :: '/' :: pattern => some { start := .fitting pattern }
    | s => do
        let (name, marks) := cutName s
        return { start := .name (startName name marks), steps := ← steps? (← dropAges? marks) }

def fullNames (name : String) : List String :=
  [ name, "refs/" ++ name, "refs/tags/" ++ name, "refs/heads/" ++ name, "refs/remotes/" ++ name,
    "refs/remotes/" ++ name ++ "/HEAD" ]

def isHexDigit (c : Char) : Bool :=
  isDigit c || ('a' ≤ c && c ≤ 'f')

-- A commit's own name may be cut to four digits or more, as long as no other one starts alike.
def byId? (history : History) (name : String) : Option Commit :=
  let start := name.toList.map Char.toLower
  if start.all isHexDigit && 4 ≤ start.length then
    match history.commits.filter (start.isPrefixOf ·.id.name.toList) with
    | [commit] => some commit
    | _ => none
  else none

def base? (history : History) (name : String) : Option Commit :=
  match (fullNames name).findSome? (history.names.lookup ·) with
  | some id => history.commit? id
  | none => byId? history name

def inUse (history : History) : List Commit :=
  let refs := history.names.filter fun (name, _) => "refs/".isPrefixOf name
  History.reach history.newestFirst (refs.map Prod.snd)

def find? (history : History) (revision : Revision) : Option Commit :=
  let start := match revision.start with
    | .name name => base? history name
    | .fitting pattern => History.fitting? pattern (inUse history)
  start.bind (revision.steps.foldlM fun commit step => step.follow history commit)

end Revision

namespace History

def resolve (history : History) (reference : String) : Except HistoryError Commit :=
  match (Revision.read? reference.toList).bind (Revision.find? history) with
  | some commit => .ok commit
  | none => .error (.invalidReference reference)

end History

end HeaderLint
