import HeaderLint.Commit

set_option autoImplicit false

namespace HeaderLint.Store

inductive Kind where
  | commit
  | tag
  | other
  deriving Repr, DecidableEq

structure Record where
  kind : Kind
  content : List UInt8
  deriving Repr, DecidableEq

namespace Record

def ascii (text : String) : List UInt8 :=
  text.toUTF8.toList

def Kind.ofName (name : List UInt8) : Kind :=
  if name == ascii "commit" then .commit else if name == ascii "tag" then .tag else .other

-- A record that stands alone opens with its kind and its size, and a zero byte ends this.
def ofFile? (data : List UInt8) : Option Record :=
  match data.dropWhile (· != 0) with
  | [] => none
  | _ :: content => some { kind := Kind.ofName (data.takeWhile (· != 0x20)), content }

def cutLine (data : List UInt8) : List UInt8 × List UInt8 :=
  (data.takeWhile (· != 0x0A), (data.dropWhile (· != 0x0A)).drop 1)

def words (line : List UInt8) : List String :=
  (line.splitOn 0x20).map fun word => .ofList (word.map fun byte => Char.ofNat byte.toNat)

def fields : (fuel : Nat) → List UInt8 → List (List String) × List UInt8
  | 0, data => ([], data)
  | fuel + 1, data =>
      match cutLine data with
      | ([], rest) => ([], rest)
      | (line, rest) =>
          let (more, text) := fields fuel rest
          (words line :: more, text)

def parent? : List String → Option CommitId
  | ["parent", name] => CommitId.ofName? name
  | _ => none

def time? : List String → Option Int
  | "committer" :: words => words.reverse[1]?.bind String.toInt?
  | _ => none

def commit? (id : CommitId) (record : Record) : Option Commit :=
  if record.kind == .commit then
    let (lines, stored) := fields record.content.length record.content
    some { id, time := (lines.findSome? time?).getD 0, parents := lines.filterMap parent?, stored }
  else none

def target? (record : Record) : Option String :=
  match record.kind, words (cutLine record.content).1 with
  | .tag, ["object", name] => some name
  | _, _ => none

end Record

end HeaderLint.Store
