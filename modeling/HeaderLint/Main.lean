import HeaderLint.Invocation.Parse
import HeaderLint.Invocation.Usage
import HeaderLint.Run
import HeaderLint.Store.Pack
import Std.Data.HashSet

set_option autoImplicit false

namespace HeaderLint.Main

def fault : IO.Error → FileFault
  | .noFileOrDirectory .. => .missing
  | .inappropriateType _ code detail =>
      if code == 21 then .folder
      else if code == 20 then .underFile
      else .other detail
  | .invalidArgument _ code detail => if code == 36 then .tooLong else .other detail
  | error => .other (toString error)

def readFile (path : String) : IO (Except FileFault (List UInt8)) := do
  try
    let file ← IO.FS.Handle.mk path .read
    return .ok (← file.readBinToEnd).toList
  catch error => return .error (fault error)

def writeFile (path : String) (content : List UInt8) : IO (Except FileFault Unit) := do
  try
    IO.FS.writeBinFile path (.mk content.toArray)
    return .ok ()
  catch error => return .error (fault error)

def holds (path : String) : IO Bool := do
  try
    let _ ← IO.FS.Handle.mk path .read
    return true
  catch error =>
    match fault error with
    | .missing => return false
    | .underFile => return false
    | .tooLong => return false
    | _ => return true

partial def readAll (input : IO.FS.Stream) (read : ByteArray) : IO ByteArray := do
  let more ← input.read 65536
  if more.isEmpty then return read else readAll input (read ++ more)

/-! The repository around the working folder -/

structure Repository where
  own : String
  shared : String
  packs : List Store.Pack

def text? (path : String) : IO (Option String) := do
  match ← readFile path with
  | .ok bytes => return (Text.Utf8.decode? bytes).map fun s => (String.ofList s).trimAscii.toString
  | .error _ => return none

def within (folder path : String) : String :=
  if "/".isPrefixOf path then path else folder ++ "/" ++ path

def after? (opening text : String) : Option String :=
  (Document.after? opening.toList text.toList).map .ofList

def gitFolder? (folder : String) : IO (Option String) := do
  if (← text? (folder ++ "/.git/HEAD")).isSome then return some (folder ++ "/.git")
  match (← text? (folder ++ "/.git")).bind (after? "gitdir: ") with
  | some path => return some (within folder path)
  | none =>
      let isBare := (← text? (folder ++ "/HEAD")).isSome && (← holds (folder ++ "/objects"))
      return if isBare then some folder else none

def discover? : (levels : Nat) → (folder : String) → IO (Option String)
  | 0, _ => return none
  | levels + 1, folder => do
      match ← gitFolder? folder with
      | some found => return some found
      | none => discover? levels (folder ++ "/..")

def pack? (shared name : String) : IO (Option Store.Pack) := do
  let stem := shared ++ "/objects/pack/" ++ String.ofList (name.toList.take (name.length - 5))
  try
    return some { index := ← IO.FS.readBinFile (stem ++ ".idx")
                  data := ← IO.FS.readBinFile (stem ++ ".pack") }
  catch _ => return none

def packNames (listing : String) : List String :=
  (listing.splitOn "\n").filterMap (after? "P ")

def open? : IO (Option Repository) := do
  match ← discover? 64 "." with
  | none => return none
  | some own =>
      let shared := within own ((← text? (own ++ "/commondir")).getD ".")
      let listing := (← text? (shared ++ "/objects/info/packs")).getD ""
      return some { own, shared, packs := ← (packNames listing).filterMapM (pack? shared) }

namespace Repository

def packedNames (repository : Repository) : IO (List (String × String)) := do
  let listing := (← text? (repository.shared ++ "/packed-refs")).getD ""
  return (listing.splitOn "\n").filterMap fun line =>
    match line.splitOn " " with
    | [id, name] => some (name, id)
    | _ => none

def lookup? (repository : Repository) (packed : List (String × String)) :
    (links : Nat) → (name : String) → IO (Option String)
  | 0, _ => return none
  | links + 1, name => do
      let folder := if name == "HEAD" then repository.own else repository.shared
      match ← text? (folder ++ "/" ++ name) with
      | none => return packed.lookup name
      | some content =>
          match after? "ref: " content with
          | some target => lookup? repository packed links target
          | none => return some content

def record? (repository : Repository) (id : String) : IO (Option Store.Record) := do
  let digits := id.toList
  let path := "/objects/" ++ String.ofList (digits.take 2) ++ "/" ++ String.ofList (digits.drop 2)
  try
    let data ← IO.FS.readBinFile (repository.shared ++ path)
    return (Store.Inflate.read? data 0).bind fun content => Store.Record.ofFile? content.toList
  catch _ => return repository.packs.findSome? (·.record? id)

def commit? (repository : Repository) : (tags : Nat) → (id : String) → IO (Option Commit)
  | 0, _ => return none
  | tags + 1, id => do
      match ← repository.record? id with
      | none => return none
      | some record =>
          match record.target? with
          | some target => commit? repository tags target
          | none => return (CommitId.ofName? id).bind record.commit?

partial def commits (repository : Repository) (seen : Std.HashSet String) (found : List Commit) :
    (pending : List String) → IO (List Commit)
  | [] => return found
  | id :: pending => do
      if seen.contains id then repository.commits seen found pending
      else
        let seen := seen.insert id
        match ← repository.commit? 1 id with
        | none => repository.commits seen found pending
        | some commit =>
            repository.commits seen (commit :: found) (commit.parents.map (·.name) ++ pending)

def history (repository : Repository) (target : String) : IO (Except HistoryError History) := do
  let packed ← repository.packedNames
  if let some id ← repository.lookup? packed 8 "HEAD" then
    if (← repository.record? id).isNone then return .error (.openFailed ("no record of " ++ id))
  let bases := (History.references target).filterMap fun reference =>
    (Revision.read? reference.toList).bind (·.start.name?)
  let wanted := "HEAD" :: bases.flatMap Revision.fullNames ++ packed.map Prod.fst
  let named ← wanted.filterMapM fun name => do
    match ← repository.lookup? packed 8 name with
    | none => return none
    | some id => return (← repository.commit? 8 id).map fun commit => (name, commit.id)
  let commits ← repository.commits {} [] (named.map (·.2.name) ++ bases)
  return .ok { commits, names := named }

end Repository

def history (target : String) : IO (Except HistoryError History) := do
  match ← open? with
  | none => return .error .notARepository
  | some repository => repository.history target

def host (colour : Bool) (command : Command) : Host IO where
  holds := holds
  read := readFile
  write := writeFile
  input := do return .ok (← readAll (← IO.getStdin) .empty).toList
  history := history (match command with
    | .check target _ => target
    | _ => "")
  print := IO.print
  colour := colour

def refuse (error : UsageError) : IO UInt32 := do
  match error with
  | .helpRequested => usage.forM IO.println
  | .versionRequested => IO.println ("cclint " ++ Release.current.version)
  | error =>
      IO.eprintln ("error: " ++ error.message)
      usage.forM IO.eprintln
  return error.exitStatus.toUInt32

end HeaderLint.Main

open HeaderLint in
def main (words : List String) : IO UInt32 := do
  match Invocation.parse words (← IO.getEnv "CCLINT_CONFIG") with
  | .error error => Main.refuse error
  | .ok invocation =>
      let colour ← (← IO.getStdout).isTty
      let result ← (invocation.run (Main.host colour invocation.command)).run
      if let .error error := result then IO.eprintln ("Error: " ++ error.message)
      return (Invocation.exitStatus result).toUInt32
