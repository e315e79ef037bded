set_option autoImplicit false

namespace HeaderLint

inductive FileFault where
  | missing
  | folder
  | underFile
  | notText
  | tooLong
  | zeroCharacter
  | other (detail : String)
  deriving Repr, DecidableEq

def FileFault.message : FileFault → String
  | missing => "No such file or directory (os error 2)"
  | folder => "Is a directory (os error 21)"
  | underFile => "Not a directory (os error 20)"
  | notText => "stream did not contain valid UTF-8"
  | tooLong => "File name too long (os error 36)"
  | zeroCharacter => "file name contained an unexpected NUL byte"
  | other detail => detail

abbrev Place := List String

inductive Node where
  | file (content : List UInt8)
  | folder
  deriving Repr, DecidableEq

structure Files where
  home : Place
  entries : List (Place × List UInt8)
  deriving Repr, DecidableEq

namespace Files

-- The folders are the root, those around the files, and the home with those around it.
def isFolder (files : Files) (place : Place) : Bool :=
  place.isEmpty || place.isPrefixOf files.home ||
    files.entries.any fun (other, _) => place.isPrefixOf other && place != other

def node? (files : Files) (place : Place) : Option Node :=
  match files.entries.lookup place with
  | some content => some (.file content)
  | none => if files.isFolder place then some .folder else none

def enter (files : Files) (place : Place) : Except FileFault Unit :=
  match files.node? place with
  | none => .error .missing
  | some (.file _) => .error .underFile
  | some .folder => .ok ()

-- A name has at most 255 bytes.
def step (here : Place) (name : String) : Except FileFault Place :=
  if 255 < name.utf8ByteSize then .error .tooLong else .ok (here ++ [name])

def walk (files : Files) (here : Place) : List String → Except FileFault Place
  | [] => .ok here
  | part :: rest => do
      files.enter here
      if part.isEmpty || part == "." then walk files here rest
      else if part == ".." then walk files here.dropLast rest
      else walk files (← step here part) rest

def start (files : Files) (path : String) : Place :=
  if ['/'].isPrefixOf path.toList then [] else files.home

def parts (path : String) : List String :=
  (path.toList.splitOn '/').map String.ofList

-- A path has at least one byte and at most 4095, none of them zero.
def accept (path : String) : Except FileFault Unit := do
  if path.toList.contains '\x00' then throw .zeroCharacter
  if path.isEmpty then throw .missing
  if 4095 < path.utf8ByteSize then throw .tooLong

def look (files : Files) (path : String) : Except FileFault Node := do
  accept path
  match files.node? (← files.walk (files.start path) (parts path)) with
  | none => throw .missing
  | some node => return node

def holds (files : Files) (path : String) : Bool :=
  (files.look path).isOk

def read (files : Files) (path : String) : Except FileFault (List UInt8) := do
  match ← files.look path with
  | .file content => return content
  | .folder => throw .folder

-- Where a path puts a file. The folder around it must be there, and a path that ends in a slash or
-- in dots can only be a folder's.
def destination (files : Files) (path : String) : Except FileFault Place := do
  accept path
  match (parts path).reverse.dropWhile (·.isEmpty) with
  | [] => throw .folder
  | last :: before =>
      let around ← files.walk (files.start path) before.reverse
      files.enter around
      if path.toList.getLast? == some '/' || last == "." || last == ".." then throw .folder
      let place ← step around last
      if files.node? place == some .folder then throw .folder
      return place

def put (files : Files) (place : Place) (content : List UInt8) : Files :=
  { files with entries := (place, content) :: files.entries.filter (·.1 != place) }

def write (files : Files) (path : String) (content : List UInt8) : Except FileFault Files := do
  return files.put (← files.destination path) content

end Files

end HeaderLint
