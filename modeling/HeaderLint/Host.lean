import HeaderLint.Error
import HeaderLint.Files
import HeaderLint.History

set_option autoImplicit false

namespace HeaderLint

structure Host (m : Type → Type) where
  holds : String → m Bool
  read : String → m (Except FileFault (List UInt8))
  write : String → List UInt8 → m (Except FileFault Unit)
  input : m (Except FileFault (List UInt8))
  history : m (Except HistoryError History)
  print : String → m Unit
  colour : Bool

namespace Host

variable {m : Type → Type} [Monad m]

def printLine (host : Host m) (line : String) : m Unit :=
  host.print (line ++ "\n")

def decode (bytes : List UInt8) : Except FileFault String :=
  match Text.Utf8.decode? bytes with
  | some s => .ok (.ofList s)
  | none => .error .notText

def readText (host : Host m) (path : String) : m (Except FileFault String) :=
  return (← host.read path).bind decode

def inputText (host : Host m) : m (Except FileFault String) :=
  return (← host.input).bind decode

end Host

structure Workspace where
  files : Files
  input : List UInt8 := []
  history : Option History := none
  output : String := ""
  deriving Repr, DecidableEq

namespace Workspace

def write (path : String) (content : List UInt8) : StateM Workspace (Except FileFault Unit) := do
  let workspace ← get
  match workspace.files.write path content with
  | .error fault => return .error fault
  | .ok files =>
      set { workspace with files }
      return .ok ()

def host : Host (StateM Workspace) where
  holds path := return (← get).files.holds path
  read path := return (← get).files.read path
  write := write
  input := return .ok (← get).input
  history := return match (← get).history with
    | none => .error .notARepository
    | some history => .ok history
  print text := modify fun workspace => { workspace with output := workspace.output ++ text }
  colour := false

end Workspace

end HeaderLint
