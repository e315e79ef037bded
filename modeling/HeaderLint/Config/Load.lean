import HeaderLint.Config.Format
import HeaderLint.Config.Preset
import HeaderLint.Host

set_option autoImplicit false

namespace HeaderLint.Config

variable {m : Type → Type} [Monad m]

def loadFrom (host : Host m) (path : String) : m (Except ConfigError Config) := do
  if ← host.holds path then
    match ← host.readText path with
    | .error fault =>
        return .error (.unreadable ("Failed to read config file: " ++ fault.message))
    | .ok text => return read (.ofPath path) text
  else return .error (.notFound path)

def load (host : Host m) : Option String → m (Except ConfigError Config)
  | none => return .ok preset
  | some path => loadFrom host path

end HeaderLint.Config
