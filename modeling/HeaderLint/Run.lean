import HeaderLint.Config.Load
import HeaderLint.History.Range
import HeaderLint.Invocation
import HeaderLint.Linter
import HeaderLint.Message.Comments
import HeaderLint.Release
import HeaderLint.Report.Json
import HeaderLint.Report.Text
import HeaderLint.Report.Verdict

set_option autoImplicit false

namespace HeaderLint

def Linter.lintCommits (linter : Linter) (commits : List Commit) : List Report :=
  let (names, texts) := (commits.map fun commit => (commit.id.name, commit.text)).unzip
  List.zipWith (fun report name => { report with commit := some name }) (linter.lintAll texts) names

namespace Invocation

variable {m : Type → Type} [Monad m]

def orFail {ε α : Type} (cause : ε → Error) (action : m (Except ε α)) : ExceptT Error m α :=
  .mk do return (← action).mapError cause

-- The configuration and its linter come before any message, so that a configuration that cannot be
-- used is what a run reports, whatever else is wrong.
def prepare (invocation : Invocation) (host : Host m) : ExceptT Error m (Config × Linter) := do
  let config ← orFail .config (Config.load host invocation.config)
  let linter ← orFail .config (pure (Linter.build .builtin config.rules))
  return (config, linter)

-- A message given in the command is taken as it stands; others lose their comments.
def message (host : Host m) : (given file : Option String) → ExceptT Error m String
  | some given, _ => return given
  | none, some path => do
      let text ← orFail (.during ("reading " ++ path) ·.message) (host.readText path)
      return .ofList (stripComments text.toList)
  | none, none => do
      let text ← orFail (.during "reading stdin" ·.message) host.inputText
      return .ofList (stripComments text.toList)

def shown (invocation : Invocation) (colour verbose : Bool) (reports : List Report) : List String :=
  match invocation.format with
  | some .json => [Report.json reports]
  | _ => reports.filterMap (·.text? colour verbose)

def conclude (invocation : Invocation) (host : Host m) (config : Config) (verbose : Bool)
    (reports : List Report) : ExceptT Error m Unit := do
  (invocation.shown host.colour verbose reports).forM (host.printLine ·)
  orFail .lint (pure (verdict (invocation.strict || config.strict) reports))

def lint (invocation : Invocation) (host : Host m) (given file : Option String) (verbose : Bool) :
    ExceptT Error m Unit := do
  let (config, linter) ← invocation.prepare host
  let text ← message host given file
  invocation.conclude host config verbose [linter.lint text]

def check (invocation : Invocation) (host : Host m) (target : String) (verbose : Bool) :
    ExceptT Error m Unit := do
  let (config, linter) ← invocation.prepare host
  let history ← orFail .history host.history
  let commits ← orFail .history (pure (history.range target))
  invocation.conclude host config verbose (linter.lintCommits commits)

def init (host : Host m) (force : Bool) (path : String) : ExceptT Error m Unit := do
  if (← host.holds path) && !force then
    throw (.during "init" (path ++ " already exists (use --force to overwrite)"))
  orFail (fun fault => .during "init" ("Failed to write configuration: " ++ fault.message))
    (host.write path (Text.Utf8.encode Config.exampleText.toList))
  host.printLine ("✓ Created " ++ path)

def rules (host : Host m) : m Unit :=
  Registry.builtin.names.forM host.printLine

def version (host : Host m) : m Unit :=
  Release.current.lines.forM host.printLine

def run (invocation : Invocation) (host : Host m) : ExceptT Error m Unit :=
  match invocation.command with
  | .lint given file verbose => invocation.lint host given file verbose
  | .check target verbose => invocation.check host target verbose
  | .rules => liftM (rules host)
  | .init force path => init host force path
  | .version => liftM (version host)

def exitStatus : Except Error Unit → Nat
  | .ok () => 0
  | .error error => error.exitStatus

end Invocation

end HeaderLint
