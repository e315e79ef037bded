import HeaderLint.Proofs.Except
import HeaderLint.Run

set_option autoImplicit false

namespace HeaderLint

section Actions

variable {S A B E : Type}

theorem run_bind (action : ExceptT Error (StateM S) A) (next : A → ExceptT Error (StateM S) B)
    (s : S) : (action >>= next).run.run s =
      match action.run.run s with
      | (.ok a, after) => (next a).run.run after
      | (.error error, after) => (.error error, after) := by
  rw [ExceptT.run_bind, StateT.run_bind]
  rcases action.run.run s with ⟨error | a, after⟩ <;> rfl

theorem run_orFail (cause : E → Error) (action : StateM S (Except E A)) (s : S) :
    (Invocation.orFail cause action).run.run s =
      ((action.run s).1.mapError cause, (action.run s).2) :=
  rfl

theorem run_settled (cause : E → Error) (result : Except E A)
    (next : A → ExceptT Error (StateM S) B) (s : S) :
    (Invocation.orFail cause (pure result) >>= next).run.run s =
      match result with
      | .ok a => (next a).run.run s
      | .error e => (.error (cause e), s) := by
  rw [run_bind]
  cases result <;> rfl

end Actions

/-- A machine in some state. To look for a file or to read it changes nothing there; the state holds
all that a run can write or print. -/
structure Machine where
  State : Type
  host : Host (StateM State)
  state : State
  holds_still : ∀ path s, ((host.holds path).run s).2 = s
  read_still : ∀ path s, ((host.read path).run s).2 = s

namespace Machine

variable (machine : Machine)

def run (invocation : Invocation) : Except Error Unit × machine.State :=
  (invocation.run machine.host).run.run machine.state

def file? (path : String) : Option (Except FileFault (List UInt8)) :=
  if ((machine.host.holds path).run machine.state).1 then
    some ((machine.host.read path).run machine.state).1
  else none

theorem holds_run (path : String) :
    (machine.host.holds path).run machine.state =
      ((machine.file? path).isSome, machine.state) := by
  refine Prod.ext ?_ (machine.holds_still path machine.state)
  cases held : ((machine.host.holds path).run machine.state).1 <;> simp [file?, held]

theorem readText_run {path : String} {content : Except FileFault (List UInt8)}
    (found : machine.file? path = some content) :
    (machine.host.readText path).run machine.state =
      (content.bind Host.decode, machine.state) := by
  have read : ((machine.host.read path).run machine.state).1 = content := by
    rw [file?] at found
    split at found
    next => exact Option.some.inj found
    next => simp at found
  rw [Host.readText, StateT.run_bind]
  exact Prod.ext (congrArg (Except.bind · Host.decode) read) (machine.read_still path machine.state)

def config (path : Option String) : Except ConfigError Config :=
  ((Config.load machine.host path).run machine.state).1

def prepared (path : Option String) : Except ConfigError (Config × Linter) := do
  let config ← machine.config path
  let linter ← Linter.build .builtin config.rules
  return (config, linter)

end Machine

namespace Config

def ofFile (path : String) : Option (Except FileFault (List UInt8)) → Except ConfigError Config
  | none => .error (.notFound path)
  | some content =>
      match content.bind Host.decode with
      | .error fault => .error (.unreadable ("Failed to read config file: " ++ fault.message))
      | .ok text => read (.ofPath path) text

theorem ofFile_of_decode {content : List UInt8} {text : String}
    (decoded : Host.decode content = .ok text) (path : String) :
    ofFile path (some (.ok content)) = read (.ofPath path) text := by
  have bound : (Except.ok content : Except FileFault (List UInt8)).bind Host.decode = .ok text :=
    decoded
  rw [ofFile, bound]

theorem loadFrom_run (machine : Machine) (path : String) :
    (loadFrom machine.host path).run machine.state =
      (ofFile path (machine.file? path), machine.state) := by
  rw [loadFrom, StateT.run_bind, machine.holds_run]
  cases found : machine.file? path with
  | none => rfl
  | some content =>
    change (StateT.run (machine.host.readText path >>= _) machine.state) = _
    rw [StateT.run_bind, machine.readText_run found, ofFile]
    cases content.bind Host.decode <;> rfl

end Config

namespace Machine

variable (machine : Machine)

theorem load_run (path : Option String) :
    (Config.load machine.host path).run machine.state = (machine.config path, machine.state) := by
  cases path with
  | none => rfl
  | some path => rw [config, Config.load, Config.loadFrom_run]

@[simp] theorem config_some (path : String) :
    machine.config (some path) = Config.ofFile path (machine.file? path) := by
  rw [config, Config.load, Config.loadFrom_run]

theorem config_congr {here there : Machine} {path : Option String}
    (agree : ∀ file ∈ path, here.file? file = there.file? file) :
    here.config path = there.config path := by
  cases path with
  | none => rfl
  | some file => rw [config_some, config_some, agree file rfl]

theorem prepared_of_config {path : Option String} {config : Config}
    (loaded : machine.config path = .ok config) :
    machine.prepared path = (Linter.build .builtin config.rules).map (config, ·) := by
  rw [prepared, loaded]
  change (Linter.build .builtin config.rules >>= _) = _
  cases Linter.build .builtin config.rules <;> rfl

@[simp] theorem prepared_eq_ok_iff {path : Option String} {config : Config} {linter : Linter} :
    machine.prepared path = .ok (config, linter) ↔
      machine.config path = .ok config ∧ Linter.build .builtin config.rules = .ok linter := by
  simp [prepared]

theorem prepared_none {linter : Linter}
    (built : Linter.build .builtin Config.preset.rules = .ok linter) :
    machine.prepared none = .ok (Config.preset, linter) :=
  machine.prepared_eq_ok_iff.mpr ⟨rfl, built⟩

theorem prepare_run (invocation : Invocation) :
    (invocation.prepare machine.host).run.run machine.state =
      ((machine.prepared invocation.config).mapError .config, machine.state) := by
  rw [Invocation.prepare, run_bind, run_orFail, load_run]
  cases loaded : machine.config invocation.config with
  | error cause =>
    rw [prepared, loaded]
    rfl
  | ok config =>
    rw [machine.prepared_of_config loaded]
    refine (run_settled .config _ (fun linter => pure (config, linter)) machine.state).trans ?_
    cases Linter.build .builtin config.rules <;> rfl

theorem run_congr_config (invocation : Invocation) {here there : Option String}
    (same : machine.config here = machine.config there) :
    machine.run { invocation with config := here } =
      machine.run { invocation with config := there } := by
  have prepared : machine.prepared here = machine.prepared there := by
    rw [Machine.prepared, Machine.prepared, same]
  have begun (next : Config × Linter → ExceptT Error (StateM machine.State) Unit) :
      (Invocation.prepare { invocation with config := here } machine.host >>= next).run.run
          machine.state =
        (Invocation.prepare { invocation with config := there } machine.host >>= next).run.run
          machine.state := by
    rw [run_bind, run_bind, prepare_run, prepare_run, prepared]
  obtain ⟨command, strict, debug, format, config⟩ := invocation
  cases command with
  | lint | check => exact begun _
  | rules | init | version => rfl

end Machine

end HeaderLint
