import HeaderLint.Proofs.Run.Workspace
import Mathlib

set_option autoImplicit false

namespace HeaderLint

variable {S A B E : Type}

def NeverConfig (action : ExceptT Error (StateM S) A) : Prop :=
  ∀ s cause, (action.run.run s).1 ≠ .error (.config cause)

namespace NeverConfig

theorem bind {action : ExceptT Error (StateM S) A} {next : A → ExceptT Error (StateM S) B}
    (first : NeverConfig action) (later : ∀ a, NeverConfig (next a)) :
    NeverConfig (action >>= next) := by
  intro s cause
  rw [run_bind]
  rcases ran : action.run.run s with ⟨error | a, after⟩
  next =>
    intro failed
    obtain rfl : error = .config cause := Except.error.inj failed
    exact first s cause (by rw [ran])
  next => exact later a after cause

theorem pure (a : A) : NeverConfig (Pure.pure a : ExceptT Error (StateM S) A) :=
  fun _ _ => nofun

theorem lift (action : StateM S A) : NeverConfig (liftM action : ExceptT Error (StateM S) A) :=
  fun _ _ => nofun

theorem throw {error : Error} (other : error.isConfig = false) :
    NeverConfig (throw error : ExceptT Error (StateM S) A) := by
  intro s cause failed
  obtain rfl := Except.error.inj failed
  simp [Error.isConfig] at other

theorem orFail {cause : E → Error} (other : ∀ e, (cause e).isConfig = false)
    (action : StateM S (Except E A)) : NeverConfig (Invocation.orFail cause action) := by
  intro s config
  rw [run_orFail]
  cases (action.run s).1 with
  | ok a => exact nofun
  | error e =>
    intro failed
    have same : cause e = .config config := Except.error.inj failed
    simpa [same, Error.isConfig] using other e

theorem forM {items : List A} {action : A → ExceptT Error (StateM S) Unit}
    (each : ∀ item, NeverConfig (action item)) : NeverConfig (items.forM action) := by
  induction items with
  | nil => exact .pure ()
  | cons item items ih => exact (each item).bind fun _ => ih

end NeverConfig

def Command.judges : Command → Bool
  | .lint .. | .check .. => true
  | .rules | .init .. | .version => false

namespace Invocation

variable {host : Host (StateM S)}

theorem neverConfig_message (given file : Option String) :
    NeverConfig (message host given file) := by
  cases given with
  | some given => exact .pure given
  | none =>
    cases file with
    | some path => exact (NeverConfig.orFail (fun _ => rfl) _).bind fun text => .pure _
    | none => exact (NeverConfig.orFail (fun _ => rfl) _).bind fun text => .pure _

theorem neverConfig_conclude (invocation : Invocation) (config : Config) (verbose : Bool)
    (reports : List Report) : NeverConfig (invocation.conclude host config verbose reports) :=
  (NeverConfig.forM fun _ => .lift _).bind fun _ => .orFail (fun _ => rfl) _

theorem neverConfig_init (force : Bool) (path : String) : NeverConfig (init host force path) := by
  refine (NeverConfig.lift _).bind fun held => ?_
  have rest : NeverConfig (do
      orFail (fun fault => .during "init" ("Failed to write configuration: " ++ fault.message))
        (host.write path (Text.Utf8.encode Config.exampleText.toList))
      host.printLine ("✓ Created " ++ path)) :=
    (NeverConfig.orFail (fun _ => rfl) _).bind fun _ => .lift _
  split
  next => exact (NeverConfig.throw rfl).bind fun _ => rest
  next => exact rest

theorem exists_run_eq (host : Host (StateM S)) (invocation : Invocation)
    (judges : invocation.command.judges = true) :
    ∃ next : Config × Linter → ExceptT Error (StateM S) Unit,
      (∀ ready, NeverConfig (next ready)) ∧
        invocation.run host = invocation.prepare host >>= next := by
  rw [run]
  cases command : invocation.command with
  | lint given file verbose =>
    refine ⟨_, fun ready => ?_, rfl⟩
    exact (neverConfig_message given file).bind fun text => neverConfig_conclude _ _ _ _
  | check target verbose =>
    refine ⟨_, fun ready => ?_, rfl⟩
    exact (NeverConfig.orFail (fun _ => rfl) _).bind fun history =>
      (NeverConfig.orFail (fun _ => rfl) _).bind fun commits => neverConfig_conclude _ _ _ _
  | rules | init | version => simp [command, Command.judges] at judges

theorem neverConfig_run (invocation : Invocation) (judges : invocation.command.judges = false) :
    NeverConfig (invocation.run host) := by
  rw [run]
  cases command : invocation.command with
  | lint | check => simp [command, Command.judges] at judges
  | rules => exact .lift _
  | init force path => exact neverConfig_init force path
  | version => exact .lift _

theorem exitStatus_le_one {result : Except Error Unit}
    (never : ∀ cause, result ≠ .error (.config cause)) : exitStatus result ≤ 1 := by
  rcases result with error | done
  next =>
    cases error with
    | config cause => exact absurd rfl (never cause)
    | history | lint | during => exact Nat.le_refl 1
  next => exact Nat.zero_le 1

end Invocation

namespace Machine

variable (machine : Machine) {invocation : Invocation}

theorem run_of_refused (judges : invocation.command.judges = true) {cause : ConfigError}
    (refused : machine.prepared invocation.config = .error cause) :
    machine.run invocation = (.error (.config cause), machine.state) := by
  obtain ⟨next, _, whole⟩ := Invocation.exists_run_eq machine.host invocation judges
  rw [run, whole, run_bind, machine.prepare_run, refused]
  rfl

theorem run_of_unread (judges : invocation.command.judges = true) {cause : ConfigError}
    (unread : machine.config invocation.config = .error cause) :
    machine.run invocation = (.error (.config cause), machine.state) := by
  apply machine.run_of_refused judges
  rw [prepared, unread]
  rfl

theorem run_of_prepared (judges : invocation.command.judges = true) {ready : Config × Linter}
    (prepared : machine.prepared invocation.config = .ok ready) (cause : ConfigError) :
    (machine.run invocation).1 ≠ .error (.config cause) := by
  obtain ⟨next, never, whole⟩ := Invocation.exists_run_eq machine.host invocation judges
  rw [run, whole, run_bind, machine.prepare_run, prepared]
  exact never ready machine.state cause

end Machine

/-- Machines with the same configuration file refuse it alike, whatever else they hold, with status
two and as they were before; if it can be used the status is zero or one, as it is for commands that
ask for no configuration. -/
theorem Invocation.exitStatus_exact (invocation : Invocation) {here there : Machine}
    (agree : ∀ path ∈ invocation.config, here.file? path = there.file? path) :
    (invocation.command.judges = true →
      (∀ cause, here.prepared invocation.config = .error cause →
        here.run invocation = (.error (.config cause), here.state) ∧
        there.run invocation = (.error (.config cause), there.state) ∧
        exitStatus (here.run invocation).1 = 2 ∧ exitStatus (there.run invocation).1 = 2) ∧
      ∀ ready, here.prepared invocation.config = .ok ready →
        exitStatus (here.run invocation).1 ≤ 1 ∧ exitStatus (there.run invocation).1 ≤ 1) ∧
    (invocation.command.judges = false →
      exitStatus (here.run invocation).1 ≤ 1 ∧ exitStatus (there.run invocation).1 ≤ 1) := by
  have same : here.prepared invocation.config = there.prepared invocation.config := by
    rw [Machine.prepared, Machine.prepared, Machine.config_congr agree]
  refine ⟨fun judges => ⟨fun cause refused => ?_, fun ready prepared => ?_⟩, fun apart => ?_⟩
  next =>
    have first := here.run_of_refused judges refused
    have second := there.run_of_refused judges (same ▸ refused)
    exact ⟨first, second, by rw [first]; rfl, by rw [second]; rfl⟩
  next =>
    exact ⟨exitStatus_le_one (here.run_of_prepared judges prepared),
      exitStatus_le_one (there.run_of_prepared judges (same ▸ prepared))⟩
  next =>
    exact ⟨exitStatus_le_one (neverConfig_run invocation apart here.state),
      exitStatus_le_one (neverConfig_run invocation apart there.state)⟩

def misnamed : List UInt8 :=
  Text.Utf8.encode "[rules]\nno-such-rule = [2]\n".toList

def bare : Workspace :=
  { files := { home := ["home"], entries := [(["home", "lint.toml"], misnamed)] } }

def furnished : Workspace :=
  { files := { home := ["home"],
               entries := [(["home", "message"], [0x61]), (["home", "lint.toml"], misnamed)] }
    input := [0xFF]
    history := some { commits := [], names := [] } }

theorem exitStatus_exact_misnamed :
    let invocation : Invocation :=
      { command := .lint none (some "message") false, config := some "lint.toml" }
    let refusal : Error := .config (.unknownRule "no-such-rule")
    (bare.machine false).run invocation = (.error refusal, bare) ∧
      (furnished.machine false).run invocation = (.error refusal, furnished) ∧
      Invocation.exitStatus ((furnished.machine false).run invocation).1 = 2 := by
  intro invocation refusal
  have agree : ∀ path ∈ invocation.config,
      (bare.machine false).file? path = (furnished.machine false).file? path := by
    rintro path named
    obtain rfl := Option.some.inj named
    rfl
  have found : (bare.machine false).file? "lint.toml" = some (.ok misnamed) := rfl
  have read : ∃ config, Config.ofFile "lint.toml" (some (.ok misnamed)) = .ok config ∧
      Linter.build .builtin config.rules = .error (.unknownRule "no-such-rule") :=
    ⟨_, by cbv, rfl⟩
  have refused : (bare.machine false).prepared invocation.config =
      .error (.unknownRule "no-such-rule") := by
    obtain ⟨config, taken, unknown⟩ := read
    have loaded : (bare.machine false).config invocation.config = .ok config := by
      rw [Machine.config_some, found, taken]
    rw [Machine.prepared_of_config _ loaded, unknown]
    rfl
  obtain ⟨first, second, _, status⟩ :=
    ((invocation.exitStatus_exact agree).1 rfl).1 _ refused
  exact ⟨first, second, status⟩

end HeaderLint
