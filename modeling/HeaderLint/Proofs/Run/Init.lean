import HeaderLint.Proofs.Config.Preset
import HeaderLint.Proofs.Files
import HeaderLint.Proofs.Run.Check
import HeaderLint.Proofs.Run.ExitStatus

set_option autoImplicit false

namespace HeaderLint

def Config.exampleBytes : List UInt8 :=
  Text.Utf8.encode exampleText.toList

namespace Workspace

variable {colour : Bool} {workspace : Workspace} {files : Files} {path : String}

theorem file?_of_write {content : List UInt8}
    (written : workspace.files.write path content = .ok files) (lines : List String) :
    (({ workspace with files }.printed lines).machine colour).file? path = some (.ok content) := by
  have found : (({ workspace with files }.printed lines).machine colour).file? path =
      if files.holds path then some (files.read path) else none := rfl
  rw [found, Files.holds_write written, Files.read_write written]
  rfl

theorem config_of_write {text : String}
    (written : workspace.files.write path (Text.Utf8.encode text.toList) = .ok files)
    (lines : List String) :
    (({ workspace with files }.printed lines).machine colour).config (some path) =
      Config.read (.ofPath path) text := by
  rw [Machine.config_some, file?_of_write written, Config.ofFile_of_decode (Host.decode_encode text)]

theorem write_run (colour : Bool) (workspace : Workspace) (path : String) (content : List UInt8) :
    ((hostWith colour).write path content).run workspace =
      match workspace.files.write path content with
      | .error fault => (.error fault, workspace)
      | .ok files => (.ok (), { workspace with files }) := by
  change (write path content).run workspace = _
  rw [write, StateT.run_bind, StateT.run_get, pure_bind]
  dsimp only
  cases workspace.files.write path content <;> rfl

theorem init_run (colour : Bool) (workspace : Workspace) (force : Bool) (path : String) :
    (Invocation.init (hostWith colour) force path).run.run workspace =
      if workspace.files.holds path && !force then
        (.error (.during "init" (path ++ " already exists (use --force to overwrite)")), workspace)
      else match workspace.files.write path Config.exampleBytes with
        | .error fault =>
            (.error (.during "init" ("Failed to write configuration: " ++ fault.message)), workspace)
        | .ok files => (.ok (), { workspace with files }.printed ["✓ Created " ++ path]) := by
  have held : (liftM ((hostWith colour).holds path) : ExceptT Error (StateM Workspace) Bool).run.run
      workspace = (.ok (workspace.files.holds path), workspace) := rfl
  rw [Invocation.init, run_bind, held]
  dsimp only
  by_cases refused : (workspace.files.holds path && !force) = true
  next =>
    rw [if_pos refused, if_pos refused]
    rfl
  next =>
    rw [if_neg refused, if_neg refused, run_bind, run_orFail, ← Config.exampleBytes, write_run]
    cases workspace.files.write path Config.exampleBytes with
    | error fault => rfl
    | ok files => exact lift_printLine_run colour _ _

theorem run_of_free (workspace : Workspace) (colour : Bool) {place : Place}
    (free : workspace.files.holds path = false)
    (inside : workspace.files.destination path = .ok place) :
    workspace.run colour { command := .init false path } =
      (.ok (), { workspace with files := workspace.files.put place Config.exampleBytes }.printed
        ["✓ Created " ++ path]) := by
  have written : workspace.files.write path Config.exampleBytes =
      .ok (workspace.files.put place Config.exampleBytes) := by
    rw [Files.write, inside]
    rfl
  refine (init_run colour workspace false path).trans ?_
  rw [free, written]
  rfl

/-- An `init` fails and changes nothing, or it puts the example where nothing was in its way. -/
theorem init_cases (colour : Bool) (workspace : Workspace) (force : Bool) (path : String) :
    (∃ detail, (Invocation.init (hostWith colour) force path).run.run workspace =
      (.error (.during "init" detail), workspace)) ∨
    (force = false → workspace.files.holds path = false) ∧ ∃ files,
      workspace.files.write path Config.exampleBytes = .ok files ∧
      (Invocation.init (hostWith colour) force path).run.run workspace =
        (.ok (), { workspace with files }.printed ["✓ Created " ++ path]) := by
  rw [init_run]
  by_cases refused : (workspace.files.holds path && !force) = true
  next =>
    rw [if_pos refused]
    exact .inl ⟨_, rfl⟩
  next =>
    rw [if_neg refused]
    cases written : workspace.files.write path Config.exampleBytes with
    | error fault => exact .inl ⟨_, rfl⟩
    | ok files => exact .inr ⟨fun gentle => by simpa [gentle] using refused, files, rfl, rfl⟩

theorem config_of_init {force : Bool} {after : Workspace} (shade : Bool)
    (done : (Invocation.init (hostWith colour) force path).run.run workspace = (.ok (), after)) :
    (after.machine shade).config (some path) = Config.read (.ofPath path) Config.exampleText := by
  rcases init_cases colour workspace force path with ⟨detail, failed⟩ | ⟨-, files, written, made⟩
  next => cases (Prod.mk.inj (failed.symm.trans done)).1
  next =>
    obtain rfl := (Prod.mk.inj (made.symm.trans done)).2
    exact config_of_write written _

end Workspace

namespace Invocation

/-- What `init` writes is the preset, so that a path of a file that is read as TOML may be named as
the configuration or left out; a path of a file that is read as JSON is refused by every command
that judges messages. -/
theorem init_exact {invocation : Invocation} {force : Bool} {path : String}
    (command : invocation.command = .init force path) {colour : Bool} {workspace after : Workspace}
    (done : workspace.run colour invocation = (.ok (), after)) (shade : Bool) :
    (Config.Format.ofPath path = .toml →
      (after.machine shade).config (some path) = .ok Config.preset ∧
      ∀ later : Invocation, after.run shade { later with config := some path } =
        after.run shade { later with config := none }) ∧
    (Config.Format.ofPath path = .json →
      (after.machine shade).config (some path) = .error (.unreadable "Failed to parse JSON") ∧
      ∀ later : Invocation, later.command.judges = true →
        after.run shade { later with config := some path } =
          (.error (.config (.unreadable "Failed to parse JSON")), after)) := by
  have initialised : (init (Workspace.hostWith colour) force path).run.run workspace =
      (.ok (), after) := by
    rw [Workspace.run, Machine.run, run, command] at done
    exact done
  have loaded := Workspace.config_of_init shade initialised
  constructor
  next =>
    intro format
    have preset : (after.machine shade).config (some path) = .ok Config.preset := by
      rw [loaded, format, Config.read_exampleText]
    exact ⟨preset, fun later => (after.machine shade).run_congr_config later preset⟩
  next =>
    intro format
    have refused : (after.machine shade).config (some path) =
        .error (.unreadable "Failed to parse JSON") := by
      rw [loaded, format, Config.read_json_exampleText]
    refine ⟨refused, fun later judges => ?_⟩
    exact @Machine.run_of_unread _ { later with config := some path } judges _ refused

end Invocation

def vacant : Workspace :=
  { files := { home := ["home"], entries := [] } }

def started (name : String) : Workspace :=
  { vacant with files := vacant.files.put ["home", name] Config.exampleBytes }.printed
    ["✓ Created " ++ name]

theorem run_vacant {name : String} (free : vacant.files.holds name = false)
    (inside : vacant.files.destination name = .ok ["home", name]) :
    vacant.run false { command := .init false name } = (.ok (), started name) :=
  vacant.run_of_free false free inside

theorem init_exact_cclint :
    vacant.run false { command := .init false "cclint.toml" } = (.ok (), started "cclint.toml") ∧
    (((started "cclint.toml").machine true).config (some "cclint.toml") = .ok Config.preset ∧
      ∀ later : Invocation,
        (started "cclint.toml").run true { later with config := some "cclint.toml" } =
          (started "cclint.toml").run true { later with config := none }) ∧
    vacant.run false { command := .init false "cclint.JSON" } = (.ok (), started "cclint.JSON") ∧
    ((started "cclint.JSON").machine true).config (some "cclint.JSON") =
      .error (.unreadable "Failed to parse JSON") := by
  have toml := @run_vacant "cclint.toml" rfl rfl
  have json := @run_vacant "cclint.JSON" rfl rfl
  exact ⟨toml, (Invocation.init_exact rfl toml true).1 (by decide),
    json, ((Invocation.init_exact rfl json true).2 (by decide)).1⟩

theorem init_not_read :
    vacant.run false { command := .init false "cclint.json" } = (.ok (), started "cclint.json") ∧
    ((started "cclint.json").machine false).config (some "cclint.json") ≠ .ok Config.preset ∧
    let lint : Invocation := { command := .lint (some "feat(cli): add it") none false }
    Invocation.exitStatus
      ((started "cclint.json").run false { lint with config := some "cclint.json" }).1 = 2 ∧
    Invocation.exitStatus ((started "cclint.json").run false lint).1 = 0 := by
  have done := @run_vacant "cclint.json" rfl rfl
  have refused : ((started "cclint.json").machine false).config (some "cclint.json") =
      .error (.unreadable "Failed to parse JSON") := by
    rw [Workspace.config_of_init false done]
    exact Config.read_json_exampleText
  refine ⟨done, by rw [refused]; nofun, ?_, ?_⟩
  next =>
    have failed : (started "cclint.json").run false
        { command := .lint (some "feat(cli): add it") none false, config := some "cclint.json" } =
          (.error (.config (.unreadable "Failed to parse JSON")), started "cclint.json") :=
      Machine.run_of_unread _ rfl refused
    rw [failed]
    rfl
  next =>
    obtain ⟨linter, built⟩ : ∃ linter, Linter.build .builtin Config.preset.rules = .ok linter :=
      ⟨_, rfl⟩
    have ready : ((started "cclint.json").machine false).prepared none =
        .ok (Config.preset, linter) := Machine.prepared_none _ built
    have passes : (linter.lint "feat(cli): add it").Passes false := by
      obtain rfl := Except.ok.inj built
      exact ⟨by decide +kernel, nofun⟩
    have passed := (Invocation.lint_eq_ok_iff
      { command := .lint (some "feat(cli): add it") none false } rfl ready).mpr passes
    rw [passed]
    rfl

end HeaderLint
