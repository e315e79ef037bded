import HeaderLint.Proofs.Run.Init

set_option autoImplicit false

namespace HeaderLint

variable {S V A B E : Type} {view : S → V}

def Keeps (view : S → V) (action : StateM S A) : Prop :=
  ∀ s, view (action.run s).2 = view s

namespace Keeps

theorem pure (a : A) : Keeps view (Pure.pure a : StateM S A) :=
  fun _ => rfl

theorem bind {action : StateM S A} {next : A → StateM S B} (first : Keeps view action)
    (later : ∀ a, Keeps view (next a)) : Keeps view (action >>= next) := by
  intro s
  rw [StateT.run_bind]
  exact (later _ _).trans (first s)

theorem run_bind {action : ExceptT Error (StateM S) A} {next : A → ExceptT Error (StateM S) B}
    (first : Keeps view action.run) (later : ∀ a, Keeps view (next a).run) :
    Keeps view (action >>= next).run := by
  rw [ExceptT.run_bind]
  apply first.bind
  intro result
  cases result with
  | ok a => exact later a
  | error error => exact .pure _

theorem run_lift {action : StateM S A} (kept : Keeps view action) :
    Keeps view (liftM action : ExceptT Error (StateM S) A).run :=
  kept.bind fun _ => .pure _

theorem run_orFail {cause : E → Error} {action : StateM S (Except E A)}
    (kept : Keeps view action) : Keeps view (Invocation.orFail cause action).run :=
  kept.bind fun result => .pure (result.mapError cause)

theorem run_forM {items : List A} {action : A → ExceptT Error (StateM S) Unit}
    (each : ∀ item, Keeps view (action item).run) : Keeps view (items.forM action).run := by
  induction items with
  | nil => exact .pure _
  | cons item items ih => exact (each item).run_bind fun _ => ih

theorem forM {items : List A} {action : A → StateM S Unit}
    (each : ∀ item, Keeps view (action item)) : Keeps view (items.forM action) := by
  induction items with
  | nil => exact .pure ()
  | cons item items ih => exact (each item).bind fun _ => ih

end Keeps

structure Host.OnlyWrites (host : Host (StateM S)) (view : S → V) : Prop where
  holds : ∀ path, Keeps view (host.holds path)
  read : ∀ path, Keeps view (host.read path)
  input : Keeps view host.input
  history : Keeps view host.history
  print : ∀ text, Keeps view (host.print text)

namespace Host.OnlyWrites

variable {host : Host (StateM S)} (still : host.OnlyWrites view)

include still

theorem readText (path : String) : Keeps view (host.readText path) :=
  (still.read path).bind fun content => .pure (content.bind decode)

theorem inputText : Keeps view host.inputText :=
  still.input.bind fun content => .pure (content.bind decode)

theorem load (path : Option String) : Keeps view (Config.load host path) := by
  cases path with
  | none => exact .pure _
  | some path =>
    apply (still.holds path).bind
    intro held
    split
    next =>
      apply (still.readText path).bind
      intro content
      cases content <;> exact .pure _
    next => exact .pure _

theorem prepare (invocation : Invocation) : Keeps view (invocation.prepare host).run :=
  (Keeps.run_orFail (still.load invocation.config)).run_bind fun _ =>
    (Keeps.run_orFail (.pure _)).run_bind fun _ => .pure _

theorem message (given file : Option String) :
    Keeps view (Invocation.message host given file).run := by
  cases given with
  | some given => exact .pure _
  | none =>
    cases file with
    | some path => exact (Keeps.run_orFail (still.readText path)).run_bind fun _ => .pure _
    | none => exact (Keeps.run_orFail still.inputText).run_bind fun _ => .pure _

theorem conclude (invocation : Invocation) (config : Config) (verbose : Bool)
    (reports : List Report) : Keeps view (invocation.conclude host config verbose reports).run :=
  (Keeps.run_forM fun line => (still.print (line ++ "\n")).run_lift).run_bind fun _ =>
    Keeps.run_orFail (.pure _)

theorem run (invocation : Invocation)
    (reads : ∀ force path, invocation.command ≠ .init force path) :
    Keeps view (invocation.run host).run := by
  rw [Invocation.run]
  cases command : invocation.command with
  | lint given file verbose =>
    exact (still.prepare invocation).run_bind fun _ => (still.message given file).run_bind fun _ =>
      still.conclude invocation _ _ _
  | check target verbose =>
    exact (still.prepare invocation).run_bind fun _ =>
      (Keeps.run_orFail still.history).run_bind fun _ =>
        (Keeps.run_orFail (.pure _)).run_bind fun _ => still.conclude invocation _ _ _
  | rules => exact (Keeps.forM fun line => still.print (line ++ "\n")).run_lift
  | init force path => exact absurd command (reads force path)
  | version => exact (Keeps.forM fun line => still.print (line ++ "\n")).run_lift

end Host.OnlyWrites

theorem Workspace.onlyWrites (colour : Bool) : (hostWith colour).OnlyWrites Workspace.files where
  holds _ _ := rfl
  read _ _ := rfl
  input _ := rfl
  history _ := rfl
  print _ _ := rfl

namespace Invocation

variable {invocation : Invocation}

theorem files_of_reads (colour : Bool) (workspace : Workspace)
    (reads : ∀ force path, invocation.command ≠ .init force path) :
    (workspace.run colour invocation).2.files = workspace.files :=
  (Workspace.onlyWrites colour).run invocation reads workspace

theorem init_cases (colour : Bool) (workspace : Workspace) {force : Bool} {path : String}
    (command : invocation.command = .init force path) :
    (∃ detail, workspace.run colour invocation = (.error (.during "init" detail), workspace)) ∨
    (force = false → workspace.files.holds path = false) ∧ ∃ files,
      workspace.files.write path Config.exampleBytes = .ok files ∧
      workspace.run colour invocation =
        (.ok (), { workspace with files }.printed ["✓ Created " ++ path]) := by
  rw [Workspace.run, Machine.run, run, command]
  exact Workspace.init_cases colour workspace force path

theorem read_run_of_apart (colour : Bool) (workspace : Workspace) {other : String}
    (apart : ∀ force path, invocation.command = .init force path →
      ¬ workspace.files.SamePlace path other) (content : List UInt8) :
    (workspace.run colour invocation).2.files.read other = .ok content ↔
      workspace.files.read other = .ok content := by
  by_cases writes : ∃ force path, invocation.command = .init force path
  next =>
    obtain ⟨force, path, command⟩ := writes
    rcases init_cases colour workspace command with ⟨detail, failed⟩ | ⟨-, files, written, made⟩
    next => rw [failed]
    next =>
      rw [made]
      exact Files.read_write_of_apart written (apart force path command)
  next =>
    have reads : ∀ force path, invocation.command ≠ .init force path := fun force path command =>
      writes ⟨force, path, command⟩
    rw [files_of_reads colour workspace reads]

/-- Only an `init` that succeeds changes files. It changes the file that its path leads to, which
then holds the example, and no other; where there is one already it fails unless it is forced. -/
theorem run_files_exact (invocation : Invocation) (colour : Bool) (workspace : Workspace) :
    let result := (workspace.run colour invocation).1
    let before := workspace.files
    let after := (workspace.run colour invocation).2.files
    (∀ other, (∀ force path, invocation.command = .init force path →
        ¬ before.SamePlace path other) →
      ∀ content, after.read other = .ok content ↔ before.read other = .ok content) ∧
    ((∀ force path, invocation.command ≠ .init force path) → after = before) ∧
    ∀ force path, invocation.command = .init force path →
      (force = false → before.holds path = true →
        after = before ∧ ∃ error, result = .error error ∧ error.isConfig = false) ∧
      (∀ error, result = .error error → after = before) ∧
      (result = .ok () → after.read path = .ok Config.exampleBytes) := by
  intro result before after
  refine ⟨fun other => read_run_of_apart colour workspace, files_of_reads colour workspace,
    fun force path command => ?_⟩
  rcases init_cases colour workspace command with ⟨detail, failed⟩ | ⟨free, files, written, made⟩
  next =>
    have same : after = before := congrArg (·.2.files) failed
    have refused : result = .error (.during "init" detail) := congrArg (·.1) failed
    rw [refused]
    exact ⟨fun _ _ => ⟨same, _, rfl, rfl⟩, fun _ _ => same, nofun⟩
  next =>
    have changed : after = files := congrArg (·.2.files) made
    have succeeded : result = .ok () := congrArg (·.1) made
    rw [succeeded, changed, Files.read_write written]
    refine ⟨fun gentle held => ?_, nofun, fun _ => rfl⟩
    have vacant : before.holds path = false := free gentle
    simp [vacant] at held

end Invocation

def noted : Workspace :=
  { files := { home := ["home"], entries := [(["home", "notes"], [0x61])] } }

theorem run_files_exact_noted :
    let made := noted.run false { command := .init false "cclint.toml" }
    let refused := noted.run false { command := .init false "../home/notes" }
    made.1 = .ok () ∧ made.2.files.read "cclint.toml" = .ok Config.exampleBytes ∧
    made.2.files.read "./notes" = .ok [0x61] ∧
    refused.2.files = noted.files ∧
    ∃ error, refused.1 = .error error ∧ error.isConfig = false := by
  intro made refused
  have done : made = _ := @Workspace.run_of_free "cclint.toml" noted false _ rfl rfl
  have succeeded : made.1 = .ok () := congrArg (·.1) done
  have apart : ¬ noted.files.SamePlace "cclint.toml" "./notes" :=
    @Files.not_samePlace _ _ _ ["home", "cclint.toml"] ["home", "notes"] rfl rfl (by decide)
  obtain ⟨elsewhere, -, ofInit⟩ :=
    Invocation.run_files_exact { command := .init false "cclint.toml" } false noted
  obtain ⟨-, -, ofRefused⟩ :=
    Invocation.run_files_exact { command := .init false "../home/notes" } false noted
  have kept := elsewhere "./notes" (by
    rintro force path command
    obtain ⟨rfl, rfl⟩ := Command.init.inj command
    exact apart) [0x61]
  obtain ⟨unchanged, failed⟩ := (ofRefused false "../home/notes" rfl).1 rfl rfl
  exact ⟨succeeded, (ofInit false "cclint.toml" rfl).2.2 succeeded, kept.mpr rfl, unchanged, failed⟩

end HeaderLint
