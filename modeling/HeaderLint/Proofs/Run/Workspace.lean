import HeaderLint.Proofs.Run.Machine
import HeaderLint.Proofs.Text.Utf8
import Mathlib.Data.List.Forall2

set_option autoImplicit false

namespace HeaderLint

theorem Host.decode_encode (s : String) : decode (Text.Utf8.encode s.toList) = .ok s := by
  rw [decode, Text.Utf8.decode?_encode]
  exact congrArg Except.ok String.ofList_toList

namespace Workspace

variable (colour : Bool) (workspace : Workspace)

def hostWith (colour : Bool) : Host (StateM Workspace) :=
  { host with colour }

def machine : Machine where
  State := Workspace
  host := hostWith colour
  state := workspace
  holds_still := fun _ _ => rfl
  read_still := fun _ _ => rfl

def run (invocation : Invocation) : Except Error Unit × Workspace :=
  (workspace.machine colour).run invocation

def printed (lines : List String) : Workspace :=
  { workspace with output := workspace.output ++ String.join (lines.map (· ++ "\n")) }

@[simp] theorem printed_nil : workspace.printed [] = workspace := by
  simp only [printed, List.map_nil, String.join_nil, String.append_empty]

@[simp] theorem printed_printed (before after : List String) :
    (workspace.printed before).printed after = workspace.printed (before ++ after) := by
  simp only [printed, List.map_append, String.join_append, String.append_assoc]

theorem printLine_run (line : String) :
    ((hostWith colour).printLine line).run workspace = ((), workspace.printed [line]) := by
  have joined : String.join [line ++ "\n"] = line ++ "\n" := by
    rw [String.join_cons, String.join_nil, String.append_empty]
  rw [printed, List.map_singleton, joined]
  rfl

theorem lift_printLine_run (line : String) :
    (liftM ((hostWith colour).printLine line) : ExceptT Error (StateM Workspace) Unit).run.run
      workspace = (.ok (), workspace.printed [line]) :=
  congrArg (Prod.map Except.ok id) (printLine_run colour workspace line)

theorem printLines_run (lines : List String) :
    (lines.forM ((hostWith colour).printLine ·) : ExceptT Error (StateM Workspace) Unit).run.run
      workspace = (.ok (), workspace.printed lines) := by
  induction lines generalizing workspace with
  | nil =>
    rw [printed_nil]
    rfl
  | cons line lines ih =>
    rw [List.forM, run_bind, lift_printLine_run]
    exact (ih _).trans (by rw [printed_printed, List.singleton_append])

end Workspace

namespace Invocation

variable (invocation : Invocation) (colour : Bool) (workspace : Workspace)

theorem prepare_then_run {A : Type} {ready : Config × Linter}
    (prepared : (workspace.machine colour).prepared invocation.config = .ok ready)
    (next : Config × Linter → ExceptT Error (StateM Workspace) A) :
    (invocation.prepare (Workspace.hostWith colour) >>= next).run.run workspace =
      (next ready).run.run workspace := by
  have settled : (invocation.prepare (Workspace.hostWith colour)).run.run workspace =
      ((Except.ok ready).mapError .config, workspace) :=
    prepared ▸ (workspace.machine colour).prepare_run invocation
  rw [run_bind, settled]
  rfl

theorem history_then_run {A : Type} {history : History}
    (repository : workspace.history = some history)
    (next : History → ExceptT Error (StateM Workspace) A) :
    (orFail .history (Workspace.hostWith colour).history >>= next).run.run workspace =
      (next history).run.run workspace := by
  have found : ((Workspace.hostWith colour).history).run workspace = (.ok history, workspace) := by
    obtain ⟨_, _, _, _⟩ := workspace
    simp only at repository
    subst repository
    rfl
  rw [run_bind, run_orFail, found]
  rfl

theorem message_then_run {A : Type} {given file : Option String} {text : String}
    (read : (message (Workspace.hostWith colour) given file).run.run workspace =
      (.ok text, workspace))
    (next : String → ExceptT Error (StateM Workspace) A) :
    (message (Workspace.hostWith colour) given file >>= next).run.run workspace =
      (next text).run.run workspace := by
  rw [run_bind, read]

theorem conclude_run (config : Config) (verbose : Bool) (reports : List Report) :
    (invocation.conclude (Workspace.hostWith colour) config verbose reports).run.run workspace =
      ((verdict (invocation.strict || config.strict) reports).mapError .lint,
        workspace.printed (invocation.shown colour verbose reports)) := by
  rw [conclude, run_bind, Workspace.printLines_run]
  rfl

theorem lint_read_run {config : Config} {linter : Linter} {given file : Option String}
    {verbose : Bool} {text : String} (command : invocation.command = .lint given file verbose)
    (ready : (workspace.machine colour).prepared invocation.config = .ok (config, linter))
    (read : (message (Workspace.hostWith colour) given file).run.run workspace =
      (.ok text, workspace)) :
    workspace.run colour invocation =
      ((verdict (invocation.strict || config.strict) [linter.lint text]).mapError .lint,
        workspace.printed (invocation.shown colour verbose [linter.lint text])) := by
  rw [Workspace.run, Machine.run, run, command]
  refine (prepare_then_run invocation colour workspace ready _).trans ?_
  refine (message_then_run colour workspace read _).trans ?_
  exact conclude_run ..

end Invocation

end HeaderLint
