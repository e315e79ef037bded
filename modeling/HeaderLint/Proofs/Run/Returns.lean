import HeaderLint.Proofs.Message.Parse
import HeaderLint.Proofs.Run.ExitStatus
import HeaderLint.Proofs.Run.Workspace
import HeaderLint.Proofs.Text.Returns
import HeaderLint.Proofs.Text.Utf8

set_option autoImplicit false

namespace HeaderLint

open Text

namespace Message

theorem isFooter_concat_return (line : List Char) : isFooter (line ++ ['\r']) = isFooter line := by
  have opens (part : List Char) (absent : '\r' ∉ part) :
      part <+: line ++ ['\r'] ↔ part <+: line := by
    rw [List.prefix_concat_iff]
    constructor
    next =>
      rintro (rfl | within)
      next => simp at absent
      next => exact within
    next => exact .inr
  rw [Bool.eq_iff_iff, isFooter_iff, isFooter_iff, DeclaresBreaking, DeclaresBreaking,
    opens _ (by decide), opens _ (by decide)]

theorem any_isFooter_withReturns (body : List Char) :
    (pieces (withReturns body)).any isFooter = (pieces body).any isFooter := by
  simp only [pieces_eq_splitOn]
  induction body using byLines with
  | final line feedless => rw [withReturns_of_not_mem feedless]
  | closed line body feedless ih =>
    rw [withReturns_closed body feedless,
      List.splitOn_append_cons_self_of_not_mem (not_mem_concat_return feedless),
      List.splitOn_append_cons_self_of_not_mem feedless, List.any_cons, List.any_cons,
      isFooter_concat_return, ih]

theorem hasFooter_withReturns (s : List Char) : hasFooter (withReturns s) = hasFooter s := by
  rw [hasFooter, hasFooter, afterFirstLine?_withReturns]
  cases afterFirstLine? s with
  | none => rfl
  | some body => exact any_isFooter_withReturns body

theorem ofChars_withReturns {s : List Char} (plain : '\r' ∉ s) :
    ofChars (withReturns s) = ofChars s := by
  simp only [ofChars, firstLine_withReturns plain, hasFooter_withReturns]

end Message

theorem stripComments_withReturns {s : List Char} (plain : '\r' ∉ s) :
    stripComments (withReturns s) = stripComments s := by
  rw [stripComments, lines_withReturns plain, stripComments]

namespace Workspace

variable {colour : Bool} {workspace : Workspace} {file : Option String} {text : String}

def Supplies (workspace : Workspace) (file : Option String) (text : String) : Prop :=
  match file with
  | some path => workspace.files.read path = .ok (Utf8.encode text.toList)
  | none => workspace.input = Utf8.encode text.toList

theorem message_run (supplied : workspace.Supplies file text) :
    (Invocation.message (hostWith colour) none file).run.run workspace =
      (.ok (.ofList (stripComments text.toList)), workspace) := by
  cases file with
  | none =>
    have read : ((hostWith colour).inputText).run workspace =
        (Host.decode workspace.input, workspace) := rfl
    rw [Invocation.message, run_bind, run_orFail, read, supplied, Host.decode_encode]
    rfl
  | some path =>
    have read : ((hostWith colour).readText path).run workspace =
        ((workspace.files.read path).bind Host.decode, workspace) := rfl
    rw [Invocation.message, run_bind, run_orFail, read, supplied, Except.bind, Host.decode_encode]
    rfl

end Workspace

namespace Invocation

/-- It makes no difference whether lines end with a line feed alone or with a carriage return before
it: the message read is the same, what is left without comments is the same, and so are the lines
printed and the result of judging a file or the input, under a configuration that is the same. -/
theorem withReturns_exact {text : String} (plain : '\r' ∉ text.toList) :
    let returned := String.ofList (withReturns text.toList)
    Message.parse returned = Message.parse text ∧
    stripComments returned.toList = stripComments text.toList ∧
    ∀ (invocation : Invocation) (file : Option String) (colour verbose : Bool)
      (here there : Workspace), invocation.command = .lint none file verbose →
      (here.machine colour).config invocation.config =
        (there.machine colour).config invocation.config →
      here.Supplies file text → there.Supplies file returned →
      ∃ result lines, here.run colour invocation = (result, here.printed lines) ∧
        there.run colour invocation = (result, there.printed lines) := by
  intro returned
  have written : returned.toList = withReturns text.toList := String.toList_ofList
  have stripped : stripComments returned.toList = stripComments text.toList := by
    rw [written, stripComments_withReturns plain]
  refine ⟨?_, stripped, ?_⟩
  next =>
    rw [Message.parse, written, Message.ofChars_withReturns plain, ← Message.parse]
  next =>
    intro invocation file colour verbose here there command same first second
    have prepared : (here.machine colour).prepared invocation.config =
        (there.machine colour).prepared invocation.config := by
      rw [Machine.prepared, Machine.prepared, same]
    cases ready : (here.machine colour).prepared invocation.config with
    | error cause =>
      have judges : invocation.command.judges = true := by rw [command]; rfl
      refine ⟨.error (.config cause), [], ?_⟩
      rw [Workspace.printed_nil, Workspace.printed_nil]
      exact ⟨(here.machine colour).run_of_refused judges ready,
        (there.machine colour).run_of_refused judges (prepared ▸ ready)⟩
    | ok both =>
      have judgedHere := lint_read_run _ _ _ command ready (here.message_run first)
      have judgedThere := lint_read_run _ _ _ command (prepared ▸ ready) (there.message_run second)
      rw [stripped] at judgedThere
      exact ⟨_, _, judgedHere, judgedThere⟩

end Invocation

def posted (text : String) : Workspace :=
  { files := { home := ["home"], entries := [(["home", "message"], Utf8.encode text.toList)] } }

theorem posted_supplies (text : String) : (posted text).Supplies (some "message") text :=
  rfl

theorem withReturns_exact_posted :
    let text := "feat: x\n\n# y\nBREAKING CHANGE: z\n"
    let returned := "feat: x\r\n\r\n# y\r\nBREAKING CHANGE: z\r\n"
    let lint : Invocation := { command := .lint none (some "message") false }
    '\r' ∉ text.toList ∧ returned = .ofList (withReturns text.toList) ∧
    Message.parse returned = Message.parse text ∧
    ∃ result lines,
      (posted text).run false lint = (result, (posted text).printed lines) ∧
      (posted returned).run false lint = (result, (posted returned).printed lines) := by
  intro text returned lint
  have plain : '\r' ∉ text.toList := by decide
  have written : returned = .ofList (withReturns text.toList) := by decide
  obtain ⟨parsed, -, judged⟩ := Invocation.withReturns_exact plain
  rw [← written] at parsed judged
  exact ⟨plain, written, parsed,
    judged lint (some "message") false false (posted text) (posted returned) rfl
      (Machine.config_congr nofun) (posted_supplies text) (posted_supplies returned)⟩

end HeaderLint
