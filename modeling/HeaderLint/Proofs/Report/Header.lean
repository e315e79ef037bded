import HeaderLint.Linter
import HeaderLint.Proofs.Message.Parse
import HeaderLint.Proofs.Report.Text

set_option autoImplicit false

namespace HeaderLint

namespace Text

-- A carriage return closes the text, and there is no line feed to make it part of a line's end.
def BareReturn (s : List Char) : Prop :=
  '\n' ∉ s ∧ ['\r'] <:+ s

instance (s : List Char) : Decidable (BareReturn s) :=
  inferInstanceAs (Decidable (_ ∧ _))

theorem head_lines (s : List Char) :
    (lines s).head?.getD [] = headerLine s ++ if BareReturn s then ['\r'] else [] := by
  cases behind : afterFirstLine? s with
  | none =>
    have absent := afterFirstLine?_eq_none_iff.mp behind
    have whole : (lines s).head?.getD [] = s := by
      rw [lines_of_open behind]
      cases s <;> simp
    rw [whole, headerLine, List.splitOn_eq_singleton absent, List.headD_cons]
    by_cases closes : ['\r'] <:+ s
    next =>
      have bare : BareReturn s := ⟨absent, closes⟩
      obtain ⟨front, rfl⟩ := closes
      simp [bare]
    next =>
      have ordinary : ¬ BareReturn s := fun bare => closes bare.2
      simp [closes, ordinary]
  | some body =>
    have ordinary : ¬ BareReturn s := fun bare => by
      simp [afterFirstLine?_eq_none_iff.mpr bare.1] at behind
    simp [lines_of_closed behind, ordinary]

end Text

namespace Report

theorem text?_of_uncommitted {report : Report} (uncommitted : report.commit = none)
    (colour verbose : Bool) :
    ∃ behind, report.text? colour verbose =
      some (report.mark colour ++ " " ++ report.header ++ behind) := by
  let heading := report.mark colour ++ " " ++ report.header ++ report.alarm colour
  let shown := (report.shown verbose).map fun outcome => "  " ++ outcome.text colour
  let summary := "  " ++ Style.faint.paint colour report.summary
  obtain ⟨rest, whole⟩ := prefix_intercalate "\n" heading (shown ++ [summary])
  refine ⟨report.alarm colour ++ .ofList rest, ?_⟩
  rw [text?, heading?_of_anonymous uncommitted]
  apply congrArg some
  apply String.toList_injective
  rw [← String.append_assoc, String.toList_append, String.toList_ofList, whole]
  rfl

end Report

namespace Linter

open Text

theorem header_lint (linter : Linter) (text : String) :
    (linter.lint text).header =
      (Message.parse text).header ++ if BareReturn text.toList then "\r" else "" := by
  have shown : (linter.lint text).header = .ofList ((lines text.toList).head?.getD []) := rfl
  rw [shown, head_lines, ← Message.header_parse, String.ofList_append, String.ofList_toList]
  split_ifs <;> rfl

/-- The header shown is the one that rules see, but for a carriage return that closes a text of a
single line: it is shown and no rule sees it. -/
theorem header_lint_exact (linter : Linter) (text : String) :
    let report := linter.lint text
    let header := (Message.parse text).header
    (report.header = header ↔ ¬ BareReturn text.toList) ∧
    (BareReturn text.toList → report.header = header ++ "\r") ∧
    ∀ colour verbose, ∃ behind, report.text? colour verbose =
      some (report.mark colour ++ " " ++ report.header ++ behind) := by
  have differs : (linter.lint text).header = (Message.parse text).header ↔
      ¬ BareReturn text.toList := by
    rw [header_lint]
    by_cases bare : BareReturn text.toList <;> simp [bare]
  refine ⟨differs, fun bare => ?_, fun colour verbose => ?_⟩
  next => rw [header_lint, if_pos bare]
  next => exact Report.text?_of_uncommitted rfl colour verbose

theorem header_lint_featReturn :
    ∃ linter, build .builtin .empty = .ok linter ∧
      (linter.lint "feat: x\r").header = "feat: x\r" ∧
      (Message.parse "feat: x\r").header = "feat: x" :=
  ⟨_, rfl, by decide, by decide⟩

end Linter

end HeaderLint
