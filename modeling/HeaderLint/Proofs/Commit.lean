import HeaderLint.Commit
import HeaderLint.Proofs.Linter.HeaderOnly
import HeaderLint.Proofs.Text.Decoding

set_option autoImplicit false

namespace HeaderLint

open Text

theorem Text.headerLine_closed {line : List Char} (feedless : '\n' ∉ line) (body : List Char) :
    headerLine (line ++ '\n' :: body) = headerLine line := by
  rw [headerLine, List.splitOn_append_cons_self_of_not_mem feedless, headerLine,
    List.splitOn_eq_singleton feedless, List.headD_cons, List.headD_cons]

namespace Commit

variable {commit : Commit}

theorem text_of_encode {s : List Char} (valid : commit.message = Utf8.encode s) :
    commit.text = .ofList s := by
  rw [text, valid, Utf8.decodeLossy_encode]

theorem text_of_lineFeed {above below : List UInt8}
    (split : commit.message = above ++ 0x0A :: below) :
    commit.text = .ofList (Utf8.decodeLossy above ++ '\n' :: Utf8.decodeLossy below) := by
  rw [text, split, Utf8.decodeLossy_append_lineFeed]

@[simp] theorem text_eq_empty_iff : commit.text = "" ↔ commit.message = [] := by
  rw [text, String.ofList_eq_empty_iff, Utf8.decodeLossy_eq_nil_iff]

/-- The text of a commit is that of its bytes where they are UTF-8. Where they are not it is read
line by line, so that a header is kept, and with it the outcomes of all rules, however broken the
bytes below it are; and only a commit without bytes has no text. -/
theorem text_exact (commit : Commit) :
    (∀ s, Utf8.decode? commit.message = some s ↔ commit.message = Utf8.encode s) ∧
    (∀ s, commit.message = Utf8.encode s → commit.text = .ofList s) ∧
    (∀ above below, commit.message = above ++ 0x0A :: below →
      commit.text = .ofList (Utf8.decodeLossy above ++ '\n' :: Utf8.decodeLossy below)) ∧
    (∀ header below, '\n' ∉ header → commit.message = Utf8.encode header ++ 0x0A :: below →
      commit.text = .ofList (header ++ '\n' :: Utf8.decodeLossy below) ∧
      (Message.parse commit.text).SameHeader (Message.parse (.ofList header)) ∧
      ∀ rules linter, Linter.build .builtin rules = .ok linter →
        (linter.lint commit.text).outcomes = (linter.lint (.ofList header)).outcomes) ∧
    (commit.message ≠ [] → commit.text ≠ "") := by
  refine ⟨fun s => Utf8.decode?_eq_some_iff, fun s => text_of_encode, fun _ _ => text_of_lineFeed,
    fun header below oneLine split => ?_, mt text_eq_empty_iff.mp⟩
  have read : commit.text = .ofList (header ++ '\n' :: Utf8.decodeLossy below) := by
    rw [text_of_lineFeed split, Utf8.decodeLossy_encode]
  have same : headerLine commit.text.toList = headerLine (String.ofList header).toList := by
    rw [read, String.toList_ofList, String.toList_ofList, headerLine_closed oneLine]
  have alike := Message.sameHeader_parse same
  exact ⟨read, alike, fun rules linter built => Linter.outcomes_of_sameHeader built alike⟩

end Commit

def latin : Commit :=
  { id := { name := "abcd", short := by decide }, time := 0, parents := []
    stored := Utf8.encode "feat(cli): add it".toList ++ [0x0A, 0x63, 0xE9, 0xFF, 0x0A] }

theorem text_exact_latin :
    latin.message = Utf8.encode "feat(cli): add it".toList ++ [0x0A, 0x63, 0xE9, 0xFF, 0x0A] ∧
    Utf8.decode? latin.message = none ∧
    latin.text = "feat(cli): add it\nc\ufffd\ufffd\n" ∧
    ∃ linter, Linter.build .builtin Config.preset.rules = .ok linter ∧
      (linter.lint latin.text).outcomes = (linter.lint "feat(cli): add it").outcomes := by
  have split : latin.message =
      Utf8.encode "feat(cli): add it".toList ++ [0x0A, 0x63, 0xE9, 0xFF, 0x0A] := by decide
  obtain ⟨linter, built⟩ : ∃ linter, Linter.build .builtin Config.preset.rules = .ok linter :=
    ⟨_, rfl⟩
  obtain ⟨-, -, -, kept, -⟩ := Commit.text_exact latin
  obtain ⟨read, -, alike⟩ := kept _ _ (by decide) split
  refine ⟨split, by decide, ?_, linter, built, alike Config.preset.rules linter built⟩
  rw [read]
  decide

end HeaderLint
