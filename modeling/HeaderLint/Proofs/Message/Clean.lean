import HeaderLint.Proofs.Message.Comments
import HeaderLint.Proofs.Text.Returns

set_option autoImplicit false

namespace HeaderLint

open Text

structure Clean (s : List Char) : Prop where
  uncommented : ∀ line ∈ s.splitOn '\n', ¬ ['#'] <+: line
  last : ∀ c ∈ s.getLast?, isBlank c = false

section OpenLines

variable {s line : List Char}

theorem openLines_sublist (s : List Char) : (openLines s).Sublist (lines s) :=
  List.filter_sublist.trans (List.takeWhile_prefix _).sublist

theorem not_mem_of_mem_openLines (mem : line ∈ openLines s) : '\n' ∉ line :=
  not_mem_of_mem_lines ((openLines_sublist s).subset mem)

theorem uncommented_of_mem_openLines (mem : line ∈ openLines s) : ¬ ['#'] <+: line := by
  simpa using (List.mem_filter.mp mem).2

end OpenLines

theorem clean_stripComments (s : List Char) : Clean (stripComments s) := by
  rw [stripComments_eq_openLines]
  constructor
  next =>
    intro line mem comment
    obtain ⟨piece, inside, begins⟩ := exists_piece_of_prefix (trimEnd_prefix_self _) mem
    by_cases none : openLines s = []
    next =>
      rw [none] at inside
      obtain rfl : piece = [] := by simpa [joinLines] using inside
      simpa using comment.trans begins
    next =>
      rw [splitOn_joinLines (fun _ => not_mem_of_mem_openLines) none] at inside
      exact uncommented_of_mem_openLines inside (comment.trans begins)
  next => exact fun c mem => last_trimEnd mem

theorem openLines_of_clean {s : List Char} (clean : Clean s) : openLines s = lines s := by
  have uncommented : ∀ line ∈ lines s, ¬ ['#'] <+: line := by
    intro line mem comment
    obtain ⟨piece, inside, begins⟩ := exists_piece_of_mem_lines mem
    exact clean.uncommented piece inside (comment.trans begins)
  have goesOn : ∀ line ∈ lines s, ¬ EndsMessage line := fun line mem ends =>
    uncommented line mem ((List.prefix_append ['#'] [' ']).trans ends.1)
  rw [openLines, List.takeWhile_eq_self_iff.mpr (by simpa using goesOn),
    List.filter_eq_self.mpr (by simpa using uncommented)]

/-- A clean text is left as it is unless a line ends with a carriage return before its line feed,
which would be dropped. -/
theorem stripComments_eq_self_iff {s : List Char} (clean : Clean s) :
    stripComments s = s ↔ ¬ ['\r', '\n'] <:+: s := by
  have unclosed : s.getLast? ≠ some '\n' := fun feed => by
    simpa [isBlank] using clean.last '\n' feed
  rw [stripComments_eq_openLines, openLines_of_clean clean]
  constructor
  next =>
    intro same within
    have trimmed := congrArg List.length same
    have shorter := (trimEnd_prefix_self (joinLines (lines s))).length_le
    have lost := length_joinLines_lines_lt within
    omega
  next =>
    intro bare
    rw [joinLines_lines bare unclosed, trimEnd_of_last clean.last]

theorem not_return_infix_stripComments {s : List Char} (single : ¬ ['\r', '\r', '\n'] <:+: s) :
    ¬ ['\r', '\n'] <:+: stripComments s := by
  rw [stripComments_eq_openLines]
  have bare := (pairwise_lines single).sublist (openLines_sublist s)
  have joined := not_return_infix_joinLines (fun _ => not_mem_of_mem_openLines) bare
  exact fun within => joined (within.trans (trimEnd_prefix_self _).isInfix)

/-- What is left of a text is clean. To strip it again changes nothing just when no line of it ends
with a carriage return, as none does if no line feed of the text had two of them before it. -/
theorem stripComments_settles (s : List Char) :
    (∀ line ∈ (stripComments s).splitOn '\n', ¬ ['#'] <+: line) ∧
    (∀ c ∈ (stripComments s).getLast?, isBlank c = false) ∧
    (stripComments (stripComments s) = stripComments s ↔ ¬ ['\r', '\n'] <:+: stripComments s) ∧
    (¬ ['\r', '\r', '\n'] <:+: s → stripComments (stripComments s) = stripComments s) := by
  have clean : Clean (stripComments s) := clean_stripComments s
  have settled := stripComments_eq_self_iff clean
  exact ⟨clean.uncommented, clean.last, settled, fun single =>
    settled.mpr (not_return_infix_stripComments single)⟩

theorem stripComments_settles_returns :
    ¬ ['\r', '\r', '\n'] <:+: "a\r\n#b\n\rc \r\n\n# >8\nd".toList ∧
    stripComments "a\r\n#b\n\rc \r\n\n# >8\nd".toList = "a\n\rc".toList ∧
    stripComments "a\n\rc".toList = "a\n\rc".toList ∧
    stripComments "a\r\r\nb".toList = "a\r\nb".toList ∧
    stripComments "a\r\nb".toList = "a\nb".toList := by
  have kept : stripComments "a\r\n#b\n\rc \r\n\n# >8\nd".toList = "a\n\rc".toList := by decide
  have single : ¬ ['\r', '\r', '\n'] <:+: "a\r\n#b\n\rc \r\n\n# >8\nd".toList := by decide
  have again := (stripComments_settles "a\r\n#b\n\rc \r\n\n# >8\nd".toList).2.2.2 single
  rw [kept] at again
  exact ⟨single, kept, again, by decide, by decide⟩

end HeaderLint
