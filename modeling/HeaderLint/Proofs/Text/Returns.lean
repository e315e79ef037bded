import HeaderLint.Proofs.Text.Lines

set_option autoImplicit false

namespace HeaderLint.Text

def withReturns (s : List Char) : List Char :=
  s.flatMap fun c => if c = '\n' then ['\r', '\n'] else [c]

section WithReturns

variable {s line : List Char}

theorem withReturns_of_not_mem (feedless : '\n' ∉ line) : withReturns line = line := by
  induction line with
  | nil => rfl
  | cons c rest ih =>
    rw [List.mem_cons, not_or] at feedless
    have other : c ≠ '\n' := feedless.1 ∘ Eq.symm
    simpa [withReturns, other] using ih feedless.2

theorem withReturns_closed (body : List Char) (feedless : '\n' ∉ line) :
    withReturns (line ++ '\n' :: body) = (line ++ ['\r']) ++ '\n' :: withReturns body := by
  have first := withReturns_of_not_mem feedless
  rw [withReturns] at first
  simp [withReturns, first]

theorem not_mem_concat_return (feedless : '\n' ∉ line) : '\n' ∉ line ++ ['\r'] := by
  simpa using feedless

theorem dropReturn_of_not_mem (plain : '\r' ∉ line) : dropReturn line = line := by
  rw [dropReturn_eq, if_neg]
  exact fun closes => plain (closes.subset List.mem_cons_self)

theorem afterFirstLine?_withReturns (s : List Char) :
    afterFirstLine? (withReturns s) = (afterFirstLine? s).map withReturns := by
  cases s using byLines with
  | final line feedless =>
    simp [withReturns_of_not_mem feedless, afterFirstLine?_eq_none_iff.mpr feedless]
  | closed line body feedless =>
    rw [withReturns_closed body feedless, afterFirstLine?_closed _ (not_mem_concat_return feedless),
      afterFirstLine?_closed body feedless, Option.map_some]

theorem firstLine_withReturns (plain : '\r' ∉ s) : firstLine (withReturns s) = firstLine s := by
  cases s using byLines with
  | final line feedless => rw [withReturns_of_not_mem feedless]
  | closed line body feedless =>
    have bare : '\r' ∉ line := fun mem => plain (by simp [mem])
    rw [withReturns_closed body feedless, firstLine_closed _ (not_mem_concat_return feedless),
      firstLine_closed body feedless, dropReturn_concat, if_pos rfl, dropReturn_of_not_mem bare]

theorem lines_withReturns (plain : '\r' ∉ s) : lines (withReturns s) = lines s := by
  induction s using byLines with
  | final line feedless => rw [withReturns_of_not_mem feedless]
  | closed line body feedless ih =>
    have bare : '\r' ∉ line := fun mem => plain (by simp [mem])
    have below : '\r' ∉ body := fun mem => plain (by simp [mem])
    rw [withReturns_closed body feedless, lines_closed _ (not_mem_concat_return feedless),
      lines_closed body feedless, dropReturn_concat, if_pos rfl, dropReturn_of_not_mem bare,
      ih below]

end WithReturns

section Bare

variable {line body : List Char}

theorem return_infix_closed_iff (feedless : '\n' ∉ line) :
    ['\r', '\n'] <:+: line ++ '\n' :: body ↔ ['\r'] <:+ line ∨ ['\r', '\n'] <:+: body := by
  induction line with
  | nil => simp [List.infix_cons_iff]
  | cons c line ih =>
    rw [List.mem_cons, not_or] at feedless
    rw [List.cons_append, List.infix_cons_iff, ih feedless.2, List.suffix_cons_iff, ← or_assoc]
    apply or_congr_left
    apply or_congr_left
    cases line with
    | nil => simp [List.cons_prefix_cons]
    | cons d line =>
      have apart : '\n' ≠ d := fun same => feedless.2 (same ▸ List.mem_cons_self)
      simp [List.cons_prefix_cons, apart]

/-- Lines joined again are the text that they are from, unless a line end had a carriage return or
there was a line feed behind the last of them. -/
theorem joinLines_lines {s : List Char} (bare : ¬ ['\r', '\n'] <:+: s)
    (unclosed : s.getLast? ≠ some '\n') : joinLines (lines s) = s := by
  induction s using byLines with
  | final line feedless =>
    rw [lines_final feedless]
    by_cases nothing : line = [] <;> simp [nothing, joinLines]
  | closed line body feedless ih =>
    rw [return_infix_closed_iff feedless, not_or] at bare
    have filled : body ≠ [] := fun nothing => unclosed (by simp [nothing])
    have last : body.getLast? ≠ some '\n' := fun feed =>
      unclosed (by simp [List.getLast?_append, List.getLast?_cons, feed])
    have whole := ih bare.2 last
    have more : lines body ≠ [] := by
      intro nothing
      rw [nothing] at whole
      exact filled whole.symm
    rw [lines_closed body feedless, dropReturn_eq, if_neg bare.1, joinLines_cons more, whole]

theorem length_joinLines_cons_le (line : List Char) (others : List (List Char)) :
    (joinLines (line :: others)).length ≤ line.length + 1 + (joinLines others).length := by
  by_cases last : others = []
  next => simp [last, joinLines]
  next =>
    rw [joinLines_cons last, List.length_append, List.length_cons]
    omega

theorem length_joinLines_lines_le (s : List Char) : (joinLines (lines s)).length ≤ s.length := by
  induction s using byLines with
  | final line feedless =>
    rw [lines_final feedless]
    by_cases nothing : line = [] <;> simp [nothing, joinLines]
  | closed line body feedless ih =>
    have joined := length_joinLines_cons_le (dropReturn line) (lines body)
    have shorter := (dropReturn_prefix_self line).length_le
    rw [lines_closed body feedless, List.length_append, List.length_cons]
    omega

theorem length_joinLines_lines_lt {s : List Char} (within : ['\r', '\n'] <:+: s) :
    (joinLines (lines s)).length < s.length := by
  induction s using byLines with
  | final line feedless => exact absurd (within.subset (by simp)) feedless
  | closed line body feedless ih =>
    have joined := length_joinLines_cons_le (dropReturn line) (lines body)
    rw [lines_closed body feedless, List.length_append, List.length_cons]
    rcases (return_infix_closed_iff feedless).mp within with ⟨front, rfl⟩ | below
    next =>
      have rest := length_joinLines_lines_le body
      rw [dropReturn_concat, if_pos rfl] at joined ⊢
      rw [List.length_append, List.length_singleton]
      omega
    next =>
      have shorter := (dropReturn_prefix_self line).length_le
      have rest := ih below
      omega

end Bare

section Single

theorem two_returns_of_dropReturn {line : List Char} (left : ['\r'] <:+ dropReturn line) :
    ['\r', '\r'] <:+ line := by
  rw [dropReturn_eq] at left
  split at left
  next closes =>
    obtain ⟨front, rfl⟩ := closes
    rw [List.dropLast_concat] at left
    obtain ⟨more, rfl⟩ := left
    exact ⟨more, by simp⟩
  next bare => exact absurd left bare

theorem pairwise_lines {s : List Char} (single : ¬ ['\r', '\r', '\n'] <:+: s) :
    (lines s).Pairwise fun line _ => ¬ ['\r'] <:+ line := by
  induction s using byLines with
  | final line feedless =>
    rw [lines_final feedless]
    split <;> simp
  | closed line body feedless ih =>
    have below : ¬ ['\r', '\r', '\n'] <:+: body := fun ⟨before, after, whole⟩ =>
      single ⟨line ++ '\n' :: before, after, by simp [← whole]⟩
    rw [lines_closed body feedless, List.pairwise_cons]
    constructor
    next =>
      intro _ _ left
      obtain ⟨front, rfl⟩ := two_returns_of_dropReturn left
      exact single ⟨front, body, by simp⟩
    next => exact ih below

theorem not_return_infix_joinLines {ls : List (List Char)} (feedless : ∀ line ∈ ls, '\n' ∉ line)
    (bare : ls.Pairwise fun line _ => ¬ ['\r'] <:+ line) : ¬ ['\r', '\n'] <:+: joinLines ls := by
  induction ls with
  | nil => simp [joinLines]
  | cons line others ih =>
    rw [List.forall_mem_cons] at feedless
    rw [List.pairwise_cons] at bare
    by_cases last : others = []
    next =>
      intro within
      have feed : '\n' ∈ joinLines (line :: others) := within.subset (by simp)
      exact feedless.1 (by simpa [last, joinLines] using feed)
    next =>
      obtain ⟨other, mem⟩ := List.exists_mem_of_ne_nil others last
      rw [joinLines_cons last, return_infix_closed_iff feedless.1, not_or]
      exact ⟨bare.1 other mem, ih feedless.2 bare.2⟩

end Single

end HeaderLint.Text
