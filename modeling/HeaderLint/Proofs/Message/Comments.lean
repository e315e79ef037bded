import HeaderLint.Message.Comments
import HeaderLint.Proofs.Text.Cut
import HeaderLint.Proofs.Text.Lines

set_option autoImplicit false

namespace HeaderLint

open Text

-- The line that git puts above the changes to be committed.
def scissorsLine : List Char :=
  "# ------------------------ >8 ------------------------".toList

def EndsMessage (line : List Char) : Prop :=
  ['#', ' '] <+: line ∧ ['>', '8'] <:+: line

instance : DecidablePred EndsMessage := fun _ =>
  inferInstanceAs (Decidable (_ ∧ _))

-- Each line is paired with those above it. It is kept if it is no comment and none of them ends
-- the message.
def keptLines (ends : List Char → Prop) [DecidablePred ends] (ls : List (List Char)) :
    List (List Char) :=
  ((ls.zip ls.inits).filter fun (line, above) =>
    ¬ ['#'] <+: line ∧ ∀ other ∈ above, ¬ ends other).map Prod.fst

def keptText (ends : List Char → Prop) [DecidablePred ends] (s : List Char) : List Char :=
  trimEnd (joinLines (keptLines ends (lines s)))

-- What the scissors line alone would keep of the lines from the first comment on that is taken
-- for it.
def lostLines (s : List Char) : List (List Char) :=
  keptLines (· = scissorsLine) ((lines s).dropWhile fun line => ¬ EndsMessage line)

@[simp] theorem isComment_iff {line : List Char} : isComment line = true ↔ ['#'] <+: line := by
  rw [isComment, List.isPrefixOf_iff_prefix]

@[simp] theorem isScissors_iff {line : List Char} : isScissors line = true ↔ EndsMessage line := by
  rw [isScissors, Bool.and_eq_true, List.isPrefixOf_iff_prefix, mentions, cut?_isSome_iff,
    EndsMessage]

theorem endsMessage_scissorsLine : EndsMessage scissorsLine := by
  decide

section Kept

variable (ends : List Char → Prop) [DecidablePred ends]

@[simp] theorem keptLines_cons (line : List Char) (below : List (List Char)) :
    keptLines ends (line :: below) =
      (if ['#'] <+: line then [] else [line]) ++ if ends line then [] else keptLines ends below := by
  have shifted : below.zip (below.inits.map (line :: ·)) =
      (below.zip below.inits).map (Prod.map id (line :: ·)) := List.zip_map_right ..
  simp only [keptLines, List.inits_cons, List.zip_cons_cons, shifted, List.filter_cons,
    List.filter_map]
  by_cases comment : ['#'] <+: line <;> by_cases last : ends line <;>
    simp [comment, last, Function.comp_def]

variable {ends}

theorem keptLines_append {above : List (List Char)} (below : List (List Char))
    (goesOn : ∀ line ∈ above, ¬ ends line) :
    keptLines ends (above ++ below) =
      above.filter (fun line => ¬ ['#'] <+: line) ++ keptLines ends below := by
  induction above with
  | nil => rfl
  | cons line above ih =>
    rw [List.forall_mem_cons] at goesOn
    rw [List.cons_append, keptLines_cons, if_neg goesOn.1, ih goesOn.2]
    by_cases comment : ['#'] <+: line <;> simp [comment]

end Kept

def openLines (s : List Char) : List (List Char) :=
  ((lines s).takeWhile fun line => ¬ EndsMessage line).filter fun line => ¬ ['#'] <+: line

theorem stripComments_eq_openLines (s : List Char) :
    stripComments s = trimEnd (joinLines (openLines s)) := by
  have scissors : (!isScissors ·) = fun line => decide (¬ EndsMessage line) := by
    funext line
    simp [← isScissors_iff]
  have comment : (!isComment ·) = fun line => decide (¬ ['#'] <+: line) := by
    funext line
    simp [← isComment_iff]
  rw [stripComments, scissors, comment, openLines]

theorem keptLines_eq {ends : List Char → Prop} [DecidablePred ends] (s : List Char)
    (comments : ∀ line, ends line → EndsMessage line) :
    keptLines ends (lines s) =
      openLines s ++ keptLines ends ((lines s).dropWhile fun line => ¬ EndsMessage line) := by
  have whole := List.takeWhile_append_dropWhile (p := fun line => ¬ EndsMessage line) (l := lines s)
  conv_lhs => rw [← whole]
  apply keptLines_append
  intro line mem last
  exact absurd (comments line last) (by simpa using List.mem_takeWhile_imp mem)

theorem keptLines_endsMessage (s : List Char) : keptLines EndsMessage (lines s) = openLines s := by
  rw [keptLines_eq s fun _ => id]
  cases behind : (lines s).dropWhile fun line => ¬ EndsMessage line with
  | nil => simp [keptLines]
  | cons line below =>
    have stopped := List.head?_dropWhile_not (fun line => ¬ EndsMessage line) (lines s)
    rw [behind] at stopped
    have last : EndsMessage line := by simpa using stopped
    have comment : ['#'] <+: line := (List.prefix_append ['#'] [' ']).trans last.1
    simp [last, comment]

/-- A text loses its comments and all below the first of them that mentions `>8`, which need not be
the scissors line. It is what the scissors line alone would leave just when the lines lost without
it are blank. -/
theorem stripComments_exact (s : List Char) :
    EndsMessage scissorsLine ∧ stripComments s = keptText EndsMessage s ∧
    (stripComments s = keptText (· = scissorsLine) s ↔
      ∀ line ∈ lostLines s, ∀ c ∈ line, isBlank c = true) := by
  refine ⟨endsMessage_scissorsLine, ?_, ?_⟩
  next => rw [keptText, keptLines_endsMessage, stripComments_eq_openLines]
  next =>
    have kept : keptLines (· = scissorsLine) (lines s) = openLines s ++ lostLines s :=
      keptLines_eq s fun line same => same ▸ endsMessage_scissorsLine
    rw [keptText, kept, stripComments_eq_openLines, eq_comm]
    exact trimEnd_joinLines_append_iff

theorem stripComments_wrapComment :
    stripComments "feat: x\n# wrap at >80\nBREAKING CHANGE: y".toList = "feat: x".toList ∧
    keptText (· = scissorsLine) "feat: x\n# wrap at >80\nBREAKING CHANGE: y".toList =
      "feat: x\nBREAKING CHANGE: y".toList := by
  decide

end HeaderLint
