import HeaderLint.Text.Lines
import HeaderLint.Proofs.Text.Blank

set_option autoImplicit false

namespace HeaderLint.Text

def headerLine (s : List Char) : List Char :=
  let line := (s.splitOn '\n').headD []
  if ['\r'] <:+ line then line.dropLast else line

@[simp] theorem pieces_eq_splitOn (s : List Char) : pieces s = s.splitOn '\n' := by
  induction s with
  | nil => rfl
  | cons c rest ih =>
    rw [pieces, List.splitOn_cons_eq_if_modifyHead, ih]
    by_cases feed : c = '\n'
    next => simp [isLineFeed, feed]
    next =>
      obtain ⟨piece, others, split⟩ := List.exists_cons_of_ne_nil (List.splitOn_ne_nil '\n' rest)
      simp [isLineFeed, feed, split]

@[simp] theorem dropReturn_cons_cons (c d : Char) (rest : List Char) :
    dropReturn (c :: d :: rest) = c :: dropReturn (d :: rest) := by
  simp [dropReturn]

@[simp] theorem dropReturn_concat (s : List Char) (c : Char) :
    dropReturn (s ++ [c]) = if c = '\r' then s else s ++ [c] := by
  induction s with
  | nil => by_cases feed : c = '\r' <;> simp [dropReturn, feed]
  | cons d s ih =>
    obtain ⟨e, rest, split⟩ := List.exists_cons_of_ne_nil (List.concat_ne_nil c s)
    rw [List.cons_append, split, dropReturn_cons_cons, ← split, ih]
    split_ifs <;> rfl

theorem dropReturn_eq (s : List Char) :
    dropReturn s = if ['\r'] <:+ s then s.dropLast else s := by
  rcases List.eq_nil_or_concat s with rfl | ⟨front, c, rfl⟩
  next => rfl
  next =>
    rw [List.concat_eq_append, dropReturn_concat]
    by_cases feed : c = '\r'
    next => simp [feed]
    next =>
      have kept : ¬ ['\r'] <:+ front ++ [c] := by
        rintro ⟨other, same⟩
        have last := List.append_inj_right' same rfl
        exact feed (List.singleton_inj.mp last.symm)
      simp [feed, kept]

theorem dropReturn_append (s : List Char) {c : Char} (rest : List Char) (other : c ≠ '\r') :
    dropReturn (s ++ c :: rest) = s ++ c :: dropReturn rest := by
  rcases List.eq_nil_or_concat rest with rfl | ⟨front, last, rfl⟩
  next => rw [dropReturn_concat, if_neg other]; rfl
  next =>
    rw [List.concat_eq_append, ← List.cons_append, ← List.append_assoc, dropReturn_concat,
      dropReturn_concat]
    split_ifs <;> simp

theorem trim_dropReturn (s : List Char) : trim (dropReturn s) = trim s := by
  rw [dropReturn_eq]
  split
  next closes =>
    obtain ⟨front, rfl⟩ := closes
    rw [List.dropLast_concat, trim_append (by simp [isBlank])]
  next => rfl

theorem not_mem_takeWhile_lineFeed (s : List Char) : '\n' ∉ s.takeWhile (!isLineFeed ·) :=
  fun mem => by simpa [isLineFeed] using List.mem_takeWhile_imp mem

theorem splitOn_lineFeed (s : List Char) :
    s.splitOn '\n' =
      s.takeWhile (!isLineFeed ·) :: ((afterFirstLine? s).map (·.splitOn '\n')).getD [] := by
  have whole := List.takeWhile_append_dropWhile (p := (!isLineFeed ·)) (l := s)
  have absent := not_mem_takeWhile_lineFeed s
  cases behind : s.dropWhile (!isLineFeed ·) with
  | nil =>
    rw [behind, List.append_nil] at whole
    rw [whole] at absent ⊢
    simp [afterFirstLine?, behind, List.splitOn_eq_singleton absent]
  | cons c rest =>
    have stopped := List.head?_dropWhile_not (!isLineFeed ·) s
    rw [behind] at stopped
    have feed : c = '\n' := by simpa [isLineFeed] using stopped
    conv_lhs => rw [← whole, behind, feed, List.splitOn_append_cons_self_of_not_mem absent]
    simp [afterFirstLine?, behind]

@[simp] theorem firstLine_eq_headerLine (s : List Char) : firstLine s = headerLine s := by
  rw [firstLine, headerLine, splitOn_lineFeed, List.headD_cons, dropReturn_eq]

@[simp] theorem afterFirstLine?_eq_none_iff {s : List Char} :
    afterFirstLine? s = none ↔ '\n' ∉ s := by
  have nothing : s.dropWhile (!isLineFeed ·) = [] ↔ '\n' ∉ s := by
    rw [List.dropWhile_eq_nil_iff]
    constructor
    next =>
      intro others mem
      simpa [isLineFeed] using others '\n' mem
    next =>
      intro absent c mem
      simpa [isLineFeed] using ne_of_mem_of_not_mem mem absent
  rw [← nothing, afterFirstLine?]
  cases s.dropWhile (!isLineFeed ·) <;> simp

theorem lines_of_open {s : List Char} (unclosed : afterFirstLine? s = none) :
    lines s = if s = [] then [] else [s] := by
  have absent := afterFirstLine?_eq_none_iff.mp unclosed
  rw [lines, pieces_eq_splitOn, List.splitOn_eq_singleton absent]
  simp [closeLines]

theorem lines_of_closed {s body : List Char} (closed : afterFirstLine? s = some body) :
    lines s = firstLine s :: lines body := by
  obtain ⟨piece, others, split⟩ := List.exists_cons_of_ne_nil (List.splitOn_ne_nil '\n' body)
  simp [lines, splitOn_lineFeed s, closed, split, closeLines, firstLine]

/-- A text is one line, or a line, a line feed and a text again. -/
@[elab_as_elim]
theorem byLines {motive : List Char → Prop}
    (final : ∀ line, '\n' ∉ line → motive line)
    (closed : ∀ line body, '\n' ∉ line → motive body → motive (line ++ '\n' :: body))
    (s : List Char) : motive s := by
  by_cases feed : '\n' ∈ s
  next =>
    obtain ⟨line, body, rfl, feedless⟩ := List.eq_append_cons_of_mem feed
    exact closed line body feedless (byLines final closed body)
  next => exact final s feed
termination_by s.length
decreasing_by
  subst_vars
  simp only [List.length_append, List.length_cons]
  omega

theorem not_isLineFeed_of_mem {line : List Char} (feedless : '\n' ∉ line) :
    ∀ c ∈ line, (!isLineFeed c) = true := by
  intro c mem
  simpa [isLineFeed] using ne_of_mem_of_not_mem mem feedless

section Closed

variable {line : List Char} (body : List Char)

theorem afterFirstLine?_closed (feedless : '\n' ∉ line) :
    afterFirstLine? (line ++ '\n' :: body) = some body := by
  rw [afterFirstLine?, List.dropWhile_append_of_pos (not_isLineFeed_of_mem feedless),
    List.dropWhile_cons_of_neg (by decide)]

theorem firstLine_closed (feedless : '\n' ∉ line) :
    firstLine (line ++ '\n' :: body) = dropReturn line := by
  rw [firstLine, List.takeWhile_append_of_pos (not_isLineFeed_of_mem feedless),
    List.takeWhile_cons_of_neg (by decide), List.append_nil]

theorem lines_closed (feedless : '\n' ∉ line) :
    lines (line ++ '\n' :: body) = dropReturn line :: lines body := by
  rw [lines_of_closed (afterFirstLine?_closed body feedless), firstLine_closed body feedless]

end Closed

theorem lines_final {line : List Char} (feedless : '\n' ∉ line) :
    lines line = if line = [] then [] else [line] :=
  lines_of_open (afterFirstLine?_eq_none_iff.mpr feedless)

section Pieces

variable {s piece : List Char}

theorem not_mem_of_mem_splitOn (mem : piece ∈ s.splitOn '\n') : '\n' ∉ piece := by
  induction s using byLines with
  | final line feedless =>
    rw [List.splitOn_eq_singleton feedless, List.mem_singleton] at mem
    exact mem ▸ feedless
  | closed line body feedless ih =>
    rw [List.splitOn_append_cons_self_of_not_mem feedless, List.mem_cons] at mem
    exact mem.elim (· ▸ feedless) ih

theorem exists_piece_of_prefix {front : List Char} (start : front <+: s)
    (mem : piece ∈ front.splitOn '\n') : ∃ other ∈ s.splitOn '\n', piece <+: other := by
  induction front using byLines generalizing s with
  | final line feedless =>
    obtain ⟨rest, rfl⟩ := start
    rw [List.splitOn_eq_singleton feedless, List.mem_singleton] at mem
    rw [mem, splitOn_lineFeed, List.takeWhile_append_of_pos (not_isLineFeed_of_mem feedless)]
    exact ⟨_, List.mem_cons_self, List.prefix_append line _⟩
  | closed line body feedless ih =>
    obtain ⟨rest, rfl⟩ := start
    rw [List.splitOn_append_cons_self_of_not_mem feedless, List.mem_cons] at mem
    rw [List.append_assoc, List.cons_append, List.splitOn_append_cons_self_of_not_mem feedless]
    rcases mem with rfl | below
    next => exact ⟨piece, List.mem_cons_self, List.prefix_rfl⟩
    next =>
      obtain ⟨other, inside, begins⟩ := ih (List.prefix_append body rest) below
      exact ⟨other, List.mem_cons_of_mem line inside, begins⟩

theorem dropReturn_prefix_self (s : List Char) : dropReturn s <+: s := by
  rw [dropReturn_eq]
  split
  next => exact s.dropLast_prefix
  next => exact List.prefix_rfl

theorem exists_piece_of_mem_lines {line : List Char} (mem : line ∈ lines s) :
    ∃ piece ∈ s.splitOn '\n', line <+: piece := by
  induction s using byLines with
  | final only feedless =>
    rw [lines_final feedless] at mem
    split at mem
    next => simp at mem
    next =>
      obtain rfl := List.mem_singleton.mp mem
      simp [List.splitOn_eq_singleton feedless]
  | closed first body feedless ih =>
    rw [List.splitOn_append_cons_self_of_not_mem feedless]
    rw [lines_closed body feedless] at mem
    rcases List.mem_cons.mp mem with rfl | below
    next => exact ⟨first, List.mem_cons_self, dropReturn_prefix_self first⟩
    next =>
      obtain ⟨piece, inside, begins⟩ := ih below
      exact ⟨piece, List.mem_cons_of_mem first inside, begins⟩

theorem not_mem_of_mem_lines {line : List Char} (mem : line ∈ lines s) : '\n' ∉ line := by
  obtain ⟨piece, inside, begins⟩ := exists_piece_of_mem_lines mem
  exact fun feed => not_mem_of_mem_splitOn inside (begins.subset feed)

end Pieces

section Joined

variable {front others : List (List Char)}

theorem joinLines_cons {line : List Char} (filled : others ≠ []) :
    joinLines (line :: others) = line ++ '\n' :: joinLines others := by
  rw [joinLines, List.intercalate_cons_of_ne_nil filled, List.append_assoc]
  rfl

theorem splitOn_joinLines (feedless : ∀ line ∈ front, '\n' ∉ line) (opened : front ≠ []) :
    (joinLines front).splitOn '\n' = front :=
  List.splitOn_intercalate '\n' feedless opened

theorem joinLines_append (opened : front ≠ []) (filled : others ≠ []) :
    joinLines (front ++ others) = joinLines front ++ '\n' :: joinLines others := by
  induction front with
  | nil => exact absurd rfl opened
  | cons line front ih =>
    by_cases last : front = []
    next =>
      have single : joinLines [line] = line := List.intercalate_singleton
      rw [last, List.singleton_append, joinLines_cons filled, single]
    next =>
      rw [List.cons_append, joinLines_cons (List.append_ne_nil_of_left_ne_nil last others), ih last,
        joinLines_cons last]
      simp

theorem ink_joinLines (ls : List (List Char)) :
    (joinLines ls).filter (!isBlank ·) = ls.flatMap (·.filter (!isBlank ·)) := by
  induction ls with
  | nil => rfl
  | cons line rest ih =>
    by_cases last : rest = []
    next => simp [last, joinLines]
    next =>
      rw [joinLines_cons last, List.filter_append, List.filter_cons_of_neg (by decide), ih,
        List.flatMap_cons]

theorem blank_joinLines_iff {ls : List (List Char)} :
    (∀ c ∈ joinLines ls, isBlank c = true) ↔ ∀ line ∈ ls, ∀ c ∈ line, isBlank c = true := by
  rw [← ink_eq_nil_iff, ink_joinLines, List.flatMap_eq_nil_iff]
  exact forall₂_congr fun _ _ => ink_eq_nil_iff

theorem trimEnd_joinLines_append_iff :
    trimEnd (joinLines (front ++ others)) = trimEnd (joinLines front) ↔
      ∀ line ∈ others, ∀ c ∈ line, isBlank c = true := by
  rw [← blank_joinLines_iff]
  constructor
  next =>
    intro same
    have ink := congrArg (List.filter (!isBlank ·)) same
    rw [ink_trimEnd, ink_trimEnd, ink_joinLines, ink_joinLines, List.flatMap_append,
      List.append_right_eq_self, ← ink_joinLines] at ink
    exact ink_eq_nil_iff.mp ink
  next =>
    intro blank
    by_cases none : others = []
    next => rw [none, List.append_nil]
    next =>
      by_cases first : front = []
      next =>
        subst first
        exact @trimEnd_append [] (joinLines others) blank
      next =>
        rw [joinLines_append first none, trimEnd_append]
        simpa using ⟨by decide, blank⟩

end Joined

end HeaderLint.Text
