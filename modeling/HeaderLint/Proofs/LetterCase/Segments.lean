import HeaderLint.Proofs.LetterCase.Words

set_option autoImplicit false

namespace HeaderLint.LetterCase

open Text

def runOf : List (List Char) → Nat → Nat
  | [], _ => 0
  | run :: others, place =>
      if place < run.length then 0 else runOf others (place - run.length) + 1

structure Leads (s between : List Char) (d : Char) : Prop where
  split : ∃ after, s = between ++ d :: after
  alphanumeric : isAlphanumeric d = true
  separators : ∀ e ∈ between, isAlphanumeric e = false

/-- Two letters or numbers of a text with no other one between them. The place counts the letters
and numbers before both. -/
structure Neighbours (s : List Char) (place : Nat) (c : Char) (between : List Char) (d : Char) :
    Prop where
  split : ∃ before behind, s = before ++ c :: behind ∧
    (before.filter isAlphanumeric).length = place ∧ Leads behind between d
  alphanumeric : isAlphanumeric c = true

-- Neighbours are in different runs just where another character stands between them, or a capital
-- stands behind a small letter or a number.
def Parted (s : List Char) (runs : List (List Char)) : Prop :=
  ∀ place c between d, Neighbours s place c between d →
    (runOf runs place ≠ runOf runs (place + 1) ↔
      between ≠ [] ∨ (isUppercase d = true ∧ (isLowercase c = true ∨ isNumeric c = true)))

structure Segments (s : List Char) (runs : List (List Char)) : Prop where
  filled : ∀ run ∈ runs, run ≠ []
  alphanumeric : ∀ run ∈ runs, ∀ c ∈ run, isAlphanumeric c = true
  lossless : runs.flatten = s.filter isAlphanumeric
  parted : Parted s runs

section Places

variable {word : List Char} {others : List (List Char)}

@[simp] theorem runOf_cons_zero (c : Char) : runOf ((c :: word) :: others) 0 = 0 := by
  simp [runOf]

@[simp] theorem runOf_cons_succ (c : Char) (place : Nat) :
    runOf ((c :: word) :: others) (place + 1) = runOf (word :: others) place := by
  simp [runOf]

@[simp] theorem runOf_nil_cons (place : Nat) :
    runOf ([] :: others) place = runOf others place + 1 := by
  simp [runOf]

@[simp] theorem zero_ne_runOf_iff : 0 ≠ runOf (word :: others) 0 ↔ word = [] := by
  cases word with
  | nil => simp [runOf]
  | cons c word => simp [runOf]

end Places

section Leads

variable {d : Char} {s between : List Char}

theorem exists_leads (filled : s.filter isAlphanumeric ≠ []) : ∃ between d, Leads s between d := by
  induction s with
  | nil => exact absurd rfl filled
  | cons e rest ih =>
    cases alphanumeric : isAlphanumeric e with
    | true => exact ⟨[], e, ⟨rest, rfl⟩, alphanumeric, by simp⟩
    | false =>
      rw [List.filter_cons_of_neg (by simp [alphanumeric])] at filled
      obtain ⟨between, d, ⟨after, rfl⟩, second, separators⟩ := ih filled
      exact ⟨e :: between, d, ⟨after, rfl⟩, second, by simpa [alphanumeric] using separators⟩

theorem continues_of_filter_eq_nil (c : Char) (bare : s.filter isAlphanumeric = []) :
    continues c s = false := by
  cases s with
  | nil => rfl
  | cons e rest =>
    have separates : isAlphanumeric e = false := by
      simpa using List.filter_eq_nil_iff.mp bare e List.mem_cons_self
    simp [continues, separates]

theorem Leads.continues_eq_false_iff (leads : Leads s between d) (c : Char) :
    continues c s = false ↔
      between ≠ [] ∨ (isUppercase d = true ∧ (isLowercase c = true ∨ isNumeric c = true)) := by
  obtain ⟨⟨after, rfl⟩, alphanumeric, separators⟩ := leads
  cases between with
  | nil => cases small : isLowercase c <;> simp [continues, breaksBetween, alphanumeric, small]
  | cons e between => simp [continues, separators e List.mem_cons_self]

end Leads

section Neighbours

variable {c d e : Char} {s between : List Char} {place : Nat}

@[simp] theorem not_neighbours_nil : ¬ Neighbours [] place c between d := by
  rintro ⟨⟨before, behind, split, _⟩, _⟩
  simp at split

theorem neighbours_cons_of_separator (separates : isAlphanumeric e = false) :
    Neighbours (e :: s) place c between d ↔ Neighbours s place c between d := by
  constructor
  next =>
    rintro ⟨⟨before, behind, split, rfl, leads⟩, alphanumeric⟩
    cases before with
    | nil =>
      obtain ⟨rfl, rfl⟩ := List.cons.inj split
      exact absurd alphanumeric (by simp [separates])
    | cons first before =>
      obtain ⟨rfl, rfl⟩ := List.cons.inj split
      exact ⟨⟨before, behind, rfl, by simp [separates], leads⟩, alphanumeric⟩
  next =>
    rintro ⟨⟨before, behind, rfl, rfl, leads⟩, alphanumeric⟩
    exact ⟨⟨e :: before, behind, rfl, by simp [separates], leads⟩, alphanumeric⟩

theorem neighbours_cons_zero (alphanumeric : isAlphanumeric e = true) :
    Neighbours (e :: s) 0 c between d ↔ e = c ∧ Leads s between d := by
  constructor
  next =>
    rintro ⟨⟨before, behind, split, first, leads⟩, _⟩
    cases before with
    | nil =>
      obtain ⟨rfl, rfl⟩ := List.cons.inj split
      exact ⟨rfl, leads⟩
    | cons first before =>
      obtain ⟨rfl, rfl⟩ := List.cons.inj split
      simp [alphanumeric] at first
  next =>
    rintro ⟨rfl, leads⟩
    exact ⟨⟨[], s, rfl, rfl, leads⟩, alphanumeric⟩

theorem neighbours_cons_succ (alphanumeric : isAlphanumeric e = true) :
    Neighbours (e :: s) (place + 1) c between d ↔ Neighbours s place c between d := by
  constructor
  next =>
    rintro ⟨⟨before, behind, split, count, leads⟩, first⟩
    cases before with
    | nil => simp at count
    | cons head before =>
      obtain ⟨rfl, rfl⟩ := List.cons.inj split
      rw [List.filter_cons_of_pos alphanumeric, List.length_cons, Nat.add_right_cancel_iff] at count
      exact ⟨⟨before, behind, rfl, count, leads⟩, first⟩
  next =>
    rintro ⟨⟨before, behind, rfl, rfl, leads⟩, first⟩
    exact ⟨⟨e :: before, behind, rfl, by simp [alphanumeric], leads⟩, first⟩

end Neighbours

section Parted

variable {c : Char} {s rest word : List Char} {runs others : List (List Char)}

theorem parted_cons_of_separator (separates : isAlphanumeric c = false) :
    Parted (c :: rest) runs ↔ Parted rest runs := by
  simp only [Parted, neighbours_cons_of_separator separates]

@[simp] theorem parted_nil_cons : Parted s ([] :: others) ↔ Parted s others := by
  simp [Parted]

theorem parted_cons_iff (alphanumeric : isAlphanumeric c = true)
    (lossless : word ++ others.flatten = rest.filter isAlphanumeric) :
    Parted (c :: rest) ((c :: word) :: others) ↔
      (word = [] ↔ continues c rest = false) ∧ Parted rest (word :: others) := by
  constructor
  next =>
    intro parted
    constructor
    next =>
      by_cases bare : rest.filter isAlphanumeric = []
      next =>
        have alone : word = [] := (List.append_eq_nil_iff.mp (lossless.trans bare)).1
        exact iff_of_true alone (continues_of_filter_eq_nil c bare)
      next =>
        obtain ⟨between, d, leads⟩ := exists_leads bare
        have first := parted 0 c between d ((neighbours_cons_zero alphanumeric).mpr ⟨rfl, leads⟩)
        rw [runOf_cons_zero, runOf_cons_succ, zero_ne_runOf_iff] at first
        exact first.trans (leads.continues_eq_false_iff c).symm
    next =>
      intro place e between d neighbours
      have later := parted (place + 1) e between d
        ((neighbours_cons_succ alphanumeric).mpr neighbours)
      rwa [runOf_cons_succ, runOf_cons_succ] at later
  next =>
    rintro ⟨first, later⟩ place e between d neighbours
    cases place with
    | zero =>
      obtain ⟨rfl, leads⟩ := (neighbours_cons_zero alphanumeric).mp neighbours
      rw [runOf_cons_zero, runOf_cons_succ, zero_ne_runOf_iff]
      exact first.trans (leads.continues_eq_false_iff c)
    | succ place =>
      rw [runOf_cons_succ, runOf_cons_succ]
      exact later place e between d ((neighbours_cons_succ alphanumeric).mp neighbours)

-- Each step is what one more letter or number in front does to the places of the others.
theorem parted_words (s : List Char) : Parted s (words s) := by
  induction s with
  | nil => exact fun _ _ _ _ neighbours => absurd neighbours not_neighbours_nil
  | cons c rest ih =>
    have lossless := words_flatten rest
    cases alphanumeric : isAlphanumeric c with
    | false =>
      rw [words_cons_of_not_alphanumeric rest alphanumeric]
      exact (parted_cons_of_separator alphanumeric).mpr ih
    | true =>
      cases onward : continues c rest with
      | false =>
        rw [words_cons_of_not_continues alphanumeric onward, parted_cons_iff alphanumeric lossless]
        exact ⟨iff_of_true rfl onward, parted_nil_cons.mpr ih⟩
      | true =>
        obtain ⟨word, others, split, grown⟩ := words_cons_of_continues alphanumeric onward
        have filled : word ≠ [] := (isWord_of_mem (split ▸ List.mem_cons_self)).filled
        rw [split] at lossless ih
        rw [grown, parted_cons_iff alphanumeric lossless]
        exact ⟨iff_of_false filled (by simp [onward]), ih⟩

end Parted

section Segments

variable {c : Char} {s rest word : List Char} {runs others : List (List Char)}

theorem segments_words (s : List Char) : Segments s (words s) := by
  constructor
  case filled => exact fun _ mem => (isWord_of_mem mem).filled
  case alphanumeric => exact fun _ mem => (isWord_of_mem mem).alphanumeric
  case lossless => exact words_flatten s
  case parted => exact parted_words s

theorem Segments.of_separator (segments : Segments (c :: rest) runs)
    (separates : isAlphanumeric c = false) : Segments rest runs := by
  obtain ⟨filled, alphanumeric, lossless, parted⟩ := segments
  rw [List.filter_cons_of_neg (by simp [separates])] at lossless
  exact ⟨filled, alphanumeric, lossless, (parted_cons_of_separator separates).mp parted⟩

theorem Segments.exists_cons (segments : Segments (c :: rest) runs)
    (alphanumeric : isAlphanumeric c = true) : ∃ word others, runs = (c :: word) :: others := by
  obtain ⟨filled, _, lossless, _⟩ := segments
  rw [List.filter_cons_of_pos alphanumeric] at lossless
  cases runs with
  | nil => simp at lossless
  | cons run others =>
    obtain ⟨head, word, rfl⟩ := List.exists_cons_of_ne_nil (filled run List.mem_cons_self)
    obtain ⟨rfl, _⟩ := List.cons.inj lossless
    exact ⟨word, others, rfl⟩

theorem Segments.of_cons (segments : Segments (c :: rest) ((c :: word) :: others)) :
    (word = [] ↔ continues c rest = false) ∧
      Segments rest (if word = [] then others else word :: others) := by
  obtain ⟨filled, letters, lossless, parted⟩ := segments
  rw [List.forall_mem_cons] at filled letters
  obtain ⟨alphanumeric, inside⟩ := List.forall_mem_cons.mp letters.1
  have kept : word ++ others.flatten = rest.filter isAlphanumeric := by
    rw [List.filter_cons_of_pos alphanumeric] at lossless
    exact (List.cons.inj lossless).2
  obtain ⟨alone, later⟩ := (parted_cons_iff alphanumeric kept).mp parted
  refine ⟨alone, ?_⟩
  split
  next empty =>
    subst empty
    exact ⟨filled.2, letters.2, kept, parted_nil_cons.mp later⟩
  next grown =>
    exact ⟨List.forall_mem_cons.mpr ⟨grown, filled.2⟩, List.forall_mem_cons.mpr ⟨inside, letters.2⟩,
      kept, later⟩

theorem Segments.eq_words (segments : Segments s runs) : runs = words s := by
  induction s generalizing runs with
  | nil =>
    have none : ∀ run ∈ runs, run = [] := List.flatten_eq_nil_iff.mp segments.lossless
    exact List.eq_nil_iff_forall_not_mem.mpr fun run mem => segments.filled run mem (none run mem)
  | cons c rest ih =>
    cases alphanumeric : isAlphanumeric c with
    | false =>
      rw [words_cons_of_not_alphanumeric rest alphanumeric]
      exact ih (segments.of_separator alphanumeric)
    | true =>
      obtain ⟨word, others, rfl⟩ := segments.exists_cons alphanumeric
      obtain ⟨alone, later⟩ := segments.of_cons
      cases onward : continues c rest with
      | false =>
        obtain rfl := alone.mpr onward
        rw [words_cons_of_not_continues alphanumeric onward]
        exact congrArg ([c] :: ·) (ih later)
      | true =>
        have grown : word ≠ [] := fun empty => by simp [alone.mp empty] at onward
        rw [if_neg grown] at later
        obtain ⟨first, further, split, whole⟩ := words_cons_of_continues alphanumeric onward
        obtain ⟨rfl, rfl⟩ := List.cons.inj ((ih later).trans split)
        exact whole.symm

end Segments

/-- The words of a text are the one way to segment it: nothing is lost, and the cuts are those that
separators and breaks make. -/
theorem words_exact (s : List Char) (runs : List (List Char)) :
    Segments s runs ↔ runs = words s := by
  constructor
  next => exact Segments.eq_words
  next =>
    rintro rfl
    exact segments_words s

example : words "parseHTTPHeader v2Beta".toList =
    ["parse".toList, "HTTPHeader".toList, "v2".toList, "Beta".toList] := by decide +kernel

end HeaderLint.LetterCase
