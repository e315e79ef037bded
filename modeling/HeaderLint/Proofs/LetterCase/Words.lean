import HeaderLint.LetterCase.Words
import Mathlib.Data.List.SplitBy

set_option autoImplicit false

namespace HeaderLint.LetterCase

open Text

def joins (c next : Char) : Bool :=
  !breaksBetween c next

theorem splitBy_cons_of_related {A : Type} {related : A → A → Bool} {a b : A} (rest : List A)
    (here : related a b = true) :
    ∃ run others, (b :: rest).splitBy related = run :: others ∧
      (a :: b :: rest).splitBy related = (a :: run) :: others := by
  obtain ⟨run, others, split⟩ :=
    List.exists_cons_of_ne_nil (List.splitBy_ne_nil.mpr (List.cons_ne_nil b rest))
  obtain ⟨whole, filled, chained, gaps⟩ := List.splitBy_eq_iff.mp split
  have nonempty : run ≠ [] := fun empty => filled (by simp [empty])
  obtain ⟨d, run, rfl⟩ := List.exists_cons_of_ne_nil nonempty
  have same : b = d := by simpa using (List.cons.inj whole).1
  subst same
  refine ⟨_, others, split, List.splitBy_eq_iff.mpr ⟨by simpa using whole, by simpa using filled,
    fun part mem => ?_, ?_⟩⟩
  next =>
    rcases List.mem_cons.mp mem with rfl | mem
    next => exact List.isChain_cons_cons.mpr ⟨here, chained _ (by simp)⟩
    next => exact chained part (by simp [mem])
  next =>
    rw [List.isChain_cons] at gaps ⊢
    refine ⟨fun part mem => ?_, gaps.2⟩
    obtain ⟨_, started, apart⟩ := gaps.1 part mem
    exact ⟨by simp, started, by simpa using apart⟩

theorem splitBy_cons_of_unrelated {A : Type} {related : A → A → Bool} {a b : A} (rest : List A)
    (apart : related a b = false) :
    (a :: b :: rest).splitBy related = [a] :: (b :: rest).splitBy related :=
  List.splitBy_append_cons (l := [a]) rest (by simpa using apart)

theorem words_ne_nil {c : Char} (rest : List Char) (alphanumeric : isAlphanumeric c = true) :
    words (c :: rest) ≠ [] := by
  simp only [words, alphanumeric, Bool.not_true, Bool.false_eq_true, if_false]
  split <;> simp

theorem words_cons_of_continues {c : Char} {rest : List Char}
    (alphanumeric : isAlphanumeric c = true) (onward : continues c rest = true) :
    ∃ word others, words rest = word :: others ∧ words (c :: rest) = (c :: word) :: others := by
  have filled : words rest ≠ [] := by
    cases rest with
    | nil => cases onward
    | cons d rest =>
      simp only [continues, Bool.and_eq_true] at onward
      exact words_ne_nil rest onward.1
  obtain ⟨word, others, split⟩ := List.exists_cons_of_ne_nil filled
  exact ⟨word, others, split, by simp [words, alphanumeric, onward, split]⟩

theorem words_cons_of_not_continues {c : Char} {rest : List Char}
    (alphanumeric : isAlphanumeric c = true) (onward : continues c rest = false) :
    words (c :: rest) = [c] :: words rest := by
  simp [words, alphanumeric, onward]

theorem words_cons_of_not_alphanumeric {c : Char} (rest : List Char)
    (separates : isAlphanumeric c = false) : words (c :: rest) = words rest := by
  simp [words, separates]

/-- Words are what is left when a text is split at the other characters and then at the breaks. -/
theorem words_eq_splits (s : List Char) :
    words s = (s.splitOnP (!isAlphanumeric ·)).flatMap (·.splitBy joins) := by
  induction s with
  | nil => rfl
  | cons c rest ih =>
    cases alphanumeric : isAlphanumeric c with
    | false =>
      rw [words_cons_of_not_alphanumeric rest alphanumeric, ih, List.splitOnP_cons_eq_if_modifyHead]
      simp [alphanumeric]
    | true =>
      cases rest with
      | nil =>
        rw [words_cons_of_not_continues alphanumeric rfl, List.splitOnP_cons_eq_if_modifyHead]
        simp [alphanumeric, words, List.splitBy_of_isChain]
      | cons d rest =>
        obtain ⟨run, others, split⟩ :=
          List.exists_cons_of_ne_nil (List.splitOnP_ne_nil (!isAlphanumeric ·) rest)
        cases follows : isAlphanumeric d with
        | false =>
          rw [words_cons_of_not_continues alphanumeric (by simp [continues, follows]), ih]
          simp [List.splitOnP_cons_eq_if_modifyHead, alphanumeric, follows,
            List.splitBy_of_isChain]
        | true =>
          simp only [List.splitOnP_cons_eq_if_modifyHead, alphanumeric, follows, split,
            Bool.not_true, Bool.false_eq_true, if_false, List.modifyHead_cons,
            List.flatMap_cons] at ih ⊢
          have onward : continues c (d :: rest) = joins c d := by simp [continues, follows, joins]
          cases together : joins c d with
          | false =>
            rw [words_cons_of_not_continues alphanumeric (onward.trans together), ih,
              splitBy_cons_of_unrelated run together, List.cons_append]
          | true =>
            obtain ⟨word, further, first, grown⟩ :=
              words_cons_of_continues alphanumeric (onward.trans together)
            obtain ⟨part, later, began, extended⟩ := splitBy_cons_of_related run together
            rw [first, began, List.cons_append] at ih
            obtain ⟨rfl, rfl⟩ := List.cons.inj ih
            rw [grown, extended, List.cons_append]

theorem words_append_cons {separator : Char} (separates : isAlphanumeric separator = false)
    (before after : List Char) :
    words (before ++ separator :: after) = words before ++ words after := by
  simp only [words_eq_splits]
  rw [List.splitOnP_append_cons before after (by simp [separates]), List.flatMap_append]

theorem words_of_alphanumeric {s : List Char} (run : ∀ c ∈ s, isAlphanumeric c = true) :
    words s = s.splitBy joins := by
  rw [words_eq_splits, List.splitOnP_eq_singleton (by simpa using run)]
  simp

theorem words_joined {separator : Char} (separates : isAlphanumeric separator = false)
    (runs : List (List Char)) :
    words ([separator].intercalate runs) = runs.flatMap words := by
  induction runs with
  | nil => rfl
  | cons run others ih =>
    cases others with
    | nil => simp
    | cons other others =>
      rw [List.intercalate_cons_cons, List.append_assoc, List.singleton_append,
        words_append_cons separates, ih]
      rfl

theorem words_flatten (s : List Char) : (words s).flatten = s.filter isAlphanumeric := by
  induction s with
  | nil => rfl
  | cons c rest ih =>
    cases alphanumeric : isAlphanumeric c with
    | false => simp [words_cons_of_not_alphanumeric rest alphanumeric, ih, alphanumeric]
    | true =>
      cases onward : continues c rest with
      | false => simp [words_cons_of_not_continues alphanumeric onward, ih, alphanumeric]
      | true =>
        obtain ⟨word, others, first, grown⟩ := words_cons_of_continues alphanumeric onward
        rw [first] at ih
        rw [grown, List.filter_cons_of_pos alphanumeric, ← ih]
        simp

structure IsWord (word : List Char) : Prop where
  filled : word ≠ []
  alphanumeric : ∀ c ∈ word, isAlphanumeric c = true
  together : word.IsChain fun c next => joins c next = true

theorem isWord_of_mem {s word : List Char} (mem : word ∈ words s) : IsWord word := by
  have inSplits := mem
  rw [words_eq_splits, List.mem_flatMap] at inSplits
  obtain ⟨run, _, part⟩ := inSplits
  refine ⟨List.ne_nil_of_mem_splitBy part, fun c within => ?_, List.isChain_of_mem_splitBy part⟩
  have kept : c ∈ (words s).flatten := List.mem_flatten_of_mem mem within
  rw [words_flatten] at kept
  exact (List.mem_filter.mp kept).2

theorem words_of_isWord {word : List Char} (isWord : IsWord word) : words word = [word] := by
  rw [words_of_alphanumeric isWord.alphanumeric]
  exact List.splitBy_of_isChain isWord.filled isWord.together

theorem words_joined_words {separator : Char} (separates : isAlphanumeric separator = false)
    {runs : List (List Char)} (each : ∀ run ∈ runs, IsWord run) :
    words ([separator].intercalate runs) = runs := by
  rw [words_joined separates]
  induction runs with
  | nil => rfl
  | cons run others ih =>
    rw [List.flatMap_cons, words_of_isWord (each run (by simp)),
      ih fun other mem => each other (by simp [mem])]
    rfl

end HeaderLint.LetterCase
