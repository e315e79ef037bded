import HeaderLint.LetterCase
import HeaderLint.Proofs.LetterCase.Words
import HeaderLint.Proofs.Text.Ascii

set_option autoImplicit false

namespace HeaderLint.LetterCase

open Text

def Separated (separator : Char) (Run : List Char → Prop) (s : List Char) : Prop :=
  ∃ runs, runs ≠ [] ∧ (∀ run ∈ runs, run ≠ [] ∧ Run run) ∧ s = [separator].intercalate runs

def SmallRun (run : List Char) : Prop :=
  ∀ c ∈ run, c.isLower = true ∨ c.isDigit = true

def Unbroken (run : List Char) : Prop :=
  run.IsChain fun c next => ¬ (next.isUpper = true ∧ (c.isLower = true ∨ c.isDigit = true))

structure StartRun (run : List Char) : Prop where
  alphanum : ∀ c ∈ run, c.isAlphanum = true
  first : ∀ c ∈ run.head?, c.isLower = false
  unbroken : Unbroken run

def Apart (s : List Char) : Prop :=
  s.IsChain fun c next => ¬ (c.isUpper = true ∧ next.isUpper = true)

instance (s : List Char) : Decidable (Apart s) :=
  inferInstanceAs (Decidable (s.IsChain _))

structure Humped (s : List Char) : Prop where
  alphanum : ∀ c ∈ s, c.isAlphanum = true
  apart : Apart s

def Language : LetterCase → List Char → Prop
  | lower, s => ∀ c ∈ s, c.isUpper = false
  | upper, s => ∀ c ∈ s, c.isLower = false
  | sentence, s => (∀ c ∈ s.head?, c.isLower = false) ∧ ∀ c ∈ s.tail, c.isUpper = false
  | kebab, s => Separated '-' SmallRun s
  | snake, s => Separated '_' SmallRun s
  | camel, s => Humped s ∧ ∀ c ∈ s.head?, c.isUpper = false
  | pascal, s => Humped s ∧ ∀ c ∈ s.head?, c.isLower = false
  | start, s => Separated ' ' StartRun s

section Whole

variable {s : List Char}

@[simp] theorem map_eq_self_iff {A : Type} {f : A → A} {l : List A} :
    l.map f = l ↔ ∀ a ∈ l, f a = a := by
  induction l with
  | nil => simp
  | cons a l ih => simp [ih]

theorem lower_eq_self_iff (ascii : IsAscii s) : Text.lower s = s ↔ Language lower s := by
  simp [lower_ascii ascii, Language]

theorem upper_eq_self_iff (ascii : IsAscii s) : Text.upper s = s ↔ Language upper s := by
  simp [upper_ascii ascii, Language]

theorem titled_ascii {c : Char} {rest : List Char} (ascii : IsAscii (c :: rest)) :
    titled (c :: rest) = c.toUpper :: rest.map Char.toLower := by
  have small : c.toLower.toNat < 0x80 := toNat_toLower_lt (ascii c (by simp))
  rw [titled, lower_ascii ascii, List.map_cons, capitalize_ascii _ small,
    Char.toUpper_toLower_eq_toUpper]

theorem titled_eq_self_iff (ascii : IsAscii s) : titled s = s ↔ Language sentence s := by
  cases s with
  | nil => simp [titled, capitalize, Text.lower, lowerAfter, Language]
  | cons c rest =>
    simp [titled_ascii ascii, Language]

end Whole

section Runs

variable {s word : List Char}

theorem isAlphanumeric_of_isAlphanum {c : Char} (alphanum : c.isAlphanum = true) :
    isAlphanumeric c = true := by
  rw [isAlphanumeric_ascii (toNat_of_isAlphanum alphanum), alphanum]

theorem joins_ascii {c next : Char} (ascii : c.toNat < 0x80) (asciiNext : next.toNat < 0x80) :
    joins c next = true ↔ ¬ (next.isUpper = true ∧ (c.isLower = true ∨ c.isDigit = true)) := by
  rw [joins, breaksBetween, isUppercase_ascii asciiNext, isLowercase_ascii ascii,
    isNumeric_ascii ascii, Bool.not_eq_true', ← Bool.not_eq_true, Bool.and_eq_true,
    Bool.or_eq_true]

theorem mem_of_mem_words (mem : word ∈ words s) {c : Char} (within : c ∈ word) : c ∈ s := by
  have kept : c ∈ (words s).flatten := List.mem_flatten_of_mem mem within
  rw [words_flatten] at kept
  exact List.mem_of_mem_filter kept

theorem isAscii_of_mem_words (ascii : IsAscii s) (mem : word ∈ words s) : IsAscii word :=
  fun c within => ascii c (mem_of_mem_words mem within)

theorem isAscii_of_alphanum (alphanum : ∀ c ∈ word, c.isAlphanum = true) : IsAscii word :=
  fun c within => toNat_of_isAlphanum (alphanum c within)

theorem isWord_iff (ascii : IsAscii word) :
    IsWord word ↔ word ≠ [] ∧ (∀ c ∈ word, c.isAlphanum = true) ∧ Unbroken word := by
  constructor
  next =>
    intro isWord
    refine ⟨isWord.filled, fun c within => ?_, ?_⟩
    next => rw [← isAlphanumeric_ascii (ascii c within), isWord.alphanumeric c within]
    next =>
      refine isWord.together.imp_of_mem_imp fun c next here there together => ?_
      exact (joins_ascii (ascii c here) (ascii next there)).mp together
  next =>
    rintro ⟨filled, alphanum, unbroken⟩
    refine ⟨filled, fun c within => isAlphanumeric_of_isAlphanum (alphanum c within), ?_⟩
    refine unbroken.imp_of_mem_imp fun c next here there apart => ?_
    exact (joins_ascii (ascii c here) (ascii next there)).mpr apart

/-- Recasing the words of a text and joining them gives it back just when the text is joined of runs
that recased words look like, as long as such a run is a word and stays as it is. -/
theorem joined_eq_self_iff {separator : Char} {recase : List Char → List Char}
    {Run : List Char → Prop} (separates : isAlphanumeric separator = false) (filled : words s ≠ [])
    (recased : ∀ word ∈ words s, recase word ≠ [] ∧ Run (recase word))
    (fixed : ∀ run, run ≠ [] → Run run → IsWord run ∧ recase run = run) :
    [separator].intercalate ((words s).map recase) = s ↔ Separated separator Run s := by
  constructor
  next =>
    intro same
    refine ⟨(words s).map recase, by simpa using filled, fun run mem => ?_, same.symm⟩
    obtain ⟨word, among, rfl⟩ := List.mem_map.mp mem
    exact recased word among
  next =>
    rintro ⟨runs, _, each, rfl⟩
    have isWord : ∀ run ∈ runs, IsWord run := fun run mem =>
      (fixed run (each run mem).1 (each run mem).2).1
    have kept : runs.map recase = runs := map_eq_self_iff.mpr fun run mem =>
      (fixed run (each run mem).1 (each run mem).2).2
    rw [words_joined_words separates isWord, kept]

theorem smallRun_lower (ascii : IsAscii word) (isWord : IsWord word) :
    Text.lower word ≠ [] ∧ SmallRun (Text.lower word) := by
  obtain ⟨filled, alphanum, _⟩ := (isWord_iff ascii).mp isWord
  rw [lower_ascii ascii]
  refine ⟨by simpa using filled, fun c mem => ?_⟩
  obtain ⟨d, within, rfl⟩ := List.mem_map.mp mem
  simpa [Char.isAlphanum] using alphanum d within

theorem isWord_of_smallRun (filled : word ≠ []) (small : SmallRun word) :
    IsWord word ∧ Text.lower word = word := by
  have alphanum : ∀ c ∈ word, c.isAlphanum = true := fun c within =>
    isAlphanum_iff.mpr (.inr (small c within))
  have ascii : IsAscii word := isAscii_of_alphanum alphanum
  have notUpper : ∀ c ∈ word, c.isUpper = false := by
    intro c within
    rw [← Bool.not_eq_true, isUpper_iff_toNat]
    have bounds := small c within
    rw [isLower_iff_toNat, isDigit_iff_toNat] at bounds
    omega
  have unbroken : Unbroken word := by
    refine List.Pairwise.isChain (List.pairwise_of_forall_mem_list ?_)
    intro c _ next there
    simp [notUpper next there]
  exact ⟨(isWord_iff ascii).mpr ⟨filled, alphanum, unbroken⟩, (lower_eq_self_iff ascii).mpr notUpper⟩

theorem startRun_capitalize (ascii : IsAscii word) (isWord : IsWord word) :
    capitalize word ≠ [] ∧ StartRun (capitalize word) := by
  obtain ⟨filled, alphanum, unbroken⟩ := (isWord_iff ascii).mp isWord
  cases word with
  | nil => exact absurd rfl filled
  | cons c rest =>
    rw [capitalize_ascii rest (ascii c (by simp))]
    refine ⟨by simp, ?_, by simp, ?_⟩
    next => simpa [List.forall_mem_cons] using alphanum
    next =>
      cases rest with
      | nil => exact List.isChain_singleton _
      | cons next rest =>
        simp only [Unbroken, List.isChain_cons_cons] at unbroken ⊢
        refine ⟨?_, unbroken.2⟩
        have apart := unbroken.1
        simp only [Char.isLower_toUpper_eq_false, isDigit_toUpper]
        tauto

theorem isWord_of_startRun (filled : word ≠ []) (startRun : StartRun word) :
    IsWord word ∧ capitalize word = word := by
  have ascii : IsAscii word := isAscii_of_alphanum startRun.alphanum
  refine ⟨(isWord_iff ascii).mpr ⟨filled, startRun.alphanum, startRun.unbroken⟩, ?_⟩
  cases word with
  | nil => rfl
  | cons c rest =>
    rw [capitalize_ascii rest (ascii c (by simp)),
      toUpper_eq_self_iff.mpr (startRun.first c (by simp))]

end Runs

section Humps

variable {s first word : List Char} {others : List (List Char)}

theorem words_flatten_of_alphanumeric (alphanumeric : ∀ c ∈ s, isAlphanumeric c = true) :
    (words s).flatten = s := by
  rw [words_flatten, List.filter_eq_self.mpr alphanumeric]

theorem recased_eq_self_iff {recased : List (List Char)}
    (sameLengths : recased.map List.length = (words s).map List.length)
    (alphanumeric : ∀ word ∈ recased, ∀ c ∈ word, isAlphanumeric c = true) :
    recased.flatten = s ↔ (∀ c ∈ s, isAlphanumeric c = true) ∧ recased = words s := by
  constructor
  next =>
    intro same
    have each : ∀ c ∈ s, isAlphanumeric c = true := by
      intro c mem
      rw [← same] at mem
      obtain ⟨word, among, within⟩ := List.mem_flatten.mp mem
      exact alphanumeric word among c within
    refine ⟨each, List.eq_iff_flatten_eq.mpr ⟨?_, sameLengths⟩⟩
    rw [same, words_flatten_of_alphanumeric each]
  next =>
    rintro ⟨each, rfl⟩
    exact words_flatten_of_alphanumeric each

theorem lower_shape (ascii : IsAscii word) (isWord : IsWord word) :
    (Text.lower word).length = word.length ∧ ∀ c ∈ Text.lower word, isAlphanumeric c = true := by
  obtain ⟨_, alphanum, _⟩ := (isWord_iff ascii).mp isWord
  rw [lower_ascii ascii]
  refine ⟨by simp, fun c mem => isAlphanumeric_of_isAlphanum ?_⟩
  obtain ⟨d, within, rfl⟩ := List.mem_map.mp mem
  simpa using alphanum d within

theorem titled_shape (ascii : IsAscii word) (isWord : IsWord word) :
    (titled word).length = word.length ∧ ∀ c ∈ titled word, isAlphanumeric c = true := by
  obtain ⟨_, alphanum, _⟩ := (isWord_iff ascii).mp isWord
  cases word with
  | nil => exact absurd rfl isWord.filled
  | cons c rest =>
    rw [titled_ascii ascii]
    refine ⟨by simp, fun d mem => isAlphanumeric_of_isAlphanum ?_⟩
    rcases List.mem_cons.mp mem with rfl | mem
    next => simpa using alphanum c (by simp)
    next =>
      obtain ⟨e, within, rfl⟩ := List.mem_map.mp mem
      simpa using alphanum e (by simp [within])

theorem apart_iff_of_unbroken (alphanum : ∀ c ∈ word, c.isAlphanum = true)
    (unbroken : Unbroken word) : Apart word ↔ ∀ c ∈ word.tail, c.isUpper = false := by
  induction word with
  | nil => simp [Apart]
  | cons c rest ih =>
    cases rest with
    | nil => simp [Apart]
    | cons next rest =>
      have further := ih (fun d mem => alphanum d (by simp [mem])) unbroken.of_cons
      have kind := isAlphanum_iff.mp (alphanum c (by simp))
      have apart := (List.isChain_cons_cons.mp unbroken).1
      rw [Apart, List.isChain_cons_cons, ← Apart, further]
      simp only [List.tail_cons, List.forall_mem_cons, ← Bool.not_eq_true]
      tauto

theorem forall_of_isChain {A : Type} {P : A → Prop} {a : A} {l : List A}
    (chain : (a :: l).IsChain fun _ b => P b) : ∀ b ∈ l, P b := by
  induction l generalizing a with
  | nil => simp
  | cons b l ih =>
    rw [List.isChain_cons_cons] at chain
    simpa using ⟨chain.1, ih chain.2⟩

theorem words_gaps (alphanum : ∀ c ∈ s, c.isAlphanum = true) :
    (words s).IsChain fun word next =>
      (∀ c ∈ word.getLast?, c.isUpper = false) ∧ ∀ c ∈ next.head?, c.isUpper = true := by
  have gaps : (words s).IsChain fun word next =>
      ∃ filled filledNext, joins (word.getLast filled) (next.head filledNext) = false := by
    rw [words_of_alphanumeric fun c mem => isAlphanumeric_of_isAlphanum (alphanum c mem)]
    exact List.isChain_getLast_head_splitBy joins s
  have ascii : IsAscii s := isAscii_of_alphanum alphanum
  refine gaps.imp_of_mem_imp fun word next here there => ?_
  rintro ⟨filled, filledNext, broken⟩
  have last := ascii _ (mem_of_mem_words here (List.getLast_mem filled))
  have head := ascii _ (mem_of_mem_words there (List.head_mem filledNext))
  rw [← Bool.not_eq_true, joins_ascii last head, not_not] at broken
  simp only [List.getLast?_eq_some_getLast filled, List.head?_eq_some_head filledNext,
    Option.mem_some_iff, forall_eq']
  refine ⟨?_, broken.1⟩
  rw [← Bool.not_eq_true, isUpper_iff_toNat]
  have bounds := broken.2
  rw [isLower_iff_toNat, isDigit_iff_toNat] at bounds
  omega

theorem apart_iff (alphanum : ∀ c ∈ s, c.isAlphanum = true) :
    Apart s ↔ ∀ word ∈ words s, ∀ c ∈ word.tail, c.isUpper = false := by
  have ascii : IsAscii s := isAscii_of_alphanum alphanum
  have filled : [] ∉ words s := fun mem => (isWord_of_mem mem).filled rfl
  have between : (words s).IsChain fun word next => ∀ c ∈ word.getLast?, ∀ d ∈ next.head?,
      ¬ (c.isUpper = true ∧ d.isUpper = true) := by
    refine (words_gaps alphanum).imp fun word next gap c last d _ => ?_
    simp [gap.1 c last]
  have whole := words_flatten_of_alphanumeric fun c mem =>
    isAlphanumeric_of_isAlphanum (alphanum c mem)
  have within : (∀ word ∈ words s, Apart word) ↔
      ∀ word ∈ words s, ∀ c ∈ word.tail, c.isUpper = false := by
    refine forall₂_congr fun word mem => ?_
    obtain ⟨_, alphanumWord, unbroken⟩ :=
      (isWord_iff (isAscii_of_mem_words ascii mem)).mp (isWord_of_mem mem)
    exact apart_iff_of_unbroken alphanumWord unbroken
  rw [← within]
  conv_lhs => rw [← whole, Apart, List.isChain_flatten filled]
  exact and_iff_left between

theorem head?_eq_of_words (alphanum : ∀ c ∈ s, c.isAlphanum = true)
    (split : words s = first :: others) : s.head? = first.head? := by
  have filled : first ≠ [] := (isWord_of_mem (s := s) (by simp [split])).filled
  have whole := words_flatten_of_alphanumeric fun c mem =>
    isAlphanumeric_of_isAlphanum (alphanum c mem)
  rw [split, List.flatten_cons] at whole
  rw [← whole, List.head?_append_of_ne_nil first filled]

theorem head?_others (alphanum : ∀ c ∈ s, c.isAlphanum = true)
    (split : words s = first :: others) :
    ∀ other ∈ others, ∀ c ∈ other.head?, c.isLower = false := by
  have gaps := words_gaps alphanum
  rw [split] at gaps
  intro other mem c head
  have capital := forall_of_isChain (gaps.imp fun _ _ gap => gap.2) other mem c head
  rw [← Bool.not_eq_true]
  exact Char.not_isLower_of_isUpper capital

/-- When the first word is recased and every other one titled, the text stays as it is just when it
is made of humps and its first character stays. -/
theorem humps_eq_self_iff {recase : List Char → List Char} {Head : Char → Prop}
    (ascii : IsAscii s) (split : words s = first :: others)
    (shape : (recase first).length = first.length ∧ ∀ c ∈ recase first, isAlphanumeric c = true)
    (fixed : recase first = first ↔
      (∀ c ∈ first.head?, Head c) ∧ ∀ c ∈ first.tail, c.isUpper = false) :
    recase first ++ others.flatMap titled = s ↔ Humped s ∧ ∀ c ∈ s.head?, Head c := by
  have titledFixed : ∀ other ∈ others, titled other = other ↔ Language sentence other :=
    fun other mem => titled_eq_self_iff (isAscii_of_mem_words ascii (by simp [split, mem]))
  have titledShape : ∀ other ∈ others, (titled other).length = other.length ∧
      ∀ c ∈ titled other, isAlphanumeric c = true := fun other mem =>
    have among : other ∈ words s := by simp [split, mem]
    titled_shape (isAscii_of_mem_words ascii among) (isWord_of_mem among)
  have sameLengths : (recase first :: others.map titled).map List.length =
      (words s).map List.length := by
    rw [split]
    simpa [shape.1] using fun other mem => (titledShape other mem).1
  have alphanumeric : ∀ word ∈ recase first :: others.map titled, ∀ c ∈ word,
      isAlphanumeric c = true := by
    rw [List.forall_mem_cons, List.forall_mem_map]
    exact ⟨shape.2, fun other mem => (titledShape other mem).2⟩
  have whole := recased_eq_self_iff sameLengths alphanumeric
  rw [List.flatten_cons, ← List.flatMap_def, split, List.cons.injEq, fixed, map_eq_self_iff] at whole
  rw [whole]
  constructor
  next =>
    rintro ⟨each, ⟨head, tail⟩, kept⟩
    have alphanum : ∀ c ∈ s, c.isAlphanum = true := fun c mem => by
      rw [← isAlphanumeric_ascii (ascii c mem), each c mem]
    refine ⟨⟨alphanum, (apart_iff alphanum).mpr ?_⟩, head?_eq_of_words alphanum split ▸ head⟩
    rw [split, List.forall_mem_cons]
    exact ⟨tail, fun other mem => ((titledFixed other mem).mp (kept other mem)).2⟩
  next =>
    rintro ⟨⟨alphanum, apart⟩, head⟩
    have tails := (apart_iff alphanum).mp apart
    rw [split, List.forall_mem_cons] at tails
    rw [head?_eq_of_words alphanum split] at head
    refine ⟨fun c mem => isAlphanumeric_of_isAlphanum (alphanum c mem), ⟨head, tails.1⟩, ?_⟩
    intro other mem
    exact (titledFixed other mem).mpr ⟨head?_others alphanum split other mem, tails.2 other mem⟩

theorem camel_eq_self_iff (ascii : IsAscii s) (filled : words s ≠ []) :
    convert camel s = s ↔ Language camel s := by
  obtain ⟨first, others, split⟩ := List.exists_cons_of_ne_nil filled
  have among : first ∈ words s := by simp [split]
  have asciiFirst := isAscii_of_mem_words ascii among
  have fixed : Text.lower first = first ↔
      (∀ c ∈ first.head?, c.isUpper = false) ∧ ∀ c ∈ first.tail, c.isUpper = false := by
    rw [lower_eq_self_iff asciiFirst]
    cases first <;> simp [Language]
  simp only [convert, split]
  exact humps_eq_self_iff ascii split (lower_shape asciiFirst (isWord_of_mem among)) fixed

theorem pascal_eq_self_iff (ascii : IsAscii s) (filled : words s ≠ []) :
    convert pascal s = s ↔ Language pascal s := by
  obtain ⟨first, others, split⟩ := List.exists_cons_of_ne_nil filled
  have among : first ∈ words s := by simp [split]
  have asciiFirst := isAscii_of_mem_words ascii among
  rw [convert, split, List.flatMap_cons]
  exact humps_eq_self_iff ascii split (titled_shape asciiFirst (isWord_of_mem among))
    (titled_eq_self_iff asciiFirst)

end Humps

section Fits

variable {s : List Char}

theorem hasCasedLetter_iff (ascii : IsAscii s) :
    hasCasedLetter s = true ↔ ∃ c ∈ s, c.isAlpha = true := by
  rw [hasCasedLetter, List.any_eq_true]
  refine exists_congr fun c => and_congr_right fun mem => ?_
  rw [isLowercase_ascii (ascii c mem), isUppercase_ascii (ascii c mem), Char.isAlpha, Bool.or_comm]

theorem words_ne_nil_of_letter (lettered : ∃ c ∈ s, c.isAlpha = true) : words s ≠ [] := by
  obtain ⟨c, mem, alpha⟩ := lettered
  have kept : c ∈ (words s).flatten := by
    rw [words_flatten]
    exact List.mem_filter.mpr ⟨mem, isAlphanumeric_of_isAlphanum (by simp [Char.isAlphanum, alpha])⟩
  intro none
  simp [none] at kept

theorem convert_eq_self_iff (ascii : IsAscii s) (filled : words s ≠ []) (letterCase : LetterCase) :
    letterCase.convert s = s ↔ Language letterCase s := by
  have small (separator : Char) (separates : isAlphanumeric separator = false) :
      [separator].intercalate ((words s).map Text.lower) = s ↔ Separated separator SmallRun s :=
    joined_eq_self_iff separates filled
      (fun _ mem => smallRun_lower (isAscii_of_mem_words ascii mem) (isWord_of_mem mem))
      fun _ => isWord_of_smallRun
  cases letterCase with
  | lower => exact lower_eq_self_iff ascii
  | upper => exact upper_eq_self_iff ascii
  | camel => exact camel_eq_self_iff ascii filled
  | kebab => exact small '-' (by decide)
  | pascal => exact pascal_eq_self_iff ascii filled
  | sentence => exact titled_eq_self_iff ascii
  | snake => exact small '_' (by decide)
  | start =>
    exact joined_eq_self_iff (by decide) filled
      (fun _ mem => startRun_capitalize (isAscii_of_mem_words ascii mem) (isWord_of_mem mem))
      fun _ => isWord_of_startRun

/-- The cases recognise their languages among the texts of ASCII characters with a letter. -/
theorem fits_exact (ascii : IsAscii s) (letterCase : LetterCase) :
    ((∃ c ∈ s, c.isAlpha = true) → (letterCase.fits s = true ↔ Language letterCase s)) ∧
    ((∀ c ∈ s, c.isAlpha = false) → letterCase.fits s = true) := by
  constructor
  next =>
    intro lettered
    rw [fits, (hasCasedLetter_iff ascii).mpr lettered, Bool.not_true, Bool.false_or, beq_iff_eq]
    exact convert_eq_self_iff ascii (words_ne_nil_of_letter lettered) letterCase
  next =>
    intro letterless
    have none : hasCasedLetter s = false := by
      rw [← Bool.not_eq_true, hasCasedLetter_iff ascii]
      simpa using letterless
    simp [fits, none]

end Fits

theorem fits_exact_aHT1 :
    IsAscii ['a', 'H', 'T', '1'] ∧ fits camel ['a', 'H', 'T', '1'] = false ∧
    IsAscii ['1', '-', '-', '2'] ∧ fits kebab ['1', '-', '-', '2'] = true := by
  have capitals : IsAscii ['a', 'H', 'T', '1'] := by simp [IsAscii]
  have letterless : IsAscii ['1', '-', '-', '2'] := by simp [IsAscii]
  have lettered : ∃ c ∈ ['a', 'H', 'T', '1'], c.isAlpha = true := ⟨'a', by simp, rfl⟩
  refine ⟨capitals, ?_, letterless, (fits_exact letterless kebab).2 (by simp)⟩
  rw [← Bool.not_eq_true, (fits_exact capitals camel).1 lettered]
  rintro ⟨⟨_, apart⟩, _⟩
  exact absurd apart (by decide)

end HeaderLint.LetterCase
