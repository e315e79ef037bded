import HeaderLint.Proofs.LetterCase.Languages

set_option autoImplicit false

namespace HeaderLint.LetterCase

open Text

section Settled

variable {s : List Char} {letterCase : LetterCase}

theorem isAscii_lower (ascii : IsAscii s) : IsAscii (Text.lower s) := by
  rw [lower_ascii ascii, IsAscii, List.forall_mem_map]
  exact fun c mem => toNat_toLower_lt (ascii c mem)

theorem isAscii_upper (ascii : IsAscii s) : IsAscii (Text.upper s) := by
  rw [upper_ascii ascii, IsAscii, List.forall_mem_map]
  exact fun c mem => toNat_toUpper_lt (ascii c mem)

theorem isAscii_titled (ascii : IsAscii s) : IsAscii (titled s) := by
  cases s with
  | nil => exact ascii
  | cons c rest =>
    rw [titled_ascii ascii, IsAscii, List.forall_mem_cons, List.forall_mem_map]
    exact ⟨toNat_toUpper_lt (ascii c (by simp)), fun d mem => toNat_toLower_lt (ascii.tail d mem)⟩

theorem language_titled (ascii : IsAscii s) : Language sentence (titled s) := by
  cases s with
  | nil => exact ⟨nofun, nofun⟩
  | cons c rest =>
    rw [titled_ascii ascii]
    constructor
    next => simp
    next =>
      rw [List.tail_cons, List.forall_mem_map]
      exact fun d _ => Char.isUpper_toLower_eq_false d

theorem joined_words_joined {separator : Char} {recase : List Char → List Char}
    {Run : List Char → Prop} (separates : isAlphanumeric separator = false)
    (recased : ∀ word ∈ words s, recase word ≠ [] ∧ Run (recase word))
    (fixed : ∀ run, run ≠ [] → Run run → IsWord run ∧ recase run = run) :
    [separator].intercalate
        ((words ([separator].intercalate ((words s).map recase))).map recase) =
      [separator].intercalate ((words s).map recase) := by
  have settled : ∀ run ∈ (words s).map recase, IsWord run ∧ recase run = run := by
    rw [List.forall_mem_map]
    exact fun word mem => fixed _ (recased word mem).1 (recased word mem).2
  rw [words_joined_words separates fun run mem => (settled run mem).1,
    map_eq_self_iff.mpr fun run mem => (settled run mem).2]

theorem convert_convert (ascii : IsAscii s) (notCamel : letterCase ≠ camel)
    (notPascal : letterCase ≠ pascal) :
    letterCase.convert (letterCase.convert s) = letterCase.convert s := by
  have small (separator : Char) (separates : isAlphanumeric separator = false) :=
    joined_words_joined separates
      (fun _ mem => smallRun_lower (isAscii_of_mem_words ascii mem) (isWord_of_mem mem))
      fun _ => isWord_of_smallRun
  cases letterCase with
  | lower =>
    apply (lower_eq_self_iff (isAscii_lower ascii)).mpr
    rw [Language, lower_ascii ascii, List.forall_mem_map]
    exact fun c _ => Char.isUpper_toLower_eq_false c
  | upper =>
    apply (upper_eq_self_iff (isAscii_upper ascii)).mpr
    rw [Language, upper_ascii ascii, List.forall_mem_map]
    exact fun c _ => Char.isLower_toUpper_eq_false c
  | sentence => exact (titled_eq_self_iff (isAscii_titled ascii)).mpr (language_titled ascii)
  | kebab => exact small '-' (by decide)
  | snake => exact small '_' (by decide)
  | start =>
    exact joined_words_joined (by decide)
      (fun _ mem => startRun_capitalize (isAscii_of_mem_words ascii mem) (isWord_of_mem mem))
      fun _ => isWord_of_startRun
  | camel => exact absurd rfl notCamel
  | pascal => exact absurd rfl notPascal

theorem fits_convert (ascii : IsAscii s) (notCamel : letterCase ≠ camel)
    (notPascal : letterCase ≠ pascal) : letterCase.fits (letterCase.convert s) = true := by
  rw [fits, convert_convert ascii notCamel notPascal, beq_self_eq_true, Bool.or_true]

end Settled

section Humps

variable {s word next : List Char} {runs : List (List Char)}

theorem fits_iff (ascii : IsAscii s) (letterCase : LetterCase) :
    letterCase.fits s = true ↔ ((∃ c ∈ s, c.isAlpha = true) → Language letterCase s) := by
  rw [fits, Bool.or_eq_true, Bool.not_eq_true', beq_iff_eq, ← Bool.not_eq_true,
    hasCasedLetter_iff ascii, ← imp_iff_not_or]
  exact imp_congr_right fun lettered =>
    convert_eq_self_iff ascii (words_ne_nil_of_letter lettered) letterCase

@[simp] theorem fits_nil (letterCase : LetterCase) : letterCase.fits [] = true :=
  rfl

structure Hump (run : List Char) : Prop where
  filled : run ≠ []
  alphanum : ∀ c ∈ run, c.isAlphanum = true
  tail : ∀ c ∈ run.tail, c.isUpper = false

theorem apart_of_tail (tail : ∀ c ∈ s.tail, c.isUpper = false) : Apart s := by
  cases s with
  | nil => exact List.isChain_nil
  | cons c rest =>
    induction rest generalizing c with
    | nil => exact List.isChain_singleton c
    | cons d rest ih =>
      rw [List.tail_cons, List.forall_mem_cons] at tail
      apply List.isChain_cons_cons.mpr
      constructor
      next => simp [tail.1]
      next => exact ih d tail.2

theorem hump_titled (ascii : IsAscii word) (isWord : IsWord word) : Hump (titled word) := by
  obtain ⟨filled, alphanum, _⟩ := (isWord_iff ascii).mp isWord
  constructor
  case tail => exact (language_titled ascii).2
  all_goals
    obtain ⟨c, rest, rfl⟩ := List.exists_cons_of_ne_nil filled
    rw [titled_ascii ascii]
  case filled => simp
  case alphanum => simpa [List.forall_mem_cons] using alphanum

theorem hump_lower (ascii : IsAscii word) (isWord : IsWord word) :
    Hump (Text.lower word) ∧ ∀ c ∈ Text.lower word, c.isUpper = false := by
  obtain ⟨filled, alphanum, _⟩ := (isWord_iff ascii).mp isWord
  have small : ∀ c ∈ Text.lower word, c.isUpper = false := by
    rw [lower_ascii ascii, List.forall_mem_map]
    exact fun c _ => Char.isUpper_toLower_eq_false c
  refine ⟨⟨?_, ?_, fun c mem => small c (List.mem_of_mem_tail mem)⟩, small⟩
  next => simpa [lower_ascii ascii] using filled
  next => simpa [lower_ascii ascii] using alphanum

def Clash (run next : List Char) : Prop :=
  ∃ c ∈ run.getLast?, ∃ d ∈ next.head?, c.isUpper = true ∧ d.isUpper = true

/-- Joined humps are humped as long as no two neighbours clash. -/
theorem apart_flatten_iff (humps : ∀ run ∈ runs, Hump run) :
    Apart runs.flatten ↔ runs.IsChain fun run next => ¬ Clash run next := by
  have filled : [] ∉ runs := fun mem => (humps [] mem).filled rfl
  have within : ∀ run ∈ runs, Apart run := fun run mem => apart_of_tail (humps run mem).tail
  rw [Apart, List.isChain_flatten filled]
  apply (and_iff_right within).trans
  simp only [Clash, not_exists, not_and]

theorem apart_of_letterless (letterless : ¬ ∃ c ∈ s, c.isAlpha = true) : Apart s := by
  apply apart_of_tail
  intro c mem
  rw [← Bool.not_eq_true]
  intro capital
  exact letterless ⟨c, List.mem_of_mem_tail mem, by simp [Char.isAlpha, capital]⟩

theorem fits_flatten_eq_false_iff {letterCase : LetterCase} {Head : Char → Prop} {run : List Char}
    (language : ∀ s, Language letterCase s ↔ Humped s ∧ ∀ c ∈ s.head?, Head c)
    (head : ∀ c ∈ run.head?, Head c) (humps : ∀ hump ∈ run :: runs, Hump hump) :
    letterCase.fits (run :: runs).flatten = false ↔
      ¬ (run :: runs).IsChain fun run next => ¬ Clash run next := by
  have alphanum : ∀ c ∈ (run :: runs).flatten, c.isAlphanum = true := by
    intro c mem
    obtain ⟨hump, among, within⟩ := List.mem_flatten.mp mem
    exact (humps hump among).alphanum c within
  have first : ∀ c ∈ (run :: runs).flatten.head?, Head c := by
    rw [List.flatten_cons, List.head?_append_of_ne_nil run (humps run List.mem_cons_self).filled]
    exact head
  rw [← apart_flatten_iff humps, ← Bool.not_eq_true, fits_iff (isAscii_of_alphanum alphanum),
    language, not_iff_not]
  constructor
  next =>
    intro ofLettered
    by_cases lettered : ∃ c ∈ (run :: runs).flatten, c.isAlpha = true
    next => exact (ofLettered lettered).1.apart
    next => exact apart_of_letterless lettered
  next => exact fun apart _ => ⟨⟨alphanum, apart⟩, first⟩

/-- At this place stands a word of a single letter, and a word behind it that begins with a letter. -/
def MergesAt (runs : List (List Char)) (i : Nat) : Prop :=
  ∃ c d rest, runs[i]? = some [c] ∧ c.isAlpha = true ∧
    runs[i + 1]? = some (d :: rest) ∧ d.isAlpha = true

theorem clash_titled_iff {c d : Char} {rest others : List Char} (ascii : IsAscii (c :: rest))
    (asciiNext : IsAscii (d :: others)) :
    Clash (titled (c :: rest)) (titled (d :: others)) ↔
      rest = [] ∧ c.isAlpha = true ∧ d.isAlpha = true := by
  rw [titled_ascii ascii, titled_ascii asciiNext, Clash]
  rcases List.eq_nil_or_concat' rest with rfl | ⟨rest, last, rfl⟩
  next => simp
  next =>
    have ends : (c.toUpper :: (rest ++ [last]).map Char.toLower).getLast? = some last.toLower := by
      rw [List.map_append, List.map_singleton, ← List.cons_append, List.getLast?_concat]
    rw [ends]
    simp

theorem not_isChain_iff {A : Type} {R : A → A → Prop} {l : List A} :
    ¬ l.IsChain (fun a b => ¬ R a b) ↔ ∃ i a b, l[i]? = some a ∧ l[i + 1]? = some b ∧ R a b := by
  rw [List.isChain_iff_getElem]
  simp only [not_forall, not_not, List.getElem?_eq_some_iff]
  constructor
  next =>
    rintro ⟨i, within, related⟩
    exact ⟨i, _, _, ⟨by omega, rfl⟩, ⟨within, rfl⟩, related⟩
  next =>
    rintro ⟨i, _, _, ⟨_, rfl⟩, ⟨within, rfl⟩, related⟩
    exact ⟨i, within, related⟩

theorem not_isChain_titled_iff (each : ∀ run ∈ runs, run ≠ [] ∧ IsAscii run) :
    (¬ (runs.map titled).IsChain fun run next => ¬ Clash run next) ↔ ∃ i, MergesAt runs i := by
  rw [List.isChain_map, not_isChain_iff]
  apply exists_congr
  intro i
  constructor
  next =>
    rintro ⟨word, next, here, behind, clash⟩
    obtain ⟨filled, ascii⟩ := each word (List.mem_of_getElem? here)
    obtain ⟨filledNext, asciiNext⟩ := each next (List.mem_of_getElem? behind)
    obtain ⟨c, rest, rfl⟩ := List.exists_cons_of_ne_nil filled
    obtain ⟨d, others, rfl⟩ := List.exists_cons_of_ne_nil filledNext
    obtain ⟨rfl, letter, letterNext⟩ := (clash_titled_iff ascii asciiNext).mp clash
    exact ⟨c, d, others, here, letter, behind, letterNext⟩
  next =>
    rintro ⟨c, d, others, here, letter, behind, letterNext⟩
    have ascii := (each [c] (List.mem_of_getElem? here)).2
    have asciiNext := (each (d :: others) (List.mem_of_getElem? behind)).2
    exact ⟨[c], d :: others, here, behind,
      (clash_titled_iff ascii asciiNext).mpr ⟨rfl, letter, letterNext⟩⟩

theorem fits_pascal_eq_false_iff (ascii : IsAscii s) :
    fits pascal (convert pascal s) = false ↔ ∃ i, MergesAt (words s) i := by
  have each : ∀ word ∈ words s, IsWord word ∧ IsAscii word := fun word mem =>
    ⟨isWord_of_mem mem, isAscii_of_mem_words ascii mem⟩
  rw [convert]
  cases split : words s with
  | nil => simp [MergesAt]
  | cons first others =>
    rw [split] at each
    have humps : ∀ run ∈ (first :: others).map titled, Hump run := by
      rw [List.forall_mem_map]
      exact fun word mem => hump_titled (each word mem).2 (each word mem).1
    rw [← not_isChain_titled_iff fun word mem => ⟨(each word mem).1.filled, (each word mem).2⟩]
    exact fits_flatten_eq_false_iff (fun _ => Iff.rfl)
      (language_titled (each first List.mem_cons_self).2).1 humps

theorem fits_camel_eq_false_iff (ascii : IsAscii s) :
    fits camel (convert camel s) = false ↔ ∃ i, 1 ≤ i ∧ MergesAt (words s) i := by
  have each : ∀ word ∈ words s, IsWord word ∧ IsAscii word := fun word mem =>
    ⟨isWord_of_mem mem, isAscii_of_mem_words ascii mem⟩
  rw [convert]
  cases split : words s with
  | nil => simp [MergesAt]
  | cons first others =>
    rw [split, List.forall_mem_cons] at each
    obtain ⟨⟨isWord, asciiFirst⟩, each⟩ := each
    obtain ⟨hump, small⟩ := hump_lower asciiFirst isWord
    have humps : ∀ run ∈ Text.lower first :: others.map titled, Hump run := by
      rw [List.forall_mem_cons, List.forall_mem_map]
      exact ⟨hump, fun word mem => hump_titled (each word mem).2 (each word mem).1⟩
    have further : (∃ i, 1 ≤ i ∧ MergesAt (first :: others) i) ↔ ∃ i, MergesAt others i := by
      constructor
      next =>
        rintro ⟨_ | i, positive, merges⟩
        next => cases positive
        next => exact ⟨i, merges⟩
      next =>
        rintro ⟨i, merges⟩
        exact ⟨i + 1, Nat.le_add_left 1 i, merges⟩
    rw [further,
      ← not_isChain_titled_iff fun word mem => ⟨(each word mem).1.filled, (each word mem).2⟩]
    apply Iff.trans (fits_flatten_eq_false_iff (fun _ => Iff.rfl)
      (fun c mem => small c (List.mem_of_mem_head? mem)) humps)
    apply not_congr
    rw [List.isChain_cons]
    apply and_iff_right
    rintro run _ ⟨c, last, _, _, capital, _⟩
    exact absurd capital (by simp [small c (List.mem_of_mem_getLast? last)])

end Humps

/-- What a case makes of a text is in that case, but for humps: a word of one letter takes the capital
behind it into a run of capitals, unless it is the first word in camel case, which stays small. -/
theorem fits_convert_exact {s : List Char} (ascii : IsAscii s) :
    (∀ letterCase ∈ [lower, upper, sentence, kebab, snake, start],
      letterCase.fits (letterCase.convert s) = true) ∧
    (fits pascal (convert pascal s) = false ↔ ∃ i, MergesAt (words s) i) ∧
    (fits camel (convert camel s) = false ↔ ∃ i, 1 ≤ i ∧ MergesAt (words s) i) := by
  refine ⟨fun letterCase mem => ?_, fits_pascal_eq_false_iff ascii, fits_camel_eq_false_iff ascii⟩
  apply fits_convert ascii
  next =>
    rintro rfl
    simp at mem
  next =>
    rintro rfl
    simp at mem

theorem fits_convert_exact_getAValue :
    IsAscii "get a value".toList ∧
      convert camel "get a value".toList = "getAValue".toList ∧
      fits camel "getAValue".toList = false ∧
      fits pascal (convert pascal "a1 value".toList) = true ∧
      fits kebab (convert kebab "get a value".toList) = true := by
  have ascii : IsAscii "get a value".toList := by simp [IsAscii]
  have asciiDigit : IsAscii "a1 value".toList := by simp [IsAscii]
  have converted : convert camel "get a value".toList = "getAValue".toList := by decide +kernel
  obtain ⟨settled, _, merged⟩ := fits_convert_exact ascii
  refine ⟨ascii, converted, ?_, ?_, settled kebab (by simp)⟩
  next =>
    rw [← converted, merged]
    refine ⟨1, Nat.le_refl 1, 'a', 'v', "alue".toList, ?_⟩
    decide +kernel
  next =>
    rw [← Bool.not_eq_false, (fits_convert_exact asciiDigit).2.1]
    have split : words "a1 value".toList = ["a1".toList, "value".toList] := by decide +kernel
    rw [split]
    rintro ⟨_ | i, c, d, rest, here, _, behind, _⟩
    next => simp at here
    next => simp at behind

end HeaderLint.LetterCase
