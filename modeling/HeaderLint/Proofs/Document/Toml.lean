import HeaderLint.Document.Toml
import HeaderLint.Proofs.Document.Written

set_option autoImplicit false

namespace HeaderLint.Document.Toml

@[simp] theorem digitBelow?_ten {c : Char} (digit : c.isDigit = true) :
    digitBelow? 10 c = some (c.toNat - '0'.toNat) := by
  have range : 48 ≤ c.toNat ∧ c.toNat ≤ 57 := Char.isDigit_iff_toNat.mp digit
  have small : ¬ 'a' ≤ c := by simp [Char.le_def, UInt32.le_iff_toNat_le]; omega
  have large : ¬ 'A' ≤ c := by simp [Char.le_def, UInt32.le_iff_toNat_le]; omega
  have below : c.toNat - 48 < 10 := by omega
  simp [digitBelow?, hexDigit?, decimalDigit?, small, large, digit, below]

theorem digits?_closed {rest : List Char} (closes : Closes rest) (value : Nat) :
    digits? (digitBelow? 10) 10 value rest = some (value, rest) := by
  cases rest with
  | nil => rfl
  | cons c rest =>
    have closer := closes c rfl
    simp only [List.mem_cons, List.not_mem_nil, or_false] at closer
    rcases closer with rfl | rfl | rfl | rfl <;> rfl

theorem digits?_run {digits rest : List Char} (run : ∀ c ∈ digits, c.isDigit = true)
    (closes : Closes rest) (value : Nat) :
    digits? (digitBelow? 10) 10 value (digits ++ rest) =
      some (Nat.ofDigitChars 10 digits value, rest) := by
  induction digits generalizing value with
  | nil => exact digits?_closed closes value
  | cons c digits ih =>
    have digit := run c (by simp)
    have later := ih (fun c mem => run c (List.mem_cons_of_mem _ mem))
    rw [List.cons_append, digits?]
    next => simp [digitBelow?_ten digit, later, Nat.ofDigitChars, Nat.mul_comm]
    next =>
      rintro _ _ rfl
      simp at digit

theorem decimal?_numeral {n : Nat} {digits rest : List Char} (numeral : Numeral n digits)
    (closes : Closes rest) : decimal? (digits ++ rest) = some (n, rest) := by
  obtain ⟨first, more, rfl, single⟩ := numeral.lead
  obtain rfl := numeral.value
  by_cases zero : first = '0'
  next =>
    obtain rfl := zero
    rw [single rfl]
    rfl
  next =>
    have digit := numeral.isDigit first (by simp)
    have run := digits?_run (fun c mem => numeral.isDigit c (List.mem_cons_of_mem _ mem)) closes
    rw [List.cons_append, decimal?]
    next => simp [natural?, digitBelow?_ten digit, run, Nat.ofDigitChars]
    next => exact fun _ same => zero (List.cons.inj same).1

-- A number of one zero stands before nothing that would make it a prefix of another base.
theorem ne_base_cons {n : Nat} {digits rest : List Char} (numeral : Numeral n digits)
    (closes : Closes rest) {base : Char} (letter : base ∉ [',', ']', '}', '\n'])
    (more : List Char) : digits ++ rest ≠ '0' :: base :: more := by
  obtain ⟨first, others, rfl, single⟩ := numeral.lead
  intro same
  obtain ⟨zero, left⟩ := List.cons.inj same
  rw [single zero] at left
  change rest = base :: more at left
  exact letter (closes base (by rw [left]; rfl))

theorem integer?_unsigned {n : Nat} {digits rest : List Char} (numeral : Numeral n digits)
    (closes : Closes rest) : integer? (digits ++ rest) = some (↑n, rest) := by
  have read := decimal?_numeral numeral closes
  unfold integer?
  split
  next same => exact absurd same (ne_base_cons numeral closes (by decide) _)
  next same => exact absurd same (ne_base_cons numeral closes (by decide) _)
  next same => exact absurd same (ne_base_cons numeral closes (by decide) _)
  next same => exact absurd same (numeral.ne_cons (by decide) rest _)
  next same => exact absurd same (numeral.ne_cons (by decide) rest _)
  next => simp [read]

theorem integer?_decimal (n : Int) {rest : List Char} (closes : Closes rest) :
    integer? (decimal n ++ rest) = some (n, rest) := by
  obtain ⟨k, digits, numeral, ⟨rfl, written⟩ | ⟨rfl, -, written⟩⟩ := decimal_cases n
  next =>
    rw [written]
    exact integer?_unsigned numeral closes
  next => simp [written, integer?, decimal?_numeral numeral closes]

theorem value?_decimal (n : Int) : Reads value? (decimal n) (.integer n) := by
  refine ⟨opens_decimal n, fun fuel rest enough closes => ?_⟩
  obtain ⟨fuel, rfl⟩ := (opens_decimal n).fuel enough
  obtain ⟨c, more, written, first⟩ := decimal_first n
  have read := integer?_decimal n closes
  rw [written, List.cons_append] at read ⊢
  unfold value?
  split
  all_goals first
    | rw [read]
      rfl
    | rename_i same
      cases same
      simp at first

theorem value?_flag (b : Bool) : Reads value? (flag b) (.boolean b) := by
  refine ⟨opens_flag b, fun fuel rest enough _ => ?_⟩
  obtain ⟨fuel, rfl⟩ := (opens_flag b).fuel enough
  cases b <;> simp [flag, value?, after?]

theorem basic?_plain {cs : List Char} (plain : ∀ c ∈ cs, c ≠ '"' ∧ c ≠ '\\' ∧ isPrintable c = true)
    (rest : List Char) : basic? (cs ++ '"' :: rest) = some (cs, rest) := by
  induction cs with
  | nil => rfl
  | cons c cs ih =>
    obtain ⟨quote, backslash, printable⟩ := plain c (by simp)
    have here := ih fun c mem => plain c (List.mem_cons_of_mem _ mem)
    rw [List.cons_append, basic?]
    next => simp [printable, here, prepend]
    next => exact quote
    next => exact fun _ _ _ _ _ same => absurd same backslash
    next => exact fun _ _ _ _ _ _ _ _ _ same => absurd same backslash
    next => exact fun _ _ same => absurd same backslash

theorem string?_inQuotes {s : String} (plain : Plain s) {rest : List Char} (closes : Closes rest) :
    string? (inQuotes s ++ rest) = some (s.toList, rest) := by
  have basic : basic? (s.toList ++ '"' :: rest) = some (s.toList, rest) := by
    refine basic?_plain (fun c mem => ?_) rest
    obtain ⟨quote, backslash, low, delete⟩ := plain c mem
    exact ⟨quote, backslash, by simp [isPrintable, low, delete]⟩
  rw [inQuotes, List.cons_append, List.append_assoc, List.singleton_append]
  rw [string?]
  next => exact basic
  next =>
    -- Two quotes stand for no text, so a third one would have to come after them.
    intro more same
    cases empty : s.toList with
    | nil =>
      rw [empty] at same
      obtain rfl : rest = '"' :: more := (List.cons.inj same).2
      simpa using closes '"' rfl
    | cons c cs =>
      rw [empty] at same
      exact (plain c (by simp [empty])).1 (List.cons.inj same).1

theorem value?_inQuotes {s : String} (plain : Plain s) : Reads value? (inQuotes s) (.text s) := by
  refine ⟨opens_inQuotes s, fun fuel rest enough closes => ?_⟩
  obtain ⟨fuel, rfl⟩ := (opens_inQuotes s).fuel enough
  have read := string?_inQuotes plain closes
  rw [inQuotes, List.cons_append] at read ⊢
  rw [value?, read]
  simp

theorem skipSpace?_opens {s : List Char} (opens : Opens s) : skipSpace? false s = some s := by
  obtain ⟨c, more, rfl, outside⟩ := opens
  simp only [List.mem_cons, List.not_mem_nil, not_or] at outside
  obtain ⟨space, tab, lineFeed, carriage, comment, -⟩ := outside
  rw [skipSpace?]
  next => simp [isBlank, space, tab, comment]
  next => exact lineFeed
  next => exact fun _ same => absurd same carriage

theorem items?_part {written : List Char} {document : Document}
    (reads : Reads value? written document) : ReadsPart items? ']' written document := by
  constructor
  next => exact reads.opens
  next =>
    intro fuel rest enough
    have item := reads.reads fuel (']' :: rest) enough (by simp [Closes])
    rw [items?, item]
    rfl
  next =>
    intro fuel next items rest enough opens others
    have item := reads.reads fuel (',' :: ' ' :: next) enough (by simp [Closes])
    have space : skipSpace? false (' ' :: next) = some next := skipSpace?_opens opens
    have comma : skipSpace? false (',' :: ' ' :: next) = some (',' :: ' ' :: next) := rfl
    simp only [items?, item, comma, space, Option.bind_eq_bind, Option.bind_some]
    split
    next more => exact absurd rfl (opens.ne_cons (by simp) more)
    next => simp [others]

def indented (part : List Char) : List Char :=
  ' ' :: ' ' :: ' ' :: ' ' :: (part ++ [',', '\n'])

theorem length_indented (part : List Char) : (indented part).length = part.length + 6 := by
  simp [indented]

def stacked (parts : List (List Char)) : List Char :=
  '[' :: '\n' :: (parts.flatMap indented ++ [']'])

section Parts

variable {A : Type} {written : A → List Char} {document : A → Document} {items : List A}

theorem value?_bracketed (each : ∀ a ∈ items, Reads value? (written a) (document a)) :
    Reads value? (bracketed (items.map written)) (.list (items.map document)) := by
  refine ⟨opens_bracketed _, fun fuel rest enough _ => ?_⟩
  obtain ⟨fuel, rfl⟩ := (opens_bracketed _).fuel enough
  simp only [bracketed, List.length_cons, List.length_append] at enough
  by_cases filled : items = []
  next =>
    obtain rfl := filled
    rfl
  next =>
    have parts (a : A) (mem : a ∈ items) := items?_part (each a mem)
    have opens := opens_parts parts filled (']' :: rest)
    have read := parts?_separated parts filled fuel rest (by omega)
    rw [bracketed, List.cons_append, List.append_assoc, List.singleton_append, value?]
    simp only [skipSpace?_opens opens, Option.bind_eq_bind, Option.bind_some]
    split
    next same => exact absurd same (opens.ne_cons (by simp) _)
    next => simp [read]

theorem skipSpace?_indented {part : List Char} (opens : Opens part) (rest : List Char) :
    skipSpace? false ('\n' :: (indented part ++ rest)) = some (part ++ ',' :: '\n' :: rest) := by
  have start : indented part ++ rest = ' ' :: ' ' :: ' ' :: ' ' :: (part ++ ',' :: '\n' :: rest) := by
    simp [indented]
  rw [start]
  exact skipSpace?_opens (opens.append _)

-- The reader stands at the first item; what indents it has been skipped.
theorem items?_indented {first : A} {others : List A}
    (each : ∀ a ∈ first :: others, Reads value? (written a) (document a)) (fuel : Nat)
    (rest : List Char)
    (enough : (written first).length + (others.flatMap fun a => indented (written a)).length < fuel) :
    items? fuel (written first ++
        ',' :: '\n' :: ((others.flatMap fun a => indented (written a)) ++ ']' :: rest)) =
      some ((first :: others).map document, rest) := by
  induction others generalizing first fuel with
  | nil =>
    obtain ⟨fuel, rfl⟩ : ∃ less, fuel = less + 1 := ⟨fuel - 1, by omega⟩
    have item := (each first (by simp)).reads fuel (',' :: '\n' :: ']' :: rest) (by omega)
      (by simp [Closes])
    have comma : skipSpace? false (',' :: '\n' :: ']' :: rest) = some (',' :: '\n' :: ']' :: rest) :=
      rfl
    have closed : skipSpace? false ('\n' :: ']' :: rest) = some (']' :: rest) := rfl
    simp [items?, item, comma, closed]
  | cons second others ih =>
    obtain ⟨fuel, rfl⟩ : ∃ less, fuel = less + 1 := ⟨fuel - 1, by omega⟩
    have later (a : A) (mem : a ∈ second :: others) := each a (List.mem_cons_of_mem _ mem)
    let tail := (others.flatMap fun a => indented (written a)) ++ ']' :: rest
    have split : ((second :: others).flatMap fun a => indented (written a)) ++ ']' :: rest =
        indented (written second) ++ tail := by
      simp [tail]
    have opens := (later second (by simp)).opens
    have item := (each first (by simp)).reads fuel
      (',' :: '\n' :: (indented (written second) ++ tail)) (by omega) (by simp [Closes])
    have comma : skipSpace? false (',' :: '\n' :: (indented (written second) ++ tail)) =
        some (',' :: '\n' :: (indented (written second) ++ tail)) := rfl
    have moved := skipSpace?_indented opens tail
    rw [List.flatMap_cons, List.length_append, length_indented] at enough
    have items := ih later fuel (by omega)
    rw [split]
    simp only [items?, item, comma, moved, Option.bind_eq_bind, Option.bind_some]
    split
    next same => exact absurd same ((opens.append _).ne_cons (by simp) _)
    next => simp [tail, items]

theorem value?_stacked (each : ∀ a ∈ items, Reads value? (written a) (document a)) :
    Reads value? (stacked (items.map written)) (.list (items.map document)) := by
  have opens : Opens (stacked (items.map written)) := ⟨_, _, rfl, by decide⟩
  refine ⟨opens, fun fuel rest enough _ => ?_⟩
  obtain ⟨fuel, rfl⟩ := opens.fuel enough
  cases items with
  | nil => rfl
  | cons first others =>
    have moved := skipSpace?_indented (each first (by simp)).opens
      ((others.flatMap fun a => indented (written a)) ++ ']' :: rest)
    have whole : stacked ((first :: others).map written) ++ rest = '[' :: '\n' ::
        (indented (written first) ++
          ((others.flatMap fun a => indented (written a)) ++ ']' :: rest)) := by
      simp [stacked, List.flatMap_map]
    simp only [stacked, List.map_cons, List.flatMap_cons, List.flatMap_map, List.length_cons,
      List.length_append, length_indented] at enough
    have read := items?_indented each fuel rest (by omega)
    rw [whole, value?]
    simp only [moved, Option.bind_eq_bind, Option.bind_some]
    split
    next same => exact absurd same (((each first (by simp)).opens.append _).ne_cons (by simp) _)
    next => simp [read]

end Parts

theorem readsValues : ReadsValues value? :=
  ⟨value?_flag, value?_decimal, fun _ => value?_inQuotes, value?_bracketed⟩

structure Bare (name : String) : Prop where
  filled : name ≠ ""
  chars : ∀ c ∈ name.toList, c.isAlphanum = true ∨ c = '-' ∨ c = '_'

instance (name : String) : Decidable (Bare name) :=
  have := List.decidableBAll (fun c => c.isAlphanum = true ∨ c = '-' ∨ c = '_') name.toList
  decidable_of_iff (name ≠ "" ∧ ∀ c ∈ name.toList, c.isAlphanum = true ∨ c = '-' ∨ c = '_')
    ⟨fun ⟨filled, chars⟩ => ⟨filled, chars⟩, fun bare => ⟨bare.filled, bare.chars⟩⟩

def line (name : String) (written : List Char) : List Char :=
  name.toList ++ ' ' :: '=' :: ' ' :: (written ++ ['\n'])

def heading (name : String) : List Char :=
  '[' :: (name.toList ++ [']', '\n'])

theorem Bare.isBareKeyChar {name : String} (bare : Bare name) :
    ∀ c ∈ name.toList, isBareKeyChar c = true := by
  intro c mem
  simpa [Toml.isBareKeyChar, or_assoc] using bare.chars c mem

theorem Bare.first {name : String} (bare : Bare name) :
    ∃ c more, name.toList = c :: more ∧ Toml.isBareKeyChar c = true := by
  cases written : name.toList with
  | nil => exact absurd (String.toList_eq_nil_iff.mp written) bare.filled
  | cons c more => exact ⟨c, more, rfl, bare.isBareKeyChar c (by simp [written])⟩

theorem Bare.ne_cons {name : String} (bare : Bare name) {c : Char}
    (other : Toml.isBareKeyChar c = false) (rest more : List Char) :
    name.toList ++ rest ≠ c :: more := by
  obtain ⟨first, others, written, inside⟩ := bare.first
  rw [written]
  rintro ⟨⟩
  simp [other] at inside

theorem Bare.opens {name : String} (bare : Bare name) : Opens name.toList := by
  obtain ⟨c, more, written, first⟩ := bare.first
  refine ⟨c, more, written, fun skipped => ?_⟩
  simp only [List.mem_cons, List.not_mem_nil, or_false] at skipped
  rcases skipped with rfl | rfl | rfl | rfl | rfl | rfl | rfl <;> simp [Toml.isBareKeyChar] at first

theorem key?_bare {name : String} (bare : Bare name) {rest : List Char}
    (outside : ∀ c ∈ rest.head?, isBareKeyChar c = false) :
    key? (name.toList ++ rest) = some (name, rest) := by
  have run := span_append bare.isBareKeyChar outside
  unfold key?
  split
  next same => exact absurd same (bare.ne_cons (by decide) rest _)
  next same => exact absurd same (bare.ne_cons (by decide) rest _)
  next =>
    rw [run]
    split
    next same => exact absurd (String.toList_eq_nil_iff.mp (Prod.mk.inj same).1) bare.filled
    next same =>
      obtain ⟨rfl, rfl⟩ := Prod.mk.inj same
      rw [String.ofList_toList]

theorem skipBlanks_opens {s : List Char} (opens : Opens s) : skipBlanks s = s := by
  obtain ⟨c, more, rfl, outside⟩ := opens
  simp only [List.mem_cons, not_or] at outside
  simp [skipBlanks, isBlank, outside]

theorem lineEnd?_opens {s : List Char} (opens : Opens s) : lineEnd? s = none := by
  rw [lineEnd?, skipBlanks_opens opens]
  obtain ⟨c, more, rfl, outside⟩ := opens
  simp only [List.mem_cons, List.not_mem_nil, not_or] at outside
  obtain ⟨-, -, lineFeed, carriage, comment, -⟩ := outside
  simp [skipComment, comment, newline?, lineFeed, carriage]

section Line

variable {name : String} {written : List Char} {value : Document}

theorem opens_line (bare : Bare name) (written rest : List Char) :
    Opens (line name written ++ rest) :=
  (bare.opens.append _).append rest

theorem field?_line (bare : Bare name) (reads : Reads value? written value) (rest : List Char) :
    field? (line name written ++ rest) = some (.field none name value, rest) := by
  let right := written ++ '\n' :: rest
  have key : key? (line name written ++ rest) = some (name, ' ' :: '=' :: ' ' :: right) := by
    rw [← key?_bare bare (by simp [isBareKeyChar])]
    simp [line, right]
  have sign : skipBlanks (' ' :: '=' :: ' ' :: right) = '=' :: ' ' :: right := rfl
  have equals : after? ['='] (skipBlanks ('=' :: ' ' :: right)) = some (' ' :: right) := rfl
  have blank : skipBlanks (' ' :: right) = right := skipBlanks_opens (reads.opens.append _)
  have read : value? ((' ' :: right).length + 1) right = some (value, '\n' :: rest) :=
    reads.reads _ _ (by simp [right]; omega) (by simp [Closes])
  have ended : lineEnd? ('\n' :: rest) = some rest := rfl
  simp only [field?, key, sign, Option.bind_eq_bind, Option.bind_some]
  split
  next same => simp at same
  next =>
    simp only [equals, blank, read, ended, Option.bind_some]
    rfl

theorem statements?_line (bare : Bare name) (reads : Reads value? written value) (fuel : Nat)
    (rest : List Char) : statements? (fuel + 1) (line name written ++ rest) =
      (statements? fuel rest).map (.field none name value :: ·) := by
  have opens := opens_line bare written rest
  rw [statements?, skipBlanks_opens opens]
  split
  next same => exact absurd same (by simp [line])
  next same =>
    rw [line, List.append_assoc] at same
    exact absurd same (bare.ne_cons (by decide) _ _)
  next =>
    simp only [lineEnd?_opens opens, field?_line bare reads, Option.bind_eq_bind, Option.bind_some]
    cases statements? fuel rest <;> rfl

theorem heading?_bare (bare : Bare name) (rest : List Char) :
    heading? (name.toList ++ ']' :: '\n' :: rest) = some (.heading name, rest) := by
  have blank : skipBlanks (name.toList ++ ']' :: '\n' :: rest) =
      name.toList ++ ']' :: '\n' :: rest := skipBlanks_opens (bare.opens.append _)
  have key : key? (name.toList ++ ']' :: '\n' :: rest) = some (name, ']' :: '\n' :: rest) :=
    key?_bare bare (by simp [isBareKeyChar])
  have bracket : after? [']'] (skipBlanks (']' :: '\n' :: rest)) = some ('\n' :: rest) := rfl
  have ended : lineEnd? ('\n' :: rest) = some rest := rfl
  simp only [heading?, blank, key, bracket, ended, Option.bind_eq_bind, Option.bind_some]
  rfl

theorem statements?_heading (bare : Bare name) (fuel : Nat) (rest : List Char) :
    statements? (fuel + 1) (heading name ++ rest) =
      (statements? fuel rest).map (.heading name :: ·) := by
  have start : skipBlanks (heading name ++ rest) = '[' :: (name.toList ++ ']' :: '\n' :: rest) := by
    simp [heading, skipBlanks, isBlank]
  simp only [statements?, start, heading?_bare bare, Option.bind_eq_bind, Option.bind_some]
  cases statements? fuel rest <;> rfl

end Line

inductive Row where
  | blank
  | comment (remark : String)
  | heading (name : String)
  | field (name : String) (written : List Char) (value : Document)

namespace Row

def written : Row → List Char
  | blank => ['\n']
  | comment remark => '#' :: (remark.toList ++ ['\n'])
  | heading name => Toml.heading name
  | field name written _ => line name written

def statement? : Row → Option Statement
  | blank | comment .. => none
  | heading name => some (.heading name)
  | field name _ value => some (.field none name value)

def Legible : Row → Prop
  | blank => True
  | comment remark => ∀ c ∈ remark.toList, isPrintable c = true
  | heading name => Bare name
  | field name written value => Bare name ∧ Reads value? written value

theorem length_written_pos : (row : Row) → 0 < row.written.length
  | blank | comment _ | heading _ => Nat.succ_pos _
  | field name written _ => by
    rw [Row.written, line, List.length_append]
    exact Nat.add_pos_right _ (Nat.succ_pos _)

end Row

theorem lineEnd?_comment {remark : List Char} (printable : ∀ c ∈ remark, isPrintable c = true)
    (rest : List Char) : lineEnd? ('#' :: (remark ++ '\n' :: rest)) = some rest := by
  have skipped : (remark ++ '\n' :: rest).dropWhile isPrintable = '\n' :: rest := by
    rw [List.dropWhile_append_of_pos printable, List.dropWhile_cons_of_neg (by decide)]
  simp [lineEnd?, skipBlanks, isBlank, skipComment, skipped, newline?]

theorem statements?_row {row : Row} (legible : row.Legible) (fuel : Nat) (rest : List Char) :
    statements? (fuel + 1) (row.written ++ rest) =
      (statements? fuel rest).map (row.statement?.toList ++ ·) := by
  cases row with
  | blank => simp [Row.written, Row.statement?, statements?, skipBlanks, isBlank, lineEnd?,
      skipComment, newline?]
  | comment remark =>
    have ended := lineEnd?_comment legible rest
    simp [Row.written, Row.statement?, statements?, skipBlanks, isBlank, ended]
  | heading name => exact statements?_heading legible fuel rest
  | field name written value => exact statements?_line legible.1 legible.2 fuel rest

theorem statements?_rows {rows : List Row} (legible : ∀ row ∈ rows, row.Legible) (fuel : Nat)
    (enough : (rows.flatMap Row.written).length < fuel) :
    statements? fuel (rows.flatMap Row.written) = some (rows.filterMap Row.statement?) := by
  induction rows generalizing fuel with
  | nil =>
    obtain ⟨fuel, rfl⟩ : ∃ less, fuel = less + 1 := ⟨fuel - 1, by omega⟩
    rfl
  | cons row rows ih =>
    have long := row.length_written_pos
    rw [List.flatMap_cons, List.length_append] at enough
    obtain ⟨fuel, rfl⟩ : ∃ less, fuel = less + 1 := ⟨fuel - 1, by omega⟩
    have later := ih (fun row mem => legible row (List.mem_cons_of_mem _ mem)) fuel (by omega)
    rw [List.flatMap_cons, statements?_row (legible row (by simp)), later, List.filterMap_cons]
    cases row <;> rfl

theorem extend?_new {name : String} {fields : List (String × Document)} (value : Document)
    (new : name ∉ fields.map Prod.fst) :
    Outline.extend? name value fields = some (fields ++ [(name, value)]) := by
  have absent : fields.lookup name = none := by
    refine List.lookup_eq_none_iff.mpr fun field mem => ?_
    have other : name ≠ field.1 := fun same => new (same ▸ List.mem_map_of_mem mem)
    simpa using other
  simp [Outline.extend?, absent]

def underway (top table : String) (first : Document) (fields : List (String × Document)) : Outline :=
  { slots := [(top, .value first), (table, .headed fields)], current := some table }

section Table

variable {top table : String} {first : Document} {fields : List (String × Document)}

theorem add?_field {name : String} (apart : top ≠ table) (value : Document)
    (new : name ∉ fields.map Prod.fst) :
    (underway top table first fields).add? (.field none name value) =
      some (underway top table first (fields ++ [(name, value)])) := by
  have other : (table == top) = false := by simpa using apart.symm
  simp [underway, Outline.add?, List.lookup_cons, other, extend?_new value new, Outline.replace,
    apart]

theorem foldlM_fields (apart : top ≠ table) {more : List (String × Document)}
    (distinct : ((fields ++ more).map Prod.fst).Nodup) :
    (more.map fun field => Statement.field none field.1 field.2).foldlM Outline.add?
        (underway top table first fields) =
      some (underway top table first (fields ++ more)) := by
  induction more generalizing fields with
  | nil => simp
  | cons head others ih =>
    have new : head.1 ∉ fields.map Prod.fst := by
      rw [List.map_append] at distinct
      exact fun mem => (List.nodup_append.mp distinct).2.2 _ mem _ (by simp) rfl
    have later := @ih (fields ++ [head]) (by simpa using distinct)
    rw [List.map_cons, List.foldlM_cons, add?_field apart _ new]
    simpa using later

theorem foldlM_table (apart : top ≠ table) (distinct : (fields.map Prod.fst).Nodup) :
    (Statement.field none top first :: .heading table ::
        fields.map fun field => .field none field.1 field.2).foldlM Outline.add? {} =
      some (underway top table first fields) := by
  have other : (table == top) = false := by simpa using apart.symm
  have opened : Outline.add? { slots := [(top, .value first)] } (.heading table) =
      some (underway top table first []) := by
    simp [Outline.add?, List.lookup_cons, List.lookup_nil, other, underway]
  change (Outline.add? { slots := [(top, .value first)] } (.heading table) >>= fun outline =>
    List.foldlM Outline.add? outline _) = _
  rw [opened]
  exact foldlM_fields apart (by simpa using distinct)

theorem unmarked_rows {rows : List Row} (legible : ∀ row ∈ rows, row.Legible) :
    after? ['\ufeff'] (rows.flatMap Row.written) = none := by
  cases rows with
  | nil => rfl
  | cons row rows =>
    have bare (name : String) (named : Bare name) (rest : List Char) :
        after? ['\ufeff'] (name.toList ++ rest) = none := by
      obtain ⟨c, more, opening, first⟩ := named.first
      have other : '\ufeff' ≠ c := by
        rintro rfl
        simp [isBareKeyChar] at first
      simp [after?, opening, other]
    have readable := legible row (by simp)
    cases row with
    | blank | comment | heading => simp [Row.written, Toml.heading, after?]
    | field name written value =>
      rw [List.flatMap_cons, Row.written, line, List.append_assoc]
      exact bare name readable.1 _

theorem read?_rows {rows : List Row} (legible : ∀ row ∈ rows, row.Legible) (apart : top ≠ table)
    (distinct : (fields.map Prod.fst).Nodup)
    (gives : rows.filterMap Row.statement? = .field none top first :: .heading table ::
      fields.map fun field => .field none field.1 field.2) :
    read? (rows.flatMap Row.written) = some (.table [(top, first), (table, .table fields)]) := by
  have statements := statements?_rows legible _ (Nat.lt_succ_self _)
  rw [gives] at statements
  simp only [read?, unmarked_rows legible, Option.getD_none, statements, foldlM_table apart distinct,
    Option.bind_eq_bind, Option.bind_some]
  rfl

variable {A : Type} {name : A → String} {written : A → List Char} {value : A → Document}
variable {items : List A}

theorem read?_table {topWritten : List Char} (apart : top ≠ table) (bareTop : Bare top)
    (bareTable : Bare table) (readsTop : Reads value? topWritten first)
    (bare : ∀ a ∈ items, Bare (name a)) (distinct : (items.map name).Nodup)
    (reads : ∀ a ∈ items, Reads value? (written a) (value a)) :
    read? (line top topWritten ++ (heading table ++ items.flatMap fun a => line (name a) (written a))) =
      some (.table [(top, first), (table, .table (items.map fun a => (name a, value a)))]) := by
  let rows : List Row := .field top topWritten first :: .heading table ::
    items.map fun a => .field (name a) (written a) (value a)
  have layout : line top topWritten ++
      (heading table ++ items.flatMap fun a => line (name a) (written a)) =
        rows.flatMap Row.written := by
    simp [rows, Row.written, List.flatMap_map]
  rw [layout]
  apply read?_rows
  next =>
    simp only [rows, List.forall_mem_cons, List.forall_mem_map]
    exact ⟨⟨bareTop, readsTop⟩, bareTable, fun a mem => ⟨bare a mem, reads a mem⟩⟩
  next => exact apart
  next => simpa [Function.comp_def] using distinct
  next => simp [rows, Row.statement?, List.filterMap_map, Function.comp_def]

end Table

end HeaderLint.Document.Toml
