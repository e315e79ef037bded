import HeaderLint.Document
import Mathlib.Data.List.TakeDrop

set_option autoImplicit false

namespace HeaderLint.Document

def decimal (n : Int) : List Char :=
  (toString n).toList

def flag : Bool → List Char
  | true => "true".toList
  | false => "false".toList

def inQuotes (s : String) : List Char :=
  '"' :: (s.toList ++ ['"'])

def separated (parts : List (List Char)) : List Char :=
  [',', ' '].intercalate parts

def bracketed (parts : List (List Char)) : List Char :=
  '[' :: (separated parts ++ [']'])

def Plain (s : String) : Prop :=
  ∀ c ∈ s.toList, c ≠ '"' ∧ c ≠ '\\' ∧ 0x20 ≤ c.toNat ∧ c.toNat ≠ 0x7F

instance (s : String) : Decidable (Plain s) :=
  List.decidableBAll _ s.toList

structure Numeral (n : Nat) (digits : List Char) : Prop where
  value : Nat.ofDigitChars 10 digits 0 = n
  isDigit : ∀ c ∈ digits, c.isDigit = true
  lead : ∃ first more, digits = first :: more ∧ (first = '0' → more = [])

theorem toDigits_lead (n : Nat) :
    ∃ first more, Nat.toDigits 10 n = first :: more ∧ (first = '0' → n = 0) := by
  induction n using Nat.strongRecOn with
  | ind n ih =>
    rw [Nat.toDigits_eq_if (by omega)]
    by_cases small : n < 10
    next =>
      rw [if_pos small]
      exact ⟨_, [], rfl, Nat.digitChar_eq_zero.mp⟩
    next =>
      obtain ⟨first, more, tens, lead⟩ := ih (n / 10) (by omega)
      rw [if_neg small, tens]
      refine ⟨first, more ++ [(n % 10).digitChar], rfl, fun zero => ?_⟩
      have none := lead zero
      omega

theorem numeral_toDigits (n : Nat) : Numeral n (Nat.toDigits 10 n) := by
  refine ⟨Nat.ofDigitChars_ten_toDigits, fun c => Nat.isDigit_of_mem_toDigits (by omega) (by omega), ?_⟩
  obtain ⟨first, more, written, lead⟩ := toDigits_lead n
  refine ⟨first, more, written, fun zero => ?_⟩
  rw [lead zero, Nat.toDigits_zero] at written
  exact (List.cons.inj written).2.symm

theorem decimal_cases (n : Int) :
    ∃ k digits, Numeral k digits ∧
      (n = k ∧ decimal n = digits ∨ n = -k ∧ k ≠ 0 ∧ decimal n = '-' :: digits) := by
  rw [decimal, Int.toString_eq_repr, Int.repr_eq_if]
  by_cases sign : 0 ≤ n
  next =>
    refine ⟨n.toNat, _, numeral_toDigits _, .inl ⟨by omega, ?_⟩⟩
    simp [sign]
  next =>
    refine ⟨(-n).toNat, _, numeral_toDigits _, .inr ⟨by omega, by omega, ?_⟩⟩
    simp [sign]

-- What a value begins with: nothing that readers skip and nothing that ends a list or a table.
def Opens (written : List Char) : Prop :=
  ∃ c more, written = c :: more ∧ c ∉ [' ', '\t', '\n', '\r', '#', ']', '}']

-- What may come after a value: nothing, or a character with which no value goes on.
def Closes (rest : List Char) : Prop :=
  ∀ c ∈ rest.head?, c ∈ [',', ']', '}', '\n']

theorem Closes.outside {rest : List Char} (closes : Closes rest) {p : Char → Bool}
    (outside : ∀ c ∈ [',', ']', '}', '\n'], p c = false) : ∀ c ∈ rest.head?, p c = false :=
  fun c mem => outside c (closes c mem)

theorem span_append {p : Char → Bool} {run rest : List Char} (inside : ∀ c ∈ run, p c = true)
    (outside : ∀ c ∈ rest.head?, p c = false) : (run ++ rest).span p = (run, rest) := by
  rw [List.span_eq_takeWhile_dropWhile, List.takeWhile_append_of_pos inside,
    List.dropWhile_append_of_pos inside]
  cases rest with
  | nil => simp
  | cons c rest => simp [outside c rfl]

theorem Opens.append {written : List Char} (opens : Opens written) (rest : List Char) :
    Opens (written ++ rest) := by
  obtain ⟨c, more, rfl, outside⟩ := opens
  exact ⟨c, more ++ rest, rfl, outside⟩

theorem Opens.fuel {written : List Char} (opens : Opens written) {fuel : Nat}
    (enough : written.length ≤ fuel) : ∃ less, fuel = less + 1 := by
  obtain ⟨c, more, rfl, -⟩ := opens
  rw [List.length_cons] at enough
  exact ⟨fuel - 1, by omega⟩

theorem Opens.ne_cons {written : List Char} (opens : Opens written) {c : Char}
    (skipped : c ∈ [' ', '\t', '\n', '\r', '#', ']', '}']) (more : List Char) :
    written ≠ c :: more := by
  obtain ⟨first, others, rfl, outside⟩ := opens
  rintro ⟨⟩
  exact outside skipped

theorem Numeral.opens {n : Nat} {digits : List Char} (numeral : Numeral n digits) : Opens digits := by
  obtain ⟨first, more, rfl, -⟩ := numeral.lead
  have digit := numeral.isDigit first (by simp)
  refine ⟨first, more, rfl, fun skipped => ?_⟩
  simp only [List.mem_cons, List.not_mem_nil, or_false] at skipped
  rcases skipped with rfl | rfl | rfl | rfl | rfl | rfl | rfl <;> simp at digit

theorem Numeral.ne_cons {n : Nat} {digits : List Char} (numeral : Numeral n digits) {c : Char}
    (other : c.isDigit = false) (rest more : List Char) : digits ++ rest ≠ c :: more := by
  obtain ⟨first, others, rfl, -⟩ := numeral.lead
  rintro ⟨⟩
  have digit := numeral.isDigit c (by simp)
  simp [other] at digit

theorem decimal_first (n : Int) :
    ∃ c more, decimal n = c :: more ∧ (c = '-' ∨ c.isDigit = true) := by
  obtain ⟨k, digits, numeral, ⟨-, written⟩ | ⟨-, -, written⟩⟩ := decimal_cases n
  next =>
    obtain ⟨first, more, rfl, -⟩ := numeral.lead
    exact ⟨first, more, written, .inr (numeral.isDigit first (by simp))⟩
  next => exact ⟨_, _, written, .inl rfl⟩

theorem opens_decimal (n : Int) : Opens (decimal n) := by
  obtain ⟨k, digits, numeral, ⟨-, written⟩ | ⟨-, -, written⟩⟩ := decimal_cases n
  next => exact written ▸ numeral.opens
  next => exact ⟨_, _, written, by decide⟩

theorem opens_flag (b : Bool) : Opens (flag b) := by
  cases b with
  | false => exact ⟨_, _, rfl, by decide⟩
  | true => exact ⟨_, _, rfl, by decide⟩

theorem opens_inQuotes (s : String) : Opens (inQuotes s) :=
  ⟨_, _, rfl, by decide⟩

theorem opens_bracketed (parts : List (List Char)) : Opens (bracketed parts) :=
  ⟨_, _, rfl, by decide⟩

/-- A reader that has as much fuel as a written value is long reads it and leaves what follows. -/
structure Reads (value? : Nat → List Char → Option (Document × List Char)) (written : List Char)
    (document : Document) : Prop where
  opens : Opens written
  reads : ∀ fuel rest, written.length ≤ fuel → Closes rest →
    value? fuel (written ++ rest) = some (document, rest)

section Parts

variable {A B : Type} {parts? : Nat → List Char → Option (List B × List Char)} {close : Char}

/-- What a reader of separated parts does at one of them: it stops when `close` follows, and else
goes on after the comma. -/
structure ReadsPart (parts? : Nat → List Char → Option (List B × List Char)) (close : Char)
    (written : List Char) (part : B) : Prop where
  opens : Opens written
  last : ∀ fuel rest, written.length ≤ fuel →
    parts? (fuel + 1) (written ++ close :: rest) = some ([part], rest)
  more : ∀ fuel next parts rest, written.length ≤ fuel → Opens next →
    parts? fuel next = some (parts, rest) →
    parts? (fuel + 1) (written ++ ',' :: ' ' :: next) = some (part :: parts, rest)

@[simp] theorem separated_cons_cons (first second : List Char) (others : List (List Char)) :
    separated (first :: second :: others) = first ++ ',' :: ' ' :: separated (second :: others) := by
  simp [separated, List.intercalate_cons_cons]

theorem opens_separated {parts : List (List Char)} (each : ∀ part ∈ parts, Opens part)
    (filled : parts ≠ []) : Opens (separated parts) := by
  match parts with
  | [first] => simpa [separated] using each first (by simp)
  | first :: second :: others =>
    rw [separated_cons_cons]
    exact (each first (by simp)).append _

variable {written : A → List Char} {part : A → B} {items : List A}

theorem opens_parts (each : ∀ a ∈ items, ReadsPart parts? close (written a) (part a))
    (filled : items ≠ []) (rest : List Char) : Opens (separated (items.map written) ++ rest) := by
  refine (opens_separated (fun first mem => ?_) (by simpa using filled)).append rest
  obtain ⟨a, inside, rfl⟩ := List.mem_map.mp mem
  exact (each a inside).opens

theorem parts?_separated (each : ∀ a ∈ items, ReadsPart parts? close (written a) (part a))
    (filled : items ≠ []) (fuel : Nat) (rest : List Char)
    (enough : (separated (items.map written)).length < fuel) :
    parts? fuel (separated (items.map written) ++ close :: rest) = some (items.map part, rest) := by
  induction items generalizing fuel with
  | nil => exact absurd rfl filled
  | cons first others ih =>
    obtain ⟨fuel, rfl⟩ : ∃ less, fuel = less + 1 := ⟨fuel - 1, by omega⟩
    have here := each first (by simp)
    cases others with
    | nil =>
      simp only [List.map_cons, List.map_nil, separated, List.intercalate_singleton] at enough ⊢
      exact here.last fuel rest (by omega)
    | cons second others =>
      have later (a : A) (mem : a ∈ second :: others) := each a (List.mem_cons_of_mem _ mem)
      have opens := opens_parts later (by simp) (close :: rest)
      simp only [List.map_cons, separated_cons_cons, List.append_assoc, List.cons_append,
        List.length_append, List.length_cons] at enough ih opens ⊢
      exact here.more fuel _ _ rest (by omega) opens (ih later (by simp) fuel (by omega))

end Parts

structure ReadsValues (value? : Nat → List Char → Option (Document × List Char)) : Prop where
  boolean : ∀ b, Reads value? (flag b) (.boolean b)
  integer : ∀ n, Reads value? (decimal n) (.integer n)
  text : ∀ s, Plain s → Reads value? (inQuotes s) (.text s)
  list : ∀ {A : Type} {written : A → List Char} {document : A → Document} {items : List A},
    (∀ a ∈ items, Reads value? (written a) (document a)) →
    Reads value? (bracketed (items.map written)) (.list (items.map document))

end HeaderLint.Document
