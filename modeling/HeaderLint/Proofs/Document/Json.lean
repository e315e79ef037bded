import HeaderLint.Document.Json
import HeaderLint.Proofs.Document.Written

set_option autoImplicit false

namespace HeaderLint.Document.Json

def named (name : String) (written : List Char) : List Char :=
  inQuotes name ++ ':' :: ' ' :: written

def braced (fields : List (List Char)) : List Char :=
  '{' :: (separated fields ++ ['}'])

theorem opens_named (name : String) (written : List Char) : Opens (named name written) :=
  (opens_inQuotes name).append _

theorem opens_braced (fields : List (List Char)) : Opens (braced fields) :=
  ⟨_, _, rfl, by decide⟩

theorem naturalOf_eq (digits : List Char) : naturalOf digits = Nat.ofDigitChars 10 digits 0 := by
  simp only [naturalOf, Nat.ofDigitChars, Nat.mul_comm]

theorem whole?_numeral {n : Nat} {digits rest : List Char} (numeral : Numeral n digits)
    (closes : Closes rest) : whole? (digits ++ rest) = some (digits, rest) := by
  obtain ⟨first, more, rfl, single⟩ := numeral.lead
  by_cases zero : first = '0'
  next =>
    obtain rfl := zero
    rw [single rfl]
    rfl
  next =>
    have span : Json.digits (first :: more ++ rest) = (first :: more, rest) :=
      span_append numeral.isDigit (closes.outside (by simp))
    rw [List.cons_append] at span ⊢
    rw [whole?]
    next => rw [span]
    next => exact fun _ same => zero (List.cons.inj same).1

theorem fraction?_closed {rest : List Char} (closes : Closes rest) :
    fraction? rest = some ([], rest) := by
  cases rest with
  | nil => rfl
  | cons c rest =>
    rw [fraction?]
    rintro _ ⟨⟩
    simpa using closes '.' rfl

theorem exponent?_closed {rest : List Char} (closes : Closes rest) :
    exponent? rest = some ([], rest) := by
  cases rest with
  | nil => rfl
  | cons c rest =>
    have other : (c == 'e' || c == 'E') = false :=
      closes.outside (p := fun c => c == 'e' || c == 'E') (by simp) c rfl
    simp [exponent?, other]

theorem number?_unsigned {s digits rest : List Char} (unsigned : ∀ more, s ≠ '-' :: more)
    (whole : whole? s = some (digits, rest)) (closes : Closes rest) :
    number? s = some (.integer (naturalOf digits), rest) := by
  unfold number?
  split
  next read =>
    split at read
    next more => exact absurd rfl (unsigned more)
    next =>
      obtain ⟨rfl, rfl⟩ := Prod.mk.inj read
      simp [whole, fraction?_closed closes, exponent?_closed closes]

theorem number?_negative {s digits rest : List Char} (whole : whole? s = some (digits, rest))
    (positive : naturalOf digits ≠ 0) (closes : Closes rest) :
    number? ('-' :: s) = some (.integer (-naturalOf digits), rest) := by
  simp [number?, whole, fraction?_closed closes, exponent?_closed closes, positive]

theorem number?_decimal (n : Int) {rest : List Char} (closes : Closes rest) :
    number? (decimal n ++ rest) = some (.integer n, rest) := by
  obtain ⟨k, digits, numeral, ⟨rfl, written⟩ | ⟨rfl, positive, written⟩⟩ := decimal_cases n
  all_goals
    have whole := whole?_numeral numeral closes
    have value : naturalOf digits = k := (naturalOf_eq digits).trans numeral.value
    rw [written, ← value]
  next => exact number?_unsigned (numeral.ne_cons (by decide) rest) whole closes
  next => exact number?_negative whole (value ▸ positive) closes

theorem units_plain {cs : List Char} (plain : ∀ c ∈ cs, c ≠ '"' ∧ c ≠ '\\' ∧ 0x20 ≤ c.toNat)
    (rest : List Char) : units (cs ++ '"' :: rest) = some (cs.map .plain, rest) := by
  induction cs with
  | nil => rfl
  | cons c cs ih =>
    obtain ⟨quote, backslash, low⟩ := plain c (by simp)
    have here := ih fun c mem => plain c (List.mem_cons_of_mem _ mem)
    rw [List.cons_append, units]
    next => simp [Nat.not_lt.mpr low, here]
    next => exact quote
    next => exact fun _ _ _ _ _ same => absurd same backslash
    next => exact fun _ _ same => absurd same backslash

theorem characters_plain (cs : List Char) : characters (cs.map .plain) = some cs := by
  induction cs with
  | nil => rfl
  | cons c cs ih => simp [characters, ih]

theorem string?_plain {s : String} (plain : Plain s) (rest : List Char) :
    string? (s.toList ++ '"' :: rest) = some (s, rest) := by
  have units : units (s.toList ++ '"' :: rest) = some (s.toList.map .plain, rest) :=
    units_plain (fun c mem => ⟨(plain c mem).1, (plain c mem).2.1, (plain c mem).2.2.1⟩) rest
  simp [string?, units, characters_plain]

theorem value?_flag (b : Bool) : Reads value? (flag b) (.boolean b) := by
  refine ⟨opens_flag b, fun fuel rest enough _ => ?_⟩
  obtain ⟨fuel, rfl⟩ := (opens_flag b).fuel enough
  cases b <;> simp [flag, value?, after?]

theorem value?_decimal (n : Int) : Reads value? (decimal n) (.integer n) := by
  refine ⟨opens_decimal n, fun fuel rest enough closes => ?_⟩
  obtain ⟨fuel, rfl⟩ := (opens_decimal n).fuel enough
  obtain ⟨c, more, written, first⟩ := decimal_first n
  have read := number?_decimal n closes
  rw [written, List.cons_append] at read ⊢
  unfold value?
  split
  all_goals first
    | exact read
    | rename_i same
      cases same
      simp at first

theorem value?_inQuotes {s : String} (plain : Plain s) : Reads value? (inQuotes s) (.text s) := by
  refine ⟨opens_inQuotes s, fun fuel rest enough closes => ?_⟩
  obtain ⟨fuel, rfl⟩ := (opens_inQuotes s).fuel enough
  simp [inQuotes, value?, string?_plain plain]

theorem skipBlanks_ink {c : Char} (ink : isBlank c = false) (s : List Char) :
    skipBlanks (c :: s) = c :: s := by
  simp [skipBlanks, ink]

theorem skipBlanks_opens {s : List Char} (opens : Opens s) : skipBlanks s = s := by
  obtain ⟨c, more, rfl, outside⟩ := opens
  simp only [List.mem_cons, not_or] at outside
  exact skipBlanks_ink (by simp [isBlank, outside]) more

theorem items?_skip (fuel : Nat) (s : List Char) : items? fuel (' ' :: s) = items? fuel s := by
  cases fuel with
  | zero => rfl
  | succ fuel => rfl

theorem fields?_skip (fuel : Nat) (s : List Char) : fields? fuel (' ' :: s) = fields? fuel s := by
  cases fuel with
  | zero => rfl
  | succ fuel => rfl

theorem items?_part {written : List Char} {document : Document}
    (reads : Reads value? written document) : ReadsPart items? ']' written document := by
  constructor
  next => exact reads.opens
  next =>
    intro fuel rest enough
    have item := reads.reads fuel (']' :: rest) enough (by simp [Closes])
    rw [items?, skipBlanks_opens (reads.opens.append _), item]
    rfl
  next =>
    intro fuel next items rest enough opens others
    have item := reads.reads fuel (',' :: ' ' :: next) enough (by simp [Closes])
    rw [← items?_skip] at others
    rw [items?, skipBlanks_opens (reads.opens.append _), item]
    simp [skipBlanks, isBlank, others]

theorem fields?_part {name : String} {written : List Char} {document : Document}
    (plain : Plain name) (reads : Reads value? written document) :
    ReadsPart fields? '}' (named name written) (name, document) := by
  have opens := opens_named name written
  have opened (rest : List Char) : skipBlanks (named name written ++ rest) =
      '"' :: (name.toList ++ '"' :: ':' :: ' ' :: (written ++ rest)) := by
    rw [skipBlanks_opens (opens.append rest)]
    simp [named, inQuotes]
  have value (rest : List Char) : skipBlanks (' ' :: (written ++ rest)) = written ++ rest :=
    skipBlanks_opens (reads.opens.append rest)
  constructor
  next => exact opens
  next =>
    intro fuel rest enough
    have shorter : written.length ≤ fuel := by simp [named] at enough; omega
    have field := reads.reads fuel ('}' :: rest) shorter (by simp [Closes])
    rw [fields?, opened]
    simp [after?, string?_plain plain, skipBlanks_ink, isBlank, value, field]
  next =>
    intro fuel next fields rest enough _ others
    have shorter : written.length ≤ fuel := by simp [named] at enough; omega
    have field := reads.reads fuel (',' :: ' ' :: next) shorter (by simp [Closes])
    rw [← fields?_skip] at others
    rw [fields?, opened]
    simp [after?, string?_plain plain, skipBlanks_ink, isBlank, value, field, others]

section Parts

variable {A : Type} {written : A → List Char} {document : A → Document} {items : List A}

theorem value?_bracketed (each : ∀ a ∈ items, Reads value? (written a) (document a)) :
    Reads value? (bracketed (items.map written)) (.list (items.map document)) := by
  refine ⟨opens_bracketed _, fun fuel rest enough _ => ?_⟩
  obtain ⟨fuel, rfl⟩ := (opens_bracketed _).fuel enough
  simp only [bracketed, List.length_cons, List.length_append] at enough
  by_cases filled : items = []
  next =>
    obtain rfl := filled
    rfl
  next =>
    have parts (a : A) (mem : a ∈ items) := items?_part (each a mem)
    have opens := opens_parts parts filled (']' :: rest)
    have read := parts?_separated parts filled fuel rest (by omega)
    rw [bracketed, List.cons_append, List.append_assoc, List.singleton_append, value?,
      skipBlanks_opens opens]
    split
    next same => exact absurd same (opens.ne_cons (by simp) _)
    next =>
      rw [read]
      rfl

theorem value?_braced {name : A → String} (plain : ∀ a ∈ items, Plain (name a))
    (each : ∀ a ∈ items, Reads value? (written a) (document a)) :
    Reads value? (braced (items.map fun a => named (name a) (written a)))
      (.table (items.map fun a => (name a, document a))) := by
  refine ⟨opens_braced _, fun fuel rest enough _ => ?_⟩
  obtain ⟨fuel, rfl⟩ := (opens_braced _).fuel enough
  simp only [braced, List.length_cons, List.length_append] at enough
  by_cases filled : items = []
  next =>
    obtain rfl := filled
    rfl
  next =>
    have parts (a : A) (mem : a ∈ items) := fields?_part (plain a mem) (each a mem)
    have opens := opens_parts parts filled ('}' :: rest)
    have read := parts?_separated parts filled fuel rest (by omega)
    rw [braced, List.cons_append, List.append_assoc, List.singleton_append, value?,
      skipBlanks_opens opens]
    split
    next same => exact absurd same (opens.ne_cons (by simp) _)
    next =>
      rw [read]
      rfl

end Parts

theorem readsValues : ReadsValues value? :=
  ⟨value?_flag, value?_decimal, fun _ => value?_inQuotes, value?_bracketed⟩

theorem read?_written {written : List Char} {document : Document}
    (reads : Reads value? written document) : read? written = some document := by
  have value := reads.reads (written.length + 1) [] (by omega) (by simp [Closes])
  rw [List.append_nil] at value
  rw [read?, skipBlanks_opens reads.opens, value]
  rfl

end HeaderLint.Document.Json
