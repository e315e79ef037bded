import HeaderLint.Document.Pretty
import HeaderLint.Proofs.Document.Json
import Mathlib.Data.List.DropRight

set_option autoImplicit false

namespace HeaderLint.Document

inductive Integral : Document → Prop
  | null : Integral .null
  | boolean (b : Bool) : Integral (.boolean b)
  | integer (n : Int) : Integral (.integer n)
  | text (s : String) : Integral (.text s)
  | list {items : List Document} (each : ∀ item ∈ items, Integral item) : Integral (.list items)
  | table {fields : List (String × Document)} (each : ∀ field ∈ fields, Integral field.2) :
      Integral (.table fields)

namespace Json

theorem escaped_cases (c : Char) :
    (∃ letter, escaped c = ['\\', letter] ∧ letter ≠ 'u' ∧ escape? letter = some c) ∨
    (c.toNat < 0x20 ∧
      escaped c = ['\\', 'u', '0', '0', hexChar (c.toNat / 16), hexChar (c.toNat % 16)]) ∨
    (escaped c = [c] ∧ c ≠ '"' ∧ c ≠ '\\' ∧ 0x20 ≤ c.toNat) := by
  by_cases lettered : c ∈ ['"', '\\', '\x08', '\x0c', '\n', '\r', '\t']
  next =>
    simp only [List.mem_cons, List.not_mem_nil, or_false] at lettered
    left
    rcases lettered with rfl | rfl | rfl | rfl | rfl | rfl | rfl
    all_goals exact ⟨_, rfl, by decide, rfl⟩
  next =>
    simp only [List.mem_cons, List.not_mem_nil, or_false, not_or] at lettered
    right
    by_cases low : c.toNat < 0x20
    next => exact .inl ⟨low, by simp [escaped, lettered, low]⟩
    next => exact .inr ⟨by simp [escaped, lettered, low], lettered.1, lettered.2.1, by omega⟩

theorem hexNumber?_low {n : Nat} (low : n < 0x20) :
    hexNumber? ['0', '0', hexChar (n / 16), hexChar (n % 16)] = some n := by
  have each : ∀ n < 0x20, hexNumber? ['0', '0', hexChar (n / 16), hexChar (n % 16)] = some n := by
    decide
  exact each n low

theorem characters_escaped {c : Char} (low : c.toNat < 0x20) (units : List CodeUnit) :
    characters (.escaped c.toNat :: units) = (characters units).map (c :: ·) := by
  have scalar : scalar? c.toNat = some c := by
    have valid : c.toNat.isValidChar := c.valid
    rw [scalar?, if_pos valid, Char.ofNat_toNat]
  -- A half of a pair would be far above the control characters.
  have noHalf : ¬ 0xD800 ≤ c.toNat := by omega
  cases units with
  | nil => simp [characters, scalar]
  | cons next rest =>
    cases next with
    | plain => simp [characters, scalar]
    | escaped => simp [characters, scalar, noHalf]

theorem units_escaped (c : Char) (s : List Char) :
    ∃ unit, units (escaped c ++ s) = (units s).map (fun (more, rest) => (unit :: more, rest)) ∧
      ∀ more, characters (unit :: more) = (characters more).map (c :: ·) := by
  rcases escaped_cases c with
    ⟨letter, written, other, read⟩ | ⟨low, written⟩ | ⟨written, quote, backslash, high⟩
  next =>
    refine ⟨.plain c, ?_, fun more => rfl⟩
    rw [written, List.cons_append, List.singleton_append, units]
    next => cases tail : units s <;> simp [read]
    next => exact fun _ _ _ _ _ same => absurd same other
  next =>
    refine ⟨.escaped c.toNat, ?_, characters_escaped low⟩
    simp only [written, List.cons_append, List.nil_append, units, hexNumber?_low low]
    cases tail : units s <;> rfl
  next =>
    refine ⟨.plain c, ?_, fun more => rfl⟩
    rw [written, List.singleton_append, units]
    next => cases tail : units s <;> simp [Nat.not_lt.mpr high]
    next => exact quote
    next => exact fun _ _ _ _ _ same => absurd same backslash
    next => exact fun _ _ same => absurd same backslash

theorem units_quoted (cs rest : List Char) :
    ∃ read, units (cs.flatMap escaped ++ '"' :: rest) = some (read, rest) ∧
      characters read = some cs := by
  induction cs with
  | nil => exact ⟨[], rfl, rfl⟩
  | cons c cs ih =>
    obtain ⟨more, tail, whole⟩ := ih
    obtain ⟨unit, first, spelt⟩ := units_escaped c (cs.flatMap escaped ++ '"' :: rest)
    refine ⟨unit :: more, ?_, ?_⟩
    next => rw [List.flatMap_cons, List.append_assoc, first, tail, Option.map_some]
    next => rw [spelt, whole, Option.map_some]

theorem string?_quoted (s : String) (rest : List Char) :
    string? (s.toList.flatMap escaped ++ '"' :: rest) = some (s, rest) := by
  obtain ⟨read, units, whole⟩ := units_quoted s.toList rest
  simp [string?, units, whole]

theorem opens_quoted (s : String) : Opens (quoted s) :=
  ⟨_, _, rfl, by decide⟩

theorem value?_quoted (s : String) : Reads value? (quoted s) (.text s) := by
  refine ⟨opens_quoted s, fun fuel rest enough _ => ?_⟩
  obtain ⟨fuel, rfl⟩ := (opens_quoted s).fuel enough
  simp [quoted, value?, string?_quoted]

@[simp] theorem skipBlanks_newline (depth : Nat) (s : List Char) :
    skipBlanks (newline depth ++ s) = skipBlanks s := by
  have blank : ∀ c ∈ newline depth, isBlank c = true := by
    intro c mem
    rcases List.mem_cons.mp mem with rfl | space
    next => rfl
    next =>
      rw [List.eq_of_mem_replicate space]
      rfl
  rw [skipBlanks, List.dropWhile_append_of_pos blank, skipBlanks]

theorem newline_length_pos (depth : Nat) : 0 < (newline depth).length := by
  simp [newline]

def lined (depth : Nat) : List (List Char) → List Char
  | [] => []
  | [part] => newline depth ++ part
  | part :: parts => newline depth ++ (part ++ ',' :: lined depth parts)

def member (name : String) (written : List Char) : List Char :=
  quoted name ++ ':' :: ' ' :: written

@[simp] theorem prettyItems_eq (depth : Nat) (items : List Document) :
    prettyItems depth items = lined depth (items.map (pretty depth)) := by
  induction items with
  | nil => simp [prettyItems, lined]
  | cons first others ih =>
    cases others with
    | nil => simp [prettyItems, lined]
    | cons second others =>
      rw [prettyItems, ih]
      next => simp [lined]
      next => exact List.cons_ne_nil _ _

@[simp] theorem prettyFields_eq (depth : Nat) (fields : List (String × Document)) :
    prettyFields depth fields =
      lined depth (fields.map fun field => member field.1 (pretty depth field.2)) := by
  induction fields with
  | nil => simp [prettyFields, lined]
  | cons first others ih =>
    cases others with
    | nil => simp [prettyFields, lined, member]
    | cons second others =>
      rw [prettyFields, ih]
      next => simp [lined, member]
      next => exact List.cons_ne_nil _ _

section Lines

variable {A B : Type} {parts? : Nat → List Char → Option (List B × List Char)} {close : Char}

/-- What a reader of parts does at one that begins a line: it stops when `close` begins the next,
and else goes on after the comma. -/
structure ReadsLine (parts? : Nat → List Char → Option (List B × List Char)) (close : Char)
    (written : List Char) (part : B) : Prop where
  opens : Opens written
  last : ∀ fuel inner outer rest, written.length ≤ fuel →
    parts? (fuel + 1) (newline inner ++ (written ++ (newline outer ++ close :: rest))) =
      some ([part], rest)
  more : ∀ fuel inner next parts rest, written.length ≤ fuel →
    parts? fuel next = some (parts, rest) →
    parts? (fuel + 1) (newline inner ++ (written ++ ',' :: next)) = some (part :: parts, rest)

variable {written : A → List Char} {part : A → B} {items : List A}

theorem parts?_lined (each : ∀ a ∈ items, ReadsLine parts? close (written a) (part a))
    (filled : items ≠ []) (inner outer fuel : Nat) (rest : List Char)
    (enough : (lined inner (items.map written)).length ≤ fuel) :
    parts? fuel (lined inner (items.map written) ++ (newline outer ++ close :: rest)) =
      some (items.map part, rest) := by
  induction items generalizing fuel with
  | nil => exact absurd rfl filled
  | cons first others ih =>
    have here := each first List.mem_cons_self
    have indented := newline_length_pos inner
    cases others with
    | nil =>
      simp only [List.map_cons, List.map_nil, lined, List.length_append, List.append_assoc] at enough ⊢
      obtain ⟨fuel, rfl⟩ : ∃ less, fuel = less + 1 := ⟨fuel - 1, by omega⟩
      exact here.last fuel inner outer rest (by omega)
    | cons second others =>
      have later (a : A) (mem : a ∈ second :: others) := each a (List.mem_cons_of_mem _ mem)
      simp only [List.map_cons, lined, List.length_append, List.length_cons, List.append_assoc,
        List.cons_append] at enough ih ⊢
      obtain ⟨fuel, rfl⟩ : ∃ less, fuel = less + 1 := ⟨fuel - 1, by omega⟩
      exact here.more fuel inner _ _ rest (by omega) (ih later (by simp) fuel (by omega))

theorem opens_lined (each : ∀ a ∈ items, ReadsLine parts? close (written a) (part a))
    (filled : items ≠ []) (depth : Nat) (rest : List Char) :
    Opens (skipBlanks (lined depth (items.map written) ++ rest)) := by
  obtain ⟨first, others, rfl⟩ := List.exists_cons_of_ne_nil filled
  have opens := (each first List.mem_cons_self).opens
  obtain ⟨more, opening⟩ : ∃ more, lined depth ((first :: others).map written) ++ rest =
      newline depth ++ (written first ++ more) := by
    cases others with
    | nil => exact ⟨rest, by simp [lined]⟩
    | cons =>
      simp only [List.map_cons, lined, List.append_assoc]
      exact ⟨_, rfl⟩
  rw [opening, skipBlanks_newline, skipBlanks_opens (opens.append _)]
  exact opens.append _

end Lines

section Members

variable {written : List Char} {document : Document}

theorem items?_line (reads : Reads value? written document) :
    ReadsLine items? ']' written document := by
  constructor
  next => exact reads.opens
  next =>
    intro fuel inner outer rest enough
    have item := reads.reads fuel (newline outer ++ ']' :: rest) enough (by simp [Closes, newline])
    rw [items?, skipBlanks_newline, skipBlanks_opens (reads.opens.append _), item]
    simp [skipBlanks_ink, isBlank]
  next =>
    intro fuel inner next items rest enough others
    have item := reads.reads fuel (',' :: next) enough (by simp [Closes])
    rw [items?, skipBlanks_newline, skipBlanks_opens (reads.opens.append _), item]
    simp [skipBlanks_ink, isBlank, others]

theorem opens_member (name : String) (written : List Char) : Opens (member name written) :=
  (opens_quoted name).append _

theorem fields?_line (name : String) (reads : Reads value? written document) :
    ReadsLine fields? '}' (member name written) (name, document) := by
  have shorter : written.length ≤ (member name written).length := by
    simp [member]
    omega
  constructor
  next => exact opens_member name written
  next =>
    intro fuel inner outer rest enough
    have field := reads.reads fuel (newline outer ++ '}' :: rest) (by omega)
      (by simp [Closes, newline])
    have value : skipBlanks (' ' :: (written ++ (newline outer ++ '}' :: rest))) =
        written ++ (newline outer ++ '}' :: rest) := skipBlanks_opens (reads.opens.append _)
    rw [fields?, skipBlanks_newline, skipBlanks_opens ((opens_member name written).append _)]
    simp [member, quoted, after?, string?_quoted, skipBlanks_ink, isBlank, value, field]
  next =>
    intro fuel inner next fields rest enough others
    have field := reads.reads fuel (',' :: next) (by omega) (by simp [Closes])
    have value : skipBlanks (' ' :: (written ++ ',' :: next)) = written ++ ',' :: next :=
      skipBlanks_opens (reads.opens.append _)
    rw [fields?, skipBlanks_newline, skipBlanks_opens ((opens_member name written).append _)]
    simp [member, quoted, after?, string?_quoted, skipBlanks_ink, isBlank, value, field, others]

end Members

theorem skipBlanks_skipBlanks (s : List Char) : skipBlanks (skipBlanks s) = skipBlanks s :=
  List.dropWhile_idempotent isBlank s

theorem items?_skipBlanks (fuel : Nat) (s : List Char) :
    items? fuel (skipBlanks s) = items? fuel s := by
  cases fuel with
  | zero => rfl
  | succ fuel => rw [items?, items?, skipBlanks_skipBlanks]

theorem fields?_skipBlanks (fuel : Nat) (s : List Char) :
    fields? fuel (skipBlanks s) = fields? fuel s := by
  cases fuel with
  | zero => rfl
  | succ fuel => rw [fields?, fields?, skipBlanks_skipBlanks]

theorem value?_items {s : List Char} (opens : Opens (skipBlanks s)) (fuel : Nat) :
    value? (fuel + 1) ('[' :: s) =
      (items? fuel s).map fun (items, rest) => (.list items, rest) := by
  rw [value?]
  split
  next same => exact absurd same (opens.ne_cons (by simp) _)
  next => rw [items?_skipBlanks]

theorem value?_fields {s : List Char} (opens : Opens (skipBlanks s)) (fuel : Nat) :
    value? (fuel + 1) ('{' :: s) =
      (fields? fuel s).map fun (fields, rest) => (.table fields, rest) := by
  rw [value?]
  split
  next same => exact absurd same (opens.ne_cons (by simp) _)
  next => rw [fields?_skipBlanks]

theorem pretty_list (depth : Nat) {items : List Document} (filled : items ≠ [])
    (rest : List Char) : pretty depth (.list items) ++ rest =
      '[' :: (prettyItems (depth + 1) items ++ (newline depth ++ ']' :: rest)) := by
  rw [pretty]
  next => simp
  next => exact filled

theorem pretty_table (depth : Nat) {fields : List (String × Document)} (filled : fields ≠ [])
    (rest : List Char) : pretty depth (.table fields) ++ rest =
      '{' :: (prettyFields (depth + 1) fields ++ (newline depth ++ '}' :: rest)) := by
  rw [pretty]
  next => simp
  next => exact filled

theorem opens_pretty_list (depth : Nat) (items : List Document) :
    Opens (pretty depth (.list items)) := by
  cases items with
  | nil => exact ⟨_, _, rfl, by decide⟩
  | cons first others =>
    have written := pretty_list depth (List.cons_ne_nil first others) []
    rw [List.append_nil] at written
    exact ⟨_, _, written, by decide⟩

theorem opens_pretty_table (depth : Nat) (fields : List (String × Document)) :
    Opens (pretty depth (.table fields)) := by
  cases fields with
  | nil => exact ⟨_, _, rfl, by decide⟩
  | cons first others =>
    have written := pretty_table depth (List.cons_ne_nil first others) []
    rw [List.append_nil] at written
    exact ⟨_, _, written, by decide⟩

theorem value?_prettyList (depth : Nat) {items : List Document}
    (each : ∀ item ∈ items, Reads value? (pretty (depth + 1) item) item) :
    Reads value? (pretty depth (.list items)) (.list items) := by
  refine ⟨opens_pretty_list depth items, fun fuel rest enough _ => ?_⟩
  obtain ⟨fuel, rfl⟩ := (opens_pretty_list depth items).fuel enough
  by_cases filled : items = []
  next =>
    obtain rfl := filled
    rfl
  next =>
    have lines (item : Document) (mem : item ∈ items) := items?_line (each item mem)
    have whole := congrArg List.length (pretty_list depth filled [])
    simp only [List.length_cons, List.length_append, List.append_nil, prettyItems_eq] at whole
    have read := parts?_lined lines filled (depth + 1) depth fuel rest (by omega)
    rw [pretty_list depth filled, prettyItems_eq, value?_items (opens_lined lines filled _ _), read]
    simp

theorem value?_prettyTable (depth : Nat) {fields : List (String × Document)}
    (each : ∀ field ∈ fields, Reads value? (pretty (depth + 1) field.2) field.2) :
    Reads value? (pretty depth (.table fields)) (.table fields) := by
  refine ⟨opens_pretty_table depth fields, fun fuel rest enough _ => ?_⟩
  obtain ⟨fuel, rfl⟩ := (opens_pretty_table depth fields).fuel enough
  by_cases filled : fields = []
  next =>
    obtain rfl := filled
    rfl
  next =>
    have lines (field : String × Document) (mem : field ∈ fields) :=
      fields?_line field.1 (each field mem)
    have whole := congrArg List.length (pretty_table depth filled [])
    simp only [List.length_cons, List.length_append, List.append_nil, prettyFields_eq] at whole
    have read := parts?_lined lines filled (depth + 1) depth fuel rest (by omega)
    rw [pretty_table depth filled, prettyFields_eq, value?_fields (opens_lined lines filled _ _), read]
    simp

theorem value?_null (depth : Nat) : Reads value? (pretty depth .null) .null := by
  have opens : Opens (pretty depth .null) := ⟨_, _, rfl, by decide⟩
  refine ⟨opens, fun fuel rest enough _ => ?_⟩
  obtain ⟨fuel, rfl⟩ := opens.fuel enough
  simp [pretty, value?, after?]

/-- A document is read back as it is, at whatever depth it was written. -/
theorem value?_pretty {document : Document} (integral : Integral document) (depth : Nat) :
    Reads value? (pretty depth document) document := by
  induction integral generalizing depth with
  | null => exact value?_null depth
  | boolean b => cases b with
    | false => exact value?_flag false
    | true => exact value?_flag true
  | integer n => exact value?_decimal n
  | text s => exact value?_quoted s
  | list _ ih => exact value?_prettyList depth fun item mem => ih item mem (depth + 1)
  | table _ ih => exact value?_prettyTable depth fun field mem => ih field mem (depth + 1)

theorem read?_pretty {document : Document} (integral : Integral document) (depth : Nat) :
    read? (pretty depth document) = some document :=
  read?_written (value?_pretty integral depth)

end Json

end HeaderLint.Document
