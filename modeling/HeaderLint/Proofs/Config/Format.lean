import HeaderLint.Config.Format
import HeaderLint.Proofs.Config.Draft
import HeaderLint.Proofs.Document.Json
import HeaderLint.Proofs.Document.Toml
import HeaderLint.Proofs.Text.Ascii

set_option autoImplicit false

namespace HeaderLint

open Document

theorem mapM_map_eq_some {A B : Type} {write : A → B} {read? : B → Option A} {items : List A}
    (each : ∀ a ∈ items, read? (write a) = some a) : (items.map write).mapM read? = some items := by
  induction items with
  | nil => rfl
  | cons first others ih =>
    have later := ih fun a mem => each a (List.mem_cons_of_mem _ mem)
    simp [each first (by simp), later]

theorem Document.Toml.Bare.plain {name : String} (bare : Toml.Bare name) : Plain name := by
  intro c mem
  rcases bare.chars c mem with alphanum | rfl | rfl
  next =>
    rw [Text.isAlphanum_iff, Text.isUpper_iff_toNat, Text.isLower_iff_toNat,
      Text.isDigit_iff_toNat] at alphanum
    refine ⟨?_, ?_, by omega, by omega⟩
    next =>
      rintro rfl
      simp at alphanum
    next =>
      rintro rfl
      simp at alphanum
  next => decide
  next => decide

namespace Item

def written : Item → List Char
  | integer n => decimal n
  | text s => inQuotes s
  | list items => bracketed (items.map inQuotes)

def document : Item → Document
  | integer n => .integer n
  | text s => .text s
  | list items => .list (items.map .text)

/-- Integers have sixty-four bits, and strings need no escapes. -/
def Writable : Item → Prop
  | integer n => -0x8000000000000000 ≤ n ∧ n ≤ 0x7FFFFFFFFFFFFFFF
  | text s => Plain s
  | list items => ∀ s ∈ items, Plain s

instance : (item : Item) → Decidable item.Writable
  | integer _ => inferInstanceAs (Decidable (_ ∧ _))
  | text s => inferInstanceAs (Decidable (Plain s))
  | list items => inferInstanceAs (Decidable (∀ s ∈ items, Plain s))

variable {item : Item}

theorem reads_written {value? : Nat → List Char → Option (Document × List Char)}
    (values : ReadsValues value?) (writable : item.Writable) :
    Reads value? item.written item.document := by
  cases item with
  | integer n => exact values.integer n
  | text s => exact values.text s writable
  | list items => exact values.list fun s mem => values.text s (writable s mem)

theorem ofDocument?_document (writable : item.Writable) : ofDocument? item.document = some item := by
  cases item with
  | integer n =>
    have word : isWord n = true := by simpa [isWord, Writable] using writable
    simp [document, ofDocument?, word]
  | text s => rfl
  | list items =>
    have texts : (items.map Document.text).mapM text? = some items :=
      mapM_map_eq_some fun _ _ => rfl
    simp [document, ofDocument?, texts]

end Item

namespace Draft

structure Writable (draft : Draft) : Prop where
  distinct : (draft.rules.map Prod.fst).Nodup
  bare : ∀ rule ∈ draft.rules, Toml.Bare rule.1
  items : ∀ rule ∈ draft.rules, ∀ item ∈ rule.2, item.Writable

def array (items : List Item) : List Char :=
  bracketed (items.map Item.written)

def written (draft : Draft) : Config.Format → List Char
  | .toml =>
      Toml.line "strict" (flag draft.strict) ++
        (Toml.heading "rules" ++ draft.rules.flatMap fun rule => Toml.line rule.1 (array rule.2))
  | .json =>
      Json.braced [Json.named "strict" (flag draft.strict),
        Json.named "rules" (Json.braced (draft.rules.map fun rule => Json.named rule.1 (array rule.2)))]

def document (draft : Draft) : Document :=
  .table [("strict", .boolean draft.strict),
    ("rules", .table (draft.rules.map fun rule => (rule.1, .list (rule.2.map Item.document))))]

variable {draft : Draft}

theorem rules?_document (writable : draft.Writable) :
    rules? (.table (draft.rules.map fun rule => (rule.1, .list (rule.2.map Item.document)))) =
      some draft.rules := by
  refine mapM_map_eq_some fun rule mem => ?_
  have items : (rule.2.map Item.document).mapM Item.ofDocument? = some rule.2 :=
    mapM_map_eq_some fun item inside => Item.ofDocument?_document (writable.items rule mem item inside)
  simp [rule?, items]

theorem ofDocument?_document (writable : draft.Writable) :
    ofDocument? draft.document = some draft := by
  simp [document, ofDocument?, field?, strict?, rules?_document writable]

theorem reads_array {value? : Nat → List Char → Option (Document × List Char)}
    (values : ReadsValues value?) (writable : draft.Writable) (rule : String × List Item)
    (mem : rule ∈ draft.rules) :
    Reads value? (array rule.2) (.list (rule.2.map Item.document)) :=
  values.list fun item inside => Item.reads_written values (writable.items rule mem item inside)

theorem bare_strict : Toml.Bare "strict" := by decide

theorem bare_rules : Toml.Bare "rules" := by decide

theorem toml_written (writable : draft.Writable) :
    Toml.read? (draft.written .toml) = some draft.document := by
  apply Toml.read?_table
  next => decide
  next => exact bare_strict
  next => exact bare_rules
  next => exact Toml.readsValues.boolean draft.strict
  next => exact writable.bare
  next => exact writable.distinct
  next => exact reads_array Toml.readsValues writable

theorem json_written (writable : draft.Writable) :
    Json.read? (draft.written .json) = some draft.document := by
  let rules := draft.rules.map fun rule => Json.named rule.1 (array rule.2)
  let table := draft.rules.map fun rule => (rule.1, Document.list (rule.2.map Item.document))
  have reads : Reads Json.value? (Json.braced rules) (.table table) :=
    Json.value?_braced (fun rule mem => (writable.bare rule mem).plain)
      (reads_array Json.readsValues writable)
  let fields : List (String × List Char × Document) :=
    [("strict", flag draft.strict, .boolean draft.strict), ("rules", Json.braced rules, .table table)]
  have whole : Reads Json.value? (Json.braced (fields.map fun field => Json.named field.1 field.2.1))
      (.table (fields.map fun field => (field.1, field.2.2))) := by
    apply Json.value?_braced
    next => simpa [fields] using ⟨bare_strict.plain, bare_rules.plain⟩
    next => simpa [fields] using ⟨Json.readsValues.boolean draft.strict, reads⟩
  exact Json.read?_written whole

theorem document?_written (writable : draft.Writable) (format : Config.Format) :
    format.document? (draft.written format) = some draft.document := by
  cases format with
  | toml => exact toml_written writable
  | json => exact json_written writable

end Draft

namespace Config

variable {format : Format} {text : String} {draft : Draft}

theorem read_of_document? (writable : draft.Writable)
    (parsed : format.document? text.toList = some draft.document) :
    read format text = draft.config := by
  simp [read, parsed, Draft.ofDocument?_document writable]

theorem read_of_unparsed (unparsed : format.document? text.toList = none) :
    read format text = .error (.unreadable ("Failed to parse " ++ format.name)) := by
  simp [read, unparsed]

theorem read_written (writable : draft.Writable) (format : Format) :
    read format (.ofList (draft.written format)) = draft.config :=
  read_of_document? writable (by simp [Draft.document?_written writable])

end Config

def Severity.level : Severity → Int
  | disabled => 0
  | warning => 1
  | error => 2

namespace Value

def item : Value → Item
  | number n => .integer n
  | text s => .text s
  | list items => .list items

def settled : Value → Value
  | list items => .list items.eraseDups
  | value => value

def Writable (value : Value) : Prop :=
  value ≠ .list [] ∧ value.item.Writable

instance (value : Value) : Decidable value.Writable :=
  inferInstanceAs (Decidable (_ ∧ _))

end Value

namespace Entry

def items (entry : Entry) : List Item :=
  .integer entry.severity.level :: .text entry.applicability.name ::
    (entry.value.map Value.item).toList

def settled (entry : Entry) : Entry :=
  { entry with value := entry.value.map Value.settled }

variable {entry : Entry}

theorem value_item {value : Option Value} (filled : ∀ held ∈ value, held ≠ .list []) :
    Item.value (value.map Value.item) = .ok (value.map Value.settled) := by
  cases value with
  | none => rfl
  | some value =>
    cases value with
    | number n => rfl
    | text s => rfl
    | list items =>
      cases items with
      | nil => exact absurd rfl (filled (.list []) rfl)
      | cons first others =>
        exact congrArg (fun kept => Except.ok (some kept)) (Value.ofItems_eq (first :: others))

theorem hasEmptyList_settled (filled : ∀ value ∈ entry.value, value ≠ .list []) :
    entry.settled.hasEmptyList = false := by
  obtain ⟨severity, applicability, value⟩ := entry
  match value with
  | none => rfl
  | some (.number n) => rfl
  | some (.text s) => rfl
  | some (.list []) => exact absurd rfl (filled (.list []) rfl)
  | some (.list (first :: others)) => simp [settled, Value.settled, hasEmptyList, List.eraseDups_cons]

theorem writable_items (writable : ∀ value ∈ entry.value, value.Writable) :
    ∀ item ∈ entry.items, item.Writable := by
  simp only [items, List.forall_mem_cons]
  refine ⟨?_, ?_, ?_⟩
  next => cases entry.severity <;> simp [Severity.level, Item.Writable]
  next => cases entry.applicability <;> simp [Applicability.name, Item.Writable, Plain]
  next =>
    intro item mem
    obtain ⟨value, held, rfl⟩ : ∃ value, entry.value = some value ∧ value.item = item := by
      simpa using mem
    exact (writable value held).2

end Entry

namespace Draft

def ofEntries (strict : Bool) (entries : List (String × Entry)) : Draft :=
  { rules := entries.map fun rule => (rule.1, rule.2.items), strict }

structure WritableEntries (entries : List (String × Entry)) : Prop where
  distinct : (entries.map Prod.fst).Nodup
  bare : ∀ rule ∈ entries, Toml.Bare rule.1
  values : ∀ rule ∈ entries, ∀ value ∈ rule.2.value, value.Writable

variable {strict : Bool} {entries : List (String × Entry)}

theorem writable_ofEntries (writable : WritableEntries entries) :
    (ofEntries strict entries).Writable := by
  constructor
  next => simpa [ofEntries, Function.comp_def] using writable.distinct
  next =>
    intro rule mem
    obtain ⟨entry, inside, rfl⟩ := List.mem_map.mp mem
    exact writable.bare entry inside
  next =>
    intro rule mem item
    obtain ⟨entry, inside, rfl⟩ := List.mem_map.mp mem
    exact Entry.writable_items (writable.values entry inside) item

theorem entryOf_items {entry : Entry} (name : String)
    (filled : ∀ value ∈ entry.value, value ≠ .list []) :
    entryOf name entry.items = .ok entry.settled := by
  have short : entry.items.length ≤ 3 := by
    cases held : entry.value <;> simp [Entry.items, held]
  have severity : Item.severity entry.items[0]? = .ok entry.severity := by
    cases level : entry.severity <;> simp [Entry.items, level] <;> rfl
  have applicability : Item.applicability entry.items[1]? = .ok entry.applicability := by
    cases applies : entry.applicability <;> simp [Entry.items, applies] <;> rfl
  have value : Item.value entry.items[2]? = .ok (entry.value.map Value.settled) := by
    rw [← Entry.value_item filled]
    cases held : entry.value <;> simp [Entry.items, held]
  simp only [entryOf_of_short short, severity, applicability, value]
  rfl

theorem ruleSet_ofEntries {rules : RuleSet}
    (distinct : (rules.names ++ entries.map Prod.fst).Nodup)
    (filled : ∀ rule ∈ entries, ∀ value ∈ rule.2.value, value ≠ .list []) :
    ∃ final, ruleSet rules (entries.map fun rule => (rule.1, rule.2.items)) = .ok final ∧
      final.entries = rules.entries ++ entries.map fun rule => (rule.1, rule.2.settled) := by
  induction entries generalizing rules with
  | nil => exact ⟨rules, rfl, by simp⟩
  | cons head rest ih =>
    obtain ⟨name, entry⟩ := head
    have valued := filled (name, entry) (by simp)
    have new : name ∉ rules.names := fun mem =>
      (List.nodup_append.mp distinct).2.2 _ mem _ (by simp) rfl
    obtain ⟨next, inserted, held⟩ :=
      RuleSet.exists_insert_of_not_mem (Entry.hasEmptyList_settled valued) new
    have names : next.names = rules.names ++ [name] := by simp [RuleSet.names, held]
    obtain ⟨final, made, whole⟩ := @ih next (by rw [names]; simpa using distinct)
      fun rule mem => filled rule (List.mem_cons_of_mem _ mem)
    refine ⟨final, ?_, by simp [whole, held]⟩
    rw [List.map_cons, ruleSet_cons (entryOf_items name valued) inserted]
    exact made

end Draft

namespace Config

def text (format : Format) (strict : Bool) (entries : List (String × Entry)) : String :=
  .ofList ((Draft.ofEntries strict entries).written format)

example : text .toml true [("type-enum", ⟨.error, .always, some (.list ["feat", "fix"])⟩),
    ("subject-empty", ⟨.warning, .never, none⟩)] =
    "strict = true\n[rules]\ntype-enum = [2, \"always\", [\"feat\", \"fix\"]]\n" ++
      "subject-empty = [1, \"never\"]\n" := by
  decide

example : text .json false [("type-enum", ⟨.error, .always, some (.list ["feat", "fix"])⟩),
    ("subject-empty", ⟨.warning, .never, none⟩)] =
    "\x7b\"strict\": false, \"rules\": \x7b\"type-enum\": [2, \"always\", [\"feat\", \"fix\"]], " ++
      "\"subject-empty\": [1, \"never\"]\x7d\x7d" := by
  decide

/-- Entries are read back from both notations, all of them and in their order, and give the same
configuration. -/
theorem read_entries (strict : Bool) {entries : List (String × Entry)}
    (writable : Draft.WritableEntries entries) :
    ∃ config, (∀ format, read format (text format strict entries) = .ok config) ∧
      config.strict = strict ∧
      config.rules.entries = entries.map fun rule => (rule.1, rule.2.settled) := by
  obtain ⟨final, made, whole⟩ := @Draft.ruleSet_ofEntries entries .empty writable.distinct
    fun rule mem value held => (writable.values rule mem value held).1
  refine ⟨{ rules := final, strict }, fun format => ?_, rfl, whole⟩
  rw [text, read_written (Draft.writable_ofEntries writable)]
  exact Draft.config_of_ruleSet made

def mixed : List (String × Entry) :=
  [("header-max-length", ⟨.error, .always, some (.number 72)⟩),
    ("header-min-length", ⟨.disabled, .never, some (.number (-0x8000000000000000))⟩),
    ("scope-enum", ⟨.warning, .always, some (.list ["cli", "api", "cli", ""])⟩),
    ("subject_full-stop", ⟨.error, .never, some (.text "")⟩),
    ("type-empty", ⟨.error, .never, none⟩)]

theorem writable_mixed : Draft.WritableEntries mixed := by
  constructor
  next => decide
  next => decide
  next => decide

theorem read_entries_mixed :
    Draft.WritableEntries mixed ∧
    ∃ config, (∀ format, read format (text format true mixed) = .ok config) ∧
      config.strict = true ∧
      config.rules.entries =
        [("header-max-length", ⟨.error, .always, some (.number 72)⟩),
          ("header-min-length", ⟨.disabled, .never, some (.number (-0x8000000000000000))⟩),
          ("scope-enum", ⟨.warning, .always, some (.list ["cli", "api", ""])⟩),
          ("subject_full-stop", ⟨.error, .never, some (.text "")⟩),
          ("type-empty", ⟨.error, .never, none⟩)] :=
  ⟨writable_mixed, read_entries true writable_mixed⟩

end Config

end HeaderLint
