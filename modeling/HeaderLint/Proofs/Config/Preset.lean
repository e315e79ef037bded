import HeaderLint.Config.Preset
import HeaderLint.Proofs.Config.Format

set_option autoImplicit false

namespace HeaderLint

open Document
open Document.Toml (Row)

-- As a value stands in the example: a list of more than four strings takes a line for each.
def Item.laidOut : Item → List Char
  | .list items =>
      if items.length ≤ 4 then bracketed (items.map inQuotes)
      else Toml.stacked (items.map inQuotes)
  | item => item.written

theorem Item.reads_laidOut {item : Item} (writable : item.Writable) :
    Reads Toml.value? item.laidOut item.document := by
  cases item with
  | integer | text => exact Item.reads_written Toml.readsValues writable
  | list items =>
    have texts (s : String) (mem : s ∈ items) : Reads Toml.value? (inQuotes s) (.text s) :=
      Toml.value?_inQuotes (writable s mem)
    rw [laidOut]
    split
    next => exact Toml.value?_bracketed texts
    next => exact Toml.value?_stacked texts

namespace Config

def exampleRow (rule : String × Entry) : Row :=
  .field rule.1 (bracketed (rule.2.items.map Item.laidOut)) (.list (rule.2.items.map Item.document))

def exampleRows : List Row :=
  [ .comment " cclint configuration",
    .comment " Entries are [severity, applicability, value]",
    .comment " severity: 0 = disabled, 1 = warning, 2 = error",
    .blank,
    .field "strict" (flag false) (.boolean false),
    .blank,
    .heading "rules" ] ++
  defaultEntries.map exampleRow

def ended (line : String) : List Char :=
  line.toList ++ ['\n']

theorem toList_exampleText : exampleText.toList = exampleLines.flatMap ended := by
  simp [exampleText, String.toList_join, List.flatMap_map]
  rfl

theorem written_stacked (name : String) (items : List String) (long : 4 < items.length) :
    (exampleRow (name, ⟨.error, .always, some (.list items)⟩)).written =
      ended (name ++ " = [2, \"always\", [") ++
        ((items.map itemLine).flatMap ended ++ ended "]]") := by
  have several : ¬ items.length ≤ 4 := by omega
  have level : decimal 2 = ['2'] := by decide
  simp [exampleRow, Row.written, Toml.line, bracketed, separated, List.intercalate, Entry.items,
    Severity.level, Applicability.name, Value.item, Item.laidOut, Item.written, level, inQuotes,
    several, Toml.stacked, Toml.indented, itemLine, ended, List.flatMap_map]

theorem written_single : (exampleRows.take 14).map Row.written = (exampleLines.take 14).map ended := by
  decide

theorem written_lists :
    (exampleRows.drop 14).flatMap Row.written = (exampleLines.drop 14).flatMap ended := by
  have rows : exampleRows.drop 14 =
      [ exampleRow ("type-enum", ⟨.error, .always, some (.list defaultTypes)⟩),
        exampleRow ("scope-enum", ⟨.error, .always, some (.list defaultScopes)⟩) ] := rfl
  have lines : exampleLines.drop 14 =
      ("type-enum" ++ " = [2, \"always\", [") :: (defaultTypes.map itemLine ++
        "]]" :: ("scope-enum" ++ " = [2, \"always\", [") :: (defaultScopes.map itemLine ++ ["]]"])) :=
    rfl
  have types := written_stacked "type-enum" defaultTypes (by decide)
  have scopes := written_stacked "scope-enum" defaultScopes (by decide)
  simp [rows, lines, types, scopes]

theorem toList_exampleText_eq_written : exampleText.toList = exampleRows.flatMap Row.written := by
  have single : (exampleRows.take 14).flatMap Row.written = (exampleLines.take 14).flatMap ended := by
    rw [List.flatMap_def, List.flatMap_def, written_single]
  calc exampleText.toList
    _ = (exampleLines.take 14 ++ exampleLines.drop 14).flatMap ended := by
      rw [List.take_append_drop, toList_exampleText]
    _ = (exampleRows.take 14 ++ exampleRows.drop 14).flatMap Row.written := by
      rw [List.flatMap_append, List.flatMap_append, single, written_lists]
    _ = exampleRows.flatMap Row.written := by rw [List.take_append_drop]

theorem writable_defaultEntries : Draft.WritableEntries defaultEntries := by
  constructor
  next => decide
  next => decide
  next => decide

theorem legible_exampleRows : ∀ row ∈ exampleRows, row.Legible := by
  rw [exampleRows, List.forall_mem_append]
  constructor
  next =>
    simp only [List.forall_mem_cons, Row.Legible]
    refine ⟨?_, ?_, ?_, trivial, ⟨Draft.bare_strict, Toml.value?_flag false⟩, trivial,
      Draft.bare_rules, nofun⟩
    all_goals simp [Toml.isPrintable]
  next =>
    intro row mem
    obtain ⟨rule, inside, rfl⟩ := List.mem_map.mp mem
    refine ⟨writable_defaultEntries.bare rule inside, Toml.value?_bracketed fun item held => ?_⟩
    exact Item.reads_laidOut
      (Entry.writable_items (writable_defaultEntries.values rule inside) item held)

theorem document?_exampleText : Format.toml.document? exampleText.toList =
    some (Draft.ofEntries false defaultEntries).document := by
  let rules := defaultEntries.map fun rule => (rule.1, Document.list (rule.2.items.map Item.document))
  have statements : exampleRows.filterMap Row.statement? =
      .field none "strict" (.boolean false) :: .heading "rules" ::
        rules.map fun rule => .field none rule.1 rule.2 := by
    simp [rules, exampleRows, exampleRow, Row.statement?, List.filterMap_cons, List.filterMap_map,
      Function.comp_def]
  have distinct : (rules.map Prod.fst).Nodup := by
    simpa [rules, Function.comp_def] using writable_defaultEntries.distinct
  rw [Format.document?, toList_exampleText_eq_written,
    Toml.read?_rows legible_exampleRows (by decide) distinct statements]
  simp [rules, Draft.document, Draft.ofEntries]

theorem settled_defaultEntries :
    (defaultEntries.map fun rule => (rule.1, rule.2.settled)) = defaultEntries := by
  decide +kernel

/-- The example is the preset in writing. -/
theorem read_exampleText : read .toml exampleText = .ok preset := by
  have writable := @Draft.writable_ofEntries false _ writable_defaultEntries
  obtain ⟨final, made, whole⟩ := @Draft.ruleSet_ofEntries defaultEntries .empty
    writable_defaultEntries.distinct fun rule mem value held =>
      (writable_defaultEntries.values rule mem value held).1
  have same : final = preset.rules := by
    obtain ⟨entries, _, _⟩ := final
    obtain rfl : entries = defaultEntries := by
      rw [← settled_defaultEntries]
      exact whole
    rfl
  have draft : (Draft.ofEntries false defaultEntries).config = .ok preset := by
    rw [Draft.config_of_ruleSet made, same]
    rfl
  rw [read_of_document? writable document?_exampleText, draft]

end Config

theorem Document.Json.read?_pound (rest : List Char) : Json.read? ('#' :: rest) = none := by
  have start : Json.skipBlanks ('#' :: rest) = '#' :: rest := rfl
  have number : Json.number? ('#' :: rest) = none := rfl
  simp [Json.read?, Json.value?, start, number]

theorem Config.read_json_exampleText :
    read .json exampleText = .error (.unreadable "Failed to parse JSON") := by
  have opening : ∃ rest, exampleText.toList = '#' :: rest := by
    rw [toList_exampleText_eq_written]
    exact ⟨_, rfl⟩
  obtain ⟨rest, opening⟩ := opening
  have refused : Format.json.document? exampleText.toList = none := by
    rw [opening]
    exact Json.read?_pound rest
  rw [read_of_unparsed refused]
  rfl

end HeaderLint
