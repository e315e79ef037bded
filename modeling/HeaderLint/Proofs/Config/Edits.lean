import HeaderLint.Proofs.Config.Entry
import HeaderLint.Proofs.Config.RuleSet
import Mathlib.Data.Finset.Card

set_option autoImplicit false

namespace HeaderLint.RuleSet

variable {name : String} {entry : Entry}

def edit (name : String) (entry : Entry) : StateM RuleSet (Except ConfigError Unit) := do
  match (← get).insert name entry with
  | .ok next =>
      set next
      return .ok ()
  | .error error => return .error error

def edits (calls : List (String × Entry)) : StateM RuleSet (List (Except ConfigError Unit)) :=
  calls.mapM fun call => edit call.1 call.2

def accepted (calls : List (String × Entry)) : List (String × Entry) :=
  calls.filter fun call => call.2.value ≠ some (.list [])

def answer (call : String × Entry) : Except ConfigError Unit :=
  if call.2.value = some (.list []) then .error (.emptySet call.1) else .ok ()

theorem edit_run (name : String) (entry : Entry) (rules : RuleSet) :
    (edit name entry).run rules =
      match rules.insert name entry with
      | .ok next => (.ok (), next)
      | .error error => (.error error, rules) := by
  rw [edit, StateT.run_bind]
  change (match rules.insert name entry with
    | .ok next => _
    | .error error => _ : StateM RuleSet _).run rules = _
  cases rules.insert name entry <;> rfl

theorem insert_rejected (rules : RuleSet) (empty : entry.value = some (.list [])) :
    rules.insert name entry = .error (.emptySet name) := by
  simp [insert, Entry.hasEmptyList, empty]

theorem exists_insert_accepted (rules : RuleSet) (filled : entry.value ≠ some (.list [])) :
    ∃ next, rules.insert name entry = .ok next :=
  exists_insert (by simpa [Entry.hasEmptyList] using filled)

theorem edit_rejected (rules : RuleSet) (empty : entry.value = some (.list [])) :
    (edit name entry).run rules = (.error (.emptySet name), rules) := by
  rw [edit_run, insert_rejected rules empty]

theorem edits_cons_run (call : String × Entry) (calls : List (String × Entry)) (rules : RuleSet) :
    (edits (call :: calls)).run rules =
      let first := (edit call.1 call.2).run rules
      let others := (edits calls).run first.2
      (first.1 :: others.1, others.2) := by
  rw [edits, List.mapM_cons, StateT.run_bind]
  rfl

structure Keeps (kept : List (String × Entry)) (rules : RuleSet) : Prop where
  names : FirstOccurrences (kept.map Prod.fst) rules.names
  last : ∀ name, rules.find? name = kept.reverse.lookup name

theorem keeps_empty : Keeps [] empty :=
  ⟨.nil, fun _ => rfl⟩

theorem Keeps.insert {kept : List (String × Entry)} {rules next : RuleSet}
    (keeps : Keeps kept rules) (inserted : rules.insert name entry = .ok next) :
    Keeps (kept ++ [(name, entry)]) next := by
  constructor
  next =>
    rw [List.map_append, names_insert inserted]
    exact keeps.names.concat name
  next =>
    intro key
    rw [find?_insert inserted, List.reverse_concat, lookup_cons_ite, keeps.last]

structure OrderedMap (kept : List (String × Entry)) (rules : RuleSet) : Prop where
  nodup : rules.names.Nodup
  filled : ∀ item ∈ rules.entries, item.2.value ≠ some (.list [])
  listed : ∀ item ∈ rules.entries, rules.find? item.1 = some item.2
  found : ∀ name entry, rules.find? name = some entry ↔
    ∃ before after, kept = before ++ (name, entry) :: after ∧ name ∉ after.map Prod.fst
  absent : ∀ name, rules.find? name = none ↔ name ∉ kept.map Prod.fst
  order : FirstOccurrences (kept.map Prod.fst) rules.names
  size : rules.size = (kept.map Prod.fst).toFinset.card
  isEmpty : rules.isEmpty = true ↔ rules.size = 0

theorem Keeps.orderedMap {kept : List (String × Entry)} {rules : RuleSet}
    (keeps : Keeps kept rules) : OrderedMap kept rules := by
  constructor
  case nodup => exact rules.nodup
  case filled => exact fun item mem => by simpa [Entry.hasEmptyList] using rules.filled item mem
  case listed => exact fun item mem => find?_eq_some_iff.mpr mem
  case found => exact fun name entry => by rw [keeps.last, lookup_reverse_eq_some_iff]
  case absent =>
    intro name
    rw [keeps.last, lookup_eq_none_iff_not_mem, List.map_reverse, List.mem_reverse]
  case order => exact keeps.names
  case size =>
    have nodup : rules.names.Nodup := rules.nodup
    have members : rules.names.toFinset = (kept.map Prod.fst).toFinset := by
      ext name
      simp only [List.mem_toFinset, keeps.names.mem]
    rw [← members, List.toFinset_card_of_nodup nodup, RuleSet.names, List.length_map, RuleSet.size]
  case isEmpty => rw [RuleSet.isEmpty, RuleSet.size, List.isEmpty_iff_length_eq_zero]

theorem edits_run (calls : List (String × Entry)) {kept : List (String × Entry)} {rules : RuleSet}
    (keeps : Keeps kept rules) :
    ∃ final, (edits calls).run rules = (calls.map answer, final) ∧
      Keeps (kept ++ accepted calls) final := by
  induction calls generalizing kept rules with
  | nil => exact ⟨rules, rfl, by simpa [accepted] using keeps⟩
  | cons call calls ih =>
    obtain ⟨name, entry⟩ := call
    by_cases rejected : entry.value = some (.list [])
    next =>
      obtain ⟨final, ran, whole⟩ := ih keeps
      refine ⟨final, ?_, by simpa [accepted, rejected] using whole⟩
      rw [edits_cons_run, edit_rejected rules rejected]
      simp [ran, answer, rejected]
    next =>
      obtain ⟨next, inserted⟩ := exists_insert_accepted rules rejected
      obtain ⟨final, ran, whole⟩ := ih (keeps.insert inserted)
      refine ⟨final, ?_, by simpa [accepted, rejected] using whole⟩
      rw [edits_cons_run, edit_run, inserted]
      simp [ran, answer, rejected]

/-- Calls chained so that the first refusal ends them give what separate calls leave, if none of
them is refused. -/
theorem insertAll_eq (calls : List (String × Entry)) (rules : RuleSet) :
    rules.insertAll calls =
      match calls.find? fun call => call.2.value = some (.list []) with
      | some call => .error (.emptySet call.1)
      | none => .ok ((edits calls).run rules).2 := by
  induction calls generalizing rules with
  | nil => rfl
  | cons call calls ih =>
    obtain ⟨name, entry⟩ := call
    by_cases rejected : entry.value = some (.list [])
    next =>
      rw [insertAll, insert_rejected rules rejected, List.find?_cons_of_pos (by simp [rejected])]
      rfl
    next =>
      obtain ⟨next, inserted⟩ : ∃ next, rules.insert name entry = .ok next :=
        exists_insert_accepted rules rejected
      have chained : rules.insertAll ((name, entry) :: calls) = next.insertAll calls := by
        rw [insertAll, inserted]
        rfl
      rw [chained, ih, edits_cons_run, edit_run, inserted]
      simp [rejected]

/-- Whatever calls are made on an empty set of rules, it answers each call by its value alone, stays
as it is when it refuses one, and is the ordered map of the entries that it accepted. -/
theorem edits_exact (calls : List (String × Entry)) :
    let final := ((edits calls).run empty).2
    ((edits calls).run empty).1 = calls.map answer ∧
    (∀ rules name entry, entry.value = some (.list []) →
      (edit name entry).run rules = (.error (.emptySet name), rules)) ∧
    OrderedMap (accepted calls) final ∧
    empty.insertAll calls =
      match calls.find? fun call => call.2.value = some (.list []) with
      | some call => .error (.emptySet call.1)
      | none => .ok final := by
  intro final
  obtain ⟨held, ran, keeps⟩ := edits_run calls keeps_empty
  have same : final = held := congrArg Prod.snd ran
  rw [List.nil_append, ← same] at keeps
  exact ⟨congrArg Prod.fst ran, fun rules name entry => edit_rejected rules, keeps.orderedMap,
    insertAll_eq calls empty⟩

example :
    let calls : List (String × Entry) :=
      [("scope-enum", ⟨.error, .always, none⟩), ("type-enum", ⟨.warning, .always, none⟩),
        ("scope-enum", ⟨.error, .always, some (.list [])⟩), ("scope-enum", ⟨.disabled, .never, none⟩)]
    ((edits calls).run empty).2.entries =
      [("scope-enum", ⟨.disabled, .never, none⟩), ("type-enum", ⟨.warning, .always, none⟩)] :=
  rfl

end HeaderLint.RuleSet
