import HeaderLint.Config.RuleSet
import HeaderLint.Proofs.Lookup

set_option autoImplicit false

namespace HeaderLint.RuleSet

section Put

variable {name key : String} {entry : Entry} {entries : List (String × Entry)}

@[simp] theorem keys_put :
    (put name entry entries).map Prod.fst =
      if name ∈ entries.map Prod.fst then entries.map Prod.fst
      else entries.map Prod.fst ++ [name] := by
  induction entries with
  | nil => simp [put]
  | cons head rest ih =>
    by_cases same : head.1 = name
    next => simp [put, same]
    next =>
      simp only [put, same, if_false, List.map_cons, ih, List.mem_cons, Ne.symm same, false_or]
      split <;> simp

theorem put_of_not_mem (new : name ∉ entries.map Prod.fst) :
    put name entry entries = entries ++ [(name, entry)] := by
  induction entries with
  | nil => rfl
  | cons head rest ih =>
    simp only [List.map_cons, List.mem_cons, not_or] at new
    rw [put, if_neg (Ne.symm new.1), ih new.2]
    rfl

@[simp] theorem lookup_put :
    (put name entry entries).lookup key = if key = name then some entry else entries.lookup key := by
  induction entries with
  | nil => simp [put]
  | cons head rest ih =>
    by_cases here : head.1 = name
    next =>
      simp only [put, here, if_true, lookup_cons_ite]
      split <;> rfl
    next =>
      simp only [put, here, if_false, lookup_cons_ite, ih]
      by_cases same : key = name
      next => simp [same, Ne.symm here]
      next => simp [same]

end Put

variable {rules next : RuleSet} {name : String} {entry : Entry}

@[simp] theorem insert_eq_ok_iff :
    rules.insert name entry = .ok next ↔
      entry.hasEmptyList = false ∧ next.entries = put name entry rules.entries := by
  by_cases empty : entry.hasEmptyList = true
  next => simp [insert, empty]
  next =>
    obtain ⟨entries, nodup, filled⟩ := next
    simp [insert, empty, eq_comm]

theorem exists_insert (usable : entry.hasEmptyList = false) :
    ∃ next, rules.insert name entry = .ok next := by
  simp [insert, usable]

theorem exists_insert_of_not_mem (usable : entry.hasEmptyList = false) (new : name ∉ rules.names) :
    ∃ next, rules.insert name entry = .ok next ∧
      next.entries = rules.entries ++ [(name, entry)] := by
  obtain ⟨next, inserted⟩ := exists_insert usable
  refine ⟨next, inserted, ?_⟩
  rw [(insert_eq_ok_iff.mp inserted).2, put_of_not_mem new]

theorem names_insert (inserted : rules.insert name entry = .ok next) :
    next.names = if name ∈ rules.names then rules.names else rules.names ++ [name] := by
  rw [names, (insert_eq_ok_iff.mp inserted).2, keys_put]
  rfl

theorem find?_insert (inserted : rules.insert name entry = .ok next) (key : String) :
    next.find? key = if key = name then some entry else rules.find? key := by
  rw [find?, (insert_eq_ok_iff.mp inserted).2, lookup_put]
  rfl

theorem find?_eq_some_iff : rules.find? name = some entry ↔ (name, entry) ∈ rules.entries :=
  lookup_eq_some_iff_mem rules.nodup

end HeaderLint.RuleSet
