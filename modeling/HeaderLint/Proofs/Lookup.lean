set_option autoImplicit false

namespace HeaderLint

variable {A : Type} {key name : String}

@[simp] theorem lookup_cons_ite (key : String) (head : String × A) (rest : List (String × A)) :
    (head :: rest).lookup key = if key = head.1 then some head.2 else rest.lookup key := by
  rw [List.lookup_cons]
  by_cases same : key = head.1
  next => simp [same]
  next => rw [beq_eq_false_iff_ne.mpr same, if_neg same]

theorem lookup_eq_none_iff_not_mem {items : List (String × A)} :
    items.lookup name = none ↔ name ∉ items.map Prod.fst := by
  rw [List.lookup_eq_none_iff]
  constructor
  next =>
    intro other mem
    obtain ⟨item, inside, rfl⟩ := List.mem_map.mp mem
    simpa using other item inside
  next =>
    intro absent item inside
    have apart : name ≠ item.1 := by
      rintro rfl
      exact absent (List.mem_map_of_mem inside)
    simpa using apart

theorem lookup_eq_some_iff_mem {items : List (String × A)} {a : A}
    (distinct : (items.map Prod.fst).Nodup) : items.lookup name = some a ↔ (name, a) ∈ items := by
  induction items with
  | nil => simp
  | cons head rest ih =>
    obtain ⟨key, value⟩ := head
    rw [List.map_cons, List.nodup_cons] at distinct
    rw [lookup_cons_ite, List.mem_cons, Prod.mk.injEq]
    by_cases same : name = key
    next =>
      have absent : (name, a) ∉ rest := fun mem => distinct.1 (List.mem_map.mpr ⟨_, mem, same⟩)
      rw [if_pos same, Option.some.injEq, or_iff_left absent, and_iff_right same, eq_comm]
    next => rw [if_neg same, ih distinct.2, or_iff_right (same ·.1)]

theorem lookup_reverse_eq_some_iff {items : List (String × A)} {a : A} :
    items.reverse.lookup name = some a ↔
      ∃ before after, items = before ++ (name, a) :: after ∧ name ∉ after.map Prod.fst := by
  rw [List.lookup_eq_some_iff]
  constructor
  next =>
    rintro ⟨after, before, split, other⟩
    refine ⟨before.reverse, after.reverse, ?_, ?_⟩
    next => simpa using congrArg List.reverse split
    next =>
      intro mem
      obtain ⟨item, inside, rfl⟩ := List.mem_map.mp mem
      simpa using other item (List.mem_reverse.mp inside)
  next =>
    rintro ⟨before, after, rfl, other⟩
    refine ⟨after.reverse, before.reverse, by simp, fun item inside => ?_⟩
    have apart : name ≠ item.1 := by
      rintro rfl
      exact other (List.mem_map_of_mem (List.mem_reverse.mp inside))
    simpa using apart

end HeaderLint
