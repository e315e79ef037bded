import HeaderLint.Proofs.Lookup
import HeaderLint.Registry
import Mathlib.Data.List.Sort

set_option autoImplicit false

namespace HeaderLint.Registry

section Place

variable {name key : String} {rule : Rule} {rules : List (String × Rule)}

theorem lookup_place :
    (place name rule rules).lookup key = if key = name then some rule else rules.lookup key := by
  induction rules with
  | nil => simp [place]
  | cons head rest ih =>
    by_cases before : name < head.1
    next => simp only [place, before, if_true, lookup_cons_ite]
    next =>
      by_cases here : name = head.1
      next =>
        rw [place, if_neg before, if_pos here, lookup_cons_ite, lookup_cons_ite, here]
        split <;> rfl
      next =>
        simp only [place, before, here, if_false, lookup_cons_ite, ih]
        by_cases same : key = name
        next => simp [same, here]
        next => simp [same]

-- The search may end at a name that comes later, because the names ascend.
theorem displaced?_eq_lookup (ascending : (rules.map Prod.fst).Pairwise (· < ·)) :
    displaced? name rules = rules.lookup name := by
  induction rules with
  | nil => rfl
  | cons head rest ih =>
    rw [List.map_cons, List.pairwise_cons] at ascending
    rw [displaced?, lookup_cons_ite]
    by_cases before : name < head.1
    next =>
      have absent : name ∉ rest.map Prod.fst := by
        intro mem
        exact String.lt_irrefl name (String.lt_trans before (ascending.1 name mem))
      have other : name ≠ head.1 := by
        intro same
        exact String.lt_irrefl name (same ▸ before)
      rw [if_pos before, if_neg other, lookup_eq_none_iff_not_mem.mpr absent]
    next => rw [if_neg before, ih ascending.2]

end Place

section Queries

variable {registry : Registry} {name : String} {rule : Rule}

@[simp] theorem resolve_eq_ok_iff :
    registry.resolve name = .ok rule ↔ registry.find? name = some rule := by
  rw [resolve]
  cases registry.find? name <;> simp

@[simp] theorem resolve_eq_error_iff {error : ConfigError} :
    registry.resolve name = .error error ↔
      error = .unknownRule name ∧ registry.find? name = none := by
  rw [resolve]
  cases registry.find? name <;> simp [eq_comm]

@[simp] theorem find?_eq_none_iff : registry.find? name = none ↔ name ∉ registry.names :=
  lookup_eq_none_iff_not_mem

@[simp] theorem isSome_find?_iff : (registry.find? name).isSome = true ↔ name ∈ registry.names := by
  rw [Option.isSome_iff_ne_none, Ne, find?_eq_none_iff, not_not]

end Queries

section Register

variable (registry : Registry) (calls : List (String × Rule)) (name : String) (rule : Rule)

@[simp] theorem find?_register (key : String) :
    (registry.register name rule).find? key = if key = name then some rule else registry.find? key :=
  lookup_place

@[simp] theorem mem_names_register {key : String} :
    key ∈ (registry.register name rule).names ↔ key = name ∨ key ∈ registry.names :=
  mem_keys_place

@[simp] theorem find?_registerAll :
    (registry.registerAll calls).find? name =
      (calls.reverse.lookup name).or (registry.find? name) := by
  induction calls generalizing registry with
  | nil => rfl
  | cons call rest ih =>
    have further : (registry.registerAll (call :: rest)).find? name =
        (rest.reverse.lookup name).or ((registry.register call.1 call.2).find? name) := ih _
    rw [further, find?_register, List.reverse_cons, List.lookup_append, lookup_cons_ite,
      List.lookup_nil, Option.or_assoc]
    split <;> rfl

@[simp] theorem mem_names_registerAll :
    name ∈ (registry.registerAll calls).names ↔
      name ∈ calls.map Prod.fst ∨ name ∈ registry.names := by
  induction calls generalizing registry with
  | nil => simp [registerAll]
  | cons call rest ih =>
    have further : name ∈ (registry.registerAll (call :: rest)).names ↔
        name ∈ rest.map Prod.fst ∨ name ∈ (registry.register call.1 call.2).names := ih _
    rw [further, mem_names_register, List.map_cons, List.mem_cons]
    tauto

end Register

section Calls

def enrolls (calls : List (String × Rule)) : StateM Registry (List (Option Rule)) :=
  calls.mapM fun call => enroll call.1 call.2

variable {start : Registry} {calls : List (String × Rule)}

theorem enroll_run (registry : Registry) (name : String) (rule : Rule) :
    (enroll name rule).run registry = (registry.find? name, registry.register name rule) :=
  congrArg (·, registry.register name rule) (displaced?_eq_lookup registry.ascending)

theorem enrolls_cons_run (registry : Registry) (call : String × Rule)
    (calls : List (String × Rule)) :
    (enrolls (call :: calls)).run registry =
      let others := (enrolls calls).run (registry.register call.1 call.2)
      (registry.find? call.1 :: others.1, others.2) := by
  rw [enrolls, List.mapM_cons, StateT.run_bind, enroll_run]
  rfl

theorem enrolls_run (registry : Registry) (calls : List (String × Rule)) :
    ((enrolls calls).run registry).2 = registry.registerAll calls ∧
      ((enrolls calls).run registry).1.length = calls.length := by
  induction calls generalizing registry with
  | nil => exact ⟨rfl, rfl⟩
  | cons call calls ih =>
    obtain ⟨state, length⟩ := ih (registry.register call.1 call.2)
    rw [enrolls_cons_run]
    exact ⟨state, congrArg (· + 1) length⟩

theorem reply_enrolls (registry : Registry) (before after : List (String × Rule)) (name : String)
    (rule : Rule) :
    ((enrolls (before ++ (name, rule) :: after)).run registry).1[before.length]? =
      some ((registry.registerAll before).find? name) := by
  induction before generalizing registry with
  | nil =>
    rw [List.nil_append, enrolls_cons_run]
    rfl
  | cons call before ih =>
    rw [List.cons_append, enrolls_cons_run]
    exact ih (registry.register call.1 call.2)

/-- What a registry shows of itself as the sorted map of the rules that were registered in it, the
last one under each name, over those that it started with. -/
structure SortedMap (start : Registry) (calls : List (String × Rule)) (registry : Registry) :
    Prop where
  resolved : ∀ name rule, registry.resolve name = .ok rule ↔
    (∃ before after, calls = before ++ (name, rule) :: after ∧ name ∉ after.map Prod.fst) ∨
      name ∉ calls.map Prod.fst ∧ start.resolve name = .ok rule
  unknown : ∀ name error, registry.resolve name = .error error ↔
    error = .unknownRule name ∧ name ∉ calls.map Prod.fst ∧ name ∉ start.names
  contained : ∀ name, registry.contains name = true ↔ ∃ rule, registry.resolve name = .ok rule
  ascending : registry.names.Pairwise (· < ·)
  named : ∀ name, name ∈ registry.names ↔ name ∈ calls.map Prod.fst ∨ name ∈ start.names
  size : registry.size = registry.names.length
  isEmpty : registry.isEmpty = true ↔ registry.size = 0

theorem sortedMap_registerAll (start : Registry) (calls : List (String × Rule)) :
    SortedMap start calls (start.registerAll calls) := by
  constructor
  case resolved =>
    intro name rule
    rw [resolve_eq_ok_iff, resolve_eq_ok_iff, find?_registerAll, Option.or_eq_some_iff,
      lookup_reverse_eq_some_iff, lookup_eq_none_iff_not_mem, List.map_reverse, List.mem_reverse]
  case unknown =>
    intro name error
    rw [resolve_eq_error_iff, find?_eq_none_iff, mem_names_registerAll, not_or]
  case contained =>
    intro name
    simp only [contains, resolve_eq_ok_iff, Option.isSome_iff_exists]
  case ascending => exact (start.registerAll calls).ascending
  case named => exact mem_names_registerAll start calls
  case size => rw [size, names, List.length_map]
  case isEmpty => rw [isEmpty, size, List.isEmpty_iff_length_eq_zero]

theorem names_eq_of_mem_iff {registry other : Registry}
    (same : ∀ name, name ∈ registry.names ↔ name ∈ other.names) : registry.names = other.names := by
  have distinct (registry : Registry) : registry.names.Nodup := by
    apply registry.ascending.imp
    rintro name _ before rfl
    exact String.lt_irrefl name before
  apply List.Perm.eq_of_pairwise _ registry.ascending other.ascending
  next => exact (List.perm_ext_iff_of_nodup (distinct registry) (distinct other)).mpr same
  next =>
    intro name later _ _ before after
    exact absurd (String.lt_trans before after) (String.lt_irrefl name)

@[simp] theorem find?_builtin_eq_some_iff {name : String} {rule : Rule} :
    builtin.find? name = some rule ↔ (name, rule) ∈ builtinRules := by
  have found : builtin.find? name = builtinRules.reverse.lookup name := by
    rw [builtin, find?_registerAll]
    exact Option.or_none
  have distinct : (builtinRules.reverse.map Prod.fst).Nodup := by decide
  rw [found, lookup_eq_some_iff_mem distinct, List.mem_reverse]

@[simp] theorem mem_names_builtin_iff {name : String} :
    name ∈ builtin.names ↔ name ∈ builtinRules.map Prod.fst := by
  rw [builtin, mem_names_registerAll]
  exact or_iff_left List.not_mem_nil

/-- Whatever calls are made on a registry, it is afterwards the sorted map of what was registered last
under each name, over what it began with. Each call gives back the rule that it replaced, if its name
was known, and no order of the calls shows in the names. -/
theorem enrolls_exact (start : Registry) (calls : List (String × Rule)) :
    let answers := ((enrolls calls).run start).1
    let final := ((enrolls calls).run start).2
    SortedMap start calls final ∧
    (answers.length = calls.length ∧
      ∀ before name rule after, calls = before ++ (name, rule) :: after →
        ∃ answer, answers[before.length]? = some answer ∧
          (∀ old, answer = some old ↔ ((enrolls before).run start).2.resolve name = .ok old) ∧
          (answer.isSome = true ↔ name ∈ before.map Prod.fst ∨ name ∈ start.names)) ∧
    (∀ other others,
      (∀ name, name ∈ others.map Prod.fst ∨ name ∈ other.names ↔
        name ∈ calls.map Prod.fst ∨ name ∈ start.names) →
      ((enrolls others).run other).2.names = final.names) ∧
    ((∀ name, empty.resolve name = .error (.unknownRule name)) ∧ empty.names = []) ∧
    (∀ name rule, builtin.resolve name = .ok rule ↔ (name, rule) ∈ builtinRules) ∧
    ∀ name, name ∈ builtin.names ↔ name ∈ builtinRules.map Prod.fst := by
  intro answers final
  obtain ⟨state, length⟩ : final = start.registerAll calls ∧ answers.length = calls.length :=
    enrolls_run start calls
  refine ⟨state ▸ sortedMap_registerAll start calls, ⟨length, ?_⟩, ?_, ⟨fun _ => rfl, rfl⟩,
    fun _ _ => resolve_eq_ok_iff.trans find?_builtin_eq_some_iff, fun _ => mem_names_builtin_iff⟩
  next =>
    rintro before name rule after rfl
    refine ⟨_, reply_enrolls start before after name rule, fun old => ?_, ?_⟩
    next => rw [(enrolls_run start before).1, resolve_eq_ok_iff]
    next => rw [isSome_find?_iff, mem_names_registerAll]
  next =>
    intro other others same
    apply names_eq_of_mem_iff
    intro name
    rw [(enrolls_run other others).1, state, mem_names_registerAll, mem_names_registerAll]
    exact same name

example :
    let calls : List (String × Rule) :=
      [("no-wip", .headerTrim), ("type-enum", .headerTrim), ("no-wip", .fullStop)]
    ((enrolls calls).run builtin).1.map Option.isSome = [false, true, true] ∧
      ((enrolls calls).run builtin).2.size = 14 := by
  decide

end Calls

end HeaderLint.Registry
