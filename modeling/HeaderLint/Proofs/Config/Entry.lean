import HeaderLint.Config.Entry
import Mathlib.Data.List.Basic
import Mathlib.Data.List.Induction

set_option autoImplicit false

namespace HeaderLint

theorem eraseDups_concat {A : Type} [DecidableEq A] (items : List A) (a : A) :
    (items ++ [a]).eraseDups =
      if a ∈ items.eraseDups then items.eraseDups else items.eraseDups ++ [a] := by
  rw [List.eraseDups_append]
  by_cases repeated : a ∈ items
  next => simp [repeated, List.removeAll]
  next => simp [repeated, List.removeAll, List.eraseDups_cons]

structure FirstOccurrences {A : Type} [DecidableEq A] (items kept : List A) : Prop where
  nodup : kept.Nodup
  mem : ∀ a, a ∈ kept ↔ a ∈ items
  order : kept.Pairwise fun a b => items.idxOf a < items.idxOf b

namespace FirstOccurrences

variable {A : Type} [DecidableEq A] {items kept : List A}

theorem nil : FirstOccurrences ([] : List A) [] :=
  ⟨.nil, by simp, .nil⟩

theorem concat (first : FirstOccurrences items kept) (a : A) :
    FirstOccurrences (items ++ [a]) (if a ∈ kept then kept else kept ++ [a]) := by
  have stays (b : A) (mem : b ∈ kept) : (items ++ [a]).idxOf b = items.idxOf b :=
    List.idxOf_append_of_mem ((first.mem b).mp mem)
  have order : kept.Pairwise fun b c => (items ++ [a]).idxOf b < (items ++ [a]).idxOf c := by
    refine first.order.imp_of_mem fun here there before => ?_
    rwa [stays _ here, stays _ there]
  by_cases repeated : a ∈ kept
  next =>
    have old : a ∈ items := (first.mem a).mp repeated
    rw [if_pos repeated]
    refine ⟨first.nodup, fun b => ?_, order⟩
    by_cases same : b = a <;> simp [first.mem, same, old]
  next =>
    have new : a ∉ items := mt (first.mem a).mpr repeated
    rw [if_neg repeated]
    refine ⟨?_, fun b => by simp [first.mem], ?_⟩
    next =>
      have apart : ∀ b ∈ kept, b ≠ a := fun b mem same => repeated (same ▸ mem)
      exact List.nodup_append.mpr ⟨first.nodup, by simp, by simpa using apart⟩
    next =>
      refine List.pairwise_append.mpr ⟨order, List.pairwise_singleton _ _, fun b mem c last => ?_⟩
      obtain rfl := List.mem_singleton.mp last
      have within : items.idxOf b < items.length := List.idxOf_lt_length_of_mem ((first.mem b).mp mem)
      rw [stays b mem, List.idxOf_append_of_notMem new]
      omega

theorem of_eraseDups (items : List A) : FirstOccurrences items items.eraseDups := by
  induction items using List.reverseRecOn with
  | nil => exact nil
  | append_singleton items last ih =>
    rw [eraseDups_concat]
    exact ih.concat last

variable {others more : List A}

theorem unique (first : FirstOccurrences items kept) (second : FirstOccurrences items others) :
    kept = others := by
  have same : kept.Perm others := by
    rw [List.perm_ext_iff_of_nodup first.nodup second.nodup]
    exact fun a => (first.mem a).trans (second.mem a).symm
  apply same.eq_of_pairwise ?_ first.order second.order
  intro a b _ _ before after
  omega

theorem of_nodup (nodup : kept.Nodup) : FirstOccurrences kept kept := by
  constructor
  case nodup => exact nodup
  case mem => exact fun _ => Iff.rfl
  case order =>
    rw [List.pairwise_iff_getElem]
    intro i j here there before
    rwa [nodup.idxOf_getElem, nodup.idxOf_getElem]

theorem append (first : FirstOccurrences items kept) (known : ∀ a ∈ more, a ∈ items) :
    FirstOccurrences (items ++ more) kept := by
  constructor
  case nodup => exact first.nodup
  case mem =>
    intro a
    rw [first.mem, List.mem_append]
    exact (or_iff_left_of_imp (known a)).symm
  case order =>
    apply first.order.imp_of_mem
    intro a b here there before
    rwa [List.idxOf_append_of_mem ((first.mem a).mp here),
      List.idxOf_append_of_mem ((first.mem b).mp there)]

theorem idxOf_lt_idxOf {a b : A} (first : FirstOccurrences items kept) (here : a ∈ items)
    (there : b ∈ items) (before : kept.idxOf a < kept.idxOf b) : items.idxOf a < items.idxOf b := by
  have ascending := List.pairwise_iff_getElem.mp first.order _ _
    (List.idxOf_lt_length_of_mem ((first.mem a).mpr here))
    (List.idxOf_lt_length_of_mem ((first.mem b).mpr there)) before
  rwa [List.getElem_idxOf, List.getElem_idxOf] at ascending

end FirstOccurrences

/-- Two lists with the same members, which both show for the first time in the same order. -/
structure SameFirsts {A : Type} [DecidableEq A] (items others : List A) : Prop where
  mem : ∀ a, a ∈ items ↔ a ∈ others
  order : ∀ a ∈ items, ∀ b ∈ items,
    (items.idxOf a < items.idxOf b ↔ others.idxOf a < others.idxOf b)

section SameFirsts

variable {A : Type} [DecidableEq A] {items kept others : List A}

theorem FirstOccurrences.sameFirsts (first : FirstOccurrences items kept) :
    SameFirsts items kept := by
  constructor
  case mem => exact fun a => (first.mem a).symm
  case order =>
    intro a here b there
    constructor
    next =>
      intro before
      rcases Nat.lt_trichotomy (kept.idxOf a) (kept.idxOf b) with earlier | same | later
      next => exact earlier
      next =>
        obtain rfl := (List.idxOf_inj ((first.mem a).mpr here)).mp same
        exact absurd before (Nat.lt_irrefl _)
      next => exact absurd before (Nat.lt_asymm (first.idxOf_lt_idxOf there here later))
    next => exact first.idxOf_lt_idxOf here there

theorem FirstOccurrences.sameFirsts_iff (first : FirstOccurrences items kept) :
    SameFirsts items others ↔ FirstOccurrences others kept := by
  constructor
  next =>
    intro same
    constructor
    case nodup => exact first.nodup
    case mem => exact fun a => (first.mem a).trans (same.mem a)
    case order =>
      apply first.order.imp_of_mem
      intro a b here there before
      exact (same.order a ((first.mem a).mp here) b ((first.mem b).mp there)).mp before
  next =>
    intro second
    have here := first.sameFirsts
    have there := second.sameFirsts
    constructor
    case mem => exact fun a => (here.mem a).trans (there.mem a).symm
    case order =>
      intro a ma b mb
      have known (c : A) (mem : c ∈ items) : c ∈ others := (there.mem c).mpr ((here.mem c).mp mem)
      exact (here.order a ma b mb).trans (there.order a (known a ma) b (known b mb)).symm

end SameFirsts

@[simp] theorem Value.ofItems_eq (items : List String) :
    Value.ofItems items = .list items.eraseDups := by
  rw [Value.ofItems]
  congr 1
  induction items using List.reverseRecOn with
  | nil => rfl
  | append_singleton items last ih =>
    rw [List.foldl_concat, ih, eraseDups_concat]
    simp only [List.contains_iff_mem]

theorem Value.ofItems_eq_list_iff {items kept : List String} :
    Value.ofItems items = .list kept ↔ FirstOccurrences items kept := by
  rw [Value.ofItems_eq, Value.list.injEq]
  constructor
  next =>
    rintro rfl
    exact .of_eraseDups items
  next => exact fun first => (FirstOccurrences.of_eraseDups items).unique first

end HeaderLint
