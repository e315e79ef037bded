import HeaderLint.Text.Cut
import Mathlib.Data.List.Infix

set_option autoImplicit false

namespace HeaderLint.Text

structure FirstCut (part s before after : List Char) : Prop where
  whole : s = before ++ part ++ after
  first : ∀ earlier later, s = earlier ++ part ++ later → before.length ≤ earlier.length

theorem cut?_firstCut {part s before after : List Char} (found : cut? part s = some (before, after)) :
    FirstCut part s before after := by
  induction s generalizing before after with
  | nil =>
    have empty : part = [] := by
      by_contra filled
      simp [cut?, filled] at found
    simp only [cut?, empty, List.isEmpty_nil, if_true, Option.some.injEq, Prod.mk.injEq] at found
    obtain ⟨rfl, rfl⟩ := found
    exact ⟨by simp [empty], fun _ _ _ => Nat.zero_le _⟩
  | cons c rest ih =>
    by_cases here : part <+: c :: rest
    next =>
      simp only [cut?, List.isPrefixOf_iff_prefix, here, if_true, Option.some.injEq,
        Prod.mk.injEq] at found
      obtain ⟨rfl, rfl⟩ := found
      exact ⟨(List.prefix_append_drop here), fun _ _ _ => Nat.zero_le _⟩
    next =>
      simp only [cut?, List.isPrefixOf_iff_prefix, here, if_false, Option.map_eq_some_iff,
        Prod.exists, Prod.mk.injEq] at found
      obtain ⟨left, right, behind, rfl, rfl⟩ := found
      obtain ⟨whole, first⟩ := ih behind
      refine ⟨by simp [whole], fun earlier later split => ?_⟩
      cases earlier with
      | nil => exact absurd ⟨later, by simpa using split.symm⟩ here
      | cons d earlier =>
        have tail : rest = earlier ++ part ++ later := by simpa using (List.cons.inj split).2
        simpa using first earlier later tail

@[simp] theorem cut?_self (part s : List Char) : cut? part (part ++ s) = some ([], s) := by
  cases h : part ++ s with
  | nil =>
    obtain ⟨rfl, rfl⟩ := List.append_eq_nil_iff.mp h
    rfl
  | cons c rest =>
    have here : part <+: c :: rest := h ▸ List.prefix_append part s
    simp [cut?, ← h]

theorem cut?_append {part before s : List Char}
    (absent : ∀ start, start ≠ [] → start <:+ before → ¬ part <+: start ++ s) :
    cut? part (before ++ s) = (cut? part s).map fun cut => (before ++ cut.1, cut.2) := by
  induction before with
  | nil => simp
  | cons c before ih =>
    have later := ih fun start filled suffixed =>
      absent start filled (suffixed.trans (List.suffix_cons c before))
    have notHere := absent (c :: before) (by simp) List.suffix_rfl
    simp only [List.cons_append] at notHere ⊢
    simp only [cut?, List.isPrefixOf_iff_prefix, notHere, if_false, later, Option.map_map]
    rfl

@[simp] theorem cut?_eq_some_iff {part s before after : List Char} :
    cut? part s = some (before, after) ↔ FirstCut part s before after := by
  refine ⟨cut?_firstCut, fun ⟨whole, first⟩ => ?_⟩
  have absent (start : List Char) (filled : start ≠ []) (suffixed : start <:+ before) :
      ¬ part <+: start ++ (part ++ after) := by
    rintro ⟨later, here⟩
    obtain ⟨earlier, rfl⟩ := suffixed
    have shorter := first earlier later (by simp [whole, here])
    have positive := List.length_pos_iff.mpr filled
    simp only [List.length_append] at shorter
    omega
  rw [whole, List.append_assoc, cut?_append absent, cut?_self]
  simp

@[simp] theorem cut?_isSome_iff {part s : List Char} : (cut? part s).isSome ↔ part <:+: s := by
  constructor
  next =>
    intro found
    obtain ⟨⟨before, after⟩, cut⟩ := Option.isSome_iff_exists.mp found
    exact ⟨before, after, (cut?_firstCut cut).whole.symm⟩
  next =>
    intro within
    induction s with
    | nil => simp [cut?, List.infix_nil.mp within]
    | cons c rest ih =>
      by_cases here : part <+: c :: rest
      next => simp [cut?, here]
      next =>
        have behind := (List.infix_cons_iff.mp within).resolve_left here
        simpa [cut?, here] using ih behind

@[simp] theorem cut?_eq_none_iff {part s : List Char} : cut? part s = none ↔ ¬ part <:+: s := by
  rw [← cut?_isSome_iff, Option.not_isSome_iff_eq_none]

theorem cut?_append_right {part s before after : List Char} (more : List Char)
    (found : cut? part s = some (before, after)) :
    cut? part (s ++ more) = some (before, after ++ more) := by
  obtain ⟨whole, first⟩ := cut?_firstCut found
  refine cut?_eq_some_iff.mpr ⟨by simp [whole], fun earlier later split => ?_⟩
  by_contra shorter
  -- An earlier place would end within the text, not in what is added to it.
  have bound : (earlier ++ part).length ≤ s.length := by
    rw [whole]
    simp only [List.length_append]
    omega
  have within : earlier ++ part <+: s :=
    List.prefix_of_prefix_length_le ⟨later, split.symm⟩ (List.prefix_append s more) bound
  obtain ⟨rest, inside⟩ := within
  exact shorter (first earlier rest inside.symm)

theorem cut?_append_of_not_mem {c : Char} {part before s : List Char} (absent : c ∉ before) :
    cut? (c :: part) (before ++ s) =
      (cut? (c :: part) s).map fun cut => (before ++ cut.1, cut.2) := by
  refine cut?_append fun start filled suffixed here => ?_
  obtain ⟨d, start, rfl⟩ := List.exists_cons_of_ne_nil filled
  have same : c = d := by simpa using (List.cons_prefix_cons.mp here).1
  exact absent (suffixed.mem (by simp [same]))

theorem cut?_append_of_not_infix {c : Char} {part before s : List Char}
    (absent : ¬ part <:+: before) (outside : c ∉ part) :
    cut? part (before ++ c :: s) =
      (cut? part s).map fun cut => (before ++ c :: cut.1, cut.2) := by
  have skipped : cut? part ((before ++ [c]) ++ s) =
      (cut? part s).map fun cut => ((before ++ [c]) ++ cut.1, cut.2) :=
    cut?_append fun start filled suffixed here => by
      rcases List.suffix_concat_iff.mp suffixed with rfl | ⟨front, rfl, behind⟩
      next => exact filled rfl
      next =>
        rcases Nat.lt_or_ge front.length part.length with longer | fits
        next =>
          have reached : front ++ [c] <+: part :=
            List.prefix_of_prefix_length_le (List.prefix_append _ s) here
              (by rw [List.length_append, List.length_singleton]; omega)
          exact outside (reached.mem (by simp))
        next =>
          have inside : part <+: front :=
            List.prefix_of_prefix_length_le here (by simp) fits
          exact absent (inside.isInfix.trans behind.isInfix)
  simpa using skipped

theorem infix_append_iff_of_not_mem {c : Char} {part before s : List Char} (absent : c ∉ before) :
    c :: part <:+: before ++ s ↔ c :: part <:+: s := by
  rw [← cut?_isSome_iff, cut?_append_of_not_mem absent, Option.isSome_map, cut?_isSome_iff]

theorem infix_append_cons_iff {c : Char} {part before s : List Char} (outside : c ∉ part) :
    part <:+: before ++ c :: s ↔ part <:+: before ∨ part <:+: s := by
  by_cases within : part <:+: before
  next => simp [within, within.trans (List.prefix_append before (c :: s)).isInfix]
  next =>
    rw [← cut?_isSome_iff, cut?_append_of_not_infix within outside, Option.isSome_map,
      cut?_isSome_iff]
    simp [within]

end HeaderLint.Text
