import HeaderLint.Text.Blank
import Mathlib.Data.List.DropRight

set_option autoImplicit false

namespace HeaderLint.Text

structure Trimmed (s kept : List Char) : Prop where
  within : ∃ left right, s = left ++ kept ++ right ∧ ∀ c ∈ left ++ right, isBlank c = true
  first : ∀ c ∈ kept.head?, isBlank c = false
  last : ∀ c ∈ kept.getLast?, isBlank c = false

theorem trimStart_append {left s : List Char} (blank : ∀ c ∈ left, isBlank c = true) :
    trimStart (left ++ s) = trimStart s :=
  List.dropWhile_append_of_pos blank

theorem trimEnd_append {s right : List Char} (blank : ∀ c ∈ right, isBlank c = true) :
    trimEnd (s ++ right) = trimEnd s := by
  have reversed : ∀ c ∈ right.reverse, isBlank c = true := by simpa using blank
  simp only [trimEnd, List.reverse_append, List.dropWhile_append_of_pos reversed]

theorem trimEnd_prefix_self (s : List Char) : trimEnd s <+: s :=
  s.rdropWhile_prefix isBlank

theorem trimStart_of_first {s : List Char} (first : ∀ c ∈ s.head?, isBlank c = false) :
    trimStart s = s := by
  cases s with
  | nil => rfl
  | cons c rest => simp [trimStart, first c rfl]

theorem trimEnd_of_last {s : List Char} (last : ∀ c ∈ s.getLast?, isBlank c = false) :
    trimEnd s = s := by
  have stays := trimStart_of_first (s := s.reverse) (by simpa using last)
  rw [trimStart] at stays
  rw [trimEnd, stays, List.reverse_reverse]

theorem first_trimStart {s : List Char} {c : Char} (mem : c ∈ (trimStart s).head?) :
    isBlank c = false := by
  have stopped := List.head?_dropWhile_not isBlank s
  rw [trimStart, Option.mem_def] at mem
  simpa [mem] using stopped

theorem last_trimEnd {s : List Char} {c : Char} (mem : c ∈ (trimEnd s).getLast?) :
    isBlank c = false := by
  rw [trimEnd, List.getLast?_reverse] at mem
  exact first_trimStart mem

theorem ink_eq_nil_iff {s : List Char} :
    s.filter (!isBlank ·) = [] ↔ ∀ c ∈ s, isBlank c = true := by
  simp [List.filter_eq_nil_iff]

theorem ink_trimEnd (s : List Char) :
    (trimEnd s).filter (!isBlank ·) = s.filter (!isBlank ·) := by
  have whole : trimEnd s ++ s.rtakeWhile isBlank = s := List.rdropWhile_append_rtakeWhile
  have cut : (s.rtakeWhile isBlank).filter (!isBlank ·) = [] :=
    ink_eq_nil_iff.mpr fun _ => List.mem_rtakeWhile_imp
  conv_rhs => rw [← whole, List.filter_append, cut, List.append_nil]

theorem trimmed_trim (s : List Char) : Trimmed s (trim s) := by
  have opened : s.takeWhile isBlank ++ trimStart s = s := List.takeWhile_append_dropWhile
  have closed : trim s ++ (trimStart s).rtakeWhile isBlank = trimStart s :=
    List.rdropWhile_append_rtakeWhile
  constructor
  next =>
    refine ⟨s.takeWhile isBlank, (trimStart s).rtakeWhile isBlank, ?_, fun c mem => ?_⟩
    next => rw [List.append_assoc, closed, opened]
    next =>
      rcases List.mem_append.mp mem with left | right
      next => exact List.mem_takeWhile_imp left
      next => exact List.mem_rtakeWhile_imp right
  next =>
    intro c mem
    have opens : c ∈ (trimStart s).head? := by
      rw [← closed]
      exact List.mem_head?_append_of_mem_head? mem
    exact first_trimStart opens
  next => exact fun c mem => last_trimEnd mem

theorem trim_eq_iff {s kept : List Char} : trim s = kept ↔ Trimmed s kept := by
  constructor
  next => rintro rfl; exact trimmed_trim s
  next =>
    rintro ⟨⟨left, right, rfl, blank⟩, first, last⟩
    have leftBlank : ∀ c ∈ left, isBlank c = true := fun c mem => blank c (by simp [mem])
    have rightBlank : ∀ c ∈ right, isBlank c = true := fun c mem => blank c (by simp [mem])
    rw [trim, List.append_assoc, trimStart_append leftBlank]
    cases kept with
    | nil =>
      have none : trimStart right = [] := by simpa [trimStart] using rightBlank
      rw [List.nil_append, none]
      rfl
    | cons c rest =>
      rw [trimStart_of_first (by simpa using first), trimEnd_append rightBlank,
        trimEnd_of_last last]

theorem trim_append {s right : List Char} (blank : ∀ c ∈ right, isBlank c = true) :
    trim (s ++ right) = trim s := by
  obtain ⟨⟨left, tail, whole, around⟩, first, last⟩ := trimmed_trim s
  refine trim_eq_iff.mpr ⟨⟨left, tail ++ right, ?_, fun c mem => ?_⟩, first, last⟩
  next => conv_lhs => rw [whole, List.append_assoc]
  next =>
    rw [← List.append_assoc, List.mem_append] at mem
    exact mem.elim (around c) (blank c)

theorem count_trim {c : Char} (s : List Char) (ink : isBlank c = false) :
    (trim s).count c = s.count c := by
  obtain ⟨⟨left, right, whole, around⟩, -, -⟩ := trimmed_trim s
  have absent : (left ++ right).count c = 0 :=
    List.count_eq_zero.mpr fun mem => by simp [around c mem] at ink
  conv_rhs => rw [whole]
  simp only [List.count_append] at absent ⊢
  omega

end HeaderLint.Text
