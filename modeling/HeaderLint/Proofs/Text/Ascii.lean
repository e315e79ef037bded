import HeaderLint.Text.Alphanumeric
import HeaderLint.Text.CaseMap
import HeaderLint.Text.Numeric
import Mathlib

set_option autoImplicit false

namespace HeaderLint.Text

@[simp] theorem toLower_eq_self_iff {c : Char} : c.toLower = c ↔ c.isUpper = false := by
  constructor
  next =>
    intro same
    rw [← same, Char.isUpper_toLower_eq_false]
  next =>
    intro notUpper
    exact Char.toLower_eq_of_not_isUpper (by simp [notUpper])

@[simp] theorem toUpper_eq_self_iff {c : Char} : c.toUpper = c ↔ c.isLower = false := by
  constructor
  next =>
    intro same
    rw [← same, Char.isLower_toUpper_eq_false]
  next =>
    intro notLower
    exact Char.toUpper_eq_of_not_isLower (by simp [notLower])

theorem isUpper_iff_toNat {c : Char} : c.isUpper = true ↔ 65 ≤ c.toNat ∧ c.toNat ≤ 90 := by
  simp [Char.isUpper, UInt32.le_iff_toNat_le, ← Char.toNat_val]

theorem isLower_iff_toNat {c : Char} : c.isLower = true ↔ 97 ≤ c.toNat ∧ c.toNat ≤ 122 := by
  simp [Char.isLower, UInt32.le_iff_toNat_le, ← Char.toNat_val]

theorem isDigit_iff_toNat {c : Char} : c.isDigit = true ↔ 48 ≤ c.toNat ∧ c.toNat ≤ 57 :=
  Char.isDigit_iff_toNat

theorem isAlphanum_iff {c : Char} :
    c.isAlphanum = true ↔ c.isUpper = true ∨ c.isLower = true ∨ c.isDigit = true := by
  simp [Char.isAlphanum, Char.isAlpha, or_assoc]

theorem toNat_of_isAlphanum {c : Char} (alphanum : c.isAlphanum = true) : c.toNat < 0x80 := by
  rw [isAlphanum_iff, isUpper_iff_toNat, isLower_iff_toNat, isDigit_iff_toNat] at alphanum
  omega

theorem isDigit_of_isAlpha {c : Char} (alpha : c.isAlpha = true) : c.isDigit = false := by
  rw [Char.isAlpha, Bool.or_eq_true, isUpper_iff_toNat, isLower_iff_toNat] at alpha
  rw [← Bool.not_eq_true, isDigit_iff_toNat]
  omega

@[simp] theorem isDigit_toUpper (c : Char) : c.toUpper.isDigit = c.isDigit := by
  by_cases lower : c.isLower
  next =>
    have alpha : c.isAlpha = true := by simp [Char.isAlpha, lower]
    rw [isDigit_of_isAlpha alpha, isDigit_of_isAlpha (by simpa using alpha)]
  next => rw [Char.toUpper_eq_of_not_isLower lower]

@[simp] theorem isDigit_toLower (c : Char) : c.toLower.isDigit = c.isDigit := by
  by_cases upper : c.isUpper
  next =>
    have alpha : c.isAlpha = true := by simp [Char.isAlpha, upper]
    rw [isDigit_of_isAlpha alpha, isDigit_of_isAlpha (by simpa using alpha)]
  next => rw [Char.toLower_eq_of_not_isUpper upper]

@[simp] theorem isAlphanum_toUpper (c : Char) : c.toUpper.isAlphanum = c.isAlphanum := by
  simp [Char.isAlphanum]

@[simp] theorem isAlphanum_toLower (c : Char) : c.toLower.isAlphanum = c.isAlphanum := by
  simp [Char.isAlphanum]

def IsAscii (s : List Char) : Prop :=
  ∀ c ∈ s, c.toNat < 0x80

section Characters

variable {c : Char} (ascii : c.toNat < 0x80)

include ascii

theorem isUppercase_ascii : isUppercase c = c.isUpper := by
  simp [isUppercase, ascii]

theorem isLowercase_ascii : isLowercase c = c.isLower := by
  simp [isLowercase, ascii]

theorem isNumeric_ascii : isNumeric c = c.isDigit := by
  simp [isNumeric, ascii]

theorem isAlphanumeric_ascii : isAlphanumeric c = c.isAlphanum := by
  simp [isAlphanumeric, ascii]

theorem lowerChar_ascii : lowerChar c = [c.toLower] := by
  simp [lowerChar, ascii]

theorem upperChar_ascii : upperChar c = [c.toUpper] := by
  simp [upperChar, ascii]

theorem toNat_toLower_lt : c.toLower.toNat < 0x80 := by
  by_cases upper : c.isUpper
  next =>
    have bound : c.toNat ≤ 90 := (isUpper_iff_toNat.mp upper).2
    have valid : (c.toNat + 32).isValidChar := .inl (by omega)
    rw [Char.toLower_eq_of_isUpper upper, Char.toNat_ofNat, if_pos valid]
    omega
  next => rwa [Char.toLower_eq_of_not_isUpper upper]

theorem toNat_toUpper_lt : c.toUpper.toNat < 0x80 := by
  by_cases lower : c.isLower
  next =>
    have alphanum : c.toUpper.isAlphanum = true := by
      rw [isAlphanum_toUpper, isAlphanum_iff]
      exact .inr (.inl lower)
    exact toNat_of_isAlphanum alphanum
  next => rwa [Char.toUpper_eq_of_not_isLower lower]

end Characters

theorem IsAscii.tail {c : Char} {s : List Char} (ascii : IsAscii (c :: s)) : IsAscii s :=
  fun d mem => ascii d (List.mem_cons_of_mem c mem)

theorem lower_ascii {s : List Char} (ascii : IsAscii s) : lower s = s.map Char.toLower := by
  have after (before : List Char) : lowerAfter before s = s.map Char.toLower := by
    induction s generalizing before with
    | nil => rfl
    | cons c rest ih =>
      have first := ascii c (by simp)
      have noSigma : c ≠ '\u03A3' := by
        rintro rfl
        exact absurd first (by decide)
      simp [lowerAfter, noSigma, lowerChar_ascii first, ih ascii.tail]
  exact after []

theorem upper_ascii {s : List Char} (ascii : IsAscii s) : upper s = s.map Char.toUpper := by
  induction s with
  | nil => rfl
  | cons c rest ih =>
    have tail := ih ascii.tail
    rw [upper] at tail ⊢
    simp [upperChar_ascii (ascii c (by simp)), tail]

theorem capitalize_ascii {c : Char} (rest : List Char) (ascii : c.toNat < 0x80) :
    capitalize (c :: rest) = c.toUpper :: rest := by
  simp [capitalize, upperChar_ascii ascii]

end HeaderLint.Text
