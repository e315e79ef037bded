import HeaderLint.Message.Heading
import Mathlib.Data.List.TakeWhile

set_option autoImplicit false

namespace HeaderLint.Heading

def scopeText : Option (List Char) → List Char
  | none => []
  | some scope => '(' :: scope ++ [')']

def markText (marked : Bool) : List Char :=
  if marked then ['!'] else []

def opening (heading : Heading) : List Char :=
  heading.type ++ scopeText heading.scope ++ markText heading.marked

structure WellFormed (heading : Heading) : Prop where
  type : ∀ c ∈ heading.type, c ≠ '(' ∧ c ≠ '!' ∧ c ≠ ':'
  scope : ∀ scope ∈ heading.scope, ')' ∉ scope

structure Opens (heading : Heading) (header rest : List Char) : Prop where
  wellFormed : heading.WellFormed
  written : header = heading.opening ++ ':' :: rest

theorem not_mem_opening (heading : Heading) (type : '\n' ∉ heading.type)
    (scope : ∀ text ∈ heading.scope, '\n' ∉ text) : '\n' ∉ heading.opening := by
  have mark : '\n' ∉ markText heading.marked := by cases heading.marked <;> decide
  have scopeFree : '\n' ∉ scopeText heading.scope := by
    cases present : heading.scope with
    | none => simp [scopeText]
    | some text => simpa [scopeText] using scope text present
  simp [opening, type, scopeFree, mark]

@[simp] theorem isTypeChar_iff {c : Char} : isTypeChar c = true ↔ c ≠ '(' ∧ c ≠ '!' ∧ c ≠ ':' := by
  simp [isTypeChar, and_assoc]

@[simp] theorem isScopeChar_iff {c : Char} : isScopeChar c = true ↔ c ≠ ')' := by
  simp [isScopeChar]

section Runs

variable {p : Char → Bool} {run : List Char} {stop : Char}

theorem takeWhile_run (rest : List Char) (holds : ∀ c ∈ run, p c = true) (ends : p stop = false) :
    (run ++ stop :: rest).takeWhile p = run := by
  simp [List.takeWhile_append_of_pos holds, ends]

theorem dropWhile_run (rest : List Char) (holds : ∀ c ∈ run, p c = true) (ends : p stop = false) :
    (run ++ stop :: rest).dropWhile p = stop :: rest := by
  simp [List.dropWhile_append_of_pos holds, ends]

end Runs

theorem close?_written (type : List Char) (scope : Option (List Char)) (marked : Bool)
    (rest : List Char) :
    close? type scope (markText marked ++ ':' :: rest) = some { type, scope, marked } := by
  cases marked <;> rfl

theorem close?_eq_some {type : List Char} {scope : Option (List Char)} {s : List Char}
    {heading : Heading} (closed : close? type scope s = some heading) :
    heading.type = type ∧ heading.scope = scope ∧
      ∃ rest, s = markText heading.marked ++ ':' :: rest := by
  unfold close? at closed
  split at closed
  next rest =>
    obtain rfl := Option.some.inj closed
    exact ⟨rfl, rfl, rest, rfl⟩
  next rest =>
    obtain rfl := Option.some.inj closed
    exact ⟨rfl, rfl, rest, rfl⟩
  next => cases closed

theorem read?_plain {type : List Char} {stop : Char} (rest : List Char)
    (typeChars : ∀ c ∈ type, isTypeChar c = true) (ends : isTypeChar stop = false)
    (noScope : stop ≠ '(') :
    read? (type ++ stop :: rest) = close? type none (stop :: rest) := by
  rw [read?, takeWhile_run rest typeChars ends, dropWhile_run rest typeChars ends]
  split
  next inner opened => exact absurd (List.cons.inj opened).1 noScope
  next => rfl

theorem read?_scoped {type scope : List Char} (rest : List Char)
    (typeChars : ∀ c ∈ type, isTypeChar c = true)
    (scopeChars : ∀ c ∈ scope, isScopeChar c = true) :
    read? (type ++ '(' :: (scope ++ ')' :: rest)) = close? type (some scope) rest := by
  have typeEnds : isTypeChar '(' = false := rfl
  have scopeEnds : isScopeChar ')' = false := rfl
  rw [read?, takeWhile_run _ typeChars typeEnds, dropWhile_run _ typeChars typeEnds]
  simp only [takeWhile_run _ scopeChars scopeEnds, dropWhile_run _ scopeChars scopeEnds]

theorem read?_of_opens {heading : Heading} {header rest : List Char}
    (opens : heading.Opens header rest) : read? header = some heading := by
  obtain ⟨⟨typeFree, scopeFree⟩, rfl⟩ := opens
  obtain ⟨type, scope, marked⟩ := heading
  have typeChars : ∀ c ∈ type, isTypeChar c = true :=
    fun c mem => isTypeChar_iff.mpr (typeFree c mem)
  rw [← close?_written type scope marked rest]
  cases scope with
  | none =>
    rw [opening, scopeText, List.append_nil, List.append_assoc]
    cases marked with
    | false => exact read?_plain rest typeChars rfl (by decide)
    | true => exact read?_plain (':' :: rest) typeChars rfl (by decide)
  | some scope =>
    have scopeChars : ∀ c ∈ scope, isScopeChar c = true := fun c mem =>
      isScopeChar_iff.mpr fun closes => scopeFree scope rfl (closes ▸ mem)
    rw [← read?_scoped _ typeChars scopeChars]
    simp [opening, scopeText]

theorem opens_of_read? {heading : Heading} {header : List Char}
    (read : read? header = some heading) : ∃ rest, heading.Opens header rest := by
  have whole := List.takeWhile_append_dropWhile (p := isTypeChar) (l := header)
  have typeFree : ∀ c ∈ header.takeWhile isTypeChar, c ≠ '(' ∧ c ≠ '!' ∧ c ≠ ':' :=
    fun c mem => isTypeChar_iff.mp (List.mem_takeWhile_imp mem)
  unfold read? at read
  split at read
  next inner behind =>
    have within := List.takeWhile_append_dropWhile (p := isScopeChar) (l := inner)
    split at read
    next rest closing =>
      obtain ⟨type, scope, tail, written⟩ := close?_eq_some read
      refine ⟨tail, ⟨?_, ?_⟩, ?_⟩
      next => rwa [type]
      next =>
        intro text mem
        obtain rfl : inner.takeWhile isScopeChar = text := by simpa [scope] using mem
        exact fun closes => isScopeChar_iff.mp (List.mem_takeWhile_imp closes) rfl
      next =>
        rw [← whole, behind, ← within, closing, written, opening, type, scope]
        simp [scopeText]
    next => cases read
  next =>
    obtain ⟨type, scope, tail, written⟩ := close?_eq_some read
    refine ⟨tail, ⟨by rwa [type], by simp [scope]⟩, ?_⟩
    rw [← whole, written, opening, type, scope]
    simp [scopeText]

@[simp] theorem read?_eq_some_iff {heading : Heading} {header : List Char} :
    read? header = some heading ↔ ∃ rest, heading.Opens header rest :=
  ⟨opens_of_read?, fun ⟨_, opens⟩ => read?_of_opens opens⟩

theorem opens_unique {a b : Heading} {header restA restB : List Char}
    (opensA : a.Opens header restA) (opensB : b.Opens header restB) : a = b ∧ restA = restB := by
  have same : a = b := Option.some.inj ((read?_of_opens opensA).symm.trans (read?_of_opens opensB))
  subst same
  have written := opensA.written.symm.trans opensB.written
  exact ⟨rfl, (List.cons.inj (List.append_cancel_left written)).2⟩

end HeaderLint.Heading
