set_option autoImplicit false

namespace HeaderLint

variable {E F A B : Type}

@[simp] theorem map_eq_ok {f : A → B} {result : Except E A} {b : B} :
    f <$> result = .ok b ↔ ∃ a, result = .ok a ∧ f a = b := by
  cases result <;> simp [Functor.map, Except.map]

@[simp] theorem bind_eq_ok {first : Except E A} {next : A → Except E B} {b : B} :
    first >>= next = .ok b ↔ ∃ a, first = .ok a ∧ next a = .ok b := by
  cases first <;> simp [Bind.bind, Except.bind]

@[simp] theorem bind_eq_error {first : Except E A} {next : A → Except E B} {e : E} :
    first >>= next = .error e ↔ first = .error e ∨ ∃ a, first = .ok a ∧ next a = .error e := by
  cases first <;> simp [Bind.bind, Except.bind]

@[simp] theorem mapError_eq_ok {f : E → F} {result : Except E A} {a : A} :
    result.mapError f = .ok a ↔ result = .ok a := by
  cases result with
  | error e => exact ⟨nofun, nofun⟩
  | ok value => exact ⟨fun same => congrArg _ (Except.ok.inj same), fun same => same ▸ rfl⟩

@[simp] theorem mapError_eq_error {f : E → F} {result : Except E A} {fault : F} :
    result.mapError f = .error fault ↔ ∃ e, result = .error e ∧ f e = fault := by
  cases result with
  | error e =>
    constructor
    next => exact fun same => ⟨e, rfl, Except.error.inj same⟩
    next =>
      rintro ⟨cause, same, rfl⟩
      rw [same]
      rfl
  | ok value => exact ⟨nofun, nofun⟩

end HeaderLint
