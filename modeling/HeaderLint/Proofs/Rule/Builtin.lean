import HeaderLint.Rule.Builtin

set_option autoImplicit false

namespace HeaderLint

@[simp] theorem LetterCase.ofName?_eq_some_iff {text : String} {letterCase : LetterCase} :
    ofName? text = some letterCase ↔ letterCase.name = text := by
  constructor
  next => exact fun known => by simpa using List.find?_some known
  next =>
    rintro rfl
    cases letterCase <;> rfl

namespace Rule

theorem passed_ite {condition : Bool} {accepted : String} {failure : Evaluation}
    (fails : failure.passed = false) :
    (if condition = true then Evaluation.mk true accepted else failure).passed = condition := by
  cases condition with
  | false => exact fails
  | true => rfl

theorem message_ite {condition : Bool} {accepted : String} {failure : Evaluation}
    (failed : (if condition = true then Evaluation.mk true accepted else failure).passed = false) :
    (if condition = true then Evaluation.mk true accepted else failure).message =
      failure.message := by
  cases condition with
  | false => rfl
  | true => cases failed

theorem passed_filled {field : Option String} {spared : Evaluation} {judged : String → Evaluation}
    (spares : spared.passed = true) :
    (match field.filter (!String.isEmpty ·) with
      | none => spared
      | some actual => judged actual).passed = true ↔
      ∀ actual ∈ field, actual ≠ "" → (judged actual).passed = true := by
  cases field with
  | none => simpa using spares
  | some actual =>
    by_cases empty : actual = ""
    next => simpa [Option.filter, empty] using spares
    next =>
      have kept : (some actual).filter (!String.isEmpty ·) = some actual := by simp [empty]
      simp [kept, empty]

section Passed

variable (message : Message)

@[simp] theorem membership_passed_iff (field : Field) (applicability : Applicability)
    (allowed : List String) :
    ((membership field).evaluate message applicability (some (.list allowed))).passed = true ↔
      match applicability with
      | .always => ∃ actual ∈ field.of message, actual ∈ allowed
      | .never => ∀ actual ∈ field.of message, actual ∉ allowed := by
  simp only [membership, Membership.evaluate]
  cases field.of message with
  | none => cases applicability <;> simp
  | some actual =>
    refine (Bool.eq_iff_iff.mp (passed_ite (by cases applicability <;> rfl))).trans ?_
    cases applicability <;> simp [Applicability.expects, Value.list?]

@[simp] theorem casing_passed_iff (field : Field) (applicability : Applicability)
    (value : Option Value) :
    ((casing field).evaluate message applicability value).passed = true ↔
      ∀ actual ∈ field.of message, actual ≠ "" →
        match applicability with
        | .always => ∃ letterCase ∈ Casing.cases value, letterCase.fits actual.toList = true
        | .never => ∀ letterCase ∈ Casing.cases value, letterCase.fits actual.toList = false := by
  refine (passed_filled (by rfl)).trans (forall₃_congr fun actual _ _ => ?_)
  rw [passed_ite (by cases applicability <;> rfl)]
  cases applicability <;> simp [Applicability.expects]

@[simp] theorem emptiness_passed (field : Field) (applicability : Applicability)
    (value : Option Value) :
    ((emptiness field).evaluate message applicability value).passed =
      applicability.expects ((field.of message).all String.isEmpty) :=
  passed_ite (by cases applicability <;> rfl)

@[simp] theorem fullStop_passed_iff (applicability : Applicability) (value : Option Value) :
    (fullStop.evaluate message applicability value).passed = true ↔
      ∀ subject ∈ message.subject, subject ≠ "" →
        applicability.expects
          (((value.bind Value.text?).getD ".").toList.isSuffixOf subject.toList) = true := by
  refine (passed_filled (by rfl)).trans (forall₃_congr fun subject _ _ => ?_)
  rw [passed_ite (by cases applicability <;> rfl)]

@[simp] theorem headerLength_passed (bound : Bound) (applicability : Applicability) (n : Int) :
    ((headerLength bound).evaluate message applicability (some (.number n))).passed =
      applicability.expects (bound.admits n.toNat message.headerLength) :=
  passed_ite (by cases applicability <;> rfl)

@[simp] theorem headerTrim_passed (applicability : Applicability) (value : Option Value) :
    (headerTrim.evaluate message applicability value).passed =
      applicability.expects (Text.trim message.header.toList == message.header.toList) :=
  passed_ite (by cases applicability <;> rfl)

@[simp] theorem exclamationMark_passed (applicability : Applicability) (value : Option Value) :
    (exclamationMark.evaluate message applicability value).passed =
      applicability.expects (Text.mentions ['!', ':'] message.header.toList) :=
  passed_ite (by cases applicability <;> rfl)

end Passed

section Check

@[simp] theorem takesNoValue_eq_ok_iff {value : Option Value} :
    takesNoValue value = .ok () ↔ value = none := by
  cases value <;> simp [takesNoValue]

@[simp] theorem membership_check_eq_ok_iff {field : Field} {allowed : List String} :
    (membership field).check (some (.list allowed)) = .ok () ↔ allowed ≠ [] := by
  cases allowed <;> simp [membership, Membership.check]

@[simp] theorem checkNames_eq_ok_iff {names : List String} :
    Casing.checkNames names = .ok () ↔ ∀ name ∈ names, (LetterCase.ofName? name).isSome := by
  induction names with
  | nil => simp [Casing.checkNames]
  | cons name rest ih =>
    cases known : LetterCase.ofName? name <;> simp [Casing.checkNames, known, ih]

@[simp] theorem casing_check_eq_ok_iff {field : Field} {value : Value} {names : List String}
    (read : value.strings? = some names) :
    (casing field).check (some value) = .ok () ↔
      ∀ name ∈ names, (LetterCase.ofName? name).isSome := by
  simp [casing, Casing.check, read]

@[simp] theorem headerLength_check_eq_ok_iff {bound : Bound} {n : Int} :
    (headerLength bound).check (some (.number n)) = .ok () ↔ 0 ≤ n := by
  by_cases negative : n < 0
  next => simp [headerLength, HeaderLength.check, negative]
  next => simp [headerLength, HeaderLength.check, negative, Int.not_lt.mp negative]

end Check

theorem mem_cases_iff {value : Value} {names : List String} (read : value.strings? = some names)
    {letterCase : LetterCase} :
    letterCase ∈ Casing.cases (some value) ↔
      ∃ name ∈ names, LetterCase.ofName? name = some letterCase := by
  simp [Casing.cases, read]

end Rule

end HeaderLint
