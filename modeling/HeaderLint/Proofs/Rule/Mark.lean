import HeaderLint.Proofs.Message.Parse
import HeaderLint.Proofs.Rule.Builtin

set_option autoImplicit false

namespace HeaderLint

open Text

namespace Heading

-- A mark before a colon that is not the one the heading ends with.
def StrayMark (heading : Heading) (rest : List Char) : Prop :=
  (∃ scope ∈ heading.scope, ['!', ':'] <:+: scope) ∨ ['!', ':'] <:+: rest

variable {heading : Heading} {header rest : List Char}

theorem mark_infix_scopeText_append_iff (scope : Option (List Char)) (s : List Char) :
    ['!', ':'] <:+: scopeText scope ++ s ↔
      (∃ text ∈ scope, ['!', ':'] <:+: text) ∨ ['!', ':'] <:+: s := by
  cases scope with
  | none => simp [scopeText]
  | some text =>
    have written : scopeText (some text) ++ s = ['('] ++ (text ++ ')' :: s) := by
      simp [scopeText]
    rw [written, infix_append_iff_of_not_mem (by decide), infix_append_cons_iff (by decide)]
    simp

theorem mark_infix_markText_append_iff (marked : Bool) (rest : List Char) :
    ['!', ':'] <:+: markText marked ++ ':' :: rest ↔ marked = true ∨ ['!', ':'] <:+: rest := by
  cases marked with
  | false =>
    have behind := @infix_append_iff_of_not_mem '!' [':'] [':'] rest (by decide)
    simpa [markText] using behind
  | true =>
    have here : ['!', ':'] <:+: '!' :: ':' :: rest := (List.prefix_append ['!', ':'] rest).isInfix
    simpa [markText] using here

theorem Opens.mark_infix_iff (opens : heading.Opens header rest) :
    ['!', ':'] <:+: header ↔ heading.marked = true ∨ heading.StrayMark rest := by
  have typeFree : '!' ∉ heading.type := fun mem => (opens.wellFormed.type '!' mem).2.1 rfl
  rw [opens.written, opening, List.append_assoc, List.append_assoc,
    infix_append_iff_of_not_mem typeFree, mark_infix_scopeText_append_iff,
    mark_infix_markText_append_iff, StrayMark]
  exact or_left_comm

end Heading

namespace Rule

theorem mentions_mark_iff {text : String} {heading : Heading} {rest : List Char}
    (opens : heading.Opens (headerLine text.toList) rest) :
    mentions ['!', ':'] (Message.parse text).header.toList = true ↔
      heading.marked = true ∨ heading.StrayMark rest := by
  rw [mentions, cut?_isSome_iff, Message.header_parse, opens.mark_infix_iff]

/-- The rule finds a mark before any colon of the header. It is wrong about the heading just when
that has none and its scope, or what follows it, has one. -/
theorem exclamationMark_exact {text : String} {heading : Heading} {rest : List Char}
    (opens : heading.Opens (headerLine text.toList) rest) (value : Option Value) :
    let message := Message.parse text
    let passes applicability :=
      (exclamationMark.evaluate message applicability value).passed = true
    message.marked = heading.marked ∧
    (passes .always ↔ heading.marked = true ∨ heading.StrayMark rest) ∧
    (passes .never ↔ heading.marked = false ∧ ¬ heading.StrayMark rest) ∧
    ((passes .always ↔ message.marked = true) ∧ (passes .never ↔ message.marked = false) ↔
      (heading.StrayMark rest → heading.marked = true)) := by
  intro message passes
  have marked : message.marked = heading.marked := (Message.bears_of_opens opens).marked
  have always : passes .always ↔ heading.marked = true ∨ heading.StrayMark rest := by
    rw [← mentions_mark_iff opens]
    simp only [passes, exclamationMark_passed, Applicability.expects]
    rfl
  have never : passes .never ↔ heading.marked = false ∧ ¬ heading.StrayMark rest := by
    rw [← Bool.not_eq_true, ← not_or, ← mentions_mark_iff opens]
    simp only [passes, exclamationMark_passed, Applicability.expects, Bool.not_eq_true',
      Bool.not_eq_true]
    rfl
  refine ⟨marked, always, never, ?_⟩
  rw [always, never, marked]
  cases heading.marked <;> simp

end Rule

def strayScope : Heading :=
  { type := ['f', 'e', 'a', 't'], scope := some ['a', '!', ':', 'b'], marked := false }

def plainFeature : Heading :=
  { type := ['f', 'e', 'a', 't'], scope := none, marked := false }

theorem strayScope_opens :
    strayScope.Opens (headerLine "feat(a!:b): x".toList) [' ', 'x'] :=
  ⟨⟨by simp [strayScope], by simp [strayScope]⟩, by decide⟩

theorem plainFeature_opens :
    plainFeature.Opens (headerLine "feat: say hello!: twice".toList) " say hello!: twice".toList :=
  ⟨⟨by simp [plainFeature], by simp [plainFeature]⟩, by decide⟩

theorem exclamationMark_exact_strayScope :
    strayScope.Opens (headerLine "feat(a!:b): x".toList) [' ', 'x'] ∧
    (Message.parse "feat(a!:b): x").marked = false ∧
    (Rule.exclamationMark.evaluate (Message.parse "feat(a!:b): x") .always none).passed = true ∧
    (Rule.exclamationMark.evaluate (Message.parse "feat(a!:b): x") .never none).passed ≠ true := by
  obtain ⟨marked, always, never, -⟩ := Rule.exclamationMark_exact strayScope_opens none
  have stray : strayScope.StrayMark [' ', 'x'] := .inl ⟨_, rfl, by decide⟩
  exact ⟨strayScope_opens, marked, always.mpr (.inr stray), fun passes => (never.mp passes).2 stray⟩

theorem exclamationMark_not_marked :
    plainFeature.Opens (headerLine "feat: say hello!: twice".toList) " say hello!: twice".toList ∧
    (Message.parse "feat: say hello!: twice").marked = false ∧
    (Rule.exclamationMark.evaluate (Message.parse "feat: say hello!: twice") .always none).passed =
      true ∧
    (Rule.exclamationMark.evaluate (Message.parse "feat: say hello!: twice") .never none).passed =
      false :=
  ⟨plainFeature_opens, by decide, by decide, by decide⟩

end HeaderLint
