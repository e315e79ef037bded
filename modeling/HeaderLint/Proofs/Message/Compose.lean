import HeaderLint.Proofs.Message.Parse

set_option autoImplicit false

namespace HeaderLint.Message

open Text

def composed (heading : Heading) (description : List Char) (body : Option (List Char)) : String :=
  .ofList (heading.opening ++ ':' :: ' ' :: description ++ body.elim [] ('\n' :: ·))

def bodyLines (body : Option (List Char)) : List (List Char) :=
  body.elim [] (·.splitOn '\n')

section Composed

variable {heading : Heading} {description : List Char} {body : Option (List Char)}

theorem splitOn_composed (opening : '\n' ∉ heading.opening) (oneLine : '\n' ∉ description) :
    (composed heading description body).toList.splitOn '\n' =
      (heading.opening ++ ':' :: ' ' :: description) :: bodyLines body := by
  have line : '\n' ∉ heading.opening ++ ':' :: ' ' :: description := by
    simp [opening, oneLine]
  rw [composed, String.toList_ofList]
  cases body with
  | none => simpa [bodyLines] using List.splitOn_eq_singleton line
  | some body => exact List.splitOn_append_cons_self_of_not_mem line body

theorem headerLine_composed (opening : '\n' ∉ heading.opening) (oneLine : '\n' ∉ description) :
    headerLine (composed heading description body).toList =
      heading.opening ++ ':' :: ' ' :: dropReturn description := by
  rw [headerLine, splitOn_composed opening oneLine, List.headD_cons, ← dropReturn_eq]
  simpa using dropReturn_append (heading.opening ++ [':']) description (by decide)

theorem cut?_scopeText {scope : Option (List Char)}
    (plain : ∀ text ∈ scope, ¬ [':', ' '] <:+: text) (rest : List Char) :
    cut? [':', ' '] (Heading.scopeText scope ++ rest) =
      (cut? [':', ' '] rest).map fun cut => (Heading.scopeText scope ++ cut.1, cut.2) := by
  cases scope with
  | none => simp [Heading.scopeText]
  | some text =>
    have opened : ¬ [':', ' '] <:+: '(' :: text := fun within =>
      (List.infix_cons_iff.mp within).elim
        (fun starts => absurd (List.cons_prefix_cons.mp starts).1 (by decide)) (plain text rfl)
    have skipped := cut?_append_of_not_infix (s := rest) opened (by decide : ')' ∉ [':', ' '])
    simpa [Heading.scopeText] using skipped

theorem cut?_opening_of_plain (wellFormed : heading.WellFormed)
    (plain : ∀ scope ∈ heading.scope, ¬ [':', ' '] <:+: scope) (rest : List Char) :
    cut? [':', ' '] (heading.opening ++ ':' :: ' ' :: rest) = some (heading.opening, rest) := by
  have typeFree : ':' ∉ heading.type := fun mem => (wellFormed.type ':' mem).2.2 rfl
  have markFree : ':' ∉ Heading.markText heading.marked := by
    cases heading.marked <;> decide
  have here : cut? [':', ' '] (':' :: ' ' :: rest) = some ([], rest) := cut?_self [':', ' '] rest
  simp only [Heading.opening, List.append_assoc]
  rw [cut?_append_of_not_mem typeFree, cut?_scopeText plain, cut?_append_of_not_mem markFree, here]
  simp

theorem cut?_opening_of_infix {scope : List Char} (wellFormed : heading.WellFormed)
    (present : heading.scope = some scope) (within : [':', ' '] <:+: scope) (rest : List Char) :
    ∃ before after, cut? [':', ' '] (heading.opening ++ ':' :: ' ' :: rest) =
      some (before, after ++ ')' :: (Heading.markText heading.marked ++ ':' :: ' ' :: rest)) := by
  have typeFree : ':' ∉ heading.type ++ ['('] := by
    simpa using fun mem => (wellFormed.type ':' mem).2.2 rfl
  obtain ⟨⟨before, after⟩, found⟩ := Option.isSome_iff_exists.mp (cut?_isSome_iff.mpr within)
  refine ⟨heading.type ++ '(' :: before, after, ?_⟩
  have written : heading.opening ++ ':' :: ' ' :: rest = (heading.type ++ ['(']) ++
      (scope ++ ')' :: (Heading.markText heading.marked ++ ':' :: ' ' :: rest)) := by
    simp [Heading.opening, present, Heading.scopeText]
  rw [written, cut?_append_of_not_mem typeFree, cut?_append_right _ found]
  simp

/-- A colon and a blank within the scope come first and put its closing parenthesis into the subject. -/
theorem subject_composed_iff (wellFormed : heading.WellFormed)
    (opening : '\n' ∉ heading.opening) (oneLine : '\n' ∉ description) :
    (parse (composed heading description body)).subject = some (.ofList (trim description)) ↔
      ∀ scope ∈ heading.scope, ¬ [':', ' '] <:+: scope := by
  have header : headerLine (composed heading description body).toList = _ :=
    headerLine_composed opening oneLine
  constructor
  next =>
    intro same scope present within
    obtain ⟨before, after, found⟩ :=
      cut?_opening_of_infix wellFormed present within (dropReturn description)
    rw [← header] at found
    rw [subject_of_cut found, Option.some.injEq, String.ofList_inj] at same
    -- White space aside, the subject holds a parenthesis more than the description.
    have counted := congrArg (List.count ')') same
    rw [count_trim _ (by decide), ← trim_dropReturn description, count_trim _ (by decide)] at counted
    simp only [List.count_append, List.count_cons_self] at counted
    have kept := (List.sublist_cons_self ':' (' ' :: dropReturn description)).count_le ')'
    have inner := (List.sublist_cons_self ' ' (dropReturn description)).count_le ')'
    omega
  next =>
    intro plain
    have found := cut?_opening_of_plain wellFormed plain (dropReturn description)
    rw [← header] at found
    rw [subject_of_cut found, trim_dropReturn]

theorem isBreaking_composed_iff (bears : (parse (composed heading description body)).Bears heading)
    (opening : '\n' ∉ heading.opening) (oneLine : '\n' ∉ description) :
    (parse (composed heading description body)).isBreaking = true ↔
      heading.marked = true ∨ ∃ line ∈ bodyLines body, DeclaresBreaking line := by
  rw [isBreaking_iff, bears.marked, splitOn_composed opening oneLine, List.tail_cons]

/-- A composed message is read back; only a scope can spoil the subject, by a colon and a blank. -/
theorem parse_composed (wellFormed : heading.WellFormed) (typeLine : '\n' ∉ heading.type)
    (scopeLine : ∀ scope ∈ heading.scope, '\n' ∉ scope) (oneLine : '\n' ∉ description) :
    let message := parse (composed heading description body)
    message.Bears heading ∧
    (message.isBreaking = true ↔
      heading.marked = true ∨ ∃ line ∈ bodyLines body, DeclaresBreaking line) ∧
    (message.subject = some (.ofList (trim description)) ↔
      ∀ scope ∈ heading.scope, ¬ [':', ' '] <:+: scope) := by
  have opening : '\n' ∉ heading.opening := heading.not_mem_opening typeLine scopeLine
  have bears : (parse (composed heading description body)).Bears heading :=
    bears_of_opens ⟨wellFormed, headerLine_composed opening oneLine⟩
  exact ⟨bears, isBreaking_composed_iff bears opening oneLine,
    subject_composed_iff wellFormed opening oneLine⟩

end Composed

-- A heading whose scope holds what would otherwise end the heading.
def colonScope : Heading :=
  { type := ['f', 'e', 'a', 't'], scope := some ['a', '!', ':', ' ', 'b'], marked := true }

theorem colonScope_wellFormed : colonScope.WellFormed := by
  constructor <;> simp [colonScope]

theorem parse_composed_colonScope :
    colonScope.WellFormed ∧ '\n' ∉ colonScope.type ∧
    (∀ scope ∈ colonScope.scope, '\n' ∉ scope) ∧ '\n' ∉ [' ', 'x', '\r'] ∧
    (parse (composed colonScope [' ', 'x', '\r'] (some ['y']))).Bears colonScope ∧
    (parse (composed colonScope [' ', 'x', '\r'] (some ['y']))).isBreaking = true ∧
    (parse (composed colonScope [' ', 'x', '\r'] (some ['y']))).subject ≠ some (.ofList ['x']) := by
  have typeLine : '\n' ∉ colonScope.type := by decide
  have scopeLine : ∀ scope ∈ colonScope.scope, '\n' ∉ scope := by
    intro scope present
    obtain rfl := Option.some.inj present
    decide
  have oneLine : '\n' ∉ [' ', 'x', '\r'] := by decide
  obtain ⟨bears, breaking, subject⟩ :=
    @parse_composed colonScope [' ', 'x', '\r'] (some ['y'])
      colonScope_wellFormed typeLine scopeLine oneLine
  refine ⟨colonScope_wellFormed, typeLine, scopeLine, oneLine, bears, breaking.mpr (.inl rfl), ?_⟩
  intro same
  exact subject.mp same _ rfl (by decide)

end HeaderLint.Message
