import HeaderLint.Message
import HeaderLint.Proofs.Message.Heading
import HeaderLint.Proofs.Text.Cut
import HeaderLint.Proofs.Text.Lines

set_option autoImplicit false

namespace HeaderLint.Message

open Text

def DeclaresBreaking (line : List Char) : Prop :=
  "BREAKING CHANGE: ".toList <+: line ∨ "BREAKING-CHANGE: ".toList <+: line

@[simp] theorem isFooter_iff {line : List Char} : isFooter line = true ↔ DeclaresBreaking line := by
  simp [isFooter, DeclaresBreaking]

theorem hasFooter_iff (s : List Char) :
    hasFooter s = true ↔ ∃ line ∈ (s.splitOn '\n').tail, DeclaresBreaking line := by
  rw [splitOn_lineFeed, List.tail_cons, hasFooter]
  cases afterFirstLine? s with
  | none => simp
  | some body => simp

@[simp] theorem header_parse (text : String) :
    (parse text).header.toList = headerLine text.toList := by
  simp [parse, ofChars]

structure Bears (message : Message) (heading : Heading) : Prop where
  type : message.type = if heading.type = [] then none else some (.ofList heading.type)
  scope : message.scope = heading.scope.map .ofList
  marked : message.marked = heading.marked

theorem bears_of_opens {text : String} {heading : Heading} {rest : List Char}
    (opens : heading.Opens (headerLine text.toList) rest) : (parse text).Bears heading := by
  have read := Heading.read?_eq_some_iff.mpr ⟨rest, opens⟩
  constructor <;> simp [parse, ofChars, read]

theorem fields_of_not_opens {text : String}
    (opensNot : ∀ heading rest, ¬ Heading.Opens heading (headerLine text.toList) rest) :
    (parse text).type = none ∧ (parse text).scope = none ∧ (parse text).marked = false := by
  have read : Heading.read? (headerLine text.toList) = none := by
    rw [Option.eq_none_iff_forall_ne_some]
    intro heading read
    obtain ⟨rest, opens⟩ := Heading.read?_eq_some_iff.mp read
    exact opensNot heading rest opens
  simp [parse, ofChars, read]

@[simp] theorem subject_eq_none_iff (text : String) :
    (parse text).subject = none ↔ ¬ [':', ' '] <:+: headerLine text.toList := by
  simp [parse, ofChars]

theorem subject_of_cut {text : String} {before after : List Char}
    (cut : cut? [':', ' '] (headerLine text.toList) = some (before, after)) :
    (parse text).subject = some (.ofList (trim after)) := by
  simp [parse, ofChars, cut]

theorem cut_of_subject {text subject : String} (present : (parse text).subject = some subject) :
    ∃ before after, FirstCut [':', ' '] (headerLine text.toList) before after ∧
      Trimmed after subject.toList := by
  have occurs : [':', ' '] <:+: headerLine text.toList := by
    by_contra absent
    simp [(subject_eq_none_iff text).mpr absent] at present
  obtain ⟨⟨before, after⟩, found⟩ := Option.isSome_iff_exists.mp (cut?_isSome_iff.mpr occurs)
  have same := (subject_of_cut found).symm.trans present
  refine ⟨before, after, cut?_firstCut found, trim_eq_iff.mp ?_⟩
  rw [← Option.some.inj same, String.toList_ofList]

theorem isBreaking_iff (text : String) :
    (parse text).isBreaking = true ↔ (parse text).marked = true ∨
      ∃ line ∈ (text.toList.splitOn '\n').tail, DeclaresBreaking line := by
  rw [isBreaking, Bool.or_eq_true, ← hasFooter_iff]
  rfl

/-- A header opens with one heading at most, and a message is read off it, its first colon with a
blank behind and the lines below. -/
theorem parse_exact (text : String) :
    let header := headerLine text.toList
    let message := parse text
    message.header.toList = header ∧
    (∀ a b restA restB, Heading.Opens a header restA → Heading.Opens b header restB →
      a = b ∧ restA = restB) ∧
    (∀ heading rest, Heading.Opens heading header rest → message.Bears heading) ∧
    ((∀ heading rest, ¬ Heading.Opens heading header rest) →
      message.type = none ∧ message.scope = none ∧ message.marked = false) ∧
    (message.subject = none ↔ ¬ [':', ' '] <:+: header) ∧
    (∀ subject, message.subject = some subject →
      ∃ before after, FirstCut [':', ' '] header before after ∧ Trimmed after subject.toList) ∧
    (message.isBreaking = true ↔ message.marked = true ∨
      ∃ line ∈ (text.toList.splitOn '\n').tail, DeclaresBreaking line) :=
  ⟨header_parse text, fun _ _ _ _ => Heading.opens_unique, fun _ _ => bears_of_opens,
    fields_of_not_opens, subject_eq_none_iff text, fun _ => cut_of_subject,
    isBreaking_iff text⟩

end HeaderLint.Message
