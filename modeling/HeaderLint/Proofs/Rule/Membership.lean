import HeaderLint.Proofs.Config.Entry
import HeaderLint.Proofs.Rule.Builtin

set_option autoImplicit false

namespace HeaderLint

namespace Rule

variable (field : Field) (message : Message) (applicability : Applicability)

theorem exists_membership_message :
    ∃ lead, ∀ allowed,
      ((membership field).evaluate message applicability (some (.list allowed))).passed = false →
      ((membership field).evaluate message applicability (some (.list allowed))).message =
        lead ++ listed allowed := by
  simp only [membership, Membership.evaluate]
  cases field.of message with
  | none =>
    cases applicability with
    | always => exact ⟨_, fun _ _ => rfl⟩
    | never => exact ⟨"", fun _ failed => by simp at failed⟩
  | some actual =>
    cases applicability with
    | always => exact ⟨_, fun _ failed => message_ite failed⟩
    | never => exact ⟨_, fun _ failed => message_ite failed⟩

structure Judges (items kept : List String) (evaluation : Evaluation) : Prop where
  passed : evaluation.passed = true ↔
    match applicability with
    | .always => ∃ actual ∈ field.of message, actual ∈ items
    | .never => ∀ actual ∈ field.of message, actual ∉ items
  printed : evaluation.passed = false → ∃ lead, evaluation.message = lead ++ listed kept

theorem membership_judges {items kept : List String} (first : FirstOccurrences items kept) :
    Judges field message applicability items kept
      ((membership field).evaluate message applicability (some (.list kept))) := by
  constructor
  case passed =>
    rw [membership_passed_iff]
    cases applicability with
    | always => simp only [first.mem]
    | never => simp only [first.mem]
  case printed =>
    intro failed
    obtain ⟨lead, ends⟩ := exists_membership_message field message applicability
    exact ⟨lead, ends kept failed⟩

end Rule

open Rule

/-- A list value keeps the first of equal items, and that is all that a rule of membership goes by:
lists whose items first show in the same order are judged alike. -/
theorem Value.ofItems_exact (items : List String) :
    ∃ kept, Value.ofItems items = .list kept ∧ kept.Nodup ∧ SameFirsts items kept ∧
      Value.ofItems kept = .list kept ∧
      (∀ more, (∀ item ∈ more, item ∈ items) → Value.ofItems (items ++ more) = .list kept) ∧
      (∀ others, Value.ofItems others = .list kept ↔ SameFirsts items others) ∧
      ∀ others, SameFirsts items others → ∀ field message applicability,
        (membership field).evaluate message applicability (some (.ofItems others)) =
          (membership field).evaluate message applicability (some (.ofItems items)) ∧
        Judges field message applicability items kept
          ((membership field).evaluate message applicability (some (.ofItems others))) := by
  have first : FirstOccurrences items items.eraseDups := .of_eraseDups items
  have same (others : List String) :
      Value.ofItems others = .list items.eraseDups ↔ SameFirsts items others :=
    ofItems_eq_list_iff.trans first.sameFirsts_iff.symm
  refine ⟨items.eraseDups, ofItems_eq items, first.nodup, first.sameFirsts,
    ofItems_eq_list_iff.mpr (.of_nodup first.nodup),
    fun more known => ofItems_eq_list_iff.mpr (first.append known), same, ?_⟩
  intro others alike field message applicability
  rw [(same others).mpr alike, ofItems_eq items]
  exact ⟨rfl, membership_judges field message applicability first⟩

theorem Value.ofItems_exact_fixFeatDocs :
    (∀ item ∈ ["docs", "fix"], item ∈ ["fix", "feat", "fix", "docs"]) ∧
      Value.ofItems (["fix", "feat", "fix", "docs"] ++ ["docs", "fix"]) =
        .list ["fix", "feat", "docs"] ∧
      SameFirsts ["fix", "feat", "fix", "docs"] ["fix", "feat", "feat", "docs"] ∧
      ∃ lead,
        ((membership .type).evaluate (.parse "wip: x") .always
          (some (.ofItems ["fix", "feat", "feat", "docs"]))).message =
            lead ++ "[fix, feat, docs]" := by
  obtain ⟨kept, ofItems, _, _, _, extended, same, judged⟩ :=
    Value.ofItems_exact ["fix", "feat", "fix", "docs"]
  obtain rfl : ["fix", "feat", "docs"] = kept := Value.list.inj ofItems
  have known : ∀ item ∈ ["docs", "fix"], item ∈ ["fix", "feat", "fix", "docs"] := by simp
  have alike := (same ["fix", "feat", "feat", "docs"]).mp rfl
  refine ⟨known, extended _ known, alike, ?_⟩
  exact (judged _ alike .type (.parse "wip: x") .always).2.printed rfl

end HeaderLint
