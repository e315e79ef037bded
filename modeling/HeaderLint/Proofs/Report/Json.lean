import HeaderLint.Proofs.Document.Pretty
import HeaderLint.Report.Json
import Mathlib.Data.List.Forall2

set_option autoImplicit false

namespace HeaderLint

namespace Document

def keys : Document → List String
  | .table fields => fields.map Prod.fst
  | _ => []

def field? (name : String) : Document → Option Document
  | .table fields => fields.lookup name
  | _ => none

end Document

open Document

structure Outcome.Recorded (outcome : Outcome) (document : Document) : Prop where
  keys : document.keys.Nodup
  rule : document.field? "rule" = some (.text outcome.rule)
  severity : document.field? "severity" = some (.text outcome.severity.name)
  passed : document.field? "passed" = some (.boolean outcome.passed)
  message : document.field? "message" = some (.text outcome.message)

/-- A table that says of a report all that there is to it; what a report does not have has no key. -/
structure Report.Recorded (report : Report) (document : Document) : Prop where
  keys : document.keys.Nodup
  input : document.field? "input" = report.input.map .text
  commit : document.field? "commit_sha" = report.commit.map .text
  breaking : document.field? "breaking" = some (.boolean report.breaking)
  valid : document.field? "valid" = some (.boolean report.isValid)
  outcomes : ∃ items, document.field? "outcomes" = some (.list items) ∧
    List.Forall₂ Outcome.Recorded report.outcomes items

namespace Outcome

theorem recorded_document (outcome : Outcome) : outcome.Recorded outcome.document := by
  constructor
  case keys => simp [Outcome.document, Document.keys]
  all_goals rfl

theorem integral_document (outcome : Outcome) : Integral outcome.document := by
  refine .table fun field mem => ?_
  simp only [List.mem_cons, List.not_mem_nil, or_false] at mem
  rcases mem with rfl | rfl | rfl | rfl
  next => exact .text _
  next => exact .boolean _
  next => exact .text _
  next => exact .text _

theorem Recorded.unique {outcome other : Outcome} {document : Document}
    (here : outcome.Recorded document) (there : other.Recorded document) : outcome = other := by
  have rule := Document.text.inj (Option.some.inj (here.rule.symm.trans there.rule))
  have severity := Document.text.inj (Option.some.inj (here.severity.symm.trans there.severity))
  have passed := Document.boolean.inj (Option.some.inj (here.passed.symm.trans there.passed))
  have message := Document.text.inj (Option.some.inj (here.message.symm.trans there.message))
  obtain ⟨_, weight, _, _⟩ := outcome
  obtain ⟨_, otherWeight, _, _⟩ := other
  have same : weight = otherWeight := by
    cases weight <;> cases otherWeight <;> simp [Severity.name] at severity ⊢
  rw [Outcome.mk.injEq]
  exact ⟨rule, same, passed, message⟩

end Outcome

namespace Report

theorem recorded_document (report : Report) : report.Recorded report.document := by
  obtain ⟨input, commit, breaking, outcomes⟩ := report
  have recorded : List.Forall₂ Outcome.Recorded outcomes (outcomes.map Outcome.document) := by
    rw [List.forall₂_map_right_iff, List.forall₂_same]
    exact fun outcome _ => outcome.recorded_document
  cases input <;> cases commit
  all_goals
    constructor
    case keys => simp [Report.document, optionalField, Document.keys]
    case outcomes => exact ⟨_, rfl, recorded⟩
    all_goals rfl

theorem integral_optionalField (name : String) (content : Option String) :
    ∀ field ∈ optionalField name content, Integral field.2 := by
  cases content with
  | none => simp [optionalField]
  | some content => simpa [optionalField] using Integral.text content

theorem integral_document (report : Report) : Integral report.document := by
  refine .table fun field mem => ?_
  simp only [List.mem_append, List.mem_cons, List.not_mem_nil, or_false] at mem
  rcases mem with ((rfl | commit) | input) | rfl | rfl
  next => exact .boolean _
  next => exact integral_optionalField _ _ field commit
  next => exact integral_optionalField _ _ field input
  next =>
    refine .list fun item inside => ?_
    obtain ⟨outcome, _, rfl⟩ := List.mem_map.mp inside
    exact outcome.integral_document
  next => exact .boolean _

theorem integral_allDocument (reports : List Report) : Integral (allDocument reports) := by
  refine .table fun field mem => ?_
  simp only [List.mem_cons, List.not_mem_nil, or_false] at mem
  rcases mem with rfl | rfl
  next =>
    refine .list fun item inside => ?_
    obtain ⟨report, _, rfl⟩ := List.mem_map.mp inside
    exact report.integral_document
  next => exact .boolean _

theorem read?_json (reports : List Report) :
    Json.read? (json reports).toList = some (allDocument reports) := by
  rw [json, String.toList_ofList]
  exact Json.read?_pretty (integral_allDocument reports) 0

theorem Recorded.unique {report other : Report} {document : Document}
    (here : report.Recorded document) (there : other.Recorded document) : report = other := by
  have text : Function.Injective Document.text := fun _ _ => Document.text.inj
  have input := Option.map_injective text (here.input.symm.trans there.input)
  have commit := Option.map_injective text (here.commit.symm.trans there.commit)
  have breaking := Document.boolean.inj (Option.some.inj (here.breaking.symm.trans there.breaking))
  obtain ⟨items, listed, recorded⟩ := here.outcomes
  obtain ⟨others, alsoListed, alsoRecorded⟩ := there.outcomes
  obtain rfl := Document.list.inj (Option.some.inj (listed.symm.trans alsoListed))
  have unique : Relator.LeftUnique Outcome.Recorded := fun _ _ _ => Outcome.Recorded.unique
  have outcomes := List.left_unique_forall₂' unique recorded alsoRecorded
  obtain ⟨_, _, _, _⟩ := report
  obtain ⟨_, _, _, _⟩ := other
  rw [Report.mk.injEq]
  exact ⟨input, commit, breaking, outcomes⟩

/-- The text of some reports is a document that holds them all, in their order, and whether all are
valid; so no other reports have that text. -/
theorem json_exact (reports : List Report) :
    (∃ document results valid, Json.read? (json reports).toList = some document ∧
      document.keys = ["results", "valid"] ∧
      document.field? "results" = some (.list results) ∧
      List.Forall₂ Recorded reports results ∧
      document.field? "valid" = some (.boolean valid) ∧
      (valid = true ↔ ∀ report ∈ reports, report.isValid = true)) ∧
    ∀ others, json others = json reports → others = reports := by
  have recorded (reports : List Report) :
      List.Forall₂ Recorded reports (reports.map document) := by
    rw [List.forall₂_map_right_iff, List.forall₂_same]
    exact fun report _ => report.recorded_document
  refine ⟨⟨_, _, _, read?_json reports, rfl, rfl, recorded reports, rfl, List.all_eq_true⟩, ?_⟩
  intro others same
  have documents := (read?_json others).symm.trans (same ▸ read?_json reports)
  have results : others.map document = reports.map document := by
    have inner := congrArg (·.bind (field? "results")) documents
    simpa [allDocument, field?, List.lookup_cons] using inner
  have unique : Relator.LeftUnique Recorded := fun _ _ _ => Recorded.unique
  exact List.left_unique_forall₂' unique (results ▸ recorded others) (recorded reports)

end Report

end HeaderLint
