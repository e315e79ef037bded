import HeaderLint.History.Revision
import HeaderLint.Proofs.History.Reach

set_option autoImplicit false

namespace HeaderLint

variable {history : History} {commit : Commit}

theorem History.mem_of_commit? {id : CommitId} (found : history.commit? id = some commit) :
    commit ∈ history.commits :=
  List.mem_of_find?_eq_some found

theorem History.mem_of_fitting? {pattern : List Char} {commits : List Commit}
    (found : fitting? pattern commits = some commit) : commit ∈ commits := by
  obtain ⟨_, _, first⟩ := Option.bind_eq_some_iff.mp found
  exact List.mem_of_find?_eq_some first

theorem History.mem_of_mem_reach {pending : List CommitId}
    (mem : commit ∈ reach history.newestFirst pending) : commit ∈ history.commits := by
  obtain ⟨start, among, _, leads⟩ := mem_reach_iff.mp mem
  exact List.mem_mergeSort.mp (leads.mem among)

theorem Step.mem_of_follow {step : Step} {start : Commit} (mem : start ∈ history.commits)
    (found : step.follow history start = some commit) : commit ∈ history.commits := by
  fun_induction Step.follow history step start with
  | case1 | case3 => exact Option.some.inj found ▸ mem
  | case2 =>
    obtain ⟨_, _, named⟩ := Option.bind_eq_some_iff.mp found
    exact History.mem_of_commit? named
  | case4 n start ih =>
    obtain ⟨parent, isParent, further⟩ := Option.bind_eq_some_iff.mp found
    obtain ⟨_, _, named⟩ := Option.bind_eq_some_iff.mp isParent
    exact ih parent (History.mem_of_commit? named) further
  | case5 => exact History.mem_of_mem_reach (History.mem_of_fitting? found)

namespace Revision

theorem mem_of_follow_all {steps : List Step} {start : Commit} (mem : start ∈ history.commits)
    (found : steps.foldlM (fun commit step => step.follow history commit) start = some commit) :
    commit ∈ history.commits := by
  induction steps generalizing start with
  | nil => exact Option.some.inj found ▸ mem
  | cons step steps ih =>
    obtain ⟨between, here, further⟩ := Option.bind_eq_some_iff.mp found
    exact ih (Step.mem_of_follow mem here) further

theorem mem_of_byId? {name : String} (found : byId? history name = some commit) :
    commit ∈ history.commits := by
  rw [byId?] at found
  split at found
  next =>
    split at found
    next only isOnly =>
      exact Option.some.inj found ▸ List.mem_of_mem_filter (isOnly ▸ List.mem_singleton_self _)
    next => simp at found
  next => simp at found

theorem mem_of_base? {name : String} (found : base? history name = some commit) :
    commit ∈ history.commits := by
  rw [base?] at found
  split at found
  next => exact History.mem_of_commit? found
  next => exact mem_of_byId? found

theorem mem_of_find? {revision : Revision} (found : revision.find? history = some commit) :
    commit ∈ history.commits := by
  obtain ⟨start, begun, followed⟩ := Option.bind_eq_some_iff.mp found
  refine mem_of_follow_all ?_ followed
  split at begun
  next => exact mem_of_base? begun
  next => exact History.mem_of_mem_reach (History.mem_of_fitting? begun)

end Revision

/-- A reference stands for one of the commits, or is refused as it is written. -/
theorem History.resolve_cases (history : History) (reference : String) :
    (∃ commit ∈ history.commits, history.resolve reference = .ok commit) ∨
      history.resolve reference = .error (.invalidReference reference) := by
  rw [resolve]
  split
  next commit found =>
    obtain ⟨revision, _, found⟩ := Option.bind_eq_some_iff.mp found
    exact .inl ⟨commit, Revision.mem_of_find? found, rfl⟩
  next => exact .inr rfl

end HeaderLint
