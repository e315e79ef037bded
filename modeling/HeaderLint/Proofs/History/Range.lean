import HeaderLint.History.Range
import HeaderLint.Proofs.History.Revision
import HeaderLint.Proofs.Text.Cut
import Mathlib

set_option autoImplicit false

namespace HeaderLint.History

open Text

/-- A whole history: no two commits have one name or one time, and the parents of each commit are in
it and older. -/
structure Chronological (history : History) : Prop where
  named : (history.commits.map (·.id)).Nodup
  timed : (history.commits.map (·.time)).Nodup
  parents : ∀ child ∈ history.commits, ∀ id ∈ child.parents,
    ∃ parent ∈ history.commits, parent.id = id ∧ parent.time < child.time

/-- The commits that one leads back to and the hidden one does not, each once, the newest first. -/
structure Spans (history : History) (hidden : Option Commit) (tip : Commit)
    (commits : List Commit) : Prop where
  mem_iff : ∀ commit, commit ∈ commits ↔
    LeadsBack history.commits tip commit ∧ ∀ base ∈ hidden, ¬ LeadsBack history.commits base commit
  once : commits.Nodup
  newestFirst : Descending commits

def messages (history : History) (target : String) : Except HistoryError (List (String × String)) :=
  (history.range target).map (·.map fun commit => (commit.id.name, commit.text))

/-- A range that gives some commits tells the name of each with the text of that same commit. -/
structure Gives (history : History) (target : String) (commits : List Commit) : Prop where
  range : history.range target = .ok commits
  messages : history.messages target =
    .ok (commits.map fun commit => (commit.id.name, commit.text))

@[simp] theorem gives_iff {history : History} {target : String} {commits : List Commit} :
    history.Gives target commits ↔ history.range target = .ok commits :=
  ⟨Gives.range, fun found => ⟨found, by rw [messages, found]; rfl⟩⟩

structure Refuses (history : History) (target : String) (fault : HistoryError) : Prop where
  range : history.range target = .error fault
  messages : history.messages target = .error fault

@[simp] theorem refuses_iff {history : History} {target : String} {fault : HistoryError} :
    history.Refuses target fault ↔ history.range target = .error fault :=
  ⟨Refuses.range, fun refused => ⟨refused, by rw [messages, refused]; rfl⟩⟩

namespace Chronological

variable {history : History} {commit other tip : Commit} {commits : List Commit}

theorem eq_of_id (chronological : history.Chronological) (mem : commit ∈ history.commits)
    (among : other ∈ history.commits) (same : commit.id = other.id) : commit = other :=
  List.inj_on_of_nodup_map chronological.named mem among same

theorem parentsOlder (chronological : history.Chronological) :
    ParentsOlder history.newestFirst := by
  intro child mem parent among isParent
  obtain ⟨known, inHistory, same, older⟩ :=
    chronological.parents child (List.mem_mergeSort.mp mem) _ isParent
  rwa [chronological.eq_of_id inHistory (List.mem_mergeSort.mp among) same] at older

theorem descending (chronological : history.Chronological) : Descending history.newestFirst := by
  have sorted : history.newestFirst.Pairwise fun a b => b.time ≤ a.time := by
    refine (List.pairwise_mergeSort ?_ ?_ history.commits).imp of_decide_eq_true
    next =>
      simp only [decide_eq_true_eq]
      omega
    next =>
      simp only [Bool.or_eq_true, decide_eq_true_eq]
      omega
  have distinct : (history.newestFirst.map (·.time)).Nodup :=
    ((List.mergeSort_perm history.commits _).map _).nodup_iff.mpr chronological.timed
  refine (sorted.and (List.pairwise_map.mp distinct)).imp fun ⟨later, apart⟩ => ?_
  omega

theorem mem_ancestry_iff (chronological : history.Chronological) (mem : tip ∈ history.commits) :
    commit ∈ history.ancestry tip ↔ LeadsBack history.commits tip commit := by
  have within : history.newestFirst ⊆ history.commits := fun _ => List.mem_mergeSort.mp
  have whole : history.commits ⊆ history.newestFirst := fun _ => List.mem_mergeSort.mpr
  rw [ancestry, mem_reach_iff]
  constructor
  next =>
    rintro ⟨start, among, named, leads⟩
    rw [← chronological.eq_of_id (within among) mem (List.mem_singleton.mp named)]
    exact leads.mono within
  next => exact fun leads => ⟨tip, whole mem, List.mem_singleton_self _, leads.mono whole⟩

theorem spans_between (chronological : history.Chronological) (mem : tip ∈ history.commits)
    {hidden : Option Commit} (known : ∀ base ∈ hidden, base ∈ history.commits) :
    history.Spans hidden tip (history.between hidden tip) := by
  have descending : Descending (history.between hidden tip) :=
    (descending_reach chronological.descending chronological.parentsOlder).sublist
      List.filter_sublist
  refine ⟨fun commit => ?_, descending.nodup, descending⟩
  simp only [between, List.mem_filter, chronological.mem_ancestry_iff mem]
  refine and_congr_right fun leads => ?_
  cases hidden with
  | none => simp
  | some base =>
    have inHistory : base ∈ history.commits := known base rfl
    simp only [Option.map_some, Option.getD_some, Bool.not_eq_true', List.contains_eq_mem,
      decide_eq_false_iff_not, List.mem_map, Option.mem_some_iff, forall_eq']
    refine not_congr ⟨?_, fun before => ?_⟩
    next =>
      rintro ⟨other, among, same⟩
      have before := (chronological.mem_ancestry_iff inHistory).mp among
      rwa [chronological.eq_of_id (before.mem inHistory) (leads.mem mem) same] at before
    next => exact ⟨commit, (chronological.mem_ancestry_iff inHistory).mpr before, rfl⟩

end Chronological

def rightSide (last : List Char) : String :=
  if last = [] then "HEAD" else .ofList last

theorem range_of_single {history : History} {target : String}
    (single : ¬ ['.', '.'] <:+: target.toList) :
    history.range target = (history.resolve target).map ([·]) := by
  rw [range, cut?_eq_none_iff.mpr single]
  cases history.resolve target <;> rfl

theorem range_of_cut {history : History} {target : String} {first last : List Char}
    (cut : FirstCut ['.', '.'] target.toList first last) :
    history.range target = do
      let tip ← history.resolve (rightSide last)
      if first = [] then return history.between none tip
      let hidden ← history.resolve (.ofList first)
      return history.between (some hidden) tip := by
  simp only [range, cut?_eq_some_iff.mpr cut, rightSide, List.isEmpty_iff]

/-- A range gives what its right side leads back to and its left side does not, and fails only at a
side that stands for no commit, the right one first. Without two dots it gives one commit. -/
theorem range_exact {history : History} (chronological : history.Chronological) (target : String) :
    (¬ ['.', '.'] <:+: target.toList →
      (∀ fault, history.resolve target = .error fault → history.Refuses target fault) ∧
      (∀ commit, history.resolve target = .ok commit → history.Gives target [commit]) ∧
      history.range target = (history.resolve target).map ([·])) ∧
    (∀ first last, FirstCut ['.', '.'] target.toList first last →
      (∀ fault, history.resolve (rightSide last) = .error fault → history.Refuses target fault) ∧
      ∀ tip, history.resolve (rightSide last) = .ok tip →
        (first = [] → ∃ commits, history.Gives target commits ∧ history.Spans none tip commits) ∧
        (first ≠ [] →
          (∀ fault, history.resolve (.ofList first) = .error fault →
            history.Refuses target fault) ∧
          ∀ base, history.resolve (.ofList first) = .ok base →
            ∃ commits, history.Gives target commits ∧ history.Spans (some base) tip commits)) ∧
    ∀ reference, (∃ commit ∈ history.commits, history.resolve reference = .ok commit) ∨
      history.resolve reference = .error (.invalidReference reference) := by
  have known {reference : String} {commit : Commit}
      (found : history.resolve reference = .ok commit) : commit ∈ history.commits := by
    rcases history.resolve_cases reference with ⟨other, mem, same⟩ | refused
    next => exact Except.ok.inj (same.symm.trans found) ▸ mem
    next => simp [refused] at found
  simp only [gives_iff, refuses_iff]
  refine ⟨fun single => ?_, fun first last cut => ?_, history.resolve_cases⟩
  next =>
    rw [range_of_single single]
    exact ⟨fun fault refused => by rw [refused]; rfl, fun commit found => by rw [found]; rfl, rfl⟩
  next =>
    rw [range_of_cut cut]
    refine ⟨fun fault refused => by rw [refused]; rfl, fun tip found => ?_⟩
    rw [found]
    constructor
    next =>
      rintro rfl
      exact ⟨_, rfl, chronological.spans_between (known found) (by simp)⟩
    next =>
      intro given
      simp only [bind, Except.bind, given, if_false]
      refine ⟨fun fault refused => by rw [refused], fun base hidden => ?_⟩
      rw [hidden]
      exact ⟨_, rfl, chronological.spans_between (known found) (by simpa using known hidden)⟩

namespace Branched

def commit (id : CommitId) (time : Int) (parents : List CommitId) : Commit :=
  { id, time, parents, stored := Utf8.encode "feat: add it".toList }

def root : Commit := commit { name := "aaaa", short := by decide } 1 []
def side : Commit := commit { name := "bbbb", short := by decide } 2 [root.id]
def trunk : Commit := commit { name := "cccc", short := by decide } 3 [root.id]
def merge : Commit := commit { name := "dddd", short := by decide } 4 [trunk.id, side.id]

-- Two ways lead back to the root, one of them past the side branch.
def history : History :=
  { commits := [trunk, merge, root, side]
    names := [("HEAD", merge.id), ("refs/heads/side", side.id)] }

theorem chronological : history.Chronological :=
  { named := by decide, timed := by decide, parents := by decide }

theorem range_exact_branched :
    history.range "side.." = .ok [merge, trunk] ∧
      history.messages "side.." = .ok [("dddd", "feat: add it"), ("cccc", "feat: add it")] ∧
      history.Spans (some side) merge [merge, trunk] ∧
      history.Refuses "gone..lost" (.invalidReference "lost") := by
  have sideCut : FirstCut ['.', '.'] "side..".toList "side".toList [] := cut?_firstCut (by decide)
  have lostCut : FirstCut ['.', '.'] "gone..lost".toList "gone".toList "lost".toList :=
    cut?_firstCut (by decide)
  have head : history.resolve (rightSide []) = .ok merge := by decide +kernel
  have base : history.resolve "side" = .ok side := by decide +kernel
  have nothing : history.resolve (rightSide "lost".toList) = .error (.invalidReference "lost") := by
    decide +kernel
  obtain ⟨_, given⟩ := ((range_exact chronological "side..").2.1 _ _ sideCut).2 merge head
  obtain ⟨commits, gives, spans⟩ := (given (by decide)).2 side base
  have computed : history.range "side.." = .ok [merge, trunk] := by cbv
  obtain rfl := Except.ok.inj (gives.range.symm.trans computed)
  have pairs : [merge, trunk].map (fun commit => (commit.id.name, commit.text)) =
      [("dddd", "feat: add it"), ("cccc", "feat: add it")] := by decide +kernel
  exact ⟨computed, pairs ▸ gives.messages, spans,
    ((range_exact chronological "gone..lost").2.1 _ _ lostCut).1 _ nothing⟩

end Branched

end HeaderLint.History
