import HeaderLint.History
import Mathlib.Data.List.Nodup
import Mathlib.Logic.Relation

set_option autoImplicit false

namespace HeaderLint.History

def IsParent (commits : List Commit) (child parent : Commit) : Prop :=
  parent ∈ commits ∧ parent.id ∈ child.parents

def LeadsBack (commits : List Commit) : Commit → Commit → Prop :=
  Relation.ReflTransGen (IsParent commits)

def Reached (commits : List Commit) (ids : List CommitId) (commit : Commit) : Prop :=
  ∃ start ∈ commits, start.id ∈ ids ∧ LeadsBack commits start commit

def ParentsOlder (commits : List Commit) : Prop :=
  ∀ child ∈ commits, ∀ parent ∈ commits, parent.id ∈ child.parents → parent.time < child.time

def Descending (commits : List Commit) : Prop :=
  commits.Pairwise fun a b => b.time < a.time

theorem Descending.nodup {commits : List Commit} (descending : Descending commits) :
    commits.Nodup :=
  descending.imp fun later same => by subst same; exact Int.lt_irrefl _ later

theorem LeadsBack.mono {commits others : List Commit} (within : commits ⊆ others)
    {start commit : Commit} (leads : LeadsBack commits start commit) :
    LeadsBack others start commit :=
  Relation.ReflTransGen.mono (fun _ _ step => ⟨within step.1, step.2⟩) _ _ leads

theorem LeadsBack.mem {commits : List Commit} {start commit : Commit} (mem : start ∈ commits)
    (leads : LeadsBack commits start commit) : commit ∈ commits := by
  cases leads with
  | refl => exact mem
  | tail _ step => exact step.1

theorem LeadsBack.time_le {commits : List Commit} (older : ParentsOlder commits)
    {start commit : Commit} (mem : start ∈ commits) (leads : LeadsBack commits start commit) :
    commit.time ≤ start.time := by
  induction leads with
  | refl => exact Int.le_refl _
  | tail before step ih =>
    have earlier := older _ (LeadsBack.mem mem before) _ step.1 step.2
    omega

section Take

variable {newer older : List Commit} {commit : Commit} {pending : List CommitId}

theorem split_of_find? {remaining : List Commit}
    (found : remaining.find? (pending.contains ·.id) = some commit) :
    ∃ newer older, remaining = newer ++ commit :: older ∧
      (∀ skipped ∈ newer, skipped.id ∉ pending) ∧ commit.id ∈ pending ∧
      remaining.eraseP (pending.contains ·.id) = newer ++ older := by
  obtain ⟨isPending, newer, older, rfl, skipped⟩ := List.find?_eq_some_iff_append.mp found
  refine ⟨newer, older, rfl, ?_, by simpa using isPending, ?_⟩
  next => simpa using skipped
  next =>
    rw [List.eraseP_append_right _ (by simpa using skipped), List.eraseP_cons, isPending, cond_true]

theorem mem_take {other : Commit} :
    other ∈ newer ++ commit :: older ↔ other = commit ∨ other ∈ newer ++ older := by
  simp only [List.mem_append, List.mem_cons]
  tauto

theorem subset_take : newer ++ older ⊆ newer ++ commit :: older :=
  fun _ mem => mem_take.mpr (.inr mem)

theorem Reached.of_take (isPending : commit.id ∈ pending) {other : Commit}
    (reached : Reached (newer ++ older) (commit.parents ++ pending) other) :
    Reached (newer ++ commit :: older) pending other := by
  obtain ⟨start, mem, named, leads⟩ := reached
  have whole : LeadsBack (newer ++ commit :: older) start other := leads.mono subset_take
  rcases List.mem_append.mp named with isParent | already
  next =>
    exact ⟨commit, mem_take.mpr (.inl rfl), isPending, .head ⟨subset_take mem, isParent⟩ whole⟩
  next => exact ⟨start, subset_take mem, already, whole⟩

-- Ways through the taken commit go on from its parents, which are pending then.
theorem Reached.take {other : Commit} (reached : Reached (newer ++ commit :: older) pending other)
    (different : other ≠ commit) :
    Reached (newer ++ older) (commit.parents ++ pending) other := by
  obtain ⟨start, mem, named, leads⟩ := reached
  induction leads with
  | refl =>
    have left := (mem_take.mp mem).resolve_left different
    exact ⟨start, left, List.mem_append_right _ named, .refl⟩
  | @tail child other _ step ih =>
    have left := (mem_take.mp step.1).resolve_left different
    by_cases through : child = commit
    next => exact ⟨other, left, List.mem_append_left _ (through ▸ step.2), .refl⟩
    next =>
      obtain ⟨first, among, isNamed, before⟩ := ih through
      exact ⟨first, among, isNamed, before.tail ⟨left, step.2⟩⟩

end Take

theorem mem_reach_iff {remaining : List Commit} {pending : List CommitId} {commit : Commit} :
    commit ∈ reach remaining pending ↔ Reached remaining pending commit := by
  fun_induction reach remaining pending with
  | case1 remaining pending absent =>
    simp only [List.not_mem_nil, false_iff]
    rintro ⟨start, mem, named, _⟩
    simpa [named] using List.find?_eq_none.mp absent start mem
  | case2 remaining pending taken found ih =>
    obtain ⟨newer, older, rfl, _, isPending, left⟩ := split_of_find? found
    rw [left] at ih
    rw [left, List.mem_cons, ih]
    constructor
    next =>
      rintro (rfl | reached)
      next => exact ⟨commit, mem_take.mpr (.inl rfl), isPending, .refl⟩
      next => exact reached.of_take isPending
    next =>
      intro reached
      by_cases same : commit = taken
      next => exact .inl same
      next => exact .inr (reached.take same)

/-- From commits that stand newest first, commits are taken newest first. -/
theorem descending_reach {remaining : List Commit} {pending : List CommitId}
    (descending : Descending remaining) (older : ParentsOlder remaining) :
    Descending (reach remaining pending) := by
  fun_induction reach remaining pending with
  | case1 => exact .nil
  | case2 remaining pending taken found ih =>
    obtain ⟨before, after, rfl, skipped, _, left⟩ := split_of_find? found
    have fewer : before ++ after ⊆ before ++ taken :: after := subset_take
    have stillOlder : ParentsOlder (before ++ after) := fun child mem parent among =>
      older child (fewer mem) parent (fewer among)
    have stillDescending : Descending (before ++ after) :=
      descending.sublist (List.sublist_cons_self taken after |>.append_left before)
    rw [left] at ih ⊢
    refine List.pairwise_cons.mpr ⟨fun commit mem => ?_, ih stillDescending stillOlder⟩
    obtain ⟨start, among, named, leads⟩ := mem_reach_iff.mp mem
    have notLater := leads.time_le stillOlder among
    -- The way begins at a parent of the taken commit, or at one that was pending behind it.
    rcases List.mem_append.mp named with isParent | already
    next =>
      have earlier := older taken (by simp) start (fewer among) isParent
      omega
    next =>
      rcases List.mem_append.mp among with passed | behind
      next => exact absurd already (skipped start passed)
      next =>
        have fromTaken : Descending (taken :: after) := (List.pairwise_append.mp descending).2.1
        have earlier := (List.pairwise_cons.mp fromTaken).1 start behind
        omega

end HeaderLint.History
