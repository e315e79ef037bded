import HeaderLint.Commit

set_option autoImplicit false

namespace HeaderLint

/-- Commits, and names for some of them. `HEAD` is one of those names; a branch or a tag has its name
in full, as in `refs/heads/main`. -/
structure History where
  commits : List Commit
  names : List (String × CommitId)
  deriving Repr, DecidableEq

namespace History

def commit? (history : History) (id : CommitId) : Option Commit :=
  history.commits.find? (·.id == id)

def newestFirst (history : History) : List Commit :=
  history.commits.mergeSort fun a b => b.time ≤ a.time

-- Of the commits that remain, the first one that is pending is taken and its parents become pending
-- in their turn. So from commits that stand newest first the newest is always taken next.
def reach (remaining : List Commit) (pending : List CommitId) : List Commit :=
  match _found : remaining.find? (pending.contains ·.id) with
  | none => []
  | some commit =>
      commit :: reach (remaining.eraseP (pending.contains ·.id)) (commit.parents ++ pending)
termination_by remaining.length
decreasing_by
  have shorter := List.length_eraseP_of_mem (List.mem_of_find?_eq_some _found)
    (List.find?_some _found)
  have positive := List.length_pos_of_mem (List.mem_of_find?_eq_some _found)
  omega

def ancestry (history : History) (commit : Commit) : List Commit :=
  reach history.newestFirst [commit.id]

def between (history : History) (hidden : Option Commit) (tip : Commit) : List Commit :=
  let known := ((hidden.map history.ancestry).getD []).map (·.id)
  (history.ancestry tip).filter (!known.contains ·.id)

end History

end HeaderLint
