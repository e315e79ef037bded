import HeaderLint.History.Revision

set_option autoImplicit false

namespace HeaderLint.History

open Text

def range (history : History) (target : String) : Except HistoryError (List Commit) :=
  match cut? ['.', '.'] target.toList with
  | none => do return [← history.resolve target]
  | some (first, last) => do
      let tip ← history.resolve (if last.isEmpty then "HEAD" else .ofList last)
      if first.isEmpty then return history.between none tip
      let hidden ← history.resolve (.ofList first)
      return history.between (some hidden) tip

def references (target : String) : List String :=
  match cut? ['.', '.'] target.toList with
  | none => [target]
  | some (first, last) => [.ofList first, .ofList last]

end HeaderLint.History
