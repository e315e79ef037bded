set_option autoImplicit false

namespace HeaderLint.Text

/-- Every `step`-th code point from `first` to `last`. -/
structure Run where
  first : Nat
  last : Nat
  step : Nat
  deriving Repr, DecidableEq

def Run.holds (run : Run) (n : Nat) : Bool :=
  run.first ≤ n && n ≤ run.last && (n - run.first) % run.step == 0

def among (runs : List Run) (c : Char) : Bool :=
  runs.any (·.holds c.toNat)

structure Shift extends Run where
  target : Nat
  deriving Repr, DecidableEq

def shifted? (shifts : List Shift) (c : Char) : Option Char :=
  (shifts.find? (·.holds c.toNat)).map fun shift =>
    Char.ofNat (shift.target + (c.toNat - shift.first))

end HeaderLint.Text
