import HeaderLint.Pattern.Token

set_option autoImplicit false

namespace HeaderLint.Pattern

structure Modes where
  ignoresCase : Bool := false
  byLines : Bool := false
  dotTakesAll : Bool := false
  deriving Repr, DecidableEq

namespace Modes

def change (modes : Modes) : ModeChange → Modes
  | ('i', on) => { modes with ignoresCase := on }
  | ('m', on) => { modes with byLines := on }
  | ('s', on) => { modes with dotTakesAll := on }
  | _ => modes

def changeAll (modes : Modes) (changes : List ModeChange) : Modes :=
  changes.foldl change modes

-- Both cases are added before a set is turned around.
def one (modes : Modes) (set : List Char) (negated : Bool) : Pattern :=
  let set := if modes.ignoresCase then set ++ set.map Char.toLower ++ set.map Char.toUpper else set
  .oneOf (if negated then without set else set)

def dot (modes : Modes) : Pattern :=
  .oneOf (if modes.dotTakesAll then everything else without ['\n'])

def caret (modes : Modes) : Pattern :=
  .spot (if modes.byLines then .lineStart else .start)

def dollar (modes : Modes) : Pattern :=
  .spot (if modes.byLines then .lineFinish else .closing)

end Modes

structure Item where
  pattern : Pattern
  repeatable : Bool
  deriving Repr, DecidableEq

/-- A group that is being read. Its branches, and the items of the branch that has begun, stand last
first. -/
structure Level where
  group : Group := .plain
  modes : Modes := {}
  branches : List Pattern := []
  items : List Item := []
  deriving Repr, DecidableEq

namespace Level

def add (level : Level) (pattern : Pattern) (repeatable : Bool) : Level :=
  { level with items := { pattern, repeatable } :: level.items }

def allBranches (level : Level) : List Pattern :=
  level.items.foldl (fun rest item => .sequence item.pattern rest) .empty :: level.branches

def closeBranch (level : Level) : Level :=
  { level with branches := level.allBranches, items := [] }

def whole (level : Level) : Pattern :=
  match level.allBranches with
  | [] => .empty
  | last :: before => before.foldl (fun rest branch => .either branch rest) last

def pattern? (level : Level) : Option Pattern :=
  match level.group with
  | .plain => some level.whole
  | .ahead expected => some (.ahead level.whole expected)
  | .behind expected =>
      if level.allBranches.all (·.width?.isSome) then some (.behind level.whole expected) else none

-- A repetition that gives nothing back ends where it has its most or where it can have no more. It
-- is told of single characters only.
def keeping? (least : Nat) (most : Option Nat) : Pattern → Option Pattern
  | .oneOf set =>
      let one := oneOf set
      let upTo (bound : Option Nat) : Pattern :=
        .sequence (.repeated one least bound) (.ahead one false)
      match most with
      | none => some (upTo none)
      | some bound =>
          let full : Pattern := .repeated one bound (some bound)
          some (if least < bound then .either full (upTo (some (bound - 1))) else full)
  | _ => none

def repeatLast? (level : Level) (least : Nat) (most : Option Nat) (keeps : Bool) : Option Level :=
  match level.items with
  | { pattern, repeatable := true } :: items => do
      let pattern ← if keeps then keeping? least most pattern else some (.repeated pattern least most)
      return { level with items := { pattern, repeatable := false } :: items }
  | _ => none

end Level

def assemble? : List Token → Level → (around : List Level) → Option Pattern
  | [], level, [] => level.pattern?
  | [], _, _ :: _ => none
  | token :: rest, level, around =>
      match token with
      | .one set negated => assemble? rest (level.add (level.modes.one set negated) true) around
      | .anyCharacter => assemble? rest (level.add level.modes.dot true) around
      | .caret => assemble? rest (level.add level.modes.caret false) around
      | .dollar => assemble? rest (level.add level.modes.dollar false) around
      | .spot place => assemble? rest (level.add (.spot place) false) around
      | .modes changes =>
          let level := { level with modes := level.modes.changeAll changes }
          assemble? rest (level.add .empty false) around
      | .opening group changes =>
          assemble? rest { group, modes := level.modes.changeAll changes } (level :: around)
      | .bar => assemble? rest level.closeBranch around
      | .closing =>
          match around with
          | [] => none
          | next :: around => do
              let pattern ← level.pattern?
              assemble? rest (next.add pattern true) around
      | .times least most keeps => do
          let level ← level.repeatLast? least most keeps
          assemble? rest level around

def read? (s : List Char) : Option Pattern := do
  if s.isEmpty then none
  assemble? (← tokens? s) {} []

end HeaderLint.Pattern
