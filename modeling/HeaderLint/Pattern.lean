set_option autoImplicit false

namespace HeaderLint

inductive Spot where
  | start
  | finish
  | closing
  | lineStart
  | lineFinish
  | wordEdge
  | noWordEdge
  deriving Repr, DecidableEq

/-- What is looked for in a text. Texts are read byte by byte, each byte as the character of its
number; `ahead` and `behind` say whether something fits from here on, or up to here. -/
inductive Pattern where
  | empty
  | oneOf (set : List Char)
  | spot (spot : Spot)
  | sequence (first second : Pattern)
  | either (first second : Pattern)
  | repeated (part : Pattern) (least : Nat) (most : Option Nat)
  | ahead (part : Pattern) (expected : Bool)
  | behind (part : Pattern) (expected : Bool)
  deriving Repr, DecidableEq

inductive Direction where
  | onward
  | backward
  deriving Repr, DecidableEq

/-- The places of a text that are reached: the one before its first character, and those after each
of its characters. -/
abbrev Marks := List Bool

namespace Marks

def all (text : List Char) : Marks :=
  List.replicate (text.length + 1) true

def both (a b : Marks) : Marks :=
  List.zipWith (· && ·) a b

def join (a b : Marks) : Marks :=
  List.zipWith (· || ·) a b

def past (text set : List Char) (marks : Marks) : Direction → Marks
  | .onward => false :: List.zipWith (fun mark c => mark && set.contains c) marks text
  | .backward => List.zipWith (fun mark c => mark && set.contains c) (marks.drop 1) text ++ [false]

def agreeing (reached marks : Marks) (expected : Bool) : Marks :=
  List.zipWith (fun mark reached => mark && reached == expected) marks reached

def saturate (step : Marks → Marks) : (steps : Nat) → Marks → Marks
  | 0, marks => marks
  | steps + 1, marks =>
      let more := join marks (step marks)
      if more == marks then marks else saturate step steps more

end Marks

namespace Spot

def isWordCharacter (c : Char) : Bool :=
  c.isAlphanum || c == '_'

-- A text closes before a line feed at its end as well. A line feed at the end starts no line.
def holds (before : Option Char) (after : List Char) : Spot → Bool
  | start => before.isNone
  | finish => after.isEmpty
  | closing => after.isEmpty || after == ['\n']
  | lineStart => before.isNone || (before == some '\n' && !after.isEmpty)
  | lineFinish => after.isEmpty || after.head? == some '\n'
  | wordEdge => before.any isWordCharacter != after.head?.any isWordCharacter
  | noWordEdge => before.any isWordCharacter == after.head?.any isWordCharacter

def places (spot : Spot) : (before : Option Char) → (text : List Char) → Marks
  | before, [] => [spot.holds before []]
  | before, c :: rest => spot.holds before (c :: rest) :: places spot (some c) rest

end Spot

namespace Pattern

def reach (text : List Char) : Direction → Pattern → Marks → Marks
  | _, empty, marks => marks
  | direction, oneOf set, marks => marks.past text set direction
  | _, .spot place, marks => marks.both (place.places none text)
  | .onward, sequence first second, marks =>
      reach text .onward second (reach text .onward first marks)
  | .backward, sequence first second, marks =>
      reach text .backward first (reach text .backward second marks)
  | direction, either first second, marks =>
      (reach text direction first marks).join (reach text direction second marks)
  | direction, repeated part least most, marks =>
      let step := reach text direction part
      let further := (most.map (· - least)).getD text.length
      Marks.saturate step further (Nat.repeat step least marks)
  | _, ahead part expected, marks =>
      Marks.agreeing (reach text .backward part (Marks.all text)) marks expected
  | _, behind part expected, marks =>
      Marks.agreeing (reach text .onward part (Marks.all text)) marks expected

def occursIn (pattern : Pattern) (text : List Char) : Bool :=
  (reach text .onward pattern (Marks.all text)).contains true

def width? : Pattern → Option Nat
  | empty => some 0
  | oneOf _ => some 1
  | .spot _ => some 0
  | sequence first second => do return (← first.width?) + (← second.width?)
  | either first second => do
      let width ← first.width?
      if (← second.width?) == width then some width else none
  | repeated part least most =>
      if most == some least then part.width?.map (least * ·) else none
  | ahead .. => some 0
  | behind .. => some 0

end Pattern

end HeaderLint
