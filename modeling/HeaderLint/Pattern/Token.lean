import HeaderLint.Document
import HeaderLint.Pattern
import HeaderLint.Text.Cut

set_option autoImplicit false

namespace HeaderLint.Pattern

open Text

inductive Group where
  | plain
  | ahead (expected : Bool)
  | behind (expected : Bool)
  deriving Repr, DecidableEq

abbrev ModeChange := Char × Bool

inductive Token where
  | one (set : List Char) (negated : Bool)
  | anyCharacter
  | caret
  | dollar
  | spot (spot : Spot)
  | opening (group : Group) (changes : List ModeChange)
  | closing
  | bar
  | modes (changes : List ModeChange)
  | times (least : Nat) (most : Option Nat) (keeps : Bool)
  deriving Repr, DecidableEq

/-! Sets of characters -/

def everything : List Char :=
  (List.range 256).map Char.ofNat

def without (set : List Char) : List Char :=
  everything.filter (!set.contains ·)

def between (first last : Char) : List Char :=
  everything.filter fun c => first ≤ c && c ≤ last

def isGraphic (c : Char) : Bool :=
  '!' ≤ c && c ≤ '~'

def isPunctuation (c : Char) : Bool :=
  isGraphic c && !c.isAlphanum

def isSpace (c : Char) : Bool :=
  c == ' ' || ('\t' ≤ c && c ≤ '\r')

def isHexadecimal (c : Char) : Bool :=
  (Document.hexDigit? c).isSome

def isOctal (c : Char) : Bool :=
  '0' ≤ c && c ≤ '7'

def verticalSpace : List Char :=
  ['\n', '\x0b', '\x0c', '\r', '\x85']

def horizontalSpace : List Char :=
  ['\t', ' ', '\xa0']

def namedSet? : Char → Option (List Char)
  | 'd' => some (everything.filter Char.isDigit)
  | 'D' => some (everything.filter (!Char.isDigit ·))
  | 'w' => some (everything.filter Spot.isWordCharacter)
  | 'W' => some (everything.filter (!Spot.isWordCharacter ·))
  | 's' => some (everything.filter isSpace)
  | 'S' => some (everything.filter (!isSpace ·))
  | 'h' => some horizontalSpace
  | 'H' => some (without horizontalSpace)
  | 'v' => some verticalSpace
  | 'V' => some (without verticalSpace)
  | _ => none

def kind? (name : String) : Option (Char → Bool) :=
  match name with
  | "alpha" => some Char.isAlpha
  | "lower" => some Char.isLower
  | "upper" => some Char.isUpper
  | "alnum" => some Char.isAlphanum
  | "ascii" => some (· ≤ '\x7f')
  | "blank" => some fun c => c == ' ' || c == '\t'
  | "cntrl" => some fun c => c < ' ' || c == '\x7f'
  | "digit" => some Char.isDigit
  | "graph" => some isGraphic
  | "print" => some fun c => isGraphic c || c == ' '
  | "punct" => some isPunctuation
  | "space" => some isSpace
  | "word" => some Spot.isWordCharacter
  | "xdigit" => some isHexadecimal
  | _ => none

/-! Escapes. Each reader says how many characters it takes. -/

def number (base : Nat) (digits : List Char) : Nat :=
  digits.foldl (fun n c => base * n + (Document.hexDigit? c).getD 0) 0

def byte? (n : Nat) : Option Char :=
  if n < 256 then some (Char.ofNat n) else none

def braced? (base : Nat) (isDigit : Char → Bool) (s : List Char) : Option (Char × Nat) := do
  let digits := s.takeWhile isDigit
  if digits.isEmpty || (s.drop digits.length).head? != some '}' then none
  return (← byte? (number base digits), digits.length + 1)

def hasNoMeaning (c : Char) : Bool :=
  "ijmqyFIJMOTY".toList.contains c

def coded? : List Char → Option (Char × Nat)
  | [] => none
  | 'a' :: _ => some ('\x07', 1)
  | 'e' :: _ => some ('\x1b', 1)
  | 'f' :: _ => some ('\x0c', 1)
  | 'n' :: _ => some ('\n', 1)
  | 'r' :: _ => some ('\r', 1)
  | 't' :: _ => some ('\t', 1)
  | 'x' :: '{' :: rest => (braced? 16 isHexadecimal rest).map fun (c, n) => (c, n + 2)
  | 'o' :: '{' :: rest => (braced? 8 isOctal rest).map fun (c, n) => (c, n + 2)
  | 'x' :: rest =>
      let digits := (rest.take 2).takeWhile isHexadecimal
      (byte? (number 16 digits)).map (·, digits.length + 1)
  | '0' :: rest =>
      let digits := (rest.take 2).takeWhile isOctal
      (byte? (number 8 digits)).map (·, digits.length + 1)
  | 'c' :: c :: _ =>
      if ' ' ≤ c && c ≤ '~' then some (Char.ofNat (c.toUpper.toNat ^^^ 64), 2) else none
  | c :: _ => if !c.isAlphanum || hasNoMeaning c then some (c, 1) else none

/-! Sets in brackets -/

inductive Member where
  | character (c : Char)
  | set (set : List Char)
  deriving Repr, DecidableEq

def kindName? : List Char → Option (Char × List Char)
  | mark :: rest =>
      if [':', '.', '='].contains mark then
        match cut? [mark, ']'] rest with
        | some (name, _) => if name.contains ']' then none else some (mark, name)
        | none => none
      else none
  | [] => none

def kindSet? : Char × List Char → Option (List Char)
  | (':', '^' :: name) => (kind? (.ofList name)).map fun kind => everything.filter (!kind ·)
  | (':', name) => (kind? (.ofList name)).map everything.filter
  | _ => none

def escapedMember? : List Char → Option (Member × Nat)
  | [] => none
  | 'b' :: _ => some (.character '\x08', 1)
  | c :: rest =>
      if ['B', 'R', 'X'].contains c then some (.character c, 1)
      else if c == '8' || c == '9' then some (.character c, 1)
      else if isOctal c then
        let digits := ((c :: rest).take 3).takeWhile isOctal
        (byte? (number 8 digits)).map (.character ·, digits.length)
      else
        match namedSet? c with
        | some set => some (.set set, 1)
        | none => (coded? (c :: rest)).map fun (c, n) => (.character c, n)

def member? (c : Char) (rest : List Char) : Option (Member × Nat) :=
  if c == '\\' then escapedMember? rest
  else if c == '[' then
    match kindName? rest with
    | some (mark, name) => (kindSet? (mark, name)).map (.set ·, name.length + 3)
    | none => some (.character c, 0)
  else some (.character c, 0)

-- What stands in brackets, up to the closing one, which is one more character if it stands first.
-- A set is no end of a range.
def members? (first : Bool) : List Char → Option (List Char × Nat)
  | [] => none
  | c :: rest =>
      if c == ']' && !first then some ([], 1)
      else
        match member? c rest with
        | none => none
        | some (member, n) =>
            match member, rest.drop n with
            | .character a, '-' :: d :: more =>
                if d == ']' then
                  (members? false (rest.drop n)).map fun (set, k) => (a :: set, n + k + 1)
                else
                  match member? d more with
                  | some (.character b, m) =>
                      if a ≤ b then
                        (members? false (rest.drop (n + m + 2))).map fun (set, k) =>
                          (between a b ++ set, n + m + k + 3)
                      else none
                  | _ => none
            | .set set, '-' :: d :: _ =>
                if d == ']' then
                  (members? false (rest.drop n)).map fun (more, k) => (set ++ more, n + k + 1)
                else none
            | .character a, _ =>
                (members? false (rest.drop n)).map fun (set, k) => (a :: set, n + k + 1)
            | .set set, _ =>
                (members? false (rest.drop n)).map fun (more, k) => (set ++ more, n + k + 1)
termination_by s => s.length
decreasing_by all_goals simp only [List.length_drop, List.length_cons]; omega

def brackets? (s : List Char) : Option (Token × Nat) :=
  if (kindName? s).isSome then none
  else
    match s with
    | '^' :: rest => (members? true rest).map fun (set, n) => (.one set true, n + 1)
    | rest => (members? true rest).map fun (set, n) => (.one set false, n)

/-! Groups, repetitions and the rest -/

def label? (close : Char) (s : List Char) : Option Nat :=
  let name := s.takeWhile Spot.isWordCharacter
  let isName := !name.isEmpty && name.length ≤ 32 && !name.head?.any Char.isDigit
  if isName && (s.drop name.length).head? == some close then some (name.length + 1) else none

def modeChanges : (on : Bool) → List Char → List ModeChange
  | _, [] => []
  | on, c :: rest => if c == '-' then modeChanges false rest else (c, on) :: modeChanges on rest

def group? : List Char → Option (List Token × Nat)
  | '#' :: rest => (cut? [')'] rest).map fun (comment, _) => ([], comment.length + 2)
  | '|' :: _ => some ([.opening .plain []], 1)
  | '=' :: _ => some ([.opening (.ahead true) []], 1)
  | '!' :: _ => some ([.opening (.ahead false) []], 1)
  | '<' :: '=' :: _ => some ([.opening (.behind true) []], 2)
  | '<' :: '!' :: _ => some ([.opening (.behind false) []], 2)
  | '<' :: rest => (label? '>' rest).map fun n => ([.opening .plain []], n + 1)
  | 'P' :: '<' :: rest => (label? '>' rest).map fun n => ([.opening .plain []], n + 2)
  | '\'' :: rest => (label? '\'' rest).map fun n => ([.opening .plain []], n + 1)
  | s =>
      let letters := s.takeWhile fun c => ['i', 'm', 's', 'J', '-'].contains c
      let changes := modeChanges true letters
      match s.drop letters.length with
      | ')' :: _ => some ([.modes changes], letters.length + 1)
      | ':' :: _ => some ([.opening .plain changes], letters.length + 1)
      | _ => none

-- How often something is repeated; the opening brace has been read. Without a closing one, or with
-- anything but numbers between them, braces stand for themselves.
def bounds? (s : List Char) : Option (Nat × Option Nat × Nat) :=
  let least := s.takeWhile Char.isDigit
  if least.isEmpty then none
  else
    match s.drop least.length with
    | '}' :: _ => some (number 10 least, some (number 10 least), least.length + 1)
    | ',' :: rest =>
        let most := rest.takeWhile Char.isDigit
        if (rest.drop most.length).head? == some '}' then
          let bound := if most.isEmpty then none else some (number 10 most)
          some (number 10 least, bound, least.length + most.length + 2)
        else none
    | _ => none

def timesLimit : Nat :=
  65535

-- A question mark after a repetition prefers fewer times, which makes no difference to whether a
-- pattern occurs; after a plus sign nothing that was taken is given back.
def times? (least : Nat) (most : Option Nat) (n : Nat) (rest : List Char) :
    Option (List Token × Nat) :=
  if timesLimit < least || most.any fun bound => timesLimit < bound || bound < least then none
  else
    match rest.drop n with
    | '+' :: _ => some ([.times least most true], n + 1)
    | '?' :: _ => some ([.times least most false], n + 1)
    | _ => some ([.times least most false], n)

def literal (c : Char) : Token :=
  .one [c] false

-- A line feed with the carriage return before it is one end of a line.
def lineEnd : List Token :=
  [ .opening .plain [], literal '\r', literal '\n', .bar, literal '\r', .opening (.ahead false) [],
    literal '\n', .closing, .bar, .one ['\n', '\x0b', '\x0c', '\x85'] false, .closing ]

def escape? : List Char → Option (List Token × Nat)
  | [] => none
  | 'Q' :: rest =>
      match cut? ['\\', 'E'] rest with
      | some (quoted, _) => some (quoted.map literal, quoted.length + 3)
      | none => some (rest.map literal, rest.length + 1)
  | 'E' :: _ => some ([], 1)
  | 'A' :: _ => some ([.spot .start], 1)
  | 'G' :: _ => some ([.spot .start], 1)
  | 'Z' :: _ => some ([.spot .closing], 1)
  | 'z' :: _ => some ([.spot .finish], 1)
  | 'b' :: _ => some ([.spot .wordEdge], 1)
  | 'B' :: _ => some ([.spot .noWordEdge], 1)
  | 'K' :: _ => some ([.modes []], 1)
  | 'C' :: _ => some ([.one everything false], 1)
  | 'N' :: rest =>
      if rest.head? == some '{' && (bounds? (rest.drop 1)).isNone then none
      else some ([.one ['\n'] true], 1)
  | 'R' :: _ => some (lineEnd, 1)
  | c :: rest =>
      match namedSet? c with
      | some set => some ([.one set false], 1)
      | none => (coded? (c :: rest)).map fun (c, n) => ([literal c], n)

def token? (c : Char) (rest : List Char) : Option (List Token × Nat) :=
  match c with
  | '\\' => escape? rest
  | '[' => (brackets? rest).map fun (token, n) => ([token], n)
  | '(' =>
      match rest with
      | '*' :: _ => none
      | '?' :: more => (group? more).map fun (tokens, n) => (tokens, n + 1)
      | _ => some ([.opening .plain []], 0)
  | ')' => some ([.closing], 0)
  | '|' => some ([.bar], 0)
  | '^' => some ([.caret], 0)
  | '$' => some ([.dollar], 0)
  | '.' => some ([.anyCharacter], 0)
  | '*' => times? 0 none 0 rest
  | '+' => times? 1 none 0 rest
  | '?' => times? 0 (some 1) 0 rest
  | '{' =>
      match bounds? rest with
      | some (least, most, n) => times? least most n rest
      | none => some ([literal c], 0)
  | c => some ([literal c], 0)

def tokens? : List Char → Option (List Token)
  | [] => some []
  | c :: rest =>
      match token? c rest with
      | none => none
      | some (tokens, n) => (tokens? (rest.drop n)).map (tokens ++ ·)
termination_by s => s.length
decreasing_by simp only [List.length_drop, List.length_cons]; omega

end HeaderLint.Pattern
