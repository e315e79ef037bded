set_option autoImplicit false

namespace HeaderLint.Text.Utf8

/-- Between characters, or inside one: a byte within the bounds comes next and `more` bytes follow
it. The bounds rule out overlong forms, surrogates and values past the last code point. -/
inductive State where
  | ready
  | within (more : Nat) (value : Nat) (low high : UInt8)
  deriving Repr, DecidableEq

inductive Decoded where
  | scalar (c : Char)
  | malformed
  deriving Repr, DecidableEq

def start (b : UInt8) : List Decoded × State :=
  if b < 0x80 then ([.scalar (Char.ofNat b.toNat)], .ready)
  else if 0xC2 ≤ b && b ≤ 0xDF then ([], .within 0 (b.toNat % 0x20) 0x80 0xBF)
  else if b == 0xE0 then ([], .within 1 0 0xA0 0xBF)
  else if b == 0xED then ([], .within 1 0xD 0x80 0x9F)
  else if 0xE1 ≤ b && b ≤ 0xEF then ([], .within 1 (b.toNat % 0x10) 0x80 0xBF)
  else if b == 0xF0 then ([], .within 2 0 0x90 0xBF)
  else if 0xF1 ≤ b && b ≤ 0xF3 then ([], .within 2 (b.toNat % 8) 0x80 0xBF)
  else if b == 0xF4 then ([], .within 2 4 0x80 0x8F)
  else ([.malformed], .ready)

-- A byte out of bounds ends the broken character and is then read afresh, so that each maximal
-- broken part counts once and nothing after it is lost.
def feed : State → UInt8 → List Decoded × State
  | .ready, b => start b
  | .within more value low high, b =>
      if low ≤ b && b ≤ high then
        let value := value * 0x40 + b.toNat % 0x40
        match more with
        | 0 => ([.scalar (Char.ofNat value)], .ready)
        | more + 1 => ([], .within more value 0x80 0xBF)
      else
        let (out, next) := start b
        (.malformed :: out, next)

def parts : State → List UInt8 → List Decoded
  | .ready, [] => []
  | .within .., [] => [.malformed]
  | state, b :: rest =>
      let (out, next) := feed state b
      out ++ parts next rest

def Decoded.scalar? : Decoded → Option Char
  | .scalar c => some c
  | .malformed => none

def decode? (bytes : List UInt8) : Option (List Char) :=
  (parts .ready bytes).mapM Decoded.scalar?

def decodeLossy (bytes : List UInt8) : List Char :=
  (parts .ready bytes).map fun part => part.scalar?.getD '\ufffd'

def encode (s : List Char) : List UInt8 :=
  s.flatMap String.utf8EncodeChar

end HeaderLint.Text.Utf8
