import HeaderLint.Text.Utf8

set_option autoImplicit false

namespace HeaderLint.Text.Utf8

def tail (bits : Nat) : UInt8 :=
  .ofNat (bits + 0x80)

-- The bounds for the byte after the first one of three or four, where that is not every such byte.
def low3 (bits : Nat) : Nat :=
  if bits = 0 then 0x20 else 0

def high3 (bits : Nat) : Nat :=
  if bits = 0xD then 0x1F else 0x3F

def low4 (bits : Nat) : Nat :=
  if bits = 0 then 0x10 else 0

def high4 (bits : Nat) : Nat :=
  if bits = 4 then 0xF else 0x3F

theorem start_one {bits : Nat} (size : bits < 0x80) :
    start (.ofNat bits) = ([.scalar (Char.ofNat bits)], .ready) := by
  have each : ∀ bits < 0x80, start (.ofNat bits) = ([.scalar (Char.ofNat bits)], .ready) := by decide
  exact each bits size

theorem start_two {bits : Nat} (first : 2 ≤ bits) (last : bits < 0x20) :
    start (.ofNat (bits + 0xC0)) = ([], .within 0 bits (tail 0) (tail 0x3F)) := by
  have each : ∀ bits < 0x20, 2 ≤ bits →
      start (.ofNat (bits + 0xC0)) = ([], .within 0 bits (tail 0) (tail 0x3F)) := by decide
  exact each bits last first

theorem start_three {bits : Nat} (last : bits < 0x10) :
    start (.ofNat (bits + 0xE0)) = ([], .within 1 bits (tail (low3 bits)) (tail (high3 bits))) := by
  have each : ∀ bits < 0x10, start (.ofNat (bits + 0xE0)) =
      ([], .within 1 bits (tail (low3 bits)) (tail (high3 bits))) := by decide
  exact each bits last

theorem start_four {bits : Nat} (last : bits < 5) :
    start (.ofNat (bits + 0xF0)) = ([], .within 2 bits (tail (low4 bits)) (tail (high4 bits))) := by
  have each : ∀ bits < 5, start (.ofNat (bits + 0xF0)) =
      ([], .within 2 bits (tail (low4 bits)) (tail (high4 bits))) := by decide
  exact each bits last

theorem toNat_tail {bits : Nat} (size : bits < 0x40) : (tail bits).toNat = bits + 0x80 := by
  rw [tail, UInt8.toNat_ofNat']
  omega

section Feed

variable {low high bits value : Nat}

theorem tail_inside (within : low ≤ bits ∧ bits ≤ high ∧ high < 0x40) :
    (tail low ≤ tail bits && tail bits ≤ tail high) = true := by
  obtain ⟨atLeast, atMost, size⟩ := within
  have first : tail low ≤ tail bits := by
    rw [UInt8.le_iff_toNat_le, toNat_tail (by omega), toNat_tail (by omega)]
    omega
  have second : tail bits ≤ tail high := by
    rw [UInt8.le_iff_toNat_le, toNat_tail (by omega), toNat_tail (by omega)]
    omega
  simp [first, second]

theorem feed_last (within : low ≤ bits ∧ bits ≤ high ∧ high < 0x40) :
    feed (.within 0 value (tail low) (tail high)) (tail bits) =
      ([.scalar (Char.ofNat (value * 0x40 + bits))], .ready) := by
  have carried : (bits + 0x80) % 0x40 = bits := by omega
  rw [feed, if_pos (tail_inside within), toNat_tail (by omega), carried]

theorem feed_more (within : low ≤ bits ∧ bits ≤ high ∧ high < 0x40) (more : Nat) :
    feed (.within (more + 1) value (tail low) (tail high)) (tail bits) =
      ([], .within more (value * 0x40 + bits) (tail 0) (tail 0x3F)) := by
  have carried : (bits + 0x80) % 0x40 = bits := by omega
  rw [feed, if_pos (tail_inside within), toNat_tail (by omega), carried]
  rfl

end Feed

theorem parts_cons (state : State) (b : UInt8) (rest : List UInt8) :
    parts state (b :: rest) = (feed state b).1 ++ parts (feed state b).2 rest := by
  cases state <;> rfl

section Characters

variable {a b d e : Nat} (rest : List UInt8)

theorem parts_one (first : a < 0x80) :
    parts .ready (.ofNat a :: rest) = .scalar (Char.ofNat a) :: parts .ready rest := by
  rw [parts_cons, feed, start_one first]
  rfl

theorem parts_two (first : 2 ≤ a ∧ a < 0x20) (second : b < 0x40) :
    parts .ready (.ofNat (a + 0xC0) :: tail b :: rest) =
      .scalar (Char.ofNat (a * 0x40 + b)) :: parts .ready rest := by
  rw [parts_cons, feed, start_two first.1 first.2, parts_cons, feed_last (by omega)]
  rfl

theorem parts_three (first : a < 0x10) (second : low3 a ≤ b ∧ b ≤ high3 a) (third : d < 0x40) :
    parts .ready (.ofNat (a + 0xE0) :: tail b :: tail d :: rest) =
      .scalar (Char.ofNat ((a * 0x40 + b) * 0x40 + d)) :: parts .ready rest := by
  have bounded : high3 a < 0x40 := by rw [high3]; split <;> omega
  rw [parts_cons, feed, start_three first, parts_cons, feed_more ⟨second.1, second.2, bounded⟩,
    parts_cons, feed_last (by omega)]
  rfl

theorem parts_four (first : a < 5) (second : low4 a ≤ b ∧ b ≤ high4 a) (third : d < 0x40)
    (fourth : e < 0x40) :
    parts .ready (.ofNat (a + 0xF0) :: tail b :: tail d :: tail e :: rest) =
      .scalar (Char.ofNat (((a * 0x40 + b) * 0x40 + d) * 0x40 + e)) :: parts .ready rest := by
  have bounded : high4 a < 0x40 := by rw [high4]; split <;> omega
  rw [parts_cons, feed, start_four first, parts_cons, feed_more ⟨second.1, second.2, bounded⟩,
    parts_cons, feed_more (by omega), parts_cons, feed_last (by omega)]
  rfl

theorem parts_utf8EncodeChar (c : Char) :
    parts .ready (String.utf8EncodeChar c ++ rest) = .scalar c :: parts .ready rest := by
  -- No character is one half of a pair, and none is past the last code point.
  have valid : c.val.toNat < 0xD800 ∨ 0xDFFF < c.val.toNat ∧ c.val.toNat < 0x110000 := c.valid
  have whole : Char.ofNat c.val.toNat = c := Char.ofNat_toNat c
  rw [String.utf8EncodeChar]
  generalize c.val.toNat = v at valid whole
  by_cases one : v ≤ 0x7F
  next =>
    have read := parts_one rest (a := v) (by omega)
    rw [whole] at read
    rw [if_pos one]
    exact read
  rw [if_neg one]
  by_cases two : v ≤ 0x7FF
  next =>
    have value : v / 64 % 32 * 0x40 + v % 64 = v := by omega
    have read := parts_two rest (a := v / 64 % 32) (b := v % 64) (by omega) (by omega)
    rw [value, whole] at read
    rw [if_pos two]
    exact read
  rw [if_neg two]
  by_cases three : v ≤ 0xFFFF
  next =>
    have value : (v / 4096 % 16 * 0x40 + v / 64 % 64) * 0x40 + v % 64 = v := by omega
    have low : low3 (v / 4096 % 16) ≤ v / 64 % 64 := by rw [low3]; split <;> omega
    have high : v / 64 % 64 ≤ high3 (v / 4096 % 16) := by rw [high3]; split <;> omega
    have read := parts_three rest (d := v % 64) (by omega) ⟨low, high⟩ (by omega)
    rw [value, whole] at read
    rw [if_pos three]
    exact read
  next =>
    have value : ((v / 262144 % 8 * 0x40 + v / 4096 % 64) * 0x40 + v / 64 % 64) * 0x40 + v % 64 = v := by
      omega
    have low : low4 (v / 262144 % 8) ≤ v / 4096 % 64 := by rw [low4]; split <;> omega
    have high : v / 4096 % 64 ≤ high4 (v / 262144 % 8) := by rw [high4]; split <;> omega
    have read := parts_four rest (d := v / 64 % 64) (e := v % 64) (by omega) ⟨low, high⟩ (by omega)
      (by omega)
    rw [value, whole] at read
    rw [if_neg three]
    exact read

end Characters

theorem parts_encode (s : List Char) : parts .ready (encode s) = s.map .scalar := by
  induction s with
  | nil => rfl
  | cons c s ih =>
    rw [encode, List.flatMap_cons, parts_utf8EncodeChar]
    exact congrArg (Decoded.scalar c :: ·) ih

@[simp] theorem mapM_scalar?_eq_some_iff {read : List Decoded} {s : List Char} :
    read.mapM Decoded.scalar? = some s ↔ read = s.map .scalar := by
  induction read generalizing s with
  | nil => cases s <;> simp
  | cons part read ih =>
    cases part with
    | malformed => cases s <;> simp [List.mapM_cons, Decoded.scalar?]
    | scalar c =>
      have both : (Decoded.scalar c :: read).mapM Decoded.scalar? =
          (read.mapM Decoded.scalar?).map (c :: ·) := by
        rw [List.mapM_cons]
        cases read.mapM Decoded.scalar? <;> rfl
      rw [both, Option.map_eq_some_iff]
      cases s with
      | nil => simp
      | cons d s =>
        simp only [ih, List.map_cons, List.cons.injEq, Decoded.scalar.injEq]
        constructor
        next =>
          rintro ⟨_, rest, rfl, rfl⟩
          exact ⟨rfl, rest⟩
        next =>
          rintro ⟨rfl, rest⟩
          exact ⟨s, rest, rfl, rfl⟩

theorem decode?_encode (s : List Char) : decode? (encode s) = some s := by
  rw [decode?, mapM_scalar?_eq_some_iff, parts_encode]

end HeaderLint.Text.Utf8
