import HeaderLint.Proofs.Text.Utf8
import Mathlib.Tactic.SplitIfs

set_option autoImplicit false

namespace HeaderLint.Text.Utf8

section Never

variable (bytes : List UInt8)

@[simp] theorem parts_within_ne_nil (more value : Nat) (low high : UInt8) :
    parts (.within more value low high) bytes ≠ [] := by
  induction bytes generalizing more value low high with
  | nil => exact List.cons_ne_nil _ _
  | cons b bytes ih =>
    rw [parts_cons, feed]
    split
    next =>
      cases more with
      | zero => exact List.cons_ne_nil _ _
      | succ more => exact ih more _ _ _
    next => exact List.cons_ne_nil _ _

@[simp] theorem parts_cons_ne_nil (b : UInt8) : parts .ready (b :: bytes) ≠ [] := by
  rw [parts_cons, feed, start]
  split_ifs <;> simp

end Never

section Encoded

variable {a b d e : UInt8} {n : Nat}

theorem toNat_ofNat (valid : n < 0xD800 ∨ 0xDFFF < n ∧ n < 0x110000) :
    (Char.ofNat n).val.toNat = n := by
  have isValid : n.isValidChar := valid
  rw [Char.ofNat, dif_pos isValid]
  rfl

theorem ofNat_of_toNat (same : n = a.toNat) : UInt8.ofNat n = a := by
  rw [same, UInt8.ofNat_toNat]

theorem utf8EncodeChar_one (first : a.toNat < 0x80) :
    String.utf8EncodeChar (Char.ofNat a.toNat) = [a] := by
  rw [String.utf8EncodeChar, toNat_ofNat (by omega), if_pos (by omega), UInt8.ofNat_toNat]

theorem utf8EncodeChar_two (value : n = a.toNat % 0x20 * 0x40 + b.toNat % 0x40)
    (first : 0xC2 ≤ a.toNat ∧ a.toNat ≤ 0xDF) (second : 0x80 ≤ b.toNat ∧ b.toNat ≤ 0xBF) :
    String.utf8EncodeChar (Char.ofNat n) = [a, b] := by
  rw [String.utf8EncodeChar, toNat_ofNat (by omega), if_neg (by omega), if_pos (by omega)]
  congr
  all_goals exact ofNat_of_toNat (by omega)

theorem utf8EncodeChar_three
    (value : n = (a.toNat % 0x10 * 0x40 + b.toNat % 0x40) * 0x40 + d.toNat % 0x40)
    (first : 0xE0 ≤ a.toNat ∧ a.toNat ≤ 0xEF) (second : 0x80 ≤ b.toNat ∧ b.toNat ≤ 0xBF)
    (third : 0x80 ≤ d.toNat ∧ d.toNat ≤ 0xBF) (long : 0x800 ≤ n)
    (whole : n < 0xD800 ∨ 0xDFFF < n) :
    String.utf8EncodeChar (Char.ofNat n) = [a, b, d] := by
  rw [String.utf8EncodeChar, toNat_ofNat (by omega), if_neg (by omega), if_neg (by omega),
    if_pos (by omega)]
  congr
  all_goals exact ofNat_of_toNat (by omega)

theorem utf8EncodeChar_four
    (value : n = ((a.toNat % 8 * 0x40 + b.toNat % 0x40) * 0x40 + d.toNat % 0x40) * 0x40 +
      e.toNat % 0x40)
    (first : 0xF0 ≤ a.toNat ∧ a.toNat ≤ 0xF4) (second : 0x80 ≤ b.toNat ∧ b.toNat ≤ 0xBF)
    (third : 0x80 ≤ d.toNat ∧ d.toNat ≤ 0xBF) (fourth : 0x80 ≤ e.toNat ∧ e.toNat ≤ 0xBF)
    (long : 0x10000 ≤ n) (within : n < 0x110000) :
    String.utf8EncodeChar (Char.ofNat n) = [a, b, d, e] := by
  rw [String.utf8EncodeChar, toNat_ofNat (by omega), if_neg (by omega), if_neg (by omega),
    if_neg (by omega)]
  congr
  all_goals exact ofNat_of_toNat (by omega)

end Encoded

section Strict

variable {bytes : List UInt8} {c : Char} {others : List Decoded} {value : Nat} {low high : UInt8}

theorem parts_within_zero_eq (read : parts (.within 0 value low high) bytes = .scalar c :: others) :
    ∃ b rest, bytes = b :: rest ∧ (low ≤ b ∧ b ≤ high) ∧
      c = Char.ofNat (value * 0x40 + b.toNat % 0x40) ∧ parts .ready rest = others := by
  cases bytes with
  | nil => simp [parts] at read
  | cons b rest =>
    rw [parts_cons, feed] at read
    split at read
    next inside =>
      obtain ⟨same, behind⟩ := List.cons.inj read
      exact ⟨b, rest, rfl, by simpa using inside, (Decoded.scalar.inj same).symm, behind⟩
    next => simp at read

theorem parts_within_succ_eq {more : Nat}
    (read : parts (.within (more + 1) value low high) bytes = .scalar c :: others) :
    ∃ b rest, bytes = b :: rest ∧ (low ≤ b ∧ b ≤ high) ∧
      parts (.within more (value * 0x40 + b.toNat % 0x40) 0x80 0xBF) rest =
        .scalar c :: others := by
  cases bytes with
  | nil => simp [parts] at read
  | cons b rest =>
    rw [parts_cons, feed] at read
    split at read
    next inside => exact ⟨b, rest, rfl, by simpa using inside, read⟩
    next => simp at read

theorem exists_char_of_three {a : UInt8} (carried : value = a.toNat % 0x10)
    (lead : 0xE0 ≤ a.toNat ∧ a.toNat ≤ 0xEF) (bounds : 0x80 ≤ low.toNat ∧ high.toNat ≤ 0xBF)
    (long : a.toNat = 0xE0 → 0xA0 ≤ low.toNat) (whole : a.toNat = 0xED → high.toNat ≤ 0x9F)
    (read : parts (.within 1 value low high) bytes = .scalar c :: others) :
    ∃ rest, a :: bytes = String.utf8EncodeChar c ++ rest ∧ parts .ready rest = others := by
  obtain ⟨b, more, rfl, second, further⟩ := parts_within_succ_eq read
  obtain ⟨d, rest, rfl, third, rfl, behind⟩ := parts_within_zero_eq further
  rw [UInt8.le_iff_toNat_le, UInt8.le_iff_toNat_le] at second
  have written : String.utf8EncodeChar
      (Char.ofNat ((value * 0x40 + b.toNat % 0x40) * 0x40 + d.toNat % 0x40)) = [a, b, d] := by
    apply utf8EncodeChar_three (by omega) lead (by omega) third <;> omega
  exact ⟨rest, by rw [written]; rfl, behind⟩

theorem exists_char_of_four {a : UInt8} (carried : value = a.toNat % 8)
    (lead : 0xF0 ≤ a.toNat ∧ a.toNat ≤ 0xF4) (bounds : 0x80 ≤ low.toNat ∧ high.toNat ≤ 0xBF)
    (long : a.toNat = 0xF0 → 0x90 ≤ low.toNat) (within : a.toNat = 0xF4 → high.toNat ≤ 0x8F)
    (read : parts (.within 2 value low high) bytes = .scalar c :: others) :
    ∃ rest, a :: bytes = String.utf8EncodeChar c ++ rest ∧ parts .ready rest = others := by
  obtain ⟨b, more, rfl, second, further⟩ := parts_within_succ_eq read
  obtain ⟨d, last, rfl, third, final⟩ := parts_within_succ_eq further
  obtain ⟨e, rest, rfl, fourth, rfl, behind⟩ := parts_within_zero_eq final
  rw [UInt8.le_iff_toNat_le, UInt8.le_iff_toNat_le] at second
  have written : String.utf8EncodeChar
      (Char.ofNat (((value * 0x40 + b.toNat % 0x40) * 0x40 + d.toNat % 0x40) * 0x40 +
        e.toNat % 0x40)) = [a, b, d, e] := by
    apply utf8EncodeChar_four (by omega) lead (by omega) third fourth <;> omega
  exact ⟨rest, by rw [written]; rfl, behind⟩

theorem exists_char_of_parts (read : parts .ready bytes = .scalar c :: others) :
    ∃ rest, bytes = String.utf8EncodeChar c ++ rest ∧ parts .ready rest = others := by
  cases bytes with
  | nil => simp [parts] at read
  | cons a bytes =>
    rw [parts_cons, feed, start] at read
    simp only [Bool.and_eq_true, decide_eq_true_eq, beq_iff_eq, UInt8.le_iff_toNat_le,
      UInt8.lt_iff_toNat_lt, ← UInt8.toNat_inj, UInt8.reduceToNat] at read
    -- One case for each range of first bytes, in the order in which they are told apart.
    split_ifs at read
    next one =>
      obtain ⟨same, behind⟩ := List.cons.inj read
      rw [← Decoded.scalar.inj same, utf8EncodeChar_one one]
      exact ⟨bytes, rfl, behind⟩
    next two =>
      obtain ⟨b, rest, rfl, second, rfl, behind⟩ := parts_within_zero_eq read
      rw [utf8EncodeChar_two rfl two second]
      exact ⟨rest, rfl, behind⟩
    next =>
      exact exists_char_of_three (by omega) (by omega) (by decide) (fun _ => by decide)
        (by omega) read
    next =>
      exact exists_char_of_three (by omega) (by omega) (by decide) (by omega)
        (fun _ => by decide) read
    next => exact exists_char_of_three rfl (by omega) (by decide) (by omega) (by omega) read
    next =>
      exact exists_char_of_four (by omega) (by omega) (by decide) (fun _ => by decide)
        (by omega) read
    next => exact exists_char_of_four rfl (by omega) (by decide) (by omega) (by omega) read
    next =>
      exact exists_char_of_four (by omega) (by omega) (by decide) (by omega)
        (fun _ => by decide) read
    next => simp at read

theorem eq_encode_of_parts {s : List Char} (read : parts .ready bytes = s.map .scalar) :
    bytes = encode s := by
  induction s generalizing bytes with
  | nil =>
    cases bytes with
    | nil => rfl
    | cons b bytes => exact absurd read (parts_cons_ne_nil bytes b)
  | cons c s ih =>
    obtain ⟨rest, rfl, behind⟩ := exists_char_of_parts read
    rw [encode, List.flatMap_cons, ih behind, encode]

@[simp] theorem decode?_eq_some_iff {s : List Char} :
    decode? bytes = some s ↔ bytes = encode s := by
  constructor
  next => exact fun read => eq_encode_of_parts (mapM_scalar?_eq_some_iff.mp read)
  next =>
    rintro rfl
    exact decode?_encode s

end Strict

section Lossy

-- Within a character no byte of ASCII is in bounds.
def State.Continues : State → Prop
  | .ready => True
  | .within _ _ low _ => 0x80 ≤ low

theorem continues_start (b : UInt8) : (start b).2.Continues := by
  rw [start]
  split_ifs <;> simp [State.Continues]

theorem continues_feed {state : State} (continues : state.Continues) (b : UInt8) :
    (feed state b).2.Continues := by
  cases state with
  | ready => exact continues_start b
  | within more value low high =>
    rw [feed]
    split
    next =>
      cases more with
      | zero => trivial
      | succ more => exact UInt8.le_refl 0x80
    next => exact continues_start b

theorem parts_append_ascii {state : State} (continues : state.Continues) (bytes rest : List UInt8)
    {b : UInt8} (ascii : b < 0x80) :
    parts state (bytes ++ b :: rest) = parts state bytes ++ parts .ready (b :: rest) := by
  induction bytes generalizing state with
  | nil =>
    cases state with
    | ready => rfl
    | within more value low high =>
      have below : ¬ low ≤ b := UInt8.not_le.mpr (UInt8.lt_of_lt_of_le ascii continues)
      have outside : (low ≤ b && b ≤ high) = false := by simp [below]
      rw [List.nil_append, parts_cons, feed, outside]
      rfl
  | cons first bytes ih =>
    rw [List.cons_append, parts_cons, parts_cons state, ih (continues_feed continues first),
      List.append_assoc]

theorem decodeLossy_append_lineFeed (above below : List UInt8) :
    decodeLossy (above ++ 0x0A :: below) = decodeLossy above ++ '\n' :: decodeLossy below := by
  have ready : State.ready.Continues := trivial
  have feed : parts .ready (0x0A :: below) = .scalar '\n' :: parts .ready below :=
    parts_one below (by decide)
  rw [decodeLossy, parts_append_ascii ready above below (by decide), feed, List.map_append]
  rfl

theorem decodeLossy_encode (s : List Char) : decodeLossy (encode s) = s := by
  rw [decodeLossy, parts_encode, List.map_map]
  exact List.map_id s

@[simp] theorem decodeLossy_eq_nil_iff {bytes : List UInt8} :
    decodeLossy bytes = [] ↔ bytes = [] := by
  rw [decodeLossy, List.map_eq_nil_iff]
  cases bytes with
  | nil => exact iff_of_true rfl rfl
  | cons b bytes => exact iff_of_false (parts_cons_ne_nil bytes b) (List.cons_ne_nil b bytes)

end Lossy

end HeaderLint.Text.Utf8
