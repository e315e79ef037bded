set_option autoImplicit false

/-! Compressed data in the deflate format: blocks of symbols under prefix codes, in which a symbol is
a byte or a copy of bytes that came before. -/

namespace HeaderLint.Store.Inflate

-- Bits count from the lowest of the first byte on.
def bit? (data : ByteArray) (i : Nat) : Option Nat :=
  data.data[i / 8]?.map fun byte => (byte.toNat >>> (i % 8)) % 2

def bits? (data : ByteArray) : (n i : Nat) → Option Nat
  | 0, _ => some 0
  | n + 1, i => do return (← bit? data i) + 2 * (← bits? data n (i + 1))

/-- A prefix code: how many symbols have a code of one bit, of two bits and so on, and the symbols in
the order of their codes. -/
structure Code where
  counts : List Nat
  symbols : Array Nat

namespace Code

def ofLengths (lengths : List Nat) : Code :=
  let bySize := (List.range 15).map fun n =>
    (lengths.zipIdx.filter (·.1 == n + 1)).map (·.2)
  { counts := bySize.map List.length, symbols := bySize.flatten.toArray }

-- Reads one symbol; `first` is the first code of the size at hand and `index` its symbol's place.
def symbol? (symbols : Array Nat) (data : ByteArray) :
    (counts : List Nat) → (i code first index : Nat) → Option (Nat × Nat)
  | [], _, _, _, _ => none
  | count :: rest, i, code, first, index => do
      let code := 2 * code + (← bit? data i)
      if code < first + count then return (← symbols[index + (code - first)]?, i + 1)
      else symbol? symbols data rest (i + 1) code (2 * (first + count)) (index + count)

def read? (code : Code) (data : ByteArray) (i : Nat) : Option (Nat × Nat) :=
  symbol? code.symbols data code.counts i 0 0 0

end Code

def lengthRanges : Array (Nat × Nat) := #[
  (3, 0), (4, 0), (5, 0), (6, 0), (7, 0), (8, 0), (9, 0), (10, 0), (11, 1), (13, 1), (15, 1),
  (17, 1), (19, 2), (23, 2), (27, 2), (31, 2), (35, 3), (43, 3), (51, 3), (59, 3), (67, 4),
  (83, 4), (99, 4), (115, 4), (131, 5), (163, 5), (195, 5), (227, 5), (258, 0)]

def distanceRanges : Array (Nat × Nat) := #[
  (1, 0), (2, 0), (3, 0), (4, 0), (5, 1), (7, 1), (9, 2), (13, 2), (17, 3), (25, 3), (33, 4),
  (49, 4), (65, 5), (97, 5), (129, 6), (193, 6), (257, 7), (385, 7), (513, 8), (769, 8),
  (1025, 9), (1537, 9), (2049, 10), (3073, 10), (4097, 11), (6145, 11), (8193, 12), (12289, 12),
  (16385, 13), (24577, 13)]

def fixedLengths : List Nat :=
  List.replicate 144 8 ++ List.replicate 112 9 ++ List.replicate 24 7 ++ List.replicate 8 8

def inRange? (ranges : Array (Nat × Nat)) (symbol : Nat) (data : ByteArray) (i : Nat) :
    Option (Nat × Nat) := do
  let (least, extra) ← ranges[symbol]?
  return (least + (← bits? data extra i), i + extra)

def copy? (distance : Nat) : (length : Nat) → ByteArray → Option ByteArray
  | 0, out => some out
  | length + 1, out => do
      if out.size < distance then none
      copy? distance length (out.push (← out.data[out.size - distance]?))

def symbols? (literals distances : Code) (data : ByteArray) :
    (fuel i : Nat) → ByteArray → Option (ByteArray × Nat)
  | 0, _, _ => none
  | fuel + 1, i, out => do
      let (symbol, i) ← literals.read? data i
      if symbol < 256 then symbols? literals distances data fuel i (out.push symbol.toUInt8)
      else if symbol == 256 then return (out, i)
      else
        let (length, i) ← inRange? lengthRanges (symbol - 257) data i
        let (symbol, i) ← distances.read? data i
        let (distance, i) ← inRange? distanceRanges symbol data i
        symbols? literals distances data fuel i (← copy? distance length out)

def stored? (data : ByteArray) (i : Nat) (out : ByteArray) : Option (ByteArray × Nat) := do
  let start := (i + 7) / 8
  let length ← bits? data 16 (8 * start)
  let finish := start + 4 + length
  if data.size < finish then none
  return (out ++ data.extract (start + 4) finish, 8 * finish)

def lengths? (code : Code) (data : ByteArray) (count : Nat) :
    (fuel i : Nat) → (found : List Nat) → Option (List Nat × Nat)
  | 0, _, _ => none
  | fuel + 1, i, found => do
      if count ≤ found.length then return (found, i)
      let (symbol, i) ← code.read? data i
      if symbol < 16 then lengths? code data count fuel i (found ++ [symbol])
      else
        let (value, least, extra) ← match symbol with
          | 16 => found.getLast?.map fun value => (value, 3, 2)
          | 17 => some (0, 3, 3)
          | _ => some (0, 11, 7)
        let times := least + (← bits? data extra i)
        lengths? code data count fuel (i + extra) (found ++ List.replicate times value)

def sizeOrder : List Nat :=
  [16, 17, 18, 0, 8, 7, 9, 6, 10, 5, 11, 4, 12, 3, 13, 2, 14, 1, 15]

def codes? (data : ByteArray) (i : Nat) : Option (Code × Code × Nat) := do
  let literals := (← bits? data 5 i) + 257
  let distances := (← bits? data 5 (i + 5)) + 1
  let sizes := (← bits? data 4 (i + 10)) + 4
  let given ← (List.range sizes).mapM fun n => bits? data 3 (i + 14 + 3 * n)
  let sized := (List.range 19).map fun n => ((sizeOrder.zip given).lookup n).getD 0
  let count := literals + distances
  let (lengths, i) ← lengths? (.ofLengths sized) data count (count + 1) (i + 14 + 3 * sizes) []
  return (.ofLengths (lengths.take literals), .ofLengths (lengths.drop literals), i)

def block? (data : ByteArray) (i : Nat) (out : ByteArray) : Option (ByteArray × Nat) := do
  let fuel := 8 * data.size
  match ← bits? data 2 i with
  | 0 => stored? data (i + 2) out
  | 1 => symbols? (.ofLengths fixedLengths) (.ofLengths (List.replicate 30 5)) data fuel (i + 2) out
  | 2 =>
      let (literals, distances, i) ← codes? data (i + 2)
      symbols? literals distances data fuel i out
  | _ => none

def blocks? (data : ByteArray) : (fuel i : Nat) → ByteArray → Option ByteArray
  | 0, _, _ => none
  | fuel + 1, i, out => do
      let last ← bit? data i
      let (out, i) ← block? data (i + 1) out
      if last == 1 then return out else blocks? data fuel i out

def read? (data : ByteArray) (start : Nat) : Option ByteArray :=
  blocks? data (8 * data.size) (8 * (start + 2)) .empty

end HeaderLint.Store.Inflate
