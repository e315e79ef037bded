import HeaderLint.Document
import HeaderLint.Store.Inflate
import HeaderLint.Store.Record

set_option autoImplicit false

namespace HeaderLint.Store

structure Pack where
  index : ByteArray
  data : ByteArray

namespace Pack

def number? (data : ByteArray) (n i : Nat) : Option Nat :=
  (List.range n).foldlM (fun value k => data.data[i + k]?.map (value * 256 + ·.toNat)) 0

def nameSize : Nat :=
  20

def nameBytes? (name : String) : Option (List UInt8) :=
  (List.range nameSize).mapM fun i =>
    (Document.hexNumber? ((name.toList.drop (2 * i)).take 2)).map (·.toUInt8)

def slice (data : ByteArray) (i n : Nat) : List UInt8 :=
  (data.extract i (i + n)).toList

-- The index holds, after eight bytes, 256 counts, the names in order, checksums and the places.
def place? (pack : Pack) (name : List UInt8) : Option Nat := do
  let first := (← name.head?).toNat
  let count (byte : Nat) := number? pack.index 4 (8 + 4 * byte)
  let start ← if first == 0 then some 0 else count (first - 1)
  let total ← count 255
  let names := 8 + 4 * 256
  let k ← (List.range ((← count first) - start)).find? fun k =>
    slice pack.index (names + nameSize * (start + k)) nameSize == name
  let places := names + (nameSize + 4) * total
  let near ← number? pack.index 4 (places + 4 * (start + k))
  if near < 0x80000000 then return near
  else number? pack.index 8 (places + 4 * total + 8 * (near - 0x80000000))

def size? (data : ByteArray) : (fuel i : Nat) → Option (Nat × Nat)
  | 0, _ => none
  | fuel + 1, i => do
      let byte := (← data.data[i]?).toNat
      if byte < 128 then return (byte, i + 1)
      let (more, i) ← size? data fuel (i + 1)
      return (byte - 128 + 128 * more, i)

-- How far back a record's base is; each further byte starts one higher than it says.
def distance? (data : ByteArray) : (fuel i value : Nat) → Option (Nat × Nat)
  | 0, _, _ => none
  | fuel + 1, i, value => do
      let byte := (← data.data[i]?).toNat
      if byte < 128 then return (128 * value + byte, i + 1)
      distance? data fuel (i + 1) (128 * value + (byte - 128) + 1)

-- The bytes of an instruction that its bits announce, lowest first; others are zero.
def announced? (data : ByteArray) : (bits : List Bool) → (i : Nat) → Option (Nat × Nat)
  | [], i => some (0, i)
  | false :: rest, i => (announced? data rest i).map fun (value, i) => (256 * value, i)
  | true :: rest, i => do
      let byte := (← data.data[i]?).toNat
      let (value, i) ← announced? data rest (i + 1)
      return (byte + 256 * value, i)

def bitsOf (byte first count : Nat) : List Bool :=
  (List.range count).map fun k => byte.testBit (first + k)

def patch? (base delta : ByteArray) : (fuel i : Nat) → ByteArray → Option ByteArray
  | 0, _, _ => none
  | fuel + 1, i, out => do
      match delta.data[i]? with
      | none => return out
      | some byte =>
          let byte := byte.toNat
          if byte < 128 then
            patch? base delta fuel (i + 1 + byte) (out ++ delta.extract (i + 1) (i + 1 + byte))
          else
            let (start, i) ← announced? delta (bitsOf byte 0 4) (i + 1)
            let (size, i) ← announced? delta (bitsOf byte 4 3) i
            let size := if size == 0 then 0x10000 else size
            patch? base delta fuel i (out ++ base.extract start (start + size))

def patched? (base delta : ByteArray) : Option ByteArray := do
  let fuel := delta.size + 1
  let (_, i) ← size? delta fuel 0
  let (_, i) ← size? delta fuel i
  patch? base delta fuel i .empty

def kind (code : Nat) : Kind :=
  if code == 1 then .commit else if code == 4 then .tag else .other

def at? (pack : Pack) : (fuel place : Nat) → Option (Kind × ByteArray)
  | 0, _ => none
  | fuel + 1, place => do
      let data := pack.data
      let code := (← data.data[place]?).toNat / 16 % 8
      let (_, i) ← size? data data.size place
      if code == 6 then
        let (back, i) ← distance? data data.size i 0
        let (kind, base) ← at? pack fuel (place - back)
        return (kind, ← patched? base (← Inflate.read? data i))
      else if code == 7 then
        let (kind, base) ← at? pack fuel (← pack.place? (slice data i nameSize))
        return (kind, ← patched? base (← Inflate.read? data (i + nameSize)))
      else return (kind code, ← Inflate.read? data i)

def record? (pack : Pack) (name : String) : Option Record := do
  let place ← pack.place? (← nameBytes? name)
  let (kind, content) ← pack.at? (pack.data.size + 1) place
  return { kind, content := content.toList }

end Pack

end HeaderLint.Store
