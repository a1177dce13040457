import Plakar.State.Basic

/-!
# msgpack for the types of the state

`State.Serialize` and `NewFromBytes` call `msgpack.Marshal` and `msgpack.Unmarshal` of
`vmihailenco/msgpack/v5`, which is not under src.  This module models that library for the types
a state is built from.

Encoding uses the library's defaults:

* integers are written at their full width (`uint64` as `0xcf`, `uint32` as `0xce`);
* `[32]byte` is written as `bin8`;
* a struct is written as a map keyed by field name;
* a `time.Time` is written as the timestamp extension (type `-1`);
* a length of `2 ^ 32` or more is written as `uint32(l)`.

Decoding accepts more than that:

* every integer format, and nil as `0`;
* every string and binary format;
* nil for a map, a slice, an array or a struct;
* a struct written as an array.

The value of a field it does not know is skipped (`skip`).  Decoding stops after one value:
`Unmarshal` does not look at the bytes after it.
-/

namespace Plakar

namespace Msgpack

/-! ## Bytes -/

/-- `n` modulo `256 ^ w`, in `w` bytes, most significant first (`binary.BigEndian`). -/
def putBE : Nat → Nat → List UInt8
  | 0, _ => []
  | w + 1, n => putBE w (n / 256) ++ [UInt8.ofNat n]

/-- The number a byte string spells, most significant byte first. -/
def ofBE (bytes : List UInt8) : Nat := bytes.foldl (fun acc b => acc * 256 + b.toNat) 0

/-- What a reader returns: the value at the front of the input and the input left after it. -/
abbrev Reader (α : Type) := List UInt8 → Except String (α × List UInt8)

def readByte : Reader UInt8
  | b :: rest => .ok (b, rest)
  | [] => .error "EOF"

/-- The next `n` bytes. -/
def readN (n : Nat) : Reader (List UInt8) := fun input =>
  if n ≤ input.length then .ok (input.take n, input.drop n) else .error "EOF"

/-- A big-endian number of `w` bytes. -/
def readBE (w : Nat) : Reader Nat := fun input =>
  (readN w input).map fun (bytes, rest) => (ofBE bytes, rest)

/-! ## Encoding -/

/-- `EncodeUint64`. -/
def writeUint64 (n : Nat) : List UInt8 := 0xcf :: putBE 8 n

/-- `EncodeUint32`. -/
def writeUint32 (n : UInt32) : List UInt8 := 0xce :: putBE 4 n.toNat

/-- `EncodeMapLen`: fixmap, map16, or map32 holding `uint32(l)`. -/
def writeMapLen (l : Nat) : List UInt8 :=
  if l < 16 then [UInt8.ofNat (0x80 + l)]
  else if l < 65536 then 0xde :: putBE 2 l
  else 0xdf :: putBE 4 l

/-- `EncodeArrayLen`: fixarray, array16, or array32 holding `uint32(l)`. -/
def writeArrayLen (l : Nat) : List UInt8 :=
  if l < 16 then [UInt8.ofNat (0x90 + l)]
  else if l < 65536 then 0xdc :: putBE 2 l
  else 0xdd :: putBE 4 l

/-- `EncodeString`: fixstr, str8, str16 or str32, then the bytes. -/
def writeString (s : List UInt8) : List UInt8 :=
  (if s.length < 32 then [UInt8.ofNat (0xa0 + s.length)]
    else if s.length < 256 then [0xd9, UInt8.ofNat s.length]
    else if s.length < 65536 then 0xda :: putBE 2 s.length
    else 0xdb :: putBE 4 s.length) ++ s

/-- `EncodeBytes`: bin8, bin16 or bin32, then the bytes. -/
def writeBytes (b : List UInt8) : List UInt8 :=
  (if b.length < 256 then [0xc4, UInt8.ofNat b.length]
    else if b.length < 65536 then 0xc5 :: putBE 2 b.length
    else 0xc6 :: putBE 4 b.length) ++ b

/-- A `[32]byte`. -/
def writeChecksum (c : Checksum) : List UInt8 := writeBytes c.bytes

/-- `EncodeTime`: `secs = uint64(tm.Unix())`; if it fits in 34 bits, `nsec << 34 | secs` in
4 bytes (`fixext4`) or 8 bytes (`fixext8`), else `nsec` and `secs` in 12 bytes (`ext8`). -/
def writeTime (t : Time) : List UInt8 :=
  if (t.unix % 2 ^ 64).toNat < 2 ^ 34 then
    if t.nsec * 2 ^ 34 + (t.unix % 2 ^ 64).toNat < 2 ^ 32 then
      [0xd6, 0xff] ++ putBE 4 (t.nsec * 2 ^ 34 + (t.unix % 2 ^ 64).toNat)
    else [0xd7, 0xff] ++ putBE 8 (t.nsec * 2 ^ 34 + (t.unix % 2 ^ 64).toNat)
  else [0xc7, 12, 0xff] ++ putBE 4 t.nsec ++ putBE 8 (t.unix % 2 ^ 64).toNat

/-- A map with `uint64` keys: its length, then each key and value, in iteration order. -/
def writeMap {β : Type} (writeValue : β → List UInt8) (m : AList fun _ : Nat => β) :
    List UInt8 :=
  writeMapLen m.entries.length ++ m.entries.flatMap fun e => writeUint64 e.1 ++ writeValue e.2

/-- A slice: its length, then each element. -/
def writeArray {β : Type} (writeElem : β → List UInt8) (l : List β) : List UInt8 :=
  writeArrayLen l.length ++ l.flatMap writeElem

/-- The bytes of an ASCII field name. -/
def ascii (s : String) : List UInt8 := s.toList.map fun c => UInt8.ofNat c.toNat

/-- A struct, as a map: each exported field's name, then its value. -/
def writeStruct (fields : List (String × List UInt8)) : List UInt8 :=
  writeMapLen fields.length ++ fields.flatMap fun f => writeString (ascii f.1) ++ f.2

/-- A field tagged `omitempty`: left out when `isEmptyValue` holds of its value. -/
def omitEmpty (name : String) (empty : Bool) (value : List UInt8) : List (String × List UInt8) :=
  if empty then [] else [(name, value)]

/-- `isEmptyValue` of a slice: `v.Len() == 0`, nil or not. -/
def sliceEmpty {β : Type} (s : Option (List β)) : Bool := (s.getD []).isEmpty

/-- A slice (`none` when nil), as `encodeSliceValue` writes it: nil, or its length and each
element. -/
def writeSlice {β : Type} (writeElem : β → List UInt8) : Option (List β) → List UInt8
  | none => [0xc0]
  | some l => writeArray writeElem l

/-- A `[]byte` (`none` when nil), as `EncodeBytes` writes it: nil, or binary. -/
def writeByteSlice : Option (List UInt8) → List UInt8
  | none => [0xc0]
  | some b => writeBytes b

/-- A pointer (`none` when nil): nil, or what it points to. -/
def writePtr {β : Type} (write : β → List UInt8) : Option β → List UInt8
  | none => [0xc0]
  | some x => write x

/-! ## Decoding -/

/-- `uint64(int8(n))`, `uint64(int16(n))`, `uint64(int32(n))` for `n` of `w` bytes. -/
def signExtend (w n : Nat) : Nat :=
  if n < 2 ^ (8 * w - 1) then n else n + (2 ^ 64 - 2 ^ (8 * w))

/-- `Decoder.uint`: nil as `0`, or any integer, as a `uint64`. -/
def readUint : Reader Nat := fun input => do
  let (c, rest) ← readByte input
  if c = 0xc0 then pure (0, rest)
  else if c < 0x80 then pure (c.toNat, rest)
  else if 0xe0 ≤ c then pure (signExtend 1 c.toNat, rest)
  else if c = 0xcc then readBE 1 rest
  else if c = 0xcd then readBE 2 rest
  else if c = 0xce then readBE 4 rest
  else if c = 0xcf then readBE 8 rest
  else if c = 0xd0 then (readBE 1 rest).map fun (n, rest) => (signExtend 1 n, rest)
  else if c = 0xd1 then (readBE 2 rest).map fun (n, rest) => (signExtend 2 n, rest)
  else if c = 0xd2 then (readBE 4 rest).map fun (n, rest) => (signExtend 4 n, rest)
  else if c = 0xd3 then readBE 8 rest
  else .error "msgpack: invalid code decoding uint64"

/-- A `uint32` field: the `uint64` read, truncated by `reflect.Value.SetUint`. -/
def readUint32 : Reader UInt32 := fun input =>
  (readUint input).map fun (n, rest) => (UInt32.ofNat n, rest)

/-- `Decoder.bytesLen`: nil gives `none`; a string or binary header gives its length. -/
def readBytesLen (c : UInt8) : Reader (Option Nat) := fun rest =>
  if c = 0xc0 then .ok (none, rest)
  else if 0xa0 ≤ c ∧ c < 0xc0 then .ok (some (c.toNat - 0xa0), rest)
  else if c = 0xd9 ∨ c = 0xc4 then (readBE 1 rest).map fun (n, rest) => (some n, rest)
  else if c = 0xda ∨ c = 0xc5 then (readBE 2 rest).map fun (n, rest) => (some n, rest)
  else if c = 0xdb ∨ c = 0xc6 then (readBE 4 rest).map fun (n, rest) => (some n, rest)
  else .error "msgpack: invalid code decoding bytes length"

/-- A string (a field name): nil gives the empty string. -/
def readString : Reader (List UInt8) := fun input => do
  let (c, rest) ← readByte input
  let (n, rest) ← readBytesLen c rest
  match n with
  | none => pure ([], rest)
  | some n => readN n rest

/-- The `[32]byte` whose first bytes are `b` and the others zero. -/
def Checksum.ofPrefix (b : List UInt8) : Checksum :=
  ⟨(b ++ List.replicate 32 0).take 32, by simp⟩

/-- `decodeByteArrayValue` into a zero `[32]byte`: nil leaves it zero; `n ≤ 32` bytes fill its
first `n` bytes. -/
def readChecksum : Reader Checksum := fun input => do
  let (c, rest) ← readByte input
  let (n, rest) ← readBytesLen c rest
  match n with
  | none => pure (Checksum.zero, rest)
  | some n =>
    if n ≤ 32 then (readN n rest).map fun (b, rest) => (Checksum.ofPrefix b, rest)
    else .error "[32]uint8 len is 32, but msgpack has more elements"

/-- `Decoder.mapLen`: nil gives `none`. -/
def readMapLen (c : UInt8) : Reader (Option Nat) := fun rest =>
  if c = 0xc0 then .ok (none, rest)
  else if 0x80 ≤ c ∧ c < 0x90 then .ok (some (c.toNat - 0x80), rest)
  else if c = 0xde then (readBE 2 rest).map fun (n, rest) => (some n, rest)
  else if c = 0xdf then (readBE 4 rest).map fun (n, rest) => (some n, rest)
  else .error "msgpack: invalid code decoding map length"

/-- `Decoder.arrayLen`: nil gives `none`. -/
def readArrayLen (c : UInt8) : Reader (Option Nat) := fun rest =>
  if c = 0xc0 then .ok (none, rest)
  else if 0x90 ≤ c ∧ c < 0xa0 then .ok (some (c.toNat - 0x90), rest)
  else if c = 0xdc then (readBE 2 rest).map fun (n, rest) => (some n, rest)
  else if c = 0xdd then (readBE 4 rest).map fun (n, rest) => (some n, rest)
  else .error "msgpack: invalid code decoding array length"

/-- `Decoder.extHeader` for code `c`: the extension's length. -/
def readExtLen (c : UInt8) : Reader Nat := fun rest =>
  if c = 0xd4 then .ok (1, rest)
  else if c = 0xd5 then .ok (2, rest)
  else if c = 0xd6 then .ok (4, rest)
  else if c = 0xd7 then .ok (8, rest)
  else if c = 0xd8 then .ok (16, rest)
  else if c = 0xc7 then readBE 1 rest
  else if c = 0xc8 then readBE 2 rest
  else if c = 0xc9 then readBE 4 rest
  else .error "msgpack: invalid code decoding ext header"

/-- `int64(n)` for `n < 2 ^ 64`. -/
def toInt64 (n : Nat) : Int := if n < 2 ^ 63 then n else (n : Int) - 2 ^ 64

/-- `time.Unix(sec, nsec).Unix()` and its nanoseconds: `nsec` carried into the seconds, which
wrap as an `int64`. -/
def Time.unixOf (sec : Int) (nsec : Nat) : Time :=
  ⟨(sec + nsec / 1000000000 + 2 ^ 63) % 2 ^ 64 - 2 ^ 63, nsec % 1000000000,
    by omega, by omega, Nat.mod_lt _ (by decide)⟩

/-- `DecodeTime`: the timestamp extension (type `-1`, or `13`) of 4, 8 or 12 bytes. -/
def readTime : Reader Time := fun input => do
  let (c, rest) ← readByte input
  let (len, rest) ← readExtLen c rest
  let (id, rest) ← readByte rest
  if id ≠ 0xff ∧ id ≠ 13 then .error "msgpack: invalid time ext id"
  else if len = 4 then
    (readBE 4 rest).map fun (sec, rest) => (Time.unixOf sec 0, rest)
  else if len = 8 then
    (readBE 8 rest).map fun (data, rest) => (Time.unixOf (data % 2 ^ 34) (data / 2 ^ 34), rest)
  else if len = 12 then do
    let (nsec, rest) ← readBE 4 rest
    let (sec, rest) ← readBE 8 rest
    pure (Time.unixOf (toInt64 sec) nsec, rest)
  else .error "msgpack: invalid ext len decoding time"

/-- `f` applied `n` times in the `Except` monad. -/
def iterateM (f : List UInt8 → Except String (List UInt8)) :
    Nat → List UInt8 → Except String (List UInt8)
  | 0, input => .ok input
  | n + 1, input => f input >>= iterateM f n

/-- `Decoder.Skip`: the input after one value of any type.  `fuel` bounds the nesting; the input's
length is enough, since every value takes a byte. -/
def skip : Nat → List UInt8 → Except String (List UInt8)
  | 0, _ => .error "msgpack: nesting deeper than the input"
  | fuel + 1, input => do
    let (c, rest) ← readByte input
    if c < 0x80 ∨ 0xe0 ≤ c ∨ c = 0xc0 ∨ c = 0xc2 ∨ c = 0xc3 then pure rest
    else if c < 0x90 then iterateM (skip fuel) (2 * (c.toNat - 0x80)) rest
    else if c < 0xa0 then iterateM (skip fuel) (c.toNat - 0x90) rest
    else if c < 0xc0 then (readN (c.toNat - 0xa0) rest).map Prod.snd
    else if c = 0xc4 ∨ c = 0xd9 then do
      let (n, rest) ← readBE 1 rest; (readN n rest).map Prod.snd
    else if c = 0xc5 ∨ c = 0xda then do
      let (n, rest) ← readBE 2 rest; (readN n rest).map Prod.snd
    else if c = 0xc6 ∨ c = 0xdb then do
      let (n, rest) ← readBE 4 rest; (readN n rest).map Prod.snd
    else if c = 0xc7 then do
      let (n, rest) ← readBE 1 rest; (readN (n + 1) rest).map Prod.snd
    else if c = 0xc8 then do
      let (n, rest) ← readBE 2 rest; (readN (n + 1) rest).map Prod.snd
    else if c = 0xc9 then do
      let (n, rest) ← readBE 4 rest; (readN (n + 1) rest).map Prod.snd
    else if c = 0xca ∨ c = 0xce ∨ c = 0xd2 then (readN 4 rest).map Prod.snd
    else if c = 0xcb ∨ c = 0xcf ∨ c = 0xd3 then (readN 8 rest).map Prod.snd
    else if c = 0xcc ∨ c = 0xd0 then (readN 1 rest).map Prod.snd
    else if c = 0xcd ∨ c = 0xd1 then (readN 2 rest).map Prod.snd
    else if c = 0xd4 then (readN 2 rest).map Prod.snd
    else if c = 0xd5 then (readN 3 rest).map Prod.snd
    else if c = 0xd6 then (readN 5 rest).map Prod.snd
    else if c = 0xd7 then (readN 9 rest).map Prod.snd
    else if c = 0xd8 then (readN 17 rest).map Prod.snd
    else if c = 0xdc then do
      let (n, rest) ← readBE 2 rest; iterateM (skip fuel) n rest
    else if c = 0xdd then do
      let (n, rest) ← readBE 4 rest; iterateM (skip fuel) n rest
    else if c = 0xde then do
      let (n, rest) ← readBE 2 rest; iterateM (skip fuel) (2 * n) rest
    else if c = 0xdf then do
      let (n, rest) ← readBE 4 rest; iterateM (skip fuel) (2 * n) rest
    else .error "msgpack: invalid code"

/-- `decodeTypedMapValue` into `m`: `n` keys and values, each set in turn. -/
def readMapEntries {β : Type} (readValue : Reader β) :
    Nat → (AList fun _ : Nat => β) → Reader (AList fun _ : Nat => β)
  | 0, m, input => .ok (m, input)
  | n + 1, m, input => do
    let (k, rest) ← readUint input
    let (v, rest) ← readValue rest
    readMapEntries readValue n (m.insert k v) rest

/-- `decodeMapValue` into `m`: nil gives the empty (nil) map; otherwise the entries are added
to `m`. -/
def readMap {β : Type} (readValue : Reader β) (m : AList fun _ : Nat => β) :
    Reader (AList fun _ : Nat => β) := fun input => do
  let (c, rest) ← readByte input
  let (n, rest) ← readMapLen c rest
  match n with
  | none => pure (∅, rest)
  | some n => readMapEntries readValue n m rest

/-- `n` elements. -/
def readElems {β : Type} (readElem : Reader β) : Nat → Reader (List β)
  | 0, input => .ok ([], input)
  | n + 1, input => do
    let (x, rest) ← readElem input
    let (xs, rest) ← readElems readElem n rest
    pure (x :: xs, rest)

/-- `decodeSliceValue`: nil gives the empty (nil) slice. -/
def readArray {β : Type} (readElem : Reader β) : Reader (List β) := fun input => do
  let (c, rest) ← readByte input
  let (n, rest) ← readArrayLen c rest
  match n with
  | none => pure ([], rest)
  | some n => readElems readElem n rest

/-- `decodeSliceValue`, with nil kept apart: nil gives `none`; a length `n` gives `n` elements,
an empty slice that is not nil when `n = 0`. -/
def readSlice {β : Type} (readElem : Reader β) : Reader (Option (List β)) := fun input => do
  let (c, rest) ← readByte input
  let (n, rest) ← readArrayLen c rest
  match n with
  | none => pure (none, rest)
  | some n => (readElems readElem n rest).map fun (xs, rest) => (some xs, rest)

/-- `decodeBytesValue`: nil gives `none`; a string or binary header of length `n` gives the `n`
bytes after it, empty but not nil when `n = 0`. -/
def readByteSlice : Reader (Option (List UInt8)) := fun input => do
  let (c, rest) ← readByte input
  let (n, rest) ← readBytesLen c rest
  match n with
  | none => pure (none, rest)
  | some n => (readN n rest).map fun (b, rest) => (some b, rest)

/-- `ptrValueDecoder`: a nil code gives a nil pointer; anything else a new value, read by
`read`. -/
def readPtr {β : Type} (read : Reader β) : Reader (Option β) := fun input =>
  if input.head? = some 0xc0 then .ok (none, input.drop 1)
  else (read input).map fun (x, rest) => (some x, rest)

/-- A struct field, as `decodeStructValue` finds it: its name, and how to read its value into a
struct. -/
structure StructField (α : Type) where
  name : String
  read : α → Reader α

/-- The field `name` whose value `read` reads and `set` stores. -/
def StructField.ofSet {α β : Type} (name : String) (read : Reader β) (set : α → β → α) :
    StructField α :=
  ⟨name, fun x input => (read input).map fun (v, rest) => (set x v, rest)⟩

/-- The fields of a struct written as a map: `n` names, each followed by its value; the value of
a name that is no exported field is skipped. -/
def readFieldsByName {α : Type} (fields : List (StructField α)) (fuel : Nat) : Nat → α → Reader α
  | 0, x, input => .ok (x, input)
  | n + 1, x, input => do
    let (name, rest) ← readString input
    match fields.find? (ascii ·.name == name) with
    | some f => do
      let (x, rest) ← f.read x rest
      readFieldsByName fields fuel n x rest
    | none => do
      let rest ← skip fuel rest
      readFieldsByName fields fuel n x rest

/-- The fields of a struct written as an array: the first `n` in order; values past the last
field are skipped. -/
def readFieldsInOrder {α : Type} (fuel : Nat) : List (StructField α) → Nat → α → Reader α
  | _, 0, x, input => .ok (x, input)
  | [], n, x, input => (iterateM (skip fuel) n input).map fun rest => (x, rest)
  | f :: fs, n + 1, x, input => do
    let (x, rest) ← f.read x input
    readFieldsInOrder fuel fs n x rest

/-- `decodeStructValue` into `x`: nil gives the zero struct; a map or an array gives fields. -/
def readStruct {α : Type} (zero : α) (fields : List (StructField α)) (fuel : Nat) (x : α) :
    Reader α := fun input => do
  let (c, rest) ← readByte input
  match readMapLen c rest with
  | .ok (none, rest) => pure (zero, rest)
  | .ok (some n, rest) => readFieldsByName fields fuel n x rest
  | .error e =>
    match readArrayLen c rest with
    | .ok (some n, rest) => readFieldsInOrder fuel fields n x rest
    | _ => .error e

end Msgpack

end Plakar
