import Plakar.Msgpack.RoundTrip
import Plakar.State.Intern

/-!
# Saving and loading a state

`State.Serialize` is `msgpack.Marshal` of the state's exported fields, followed by
`Metadata.Version` in four little-endian bytes.  `NewFromBytes` rejects fewer than four bytes
and a trailer other than `VERSION`.  It then unmarshals the rest into a zero `State` and rebuilds
`checksumToId` from `IdToChecksum`.  It checks nothing else.

A state with the intern invariant and the current version loads back as itself, maps compared
by lookup, when it has fewer than `2 ^ 32` ids and parents (`newFromBytes_serialize`).  Past
that the lengths wrap: `2 ^ 32` parents load back as none
(`newFromBytes_serialize_wraps_extends`).  Loading succeeds exactly on a body that unmarshals,
followed by `VERSION`, and the state loaded is only known to have `checksumToId` rebuilt from
`IdToChecksum` (`newFromBytes_rebuilds_checksumToId`); a body with a gap in its ids and no
metadata loads, hands out a used id again and cannot be saved and loaded once more
(`newFromBytes_accepts_gap`).

A Go map that the body leaves out stays nil, and writing to it panics; here it is the empty
`AList` of the zero `State`.
-/

namespace Plakar

open Msgpack

/-- The zero `Location`. -/
def Location.zero : Location := ⟨0, 0, 0⟩

/-- The zero `Metadata`. -/
def Metadata.zero : Metadata := ⟨0, Time.zero, []⟩

namespace State

/-! ## Serialize -/

def writeLocation (loc : Location) : List UInt8 :=
  writeStruct [("Packfile", writeUint64 loc.packfile), ("Offset", writeUint32 loc.offset),
    ("Length", writeUint32 loc.length)]

def writeMetadata (md : Metadata) : List UInt8 :=
  writeStruct [("Version", writeUint32 md.version), ("CreationTime", writeTime md.creationTime),
    ("Extends", writeArray writeChecksum md.extends)]

/-- `msgpack.Marshal(st)`: the exported fields of `State`, in declaration order. -/
def marshal (st : State) : List UInt8 :=
  writeStruct [("IdToChecksum", writeMap writeChecksum st.idToChecksum),
    ("Chunks", writeMap writeLocation st.chunks), ("Objects", writeMap writeLocation st.objects),
    ("Files", writeMap writeLocation st.files),
    ("Directories", writeMap writeLocation st.directories),
    ("Blobs", writeMap writeLocation st.blobs), ("Metadata", writeMetadata st.metadata)]

/-- `State.Serialize`: the msgpack body, then `Metadata.Version` in little-endian order.
`msgpack.Marshal` does not fail on a state. -/
def serialize (st : State) : List UInt8 := marshal st ++ putUint32LE st.metadata.version

/-! ## NewFromBytes -/

def locationFields : List (StructField Location) :=
  [⟨"Packfile", fun loc input =>
      (readUint input).map fun (n, rest) => ({ loc with packfile := n }, rest)⟩,
    ⟨"Offset", fun loc input =>
      (readUint32 input).map fun (v, rest) => ({ loc with offset := v }, rest)⟩,
    ⟨"Length", fun loc input =>
      (readUint32 input).map fun (v, rest) => ({ loc with length := v }, rest)⟩]

/-- A `Location` read into a zero one, as `decodeTypedMapValue` reads each value. -/
def readLocation (fuel : Nat) : Reader Location :=
  readStruct Location.zero locationFields fuel Location.zero

def metadataFields : List (StructField Metadata) :=
  [⟨"Version", fun md input =>
      (readUint32 input).map fun (v, rest) => ({ md with version := v }, rest)⟩,
    ⟨"CreationTime", fun md input =>
      (readTime input).map fun (t, rest) => ({ md with creationTime := t }, rest)⟩,
    ⟨"Extends", fun md input =>
      (readArray readChecksum input).map fun (l, rest) => ({ md with «extends» := l }, rest)⟩]

/-- One of the five location maps, read into the state's own. -/
def tableField (name : String) (k : Kind) (fuel : Nat) : StructField State :=
  ⟨name, fun st input =>
    (readMap (readLocation fuel) (st.table k) input).map fun (m, rest) => (st.setTable k m, rest)⟩

def stateFields (fuel : Nat) : List (StructField State) :=
  [⟨"IdToChecksum", fun st input =>
      (readMap readChecksum st.idToChecksum input).map fun (m, rest) =>
        ({ st with idToChecksum := m }, rest)⟩,
    tableField "Chunks" .chunk fuel, tableField "Objects" .object fuel,
    tableField "Files" .file fuel, tableField "Directories" .directory fuel,
    tableField "Blobs" .blob fuel,
    ⟨"Metadata", fun st input =>
      (readStruct Metadata.zero metadataFields fuel st.metadata input).map fun (md, rest) =>
        ({ st with metadata := md }, rest)⟩]

/-- `var st State`: nil maps, zero metadata.  A nil map is the empty `AList`: reading it is
reading an empty map, as in Go, but Go panics on a write to it, which the model does not. -/
def zero : State where
  checksumToId := ∅
  idToChecksum := ∅
  chunks := ∅
  objects := ∅
  files := ∅
  directories := ∅
  blobs := ∅
  metadata := Metadata.zero
  dirty := false

/-- `msgpack.Unmarshal(serialized, &st)` into `var st State`: one value is read, and the bytes
after it are not looked at. -/
def unmarshal (serialized : List UInt8) : Except String State :=
  (readStruct zero (stateFields serialized.length) serialized.length zero serialized).map Prod.fst

/-- `binary.LittleEndian.Uint32`. -/
def uint32LE (b : List UInt8) : UInt32 :=
  UInt32.ofNat (b.foldr (fun x acc => x.toNat + 256 * acc) 0)

/-- `NewFromBytes`. -/
def newFromBytes (serialized : List UInt8) : Except String State :=
  if serialized.length < 4 then .error "invalid state data"
  else
    let version := uint32LE (serialized.drop (serialized.length - 4))
    if version ≠ VERSION then .error s!"invalid state version: {version}"
    else (unmarshal (serialized.take (serialized.length - 4))).map rebuildChecksums

/-! ## Reading back what `Marshal` writes -/

theorem readLocation_writeLocation (fuel : Nat) {loc : Location} (h : loc.packfile < 2 ^ 64)
    (rest : List UInt8) : readLocation fuel (writeLocation loc ++ rest) = .ok (loc, rest) := by
  -- the field names are literals: the discharger looks each one up by evaluation
  simp (disch := with_unfolding_all first | rfl | exact Bool.eq_false_iff.mp rfl | decide) only
    [readLocation, writeLocation, writeStruct, List.append_assoc, readStruct_writeMapLen,
    List.flatMap_cons, List.flatMap_nil, List.append_nil, List.length_cons, List.length_nil,
    Nat.reduceAdd, Nat.reduceMod, Nat.reducePow, readFieldsByName_writeString, locationFields,
    List.find?_cons_of_pos, List.find?_cons_of_neg, readUint_writeUint64 h, readUint32_writeUint32,
    Except.map, Except.ok_bind, readFieldsByName_zero, Location.zero]

/-- The metadata reads back, `Extends` cut to its length modulo `2 ^ 32`. -/
theorem readMetadata_writeMetadata (fuel : Nat) (md₀ md : Metadata) (rest : List UInt8) :
    readStruct Metadata.zero metadataFields fuel md₀ (writeMetadata md ++ rest) =
      .ok (⟨md.version, md.creationTime, md.extends.take (md.extends.length % 2 ^ 32)⟩,
        (md.extends.drop (md.extends.length % 2 ^ 32)).flatMap writeChecksum ++ rest) := by
  simp (disch := with_unfolding_all first | rfl | exact Bool.eq_false_iff.mp rfl | decide) only
    [writeMetadata, writeStruct, List.append_assoc, readStruct_writeMapLen,
    List.flatMap_cons, List.flatMap_nil, List.append_nil, List.length_cons, List.length_nil,
    Nat.reduceAdd, Nat.reduceMod, Nat.reducePow, readFieldsByName_writeString, metadataFields,
    List.find?_cons_of_pos, List.find?_cons_of_neg, readUint32_writeUint32, readTime_writeTime,
    readArray_writeArray _ fun x _ => readChecksum_writeChecksum x, Except.map, Except.ok_bind,
    readFieldsByName_zero]

/-- The maps of `st` read back: fewer than `2 ^ 32` entries each, keys and packfile ids that fit
a `uint64`. -/
structure Fits (st : State) : Prop where
  ids_length : st.idToChecksum.entries.length < 2 ^ 32
  ids_lt : ∀ e ∈ st.idToChecksum.entries, e.1 < 2 ^ 64
  tables_length : ∀ k, (st.table k).entries.length < 2 ^ 32
  tables_lt : ∀ k, ∀ e ∈ (st.table k).entries, e.1 < 2 ^ 64 ∧ e.2.packfile < 2 ^ 64

theorem readMap_writeTable (fuel : Nat) {st : State} (hf : Fits st) (k : Kind) (m₀ : Locations)
    (rest : List UInt8) :
    readMap (readLocation fuel) m₀ (writeMap writeLocation (st.table k) ++ rest) =
      .ok ((st.table k).entries.foldl (fun m e => m.insert e.1 e.2) m₀, rest) :=
  readMap_writeMap _ (hf.tables_length k) (fun e h => (hf.tables_lt k e h).1)
    (fun e h rest => readLocation_writeLocation fuel (hf.tables_lt k e h).2 rest) m₀ rest

/-- **Unmarshal of Marshal.**  Each map is read back as its entries inserted in order; the
metadata as it was, `Extends` cut to its length modulo `2 ^ 32`. -/
theorem readState_marshal (fuel : Nat) {st : State} (hf : Fits st) (rest : List UInt8) :
    readStruct zero (stateFields fuel) fuel zero (marshal st ++ rest) =
      .ok ({ zero with
          idToChecksum := st.idToChecksum.entries.foldl (fun m e => m.insert e.1 e.2) ∅
          chunks := st.chunks.entries.foldl (fun m e => m.insert e.1 e.2) ∅
          objects := st.objects.entries.foldl (fun m e => m.insert e.1 e.2) ∅
          files := st.files.entries.foldl (fun m e => m.insert e.1 e.2) ∅
          directories := st.directories.entries.foldl (fun m e => m.insert e.1 e.2) ∅
          blobs := st.blobs.entries.foldl (fun m e => m.insert e.1 e.2) ∅
          metadata := ⟨st.metadata.version, st.metadata.creationTime,
            st.metadata.extends.take (st.metadata.extends.length % 2 ^ 32)⟩ },
        (st.metadata.extends.drop (st.metadata.extends.length % 2 ^ 32)).flatMap writeChecksum ++
          rest) := by
  have hids := readMap_writeMap st.idToChecksum hf.ids_length hf.ids_lt
    (fun e _ rest => readChecksum_writeChecksum e.2 rest) ∅
  have hc := readMap_writeTable fuel hf .chunk
  have ho := readMap_writeTable fuel hf .object
  have hfi := readMap_writeTable fuel hf .file
  have hd := readMap_writeTable fuel hf .directory
  have hb := readMap_writeTable fuel hf .blob
  simp only [table] at hc ho hfi hd hb
  simp (disch := with_unfolding_all first | rfl | exact Bool.eq_false_iff.mp rfl | decide) only
    [marshal, writeStruct, List.append_assoc, readStruct_writeMapLen,
    List.flatMap_cons, List.flatMap_nil, List.append_nil, List.length_cons, List.length_nil,
    Nat.reduceAdd, Nat.reduceMod, Nat.reducePow, readFieldsByName_writeString, stateFields,
    List.find?_cons_of_pos, List.find?_cons_of_neg, tableField, hids, hc, ho, hfi, hd, hb,
    readMetadata_writeMetadata, Except.map, readFieldsByName_zero, Except.ok_bind, zero, table,
    setTable]

/-! ## The version trailer -/

theorem uint32LE_putUint32LE (v : UInt32) : uint32LE (putUint32LE v) = v := by
  have h : v.toNat < 2 ^ 32 := v.toNat_lt_size
  apply UInt32.toNat.inj
  simp only [uint32LE, putUint32LE, List.foldr, uint8_toNat_ofNat, uint32_toNat_ofNat]
  omega

theorem putUint32LE_uint32LE {l : List UInt8} (h : l.length = 4) :
    putUint32LE (uint32LE l) = l := by
  match l, h with
  | [a, b, c, d], _ =>
    have : a.toNat < 256 := a.toNat_lt_size
    have : b.toNat < 256 := b.toNat_lt_size
    have : c.toNat < 256 := c.toNat_lt_size
    have : d.toNat < 256 := d.toNat_lt_size
    simp only [putUint32LE, uint32LE, List.foldr, uint32_toNat_ofNat, List.cons.injEq, and_true]
    refine ⟨?_, ?_, ?_, ?_⟩ <;> apply UInt8.toNat.inj <;> simp only [uint8_toNat_ofNat] <;> omega

/-- `NewFromBytes` of a body followed by a version: the version is checked, then the body
unmarshalled. -/
theorem newFromBytes_append (body : List UInt8) (v : UInt32) :
    newFromBytes (body ++ putUint32LE v) =
      if v ≠ VERSION then .error s!"invalid state version: {v}"
      else (unmarshal body).map rebuildChecksums := by
  have hl : (body ++ putUint32LE v).length - 4 = body.length := by simp [putUint32LE]
  simp only [newFromBytes, hl, List.drop_left, List.take_left, uint32LE_putUint32LE]
  simp [putUint32LE]

/-! ## Rebuilding checksumToId -/

section Rebuild

variable {l : List (Sigma fun _ : Nat => Checksum)} {c : Checksum} {id : Nat}

/-- Reversing a list of entries maps a checksum only to an id it is paired with. -/
theorem mem_of_lookup_foldl_insert (m₀ : AList fun _ : Checksum => Nat)
    (h : (l.foldl (fun m e => m.insert e.2 e.1) m₀).lookup c = some id) :
    ⟨id, c⟩ ∈ l ∨ m₀.lookup c = some id := by
  induction l generalizing m₀ with
  | nil => exact .inr h
  | cons e l ih =>
    rcases ih _ h with h | h
    · exact .inl (List.mem_cons_of_mem _ h)
    · by_cases hc : c = e.2
      · subst hc
        rw [AList.lookup_insert] at h
        cases h
        exact .inl (List.mem_cons_self _ _)
      · rw [AList.lookup_insert_ne hc] at h
        exact .inr h

/-- Reversing a list of entries keeps every checksum it pairs. -/
theorem mem_foldl_insert (m₀ : AList fun _ : Checksum => Nat) (h : ⟨id, c⟩ ∈ l ∨ c ∈ m₀) :
    c ∈ l.foldl (fun m e => m.insert e.2 e.1) m₀ := by
  induction l generalizing m₀ with
  | nil => simpa using h
  | cons e l ih =>
    apply ih
    rcases h with h | h
    · rcases List.mem_cons.1 h with rfl | h
      · exact .inr ((AList.mem_insert _).2 (.inl rfl))
      · exact .inl h
    · exact .inr ((AList.mem_insert _).2 (.inr h))

variable {st : State}

theorem idToChecksum_of_rebuildChecksums
    (h : st.rebuildChecksums.checksumToId.lookup c = some id) :
    st.idToChecksum.lookup id = some c :=
  AList.mem_lookup_iff.2 ((mem_of_lookup_foldl_insert ∅ h).resolve_right (by simp))

theorem rebuildChecksums_of_idToChecksum (h : st.idToChecksum.lookup id = some c) :
    ∃ id', st.rebuildChecksums.checksumToId.lookup c = some id' :=
  Option.isSome_iff_exists.1 (AList.lookup_isSome.2
    (mem_foldl_insert ∅ (.inl (AList.mem_lookup_iff.1 h))))

/-- With `IdToChecksum` injective, the rebuilt map is its exact inverse. -/
theorem rebuildChecksums_lookup_iff
    (hinj : ∀ i j c, st.idToChecksum.lookup i = some c → st.idToChecksum.lookup j = some c →
      i = j) :
    st.rebuildChecksums.checksumToId.lookup c = some id ↔ st.idToChecksum.lookup id = some c := by
  refine ⟨idToChecksum_of_rebuildChecksums, fun h => ?_⟩
  obtain ⟨id', h'⟩ := rebuildChecksums_of_idToChecksum h
  rwa [hinj _ _ _ (idToChecksum_of_rebuildChecksums h') h] at h'

end Rebuild

/-! ## The round trip -/

/-- Each location map has at most `N` entries: its keys are distinct ids below `N`. -/
theorem InternInv.length_table_le {st : State} (hi : InternInv st) (k : Kind) :
    (st.table k).entries.length ≤ st.size := by
  have hsub : (st.table k).keys ⊆ List.range st.size := fun id h => by
    obtain ⟨loc, hl⟩ := Option.isSome_iff_exists.1 (AList.lookup_isSome.2 (AList.mem_keys.1 h))
    exact List.mem_range.2 (hi.table_lt k id loc hl).1
  simpa [AList.keys, List.keys] using
    (List.subperm_of_subset (st.table k).keys_nodup hsub).length_le

/-- Under the intern invariant, fewer than `2 ^ 32` ids is all `Fits` asks. -/
theorem InternInv.fits {st : State} (hi : InternInv st) (hsize : st.size < 2 ^ 32) : Fits st where
  ids_length := hsize
  ids_lt e he := by
    have := (hi.mem_iff_lt e.1).1 (List.mem_keys_of_mem he)
    omega
  tables_length k := (hi.length_table_le k).trans_lt hsize
  tables_lt k e he := by
    have := hi.table_lt k e.1 e.2 (AList.mem_lookup_iff.2 he)
    omega

@[simp] theorem table_rebuildChecksums (st : State) (k : Kind) :
    st.rebuildChecksums.table k = st.table k := by
  cases k <;> rfl

/-- What a state whose maps fit comes back as: the same maps, its metadata with `Extends` cut to
its length modulo `2 ^ 32`, and `checksumToId` rebuilt. -/
theorem newFromBytes_serialize_of_fits {st : State} (hf : Fits st)
    (hv : st.metadata.version = VERSION) :
    ∃ st₀ : State, newFromBytes st.serialize = .ok st₀.rebuildChecksums ∧
      (∀ id, st₀.idToChecksum.lookup id = st.idToChecksum.lookup id) ∧
      (∀ k id, (st₀.table k).lookup id = (st.table k).lookup id) ∧
      st₀.metadata = ⟨st.metadata.version, st.metadata.creationTime,
        st.metadata.extends.take (st.metadata.extends.length % 2 ^ 32)⟩ := by
  have hm := readState_marshal (marshal st).length hf []
  rw [List.append_nil] at hm
  rw [serialize, newFromBytes_append, if_neg (not_not.2 hv)]
  simp only [unmarshal, hm, Except.map]
  refine ⟨_, rfl, lookup_foldl_insert_entries _, fun k id => ?_, rfl⟩
  cases k <;> exact lookup_foldl_insert_entries _ id

/-- **Round trip.**  A state with the intern invariant, the current version, fewer than `2 ^ 32`
ids and fewer than `2 ^ 32` parents loads back as the same maps, the same metadata and the same
`checksumToId`. -/
theorem newFromBytes_serialize {st : State} (hi : InternInv st)
    (hv : st.metadata.version = VERSION) (hsize : st.size < 2 ^ 32)
    (hext : st.metadata.extends.length < 2 ^ 32) :
    ∃ st', newFromBytes st.serialize = .ok st' ∧
      (∀ id, st'.idToChecksum.lookup id = st.idToChecksum.lookup id) ∧
      (∀ k id, (st'.table k).lookup id = (st.table k).lookup id) ∧
      st'.metadata = st.metadata ∧ ∀ c, st'.checksumToId.lookup c = st.checksumToId.lookup c := by
  obtain ⟨st₀, h, hids, ht, hmd⟩ := newFromBytes_serialize_of_fits (hi.fits hsize) hv
  refine ⟨_, h, hids, fun k => by simpa using ht k, ?_, fun c => Option.ext fun id => ?_⟩
  · show st₀.metadata = st.metadata
    rw [hmd, Nat.mod_eq_of_lt hext, List.take_length]
  refine (rebuildChecksums_lookup_iff ?_).trans ?_
  · simpa only [hids] using hi.injective
  · rw [hids]
    exact (hi.inverse c id).symm

theorem newFromBytes_serialize_chunk :
    InternInv ((State.new Time.epoch).setPackfileForChunk (.ofByte 1) (.ofByte 2) 0 1) ∧
      ∃ st', newFromBytes ((State.new Time.epoch).setPackfileForChunk (.ofByte 1) (.ofByte 2) 0
        1).serialize = .ok st' ∧ (st'.table .chunk).lookup 1 = some ⟨0, 0, 1⟩ := by
  have hi := (setPackfileIn_inv (InternInv.new Time.epoch) .chunk .chunk (.ofByte 1) (.ofByte 2) 0
    1).1
  obtain ⟨st', h, -, ht, -⟩ := newFromBytes_serialize hi rfl (by decide) (by decide)
  exact ⟨hi, st', h, by rw [ht]; decide⟩

/-- A state whose `Extends` holds `2 ^ 32` parents, whatever they are, loads back with none. -/
theorem newFromBytes_serialize_of_length_extends {l : List Checksum} (hl : l.length = 2 ^ 32) :
    InternInv { State.new Time.epoch with metadata := ⟨VERSION, Time.epoch, l⟩ } ∧
      ∃ st', newFromBytes (serialize { State.new Time.epoch with
          metadata := ⟨VERSION, Time.epoch, l⟩ }) = .ok st' ∧ st'.metadata.extends = [] := by
  have hi : InternInv { State.new Time.epoch with metadata := ⟨VERSION, Time.epoch, l⟩ } :=
    (InternInv.new Time.epoch).of_tables rfl rfl fun k id loc h => by
      cases k <;> simp [State.new, table] at h
  obtain ⟨st₀, h, -, -, hmd⟩ :=
    newFromBytes_serialize_of_fits (hi.fits (by simp [size, State.new])) rfl
  refine ⟨hi, _, h, ?_⟩
  show st₀.metadata.extends = []
  rw [hmd]
  simp [hl]

/-- `EncodeArrayLen` writes a length as a `uint32`: a state with `2 ^ 32` parents loads back
with none. -/
theorem newFromBytes_serialize_wraps_extends :
    InternInv { State.new Time.epoch with
        metadata := ⟨VERSION, Time.epoch, List.replicate (2 ^ 32) Checksum.zero⟩ } ∧
      ∃ st', newFromBytes (serialize { State.new Time.epoch with
          metadata := ⟨VERSION, Time.epoch, List.replicate (2 ^ 32) Checksum.zero⟩ }) = .ok st' ∧
        st'.metadata.extends = [] :=
  newFromBytes_serialize_of_length_extends (List.length_replicate _ _)

/-! ## What loading checks -/

theorem newFromBytes_eq_ok {b : List UInt8} {st : State} (h : newFromBytes b = .ok st) :
    (∃ body, b = body ++ putUint32LE VERSION) ∧ ∃ st₀ : State, st = st₀.rebuildChecksums := by
  unfold newFromBytes at h
  dsimp only at h
  split at h
  · cases h
  rename_i h4
  split at h
  · cases h
  rename_i hv
  cases hu : unmarshal (b.take (b.length - 4)) <;> simp only [hu, Except.map] at h <;> cases h
  refine ⟨⟨b.take (b.length - 4), ?_⟩, _, rfl⟩
  rw [← not_not.1 hv, putUint32LE_uint32LE (by simp; omega), List.take_append_drop]

/-- **What loading checks.**  `NewFromBytes(b)` returns `st` exactly when `b` is a body that
unmarshals to some `st₀` followed by `VERSION`, and `st` is `st₀` with `checksumToId` rebuilt
from `IdToChecksum`; then `checksumToId` maps a checksum only to an id paired with it, and holds
every checksum paired with an id.  Nothing else is checked. -/
theorem newFromBytes_rebuilds_checksumToId {b : List UInt8} {st : State} :
    newFromBytes b = .ok st ↔
      ∃ body st₀, b = body ++ putUint32LE VERSION ∧ unmarshal body = .ok st₀ ∧
        st = st₀.rebuildChecksums ∧
        (∀ c id, st.checksumToId.lookup c = some id → st.idToChecksum.lookup id = some c) ∧
        ∀ id c, st.idToChecksum.lookup id = some c → ∃ id', st.checksumToId.lookup c = some id' := by
  constructor
  · intro h
    obtain ⟨⟨body, rfl⟩, -⟩ := newFromBytes_eq_ok h
    rw [newFromBytes_append, if_neg (not_not.2 rfl)] at h
    obtain ⟨st₀, hu, rfl⟩ := Except.map_eq_ok h
    exact ⟨body, st₀, rfl, hu, rfl, fun _ _ => idToChecksum_of_rebuildChecksums,
      fun _ _ => rebuildChecksums_of_idToChecksum⟩
  · rintro ⟨body, st₀, rfl, hu, rfl, -⟩
    rw [newFromBytes_append, if_neg (not_not.2 rfl), hu]
    rfl

/-- A body holding only `IdToChecksum = {1: c}` loads: the loaded state has one id, `1`, so the
next checksum interned is given `1` again, and its `Metadata.Version` is `0`, so `NewFromBytes`
refuses its own `Serialize`. -/
theorem newFromBytes_accepts_gap :
    ∃ st, newFromBytes ([0x81] ++ writeString (ascii "IdToChecksum") ++ [0x81, 0x01] ++
        writeChecksum (.ofByte 2) ++ putUint32LE VERSION) = .ok st ∧
      st.idToChecksum.lookup 1 = some (.ofByte 2) ∧ st.size = 1 ∧
      (st.getOrCreateIdForChecksum (.ofByte 3)).2 = 1 ∧
      newFromBytes st.serialize = .error "invalid state version: 0" :=
  (fun h => ⟨_, h, by decide, by decide, by decide, by
    rw [serialize, newFromBytes_append, if_pos (by decide)]; rfl⟩) rfl

end State

end Plakar
