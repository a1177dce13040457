import Mathlib

/-!
# The repository state: an intern table and five location tables

Model of `repository/state/state.go`.  A Go map is an `AList` (its keys are distinct, and the
order of `entries` is the order a `range` loop visits them); a read of a missing key gives the
zero value (`lookupD`).  Every method takes the state first and returns the state it leaves, so
that the interning done by the queries is visible:

    getOrCreateIdForChecksum st c = (st', id)
    setPackfileForChunk st p c o l = st'
    getSubpartForChunk st c = (st', (packfile, offset, length, exists))

The mutexes are not state: each method is a sequence of the atomic steps
`getOrCreateIdForChecksum` and `storeIn`, which is what `Plakar.State.Intern` interleaves.
Ids are `Nat`: `uint64(len(st.IdToChecksum))` never wraps, a Go map holding fewer than `2^63`
entries.
-/

namespace Plakar

/-- A `[32]byte` checksum (the MAC of a blob, a packfile or a state). -/
structure Checksum where
  bytes : List UInt8
  length_bytes : bytes.length = 32
  deriving DecidableEq, Repr

/-- `[32]byte{}`. -/
def Checksum.zero : Checksum := ⟨List.replicate 32 0, List.length_replicate 32 0⟩

instance : Inhabited Checksum := ⟨Checksum.zero⟩

/-- The checksum `00 .. 00 b`, to write concrete inputs. -/
def Checksum.ofByte (b : UInt8) : Checksum := ⟨List.replicate 31 0 ++ [b], by simp⟩

/-- A `time.Time`, as the instant it names: Unix seconds (an `int64`) and nanoseconds. -/
structure Time where
  unix : Int
  nsec : Nat
  unix_ge : -2 ^ 63 ≤ unix
  unix_lt : unix < 2 ^ 63
  nsec_lt : nsec < 1000000000
  deriving DecidableEq

/-- `time.Unix(0, 0)`. -/
def Time.epoch : Time := ⟨0, 0, by decide, by decide, by decide⟩

/-- The zero `time.Time`, January 1 of year 1. -/
def Time.zero : Time := ⟨-62135596800, 0, by decide, by decide, by decide⟩

/-- `binary.LittleEndian.PutUint32`. -/
def putUint32LE (v : UInt32) : List UInt8 :=
  [UInt8.ofNat v.toNat, UInt8.ofNat (v.toNat / 256), UInt8.ofNat (v.toNat / 256 ^ 2),
    UInt8.ofNat (v.toNat / 256 ^ 3)]

/-- `m[k]` on a Go map: the zero value when `k` is missing. -/
def lookupD {α β : Type} [DecidableEq α] [Inhabited β] (m : AList fun _ : α => β) (k : α) : β :=
  (m.lookup k).getD default

theorem Except.bind_eq_ok {ε α β : Type} {x : Except ε α} {f : α → Except ε β} {b : β}
    (h : x >>= f = .ok b) : ∃ a, x = .ok a ∧ f a = .ok b := by
  cases x with
  | error e => cases h
  | ok a => exact ⟨a, rfl, h⟩

theorem Except.map_eq_ok {ε α β : Type} {x : Except ε α} {f : α → β} {b : β}
    (h : x.map f = .ok b) : ∃ a, x = .ok a ∧ f a = b := by
  cases x with
  | error e => cases h
  | ok a => exact ⟨a, rfl, by cases h; rfl⟩

/-- A list is its `i`-th element and the others: what a goroutine taken out of a list of
goroutines leaves. -/
theorem perm_cons_eraseIdx {α : Type} {l : List α} {i : Nat} {a : α} (h : l[i]? = some a) :
    l.Perm (a :: l.eraseIdx i) := by
  obtain ⟨hi, rfl⟩ := List.getElem?_eq_some_iff.1 h
  have hsplit : l = l.take i ++ l[i] :: l.drop (i + 1) := by
    rw [← List.drop_eq_getElem_cons hi, List.take_append_drop]
  rw [List.eraseIdx_eq_take_drop_succ]
  exact (List.Perm.of_eq hsplit).trans List.perm_middle

namespace State

/-- `const VERSION = 100`. -/
def VERSION : UInt32 := 100

end State

structure Metadata where
  version : UInt32
  creationTime : Time
  «extends» : List Checksum

structure Location where
  packfile : Nat
  offset : UInt32
  length : UInt32
  deriving DecidableEq, Repr

/-- A location table, `map[uint64]Location`. -/
abbrev Locations := AList fun _ : Nat => Location

/-- The five location tables of the state, named after the methods that serve them. -/
inductive Kind
  | chunk
  | object
  | file
  | directory
  | blob
  deriving DecidableEq, Repr

/-- The table `SetPackfileFor<K>` stores into. -/
def Kind.written : Kind → Kind
  | .chunk => .chunk
  | _ => .object

/-- The table `<K>Exists` reads. -/
def Kind.existsTable : Kind → Kind
  | .blob => .directory
  | k => k

structure State where
  checksumToId : AList fun _ : Checksum => Nat
  idToChecksum : AList fun _ : Nat => Checksum
  chunks : Locations
  objects : Locations
  files : Locations
  directories : Locations
  blobs : Locations
  metadata : Metadata
  dirty : Bool

namespace State

/-! ## Tables -/

/-- The table of kind `k` (`st.Chunks`, `st.Objects`, ...). -/
def table (st : State) : Kind → Locations
  | .chunk => st.chunks
  | .object => st.objects
  | .file => st.files
  | .directory => st.directories
  | .blob => st.blobs

def setTable (st : State) : Kind → Locations → State
  | .chunk, m => { st with chunks := m }
  | .object, m => { st with objects := m }
  | .file, m => { st with files := m }
  | .directory, m => { st with directories := m }
  | .blob, m => { st with blobs := m }

@[simp] theorem table_setTable_self (st : State) (k : Kind) (m : Locations) :
    (st.setTable k m).table k = m := by
  cases k <;> rfl

@[simp] theorem table_setTable_of_ne (st : State) {k k' : Kind} (m : Locations) (h : k' ≠ k) :
    (st.setTable k m).table k' = st.table k' := by
  cases k <;> cases k' <;> first | rfl | exact absurd rfl h

@[simp] theorem idToChecksum_setTable (st : State) (k : Kind) (m : Locations) :
    (st.setTable k m).idToChecksum = st.idToChecksum := by
  cases k <;> rfl

@[simp] theorem checksumToId_setTable (st : State) (k : Kind) (m : Locations) :
    (st.setTable k m).checksumToId = st.checksumToId := by
  cases k <;> rfl

@[simp] theorem metadata_setTable (st : State) (k : Kind) (m : Locations) :
    (st.setTable k m).metadata = st.metadata := by
  cases k <;> rfl

@[simp] theorem dirty_setTable (st : State) (k : Kind) (m : Locations) :
    (st.setTable k m).dirty = st.dirty := by
  cases k <;> rfl

/-! ## Interning -/

/-- `len(st.IdToChecksum)`, the next fresh id. -/
def size (st : State) : Nat := st.idToChecksum.entries.length

/-- `st.checksumToId[checksum] = newID; st.IdToChecksum[newID] = checksum` with
`newID = len(st.IdToChecksum)`. -/
def insertChecksum (st : State) (checksum : Checksum) : State :=
  { st with checksumToId := st.checksumToId.insert checksum st.size,
            idToChecksum := st.idToChecksum.insert st.size checksum }

def getOrCreateIdForChecksum (st : State) (checksum : Checksum) : State × Nat :=
  match st.checksumToId.lookup checksum with
  | some id => (st, id)
  | none => (st.insertChecksum checksum, st.size)

@[simp] theorem idToChecksum_insertChecksum (st : State) (c : Checksum) :
    (st.insertChecksum c).idToChecksum = st.idToChecksum.insert st.size c := rfl

@[simp] theorem checksumToId_insertChecksum (st : State) (c : Checksum) :
    (st.insertChecksum c).checksumToId = st.checksumToId.insert c st.size := rfl

@[simp] theorem table_insertChecksum (st : State) (c : Checksum) (k : Kind) :
    (st.insertChecksum c).table k = st.table k := by
  cases k <;> rfl

@[simp] theorem metadata_insertChecksum (st : State) (c : Checksum) :
    (st.insertChecksum c).metadata = st.metadata := rfl

@[simp] theorem dirty_insertChecksum (st : State) (c : Checksum) :
    (st.insertChecksum c).dirty = st.dirty := rfl

theorem getOrCreateIdForChecksum_of_none (st : State) {c : Checksum}
    (h : st.checksumToId.lookup c = none) :
    st.getOrCreateIdForChecksum c = (st.insertChecksum c, st.size) := by
  simp [getOrCreateIdForChecksum, h]

theorem getOrCreateIdForChecksum_of_some (st : State) {c : Checksum} {id : Nat}
    (h : st.checksumToId.lookup c = some id) : st.getOrCreateIdForChecksum c = (st, id) := by
  simp [getOrCreateIdForChecksum, h]

@[simp] theorem table_getOrCreateIdForChecksum (st : State) (c : Checksum) (k : Kind) :
    (st.getOrCreateIdForChecksum c).1.table k = st.table k := by
  unfold getOrCreateIdForChecksum; split <;> simp

@[simp] theorem metadata_getOrCreateIdForChecksum (st : State) (c : Checksum) :
    (st.getOrCreateIdForChecksum c).1.metadata = st.metadata := by
  unfold getOrCreateIdForChecksum; split <;> simp

@[simp] theorem dirty_getOrCreateIdForChecksum (st : State) (c : Checksum) :
    (st.getOrCreateIdForChecksum c).1.dirty = st.dirty := by
  unfold getOrCreateIdForChecksum; split <;> simp

/-! ## Registration -/

/-- `atomic.StoreInt32(&st.dirty, 1)`. -/
def markDirty (st : State) : State := { st with dirty := true }

@[simp] theorem table_markDirty (st : State) (k : Kind) : st.markDirty.table k = st.table k := by
  cases k <;> rfl

@[simp] theorem idToChecksum_markDirty (st : State) :
    st.markDirty.idToChecksum = st.idToChecksum := rfl

@[simp] theorem checksumToId_markDirty (st : State) :
    st.markDirty.checksumToId = st.checksumToId := rfl

@[simp] theorem metadata_markDirty (st : State) : st.markDirty.metadata = st.metadata := rfl

@[simp] theorem dirty_markDirty (st : State) : st.markDirty.dirty = true := rfl

/-- The last step of every `SetPackfileFor*`, done under the table's mutex: if `checked` has no
location for `id`, store `loc` in `written` and set the dirty flag. -/
def storeIn (checked written : Kind) (id : Nat) (loc : Location) (st : State) : State :=
  if id ∈ st.table checked then st
  else (st.setTable written ((st.table written).insert id loc)).markDirty

/-- The body of the five `SetPackfileFor*`: intern the packfile's checksum, then the blob's,
then `storeIn`. -/
def setPackfileIn (checked written : Kind) (st : State) (packfileChecksum checksum : Checksum)
    (packfileOffset length : UInt32) : State :=
  let (st, packfileID) := st.getOrCreateIdForChecksum packfileChecksum
  let (st, id) := st.getOrCreateIdForChecksum checksum
  st.storeIn checked written id ⟨packfileID, packfileOffset, length⟩

def setPackfileForChunk : State → Checksum → Checksum → UInt32 → UInt32 → State :=
  setPackfileIn .chunk .chunk

def setPackfileForObject : State → Checksum → Checksum → UInt32 → UInt32 → State :=
  setPackfileIn .object .object

/-- The source checks `st.Files` and stores into `st.Objects`. -/
def setPackfileForFile : State → Checksum → Checksum → UInt32 → UInt32 → State :=
  setPackfileIn .file .object

/-- The source checks `st.Directories` and stores into `st.Objects`. -/
def setPackfileForDirectory : State → Checksum → Checksum → UInt32 → UInt32 → State :=
  setPackfileIn .directory .object

/-- The source checks `st.Blobs` and stores into `st.Objects`. -/
def setPackfileForBlob : State → Checksum → Checksum → UInt32 → UInt32 → State :=
  setPackfileIn .blob .object

/-- `SetPackfileFor<K>`, by kind. -/
def setPackfileFor : Kind → State → Checksum → Checksum → UInt32 → UInt32 → State
  | .chunk => setPackfileForChunk
  | .object => setPackfileForObject
  | .file => setPackfileForFile
  | .directory => setPackfileForDirectory
  | .blob => setPackfileForBlob

theorem setPackfileFor_eq (k : Kind) :
    setPackfileFor k = setPackfileIn k k.written := by
  cases k <;> rfl

/-! ## Queries -/

/-- A result of `GetSubpartFor*`: `(packfileChecksum, offset, length, exists)`. -/
abbrev Subpart := Checksum × UInt32 × UInt32 × Bool

/-- The body of the five `GetSubpartFor*`. -/
def getSubpartIn (k : Kind) (st : State) (checksum : Checksum) : State × Subpart :=
  let (st, id) := st.getOrCreateIdForChecksum checksum
  match (st.table k).lookup id with
  | none => (st, (Checksum.zero, 0, 0, false))
  | some subpart => (st, (lookupD st.idToChecksum subpart.packfile, subpart.offset, subpart.length, true))

def getSubpartForChunk := getSubpartIn .chunk
def getSubpartForObject := getSubpartIn .object
def getSubpartForFile := getSubpartIn .file
def getSubpartForDirectory := getSubpartIn .directory
def getSubpartForBlob := getSubpartIn .blob

/-- `GetSubpartFor<K>`, by kind. -/
def getSubpartFor : Kind → State → Checksum → State × Subpart
  | .chunk => getSubpartForChunk
  | .object => getSubpartForObject
  | .file => getSubpartForFile
  | .directory => getSubpartForDirectory
  | .blob => getSubpartForBlob

theorem getSubpartFor_eq (k : Kind) : getSubpartFor k = getSubpartIn k := by
  cases k <;> rfl

/-- The body of the five `GetPackfileFor*`: `(packfileChecksum, exists)`. -/
def getPackfileIn (k : Kind) (st : State) (checksum : Checksum) : State × (Checksum × Bool) :=
  let (st, id) := st.getOrCreateIdForChecksum checksum
  match (st.table k).lookup id with
  | none => (st, (Checksum.zero, false))
  | some subpart => (st, (lookupD st.idToChecksum subpart.packfile, true))

def getPackfileForChunk := getPackfileIn .chunk
def getPackfileForObject := getPackfileIn .object
def getPackfileForFile := getPackfileIn .file
def getPackfileForDirectory := getPackfileIn .directory
def getPackfileForBlob := getPackfileIn .blob

/-- `GetPackfileFor<K>`, by kind. -/
def getPackfileFor : Kind → State → Checksum → State × (Checksum × Bool)
  | .chunk => getPackfileForChunk
  | .object => getPackfileForObject
  | .file => getPackfileForFile
  | .directory => getPackfileForDirectory
  | .blob => getPackfileForBlob

theorem getPackfileFor_eq (k : Kind) : getPackfileFor k = getPackfileIn k := by
  cases k <;> rfl

/-- The body of the five `*Exists`: is there a location in table `k`. -/
def existsIn (k : Kind) (st : State) (checksum : Checksum) : State × Bool :=
  let (st, id) := st.getOrCreateIdForChecksum checksum
  (st, decide (id ∈ st.table k))

def chunkExists := existsIn .chunk
def objectExists := existsIn .object
def fileExists := existsIn .file
def directoryExists := existsIn .directory
/-- The source takes `st.muBlobs` and reads `st.Directories`. -/
def blobExists := existsIn .directory

/-- `<K>Exists`, by kind. -/
def existsFor : Kind → State → Checksum → State × Bool
  | .chunk => chunkExists
  | .object => objectExists
  | .file => fileExists
  | .directory => directoryExists
  | .blob => blobExists

theorem existsFor_eq (k : Kind) : existsFor k = existsIn k.existsTable := by
  cases k <;> rfl

/-! ## Lineage, dirty flag, merge, load -/

def «extends» (st : State) (stateID : Checksum) : State :=
  { st with metadata := { st.metadata with «extends» := st.metadata.«extends» ++ [stateID] } }

def resetDirty (st : State) : State := { st with dirty := false }

@[simp] theorem table_resetDirty (st : State) (k : Kind) : st.resetDirty.table k = st.table k := by
  cases k <;> rfl

@[simp] theorem table_extends (st : State) (stateID : Checksum) (k : Kind) :
    (st.extends stateID).table k = st.table k := by
  cases k <;> rfl

/-- Register every location of `deltaState`'s table `k` in `st`, translating ids back to
checksums through `deltaState.IdToChecksum`. -/
def mergeTable (k : Kind) (deltaState st : State) : State :=
  (deltaState.table k).entries.foldl (fun st e =>
    setPackfileFor k st (lookupD deltaState.idToChecksum e.2.packfile)
      (lookupD deltaState.idToChecksum e.1) e.2.offset e.2.length) st

/-- `st.Merge(stateID, deltaState)`; `stateID` is not read. -/
def merge (st : State) (_stateID : Checksum) (deltaState : State) : State :=
  [Kind.chunk, .object, .file, .directory, .blob].foldl (fun st k => mergeTable k deltaState st) st

/-- Rebuild `checksumToId` by reversing `IdToChecksum`. -/
def rebuildChecksums (st : State) : State :=
  { st with checksumToId := st.idToChecksum.entries.foldl (fun m e => m.insert e.2 e.1) ∅ }

/-- `state.New()`, created at `now`. -/
def new (now : Time) : State where
  checksumToId := ∅
  idToChecksum := ∅
  chunks := ∅
  objects := ∅
  files := ∅
  directories := ∅
  blobs := ∅
  metadata := ⟨VERSION, now, []⟩
  dirty := false

end State

end Plakar
