import Plakar.Packfile

/-!
# The snapshot session

`Snapshot.New` starts `runtime.NumCPU()` packer workers on a channel of capacity
`2 * NumCPU + 1`.  The `Put*` methods seal a payload and send it.  Each worker adds the messages
it receives to its own packfile builder.  It hands the builder to `PutPackfile` when the builder
passes `PackfileSize`, and once more after the channel is closed and drained.  `PutPackfile`
stores the packfile and registers its blobs in the repository's state and in the session's delta.

The session is a state machine (`Session.step`) over four kinds of action, taken in any order a
scheduler picks:

* a `Put*` call;
* the `close` of `Commit`;
* worker `i` receiving one message;
* worker `i` leaving its loop.

A worker's `PutPackfile` runs inside the step that calls it.  A blocked operation (a send on a
full channel, a receive on an empty one) and a crash (a panic) are both `none`.

Ghost fields record what the packer did, for the theorems to read:

* the messages sent;
* each `AddBlob`, with the builder it went to (builders are numbered as they are created);
* each builder handed to `PutPackfile`;
* each `SetPackfileFor*` call.
-/

namespace Plakar

namespace State

/-- Modelled from the spec: `SetPackfileForData`, which `Snapshot.PutPackfile` calls and state.go
lacks, registers into the blob/data map, first writer wins. -/
def setPackfileForData : State → Checksum → Checksum → UInt32 → UInt32 → State :=
  setPackfileIn .blob .blob

end State

namespace Snapshot

/-- The repository as the session uses it: its configuration, its codec, its backend, and the
`packfile` methods, each as the function it computes. -/
structure Repo where
  packfileSize : Nat
  size : PackFile → UInt32
  encode : List UInt8 → Except String (List UInt8)
  checksum : List UInt8 → Checksum
  serializeData : PackFile → Except String (List UInt8)
  serializeIndex : PackFile → Except String (List UInt8)
  serializeFooter : PackFile → Except String (List UInt8)
  footerVersion : UInt32
  putPackfile : Checksum → List UInt8 → Except String Unit

/-- `PackerMsg`, without the `Timestamp` that only the trace log reads. -/
structure PackerMsg where
  type : BlobType
  checksum : Checksum
  data : List UInt8
  deriving DecidableEq

/-! ## Producer -/

/-- The body of the six `Put*` methods: seal the payload with `repository.Encode`.  On success,
the message they send on `packerChan`. -/
def put (r : Repo) (type : BlobType) (checksum : Checksum) (data : List UInt8) :
    Except String PackerMsg :=
  (r.encode data).map fun encoded => ⟨type, checksum, encoded⟩

def putHeader (r : Repo) : Checksum → List UInt8 → Except String PackerMsg := put r .snapshot

def putChunk (r : Repo) : Checksum → List UInt8 → Except String PackerMsg := put r .chunk

def putData (r : Repo) : Checksum → List UInt8 → Except String PackerMsg := put r .data

def putObject (r : Repo) : Checksum → List UInt8 → Except String PackerMsg := put r .object

def putFile (r : Repo) : Checksum → List UInt8 → Except String PackerMsg := put r .file

def putDirectory (r : Repo) : Checksum → List UInt8 → Except String PackerMsg := put r .directory

/-! ## Registration -/

/-- Modelled from the spec: the state `PutPackfile` registers into, with the `snapshot` map, the
sixth of the spec's per-kind maps, beside the five tables of `State`. -/
structure Registry where
  state : State
  snapshots : Locations

namespace Registry

/-- Modelled from the spec: `SetPackfileForSnapshot`, a first-writer-wins registration into the
`snapshot` map, interning like `SetPackfileFor<K>`. -/
def setPackfileForSnapshot (reg : Registry) (p c : Checksum) (o l : UInt32) : Registry :=
  let (st, pid) := reg.state.getOrCreateIdForChecksum p
  let (st, id) := st.getOrCreateIdForChecksum c
  if id ∈ reg.snapshots then ⟨st, reg.snapshots⟩
  else ⟨st.markDirty, reg.snapshots.insert id ⟨pid, o, l⟩⟩

/-- The `SetPackfileFor<T>` that `PutPackfile` calls for a blob of type `t`. -/
def setPackfileFor (reg : Registry) : BlobType → Checksum → Checksum → UInt32 → UInt32 → Registry
  | .chunk, p, c, o, l => { reg with state := reg.state.setPackfileForChunk p c o l }
  | .object, p, c, o, l => { reg with state := reg.state.setPackfileForObject p c o l }
  | .file, p, c, o, l => { reg with state := reg.state.setPackfileForFile p c o l }
  | .directory, p, c, o, l => { reg with state := reg.state.setPackfileForDirectory p c o l }
  | .data, p, c, o, l => { reg with state := reg.state.setPackfileForData p c o l }
  | .snapshot, p, c, o, l => reg.setPackfileForSnapshot p c o l

end Registry

/-- One `SetPackfileFor<T>(_, checksum, _, _)` call: on the delta, or on the repository's state. -/
structure Registration where
  toDelta : Bool
  type : BlobType
  checksum : Checksum
  deriving DecidableEq

/-- What `PutPackfile` writes: the backend's packfiles, the repository's state and the delta. -/
structure Sink where
  packfiles : List (Checksum × List UInt8)
  repoState : Registry
  stateDelta : Registry
  registered : List Registration

namespace Sink

/-- One pair of calls of a registration loop: the repository's state, then the delta. -/
def register (k : Sink) (t : BlobType) (mac c : Checksum) (o l : UInt32) : Sink :=
  { k with
    repoState := k.repoState.setPackfileFor t mac c o l
    stateDelta := k.stateDelta.setPackfileFor t mac c o l
    registered := k.registered ++ [⟨false, t, c⟩, ⟨true, t, c⟩] }

/-- One registration loop of `PutPackfile`: each checksum of the list is registered at the
first index entry that carries it, if there is one. -/
def registerAll (k : Sink) (mac : Checksum) (pack : PackFile) (t : BlobType)
    (cs : List Checksum) : Sink :=
  cs.foldl (fun k c =>
    match pack.find c with
    | some blob => k.register t mac c blob.offset blob.length
    | none => k) k

/-- `Snapshot.PutPackfile`: the data area, the sealed index, the sealed footer, the footer's
version and the sealed footer's length as one byte, stored under their checksum; then one
registration loop per type, chunks first and snapshots last.  A panic inside it and an error it
returns both end in the worker's panic, so both are an error here. -/
def putPackfile (r : Repo) (k : Sink) (pack : PackFile)
    (objects chunks files directories datas snapshots : List Checksum) : Except String Sink := do
  let serializedData ← r.serializeData pack
  let serializedIndex ← r.serializeIndex pack
  let serializedFooter ← r.serializeFooter pack
  let encryptedIndex ← r.encode serializedIndex
  let encryptedFooter ← r.encode serializedFooter
  let serializedPackfile := serializedData ++ encryptedIndex ++ encryptedFooter ++
    putUint32LE r.footerVersion ++ [UInt8.ofNat encryptedFooter.length]
  let checksum32 := r.checksum serializedPackfile
  r.putPackfile checksum32 serializedPackfile
  let k := { k with packfiles := k.packfiles ++ [(checksum32, serializedPackfile)] }
  let k := k.registerAll checksum32 pack .chunk chunks
  let k := k.registerAll checksum32 pack .object objects
  let k := k.registerAll checksum32 pack .file files
  let k := k.registerAll checksum32 pack .directory directories
  let k := k.registerAll checksum32 pack .data datas
  pure (k.registerAll checksum32 pack .snapshot snapshots)

end Sink

/-! ## Workers -/

/-- A worker's six sets of checksums, `snapshotHeaders` to `datas`. -/
structure SeenSets where
  snapshotHeaders : List Checksum
  chunks : List Checksum
  objects : List Checksum
  files : List Checksum
  directories : List Checksum
  datas : List Checksum

def SeenSets.empty : SeenSets := ⟨[], [], [], [], [], []⟩

/-- `set[msg.Checksum] = struct{}{}` on the set of the message's type. -/
def SeenSets.record (seen : SeenSets) (c : Checksum) : BlobType → SeenSets
  | .snapshot => { seen with snapshotHeaders := seen.snapshotHeaders.insert c }
  | .chunk => { seen with chunks := seen.chunks.insert c }
  | .object => { seen with objects := seen.objects.insert c }
  | .file => { seen with files := seen.files.insert c }
  | .directory => { seen with directories := seen.directories.insert c }
  | .data => { seen with datas := seen.datas.insert c }

/-- `l := make([][32]byte, len(set))`, then `l = append(l, c)` for each `c` of the set: `len(set)`
zero checksums, then the set.  Go ranges over a map in an order it leaves open; this is one. -/
def flushList (set : List Checksum) : List Checksum :=
  List.replicate set.length Checksum.zero ++ set

/-- The worker's call `PutPackfile(pack, objectsList, chunksList, filesList, directoriesList,
datasList, snapshotHeadersList)`, each list built from its set by `flushList`. -/
def Sink.putPackfileFrom (r : Repo) (k : Sink) (pack : PackFile) (seen : SeenSets) :
    Except String Sink :=
  k.putPackfile r pack (flushList seen.objects) (flushList seen.chunks) (flushList seen.files)
    (flushList seen.directories) (flushList seen.datas) (flushList seen.snapshotHeaders)

/-- A worker's variables: its builder (`pack`, with the builder's number) and its six sets, and
whether it has left its loop. -/
structure Worker where
  pack : Option PackFile
  builder : Nat
  seen : SeenSets
  exited : Bool

def Worker.init : Worker := ⟨none, 0, .empty, false⟩

/-- The channel and the workers. -/
structure Packer where
  chan : List PackerMsg
  closed : Bool
  workers : Nat → Worker
  nextBuilder : Nat
  sent : List PackerMsg
  added : List (Nat × PackerMsg)
  flushed : List (Nat × PackFile)

namespace Packer

/-- `packerChan <- msg`. -/
def send (p : Packer) (msg : PackerMsg) : Packer :=
  { p with chan := p.chan ++ [msg], sent := p.sent ++ [msg] }

/-- `close(packerChan)`. -/
def close (p : Packer) : Packer := { p with closed := true }

/-- The builder worker `i` adds to: its own, or a new one (`packfile.New()` and six empty sets)
numbered `p.nextBuilder`. -/
def builderOf (p : Packer) (i : Nat) : PackFile × Nat × SeenSets :=
  match (p.workers i).pack with
  | none => (PackFile.new, p.nextBuilder, SeenSets.empty)
  | some pack => (pack, (p.workers i).builder, (p.workers i).seen)

/-- The loop body of worker `i` on `msg` up to the size check: `AddBlob`, then record. -/
def receive (p : Packer) (i : Nat) (msg : PackerMsg) : Packer :=
  { p with
    workers := Function.update p.workers i
      { p.workers i with
        pack := some ((p.builderOf i).1.addBlob msg.type msg.checksum msg.data)
        builder := (p.builderOf i).2.1
        seen := (p.builderOf i).2.2.record msg.checksum msg.type }
    nextBuilder := if (p.workers i).pack.isSome then p.nextBuilder else p.nextBuilder + 1
    added := p.added ++ [((p.builderOf i).2.1, msg)] }

/-- Worker `i` has handed its builder `pack` to `PutPackfile`: `pack = nil`. -/
def release (p : Packer) (i : Nat) (pack : PackFile) : Packer :=
  { p with
    workers := Function.update p.workers i { p.workers i with pack := none }
    flushed := p.flushed ++ [((p.workers i).builder, pack)] }

/-- Worker `i` has left its loop: `wg.Done()`. -/
def setExited (p : Packer) (i : Nat) : Packer :=
  { p with workers := Function.update p.workers i { p.workers i with exited := true } }

/-- `wg.Wait()` has returned and `packerChanDone` is signalled: every worker has left. -/
def Done (w : Nat) (p : Packer) : Prop := ∀ i < w, (p.workers i).exited = true

instance (w : Nat) (p : Packer) : Decidable (p.Done w) :=
  inferInstanceAs (Decidable (∀ i < w, (p.workers i).exited = true))

/-- The messages added to builder `b`, in order. -/
def msgsOf (p : Packer) (b : Nat) : List PackerMsg :=
  (p.added.filter fun e => e.1 = b).map Prod.snd

end Packer

/-- The packfile a builder holds after adding `msgs`. -/
def PackFile.ofMsgs (msgs : List PackerMsg) : PackFile :=
  msgs.foldl (fun pack m => pack.addBlob m.type m.checksum m.data) PackFile.new

/-! ## The session -/

structure Session where
  packer : Packer
  sink : Sink

/-- A step of the session: a `Put*` call, the `close(packerChan)` of `Commit`, worker `worker`
receiving one message, or worker `worker` leaving its loop. -/
inductive Action
  | put (type : BlobType) (checksum : Checksum) (data : List UInt8)
  | close
  | recv (worker : Nat)
  | exit (worker : Nat)

namespace Session

/-- `Snapshot.New` on a repository whose state is `reg`: an empty delta that extends what the
repository's state extends, an open channel, idle workers. -/
def new (reg : Registry) (now : Time) : Session where
  packer := ⟨[], false, fun _ => Worker.init, 0, [], [], []⟩
  sink :=
    { packfiles := []
      repoState := reg
      stateDelta :=
        ⟨{ State.new now with
            metadata := { (State.new now).metadata with «extends» := reg.state.metadata.extends } },
          ∅⟩
      registered := [] }

/-- Worker `i` hands its builder to `PutPackfile` and drops it. -/
def flush (r : Repo) (s : Session) (i : Nat) : Option Session :=
  match (s.packer.workers i).pack with
  | none => some s
  | some pack =>
    match s.sink.putPackfileFrom r pack (s.packer.workers i).seen with
    | .ok sink => some ⟨s.packer.release i pack, sink⟩
    | .error _ => none

/-- One step with `w` workers.  A `Put*` whose `Encode` fails returns its error and sends
nothing.  A send blocks on a full channel and panics on a closed one.  Worker `i` receives the
oldest message, and flushes if `pack.Size() > uint32(PackfileSize)`.  It leaves its loop once
the channel is closed and drained, flushing what it still holds. -/
def step (r : Repo) (w : Nat) (s : Session) : Action → Option Session
  | .put t c d =>
    match put r t c d with
    | .error _ => some s
    | .ok msg =>
      if s.packer.closed = false ∧ s.packer.chan.length < 2 * w + 1 then
        some { s with packer := s.packer.send msg }
      else none
  | .close => if s.packer.closed = false then some { s with packer := s.packer.close } else none
  | .recv i =>
    match s.packer.chan with
    | [] => none
    | msg :: rest =>
      if i < w ∧ (s.packer.workers i).exited = false then
        let p := { s.packer with chan := rest }
        let s' := { s with packer := p.receive i msg }
        if r.size ((p.builderOf i).1.addBlob msg.type msg.checksum msg.data) >
            UInt32.ofNat r.packfileSize then s'.flush r i
        else some s'
      else none
  | .exit i =>
    if i < w ∧ (s.packer.workers i).exited = false ∧ s.packer.closed = true ∧
        s.packer.chan = [] then
      (s.flush r i).map fun s => { s with packer := s.packer.setExited i }
    else none

def exec (r : Repo) (w : Nat) : Session → List Action → Option Session
  | s, [] => some s
  | s, a :: acts => (step r w s a).bind fun s => exec r w s acts

end Session

/-- A repository that neither compresses nor encrypts, whose packfiles close past `packfileSize`
bytes of data, and whose backend takes every packfile; the packfile's checksum is the sum of its
bytes.  The runs on fixed inputs use it. -/
def Repo.plain (packfileSize : Nat) : Repo where
  packfileSize := packfileSize
  size pack := UInt32.ofNat pack.data.length
  encode := .ok
  checksum bytes := .ofByte (bytes.foldl (· + ·) 0)
  serializeData pack := .ok pack.data
  serializeIndex _ := .ok []
  serializeFooter _ := .ok []
  footerVersion := 1
  putPackfile _ _ := .ok ()

end Snapshot

end Plakar
