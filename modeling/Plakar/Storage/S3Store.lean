import Plakar.Storage.S3
import Plakar.Snapshot.Read

/-!
# What the S3 backend stores

The S3 `Repository` (src/cmd/plakar/subcommands/check/check_test.go) keeps one object of the
bucket per state, packfile and lock, under the keys of `Obj.key`, and the configuration under
`CONFIG`.  `PutObject` replaces the object under its key, `RemoveObject` removes it, and a reader
of `GetObject` yields its bytes, or `NoSuchKey` on its first read.

What the backend is for is a store of objects (`Store`): each object holds the bytes of its last
put, or nothing once deleted.  Distinct objects have distinct keys (`Obj.key_injective`), so
every call changes the object it names and no other, and the bucket holds the store along every
run (`refines_run`).  Hence after `Create(config)`, whatever `Put*` and `Delete*` follow, `Open`
returns `config` and each `Get*` the last bytes put (`run_reads_last_put`).  The bucket's keys
are those of a list of distinct objects (`KeysOf`), so `GetStates`, `GetPackfiles` and `GetLocks`
list each object the store holds once (`run_lists_stored`).  S3 lists keys in lexicographic
order, the model in the bucket's; the results say which MACs are listed, and each once.

The read path of a session assumes a store where the packfile read under a checksum is the last
one written under it (`Snapshot.latest`).  On every run without `DeletePackfile`, that is what
this backend's `GetPackfileBlob` reads (`run_getPackfileBlob`).
-/

namespace Plakar

namespace S3

/-- A bucket: the key and the bytes of each object. -/
abbrev Bucket := List (List UInt8 × List UInt8)

namespace Bucket

/-- The bytes of the object under `key`, if there is one. -/
def lookup (b : Bucket) (key : List UInt8) : Option (List UInt8) :=
  (b.find? fun e => e.1 = key).map Prod.snd

/-- `RemoveObject(ctx, bucketName, key, ...)`: the object under `key`, if any, removed. -/
def removeObject (b : Bucket) (key : List UInt8) : Bucket := b.filter fun e => e.1 ≠ key

/-- `PutObject(ctx, bucketName, key, rd, ...)`: the object under `key` replaced by `data`. -/
def putObject (b : Bucket) (key data : List UInt8) : Bucket := (key, data) :: b.removeObject key

/-- `GetObject(ctx, bucketName, key, ...)`, read to the end: the object's bytes, or the
`NoSuchKey` error of the first read (`GetObject` itself sends no request). -/
def getObject (b : Bucket) (key : List UInt8) : Except String (List UInt8) :=
  match b.lookup key with
  | some data => .ok data
  | none => .error "NoSuchKey"

/-- `object.ReadAt(buffer, offset)` with `len(buffer) = length` on the object under `key`, as
`io.ReaderAt` states it: the `length` bytes at `offset`, `io.EOF` when fewer are left, and
`NoSuchKey` when there is no object. -/
def readAt (b : Bucket) (key : List UInt8) (offset length : Nat) : Except String (List UInt8) :=
  match b.lookup key with
  | none => .error "NoSuchKey"
  | some bytes =>
    let buffer := Snapshot.extract bytes offset length
    if buffer.length = length then .ok buffer else .error "EOF"

end Bucket

/-! ## The repository's methods -/

/-- `Create(config)`, once `location` is parsed and the client connected: `MakeBucket` if there
is no bucket (`none`), "bucket already initialized" if `StatObject(CONFIG)` finds an object, else
`PutObject(CONFIG, config)`. -/
def create (bucket : Option Bucket) (config : List UInt8) : Except String Bucket :=
  let b := bucket.getD []
  if (b.lookup Obj.config.key).isSome then .error "bucket already initialized"
  else .ok (b.putObject Obj.config.key config)

/-- `Open()`, once `location` is parsed and the client connected: "bucket does not exist", the
failed `Stat` of a missing `CONFIG`, or the bytes of `CONFIG`, which one `Read` into a buffer of
the object's size fills. -/
def «open» : Option Bucket → Except String (List UInt8)
  | none => .error "bucket does not exist"
  | some b => (b.getObject Obj.config.key).mapError fun e => "error getting object stat: " ++ e

def putState (b : Bucket) (mac : Checksum) (data : List UInt8) : Bucket :=
  b.putObject (stateKey mac) data

def getState (b : Bucket) (mac : Checksum) : Except String (List UInt8) :=
  b.getObject (stateKey mac)

def deleteState (b : Bucket) (mac : Checksum) : Bucket := b.removeObject (stateKey mac)

def putPackfile (b : Bucket) (mac : Checksum) (data : List UInt8) : Bucket :=
  b.putObject (packfileKey mac) data

def getPackfile (b : Bucket) (mac : Checksum) : Except String (List UInt8) :=
  b.getObject (packfileKey mac)

/-- `GetPackfileBlob(mac, offset, length)`: `ReadAt` at `int64(offset)`, which fails on a
negative offset; "short read" if it returned fewer than `length` bytes without an error. -/
def getPackfileBlob (b : Bucket) (mac : Checksum) (offset : UInt64) (length : UInt32) :
    Except String (List UInt8) :=
  (if offset.toNat < 2 ^ 63 then b.readAt (packfileKey mac) offset.toNat length.toNat
    else .error "negative offset").bind fun buffer =>
    if buffer.length ≠ length.toNat then .error "short read" else .ok buffer

def deletePackfile (b : Bucket) (mac : Checksum) : Bucket := b.removeObject (packfileKey mac)

def putLock (b : Bucket) (mac : Checksum) (data : List UInt8) : Bucket :=
  b.putObject (lockKey mac) data

def getLock (b : Bucket) (mac : Checksum) : Except String (List UInt8) :=
  b.getObject (lockKey mac)

def deleteLock (b : Bucket) (mac : Checksum) : Bucket := b.removeObject (lockKey mac)

/-- The methods that write a created bucket. -/
inductive Call
  | putState (mac : Checksum) (data : List UInt8)
  | deleteState (mac : Checksum)
  | putPackfile (mac : Checksum) (data : List UInt8)
  | deletePackfile (mac : Checksum)
  | putLock (mac : Checksum) (data : List UInt8)
  | deleteLock (mac : Checksum)

def Call.apply (b : Bucket) : Call → Bucket
  | .putState mac data => S3.putState b mac data
  | .deleteState mac => S3.deleteState b mac
  | .putPackfile mac data => S3.putPackfile b mac data
  | .deletePackfile mac => S3.deletePackfile b mac
  | .putLock mac data => S3.putLock b mac data
  | .deleteLock mac => S3.deleteLock b mac

/-- The packfile a call puts, if it is a `PutPackfile`. -/
def Call.packfilePut : Call → Option (Checksum × List UInt8)
  | .putPackfile mac data => some (mac, data)
  | _ => none

/-! ## The store the backend implements -/

/-- Each object's bytes, or nothing. -/
abbrev Store := Obj → Option (List UInt8)

/-- The object a call writes, and what it leaves there: the bytes put, or nothing. -/
def Call.target : Call → Obj × Option (List UInt8)
  | .putState mac data => (.state mac, some data)
  | .deleteState mac => (.state mac, none)
  | .putPackfile mac data => (.packfile mac, some data)
  | .deletePackfile mac => (.packfile mac, none)
  | .putLock mac data => (.lock mac, some data)
  | .deleteLock mac => (.lock mac, none)

/-- A call sets its object and no other. -/
def Store.apply (σ : Store) (c : Call) : Store := Function.update σ c.target.1 c.target.2

/-- The store `Create(config)` makes: `CONFIG` holds `config`, nothing else is stored. -/
def Store.created (config : List UInt8) : Store :=
  Function.update (fun _ => none) .config (some config)

/-- Reading an object of the store: its bytes, or `NoSuchKey`. -/
def Store.get (σ : Store) (o : Obj) : Except String (List UInt8) :=
  match σ o with
  | some data => .ok data
  | none => .error "NoSuchKey"

/-- The bucket holds the store: under each object's key, that object's bytes. -/
def Refines (b : Bucket) (σ : Store) : Prop := ∀ o, b.lookup o.key = σ o

/-! ## Lemmas -/

namespace Bucket

theorem lookup_removeObject (b : Bucket) (key key' : List UInt8) :
    lookup (removeObject b key) key' = if key' = key then none else lookup b key' := by
  rw [lookup, removeObject, List.find?_filter]
  split_ifs with hk
  · subst hk
    rw [List.find?_eq_none.2 fun x _ => by simp]
    rfl
  · congr 2
    funext e
    by_cases h : e.1 = key' <;> simp [h, hk]

theorem lookup_putObject (b : Bucket) (key data key' : List UInt8) :
    lookup (putObject b key data) key' = if key' = key then some data else lookup b key' := by
  by_cases hk : key' = key
  · simp [putObject, lookup, List.find?_cons, hk]
  · have := lookup_removeObject b key key'
    simp only [hk, if_false, lookup] at this
    simp [putObject, lookup, List.find?_cons, Ne.symm hk, hk, this]

end Bucket

theorem Call.apply_eq (b : Bucket) (c : Call) :
    c.apply b = match c.target.2 with
      | some data => b.putObject c.target.1.key data
      | none => b.removeObject c.target.1.key := by
  cases c <;> rfl

/-- **Step.**  A call on a bucket that holds a store leaves it holding the store with the call's
object set. -/
theorem Refines.apply {b : Bucket} {σ : Store} (h : Refines b σ) (c : Call) :
    Refines (c.apply b) (σ.apply c) := fun o => by
  rw [Call.apply_eq, Store.apply]
  by_cases ho : o = c.target.1
  · subst ho
    cases c.target.2 <;>
      simp [Bucket.lookup_putObject, Bucket.lookup_removeObject]
  · have hk : o.key ≠ c.target.1.key := fun e => ho (Obj.key_injective e)
    rw [Function.update_noteq ho, ← h o]
    cases c.target.2 <;>
      simp only [Bucket.lookup_putObject, Bucket.lookup_removeObject, hk, if_false]

/-- **Run.**  Along every sequence of calls, the bucket holds the store the calls make. -/
theorem refines_run {b : Bucket} {σ : Store} (h : Refines b σ) (calls : List Call) :
    Refines (calls.foldl Call.apply b) (calls.foldl Store.apply σ) := by
  induction calls generalizing b σ with
  | nil => exact h
  | cons c calls ih => exact ih (h.apply c)

/-- `Create` on a new bucket holds `CONFIG` and nothing else. -/
theorem refines_create {config : List UInt8} {b : Bucket} (h : create none config = .ok b) :
    Refines b (Store.created config) := by
  cases h
  intro o
  by_cases ho : o = .config
  · subst ho
    simp [Bucket.lookup_putObject, Store.created]
  · rw [Bucket.lookup_putObject, if_neg fun e => ho (Obj.key_injective e), Store.created,
      Function.update_noteq ho]
    rfl

theorem getObject_of_refines {b : Bucket} {σ : Store} (h : Refines b σ) (o : Obj) :
    b.getObject o.key = σ.get o := by
  rw [Bucket.getObject, h o]
  rfl

/-- No call writes `CONFIG`. -/
theorem Store.run_config (σ : Store) (calls : List Call) :
    calls.foldl Store.apply σ .config = σ .config := by
  induction calls generalizing σ with
  | nil => rfl
  | cons c calls ih =>
    rw [List.foldl_cons, ih, Store.apply, Function.update_noteq]
    cases c <;> simp [Call.target]

/-- **The bucket holds the last put.**  After `Create(config)` on a new bucket, along every
sequence of `Put*` and `Delete*` calls: `Open` returns `config`, a second `Create` fails and
leaves the bucket, and `GetState`, `GetPackfile` and `GetLock` of every MAC read what the store
holds for that object after the same calls: the bytes of its last put, or `NoSuchKey` if it was
never put or deleted since. -/
theorem run_reads_last_put {config : List UInt8} {b : Bucket} (h : create none config = .ok b)
    (calls : List Call) (config' : List UInt8) :
    «open» (some (calls.foldl Call.apply b)) = .ok config ∧
      create (some (calls.foldl Call.apply b)) config' = .error "bucket already initialized" ∧
      ∀ mac, getState (calls.foldl Call.apply b) mac =
          (calls.foldl Store.apply (Store.created config)).get (.state mac) ∧
        getPackfile (calls.foldl Call.apply b) mac =
          (calls.foldl Store.apply (Store.created config)).get (.packfile mac) ∧
        getLock (calls.foldl Call.apply b) mac =
          (calls.foldl Store.apply (Store.created config)).get (.lock mac) := by
  have hr := refines_run (refines_create h) calls
  have hc : (calls.foldl Call.apply b).lookup Obj.config.key = some config := by
    rw [hr .config, Store.run_config]
    simp [Store.created]
  refine ⟨?_, ?_, fun mac => ⟨getObject_of_refines hr (.state mac),
    getObject_of_refines hr (.packfile mac), getObject_of_refines hr (.lock mac)⟩⟩
  · simp [«open», Bucket.getObject, hc, Except.mapError]
  · simp [create, hc]

/-- A packfile and a state put after `Create`, then the state deleted: `GetPackfile` reads the
packfile, `GetState` fails. -/
theorem run_reads_packfile_after_delete :
    ∃ b, create none [1] = .ok b ∧
      getPackfile ([.putPackfile (.ofByte 1) [7], .putState (.ofByte 1) [8],
          .deleteState (.ofByte 1)].foldl Call.apply b) (.ofByte 1) = .ok [7] ∧
      getState ([.putPackfile (.ofByte 1) [7], .putState (.ofByte 1) [8],
          .deleteState (.ofByte 1)].foldl Call.apply b) (.ofByte 1) = .error "NoSuchKey" ∧
      («open» (some ([.putPackfile (.ofByte 1) [7], .putState (.ofByte 1) [8],
          .deleteState (.ofByte 1)].foldl Call.apply b)) = .ok [1] ∧
        create (some ([.putPackfile (.ofByte 1) [7], .putState (.ofByte 1) [8],
          .deleteState (.ofByte 1)].foldl Call.apply b)) [2] =
          .error "bucket already initialized" ∧
        ∀ mac, getState ([.putPackfile (.ofByte 1) [7], .putState (.ofByte 1) [8],
            .deleteState (.ofByte 1)].foldl Call.apply b) mac =
            ([.putPackfile (.ofByte 1) [7], .putState (.ofByte 1) [8],
              .deleteState (.ofByte 1)].foldl Store.apply (Store.created [1])).get (.state mac) ∧
          getPackfile ([.putPackfile (.ofByte 1) [7], .putState (.ofByte 1) [8],
            .deleteState (.ofByte 1)].foldl Call.apply b) mac =
            ([.putPackfile (.ofByte 1) [7], .putState (.ofByte 1) [8],
              .deleteState (.ofByte 1)].foldl Store.apply (Store.created [1])).get (.packfile mac) ∧
          getLock ([.putPackfile (.ofByte 1) [7], .putState (.ofByte 1) [8],
            .deleteState (.ofByte 1)].foldl Call.apply b) mac =
            ([.putPackfile (.ofByte 1) [7], .putState (.ofByte 1) [8],
              .deleteState (.ofByte 1)].foldl Store.apply (Store.created [1])).get (.lock mac)) :=
  (fun h => ⟨_, h, rfl, rfl, run_reads_last_put h _ [2]⟩) rfl

/-! ## The read path's packfile store -/

/-- Without `DeletePackfile`, the packfile a run leaves under `mac` is the last one put there, or
the one the store held before. -/
theorem Store.run_packfile {calls : List Call} (hdel : ∀ mac, Call.deletePackfile mac ∉ calls)
    (σ : Store) (mac : Checksum) :
    calls.foldl Store.apply σ (.packfile mac) =
      (Snapshot.latest (calls.filterMap Call.packfilePut) mac).or (σ (.packfile mac)) := by
  induction calls generalizing σ with
  | nil => rfl
  | cons c calls ih =>
    rw [List.foldl_cons, ih fun m hm => hdel m (List.mem_cons_of_mem _ hm)]
    cases c with
    | putPackfile m d =>
      simp only [List.filterMap_cons, Call.packfilePut, Snapshot.latest, List.reverse_cons,
        List.lookup_append, Option.or_assoc]
      by_cases hm : mac = m
      · subst hm
        simp [Store.apply, Call.target]
      · have : Obj.packfile mac ≠ (Call.putPackfile m d).target.1 :=
          fun e => hm (Obj.packfile.inj e)
        simp [Store.apply, Function.update_noteq this, List.lookup, beq_false_of_ne hm]
    | deletePackfile m => exact absurd (List.mem_cons_self _ _) (hdel m)
    | _ =>
      simp only [List.filterMap_cons, Call.packfilePut]
      rw [Store.apply, Function.update_noteq (by simp [Call.target])]

/-- A ranged read of an object that holds the read path's packfile is the read path's. -/
theorem Bucket.readAt_eq_readAt {b : Bucket} {key : List UInt8}
    {P : List (Checksum × List UInt8)} {mac : Checksum} (h : b.lookup key = Snapshot.latest P mac)
    (offset length : Nat) : b.readAt key offset length = Snapshot.readAt P mac offset length := by
  rcases hl : Snapshot.latest P mac with _ | bytes <;>
    simp only [Bucket.readAt, Snapshot.readAt, h, hl]

/-- **The backend serves the read path's store.**  After `Create` on a new bucket, along every
sequence of calls without `DeletePackfile`, `repository.GetPackfileBlob` over this backend (its
`GetPackfileBlob` at `uint64(offset)`, then `Decode`) reads what the read path of a session reads
in the packfiles put, the last one put under a checksum winning. -/
theorem run_getPackfileBlob {config : List UInt8} {b : Bucket} (h : create none config = .ok b)
    {calls : List Call} (hdel : ∀ mac, Call.deletePackfile mac ∉ calls)
    (decode : List UInt8 → Except String (List UInt8)) (mac : Checksum) (offset length : UInt32) :
    (getPackfileBlob (calls.foldl Call.apply b) mac offset.toUInt64 length).bind decode =
      Snapshot.getPackfileBlob decode (calls.filterMap Call.packfilePut) mac offset length := by
  have hl : (calls.foldl Call.apply b).lookup (packfileKey mac) =
      Snapshot.latest (calls.filterMap Call.packfilePut) mac := by
    rw [show packfileKey mac = (Obj.packfile mac).key from rfl,
      refines_run (refines_create h) calls (.packfile mac), Store.run_packfile hdel]
    simp [Store.created]
  have ho : offset.toNat < 2 ^ 63 := lt_trans offset.toNat_lt_size (by decide)
  simp only [getPackfileBlob, UInt32.toUInt64_toNat, ho, if_true, Snapshot.getPackfileBlob,
    Snapshot.readPackfileBlob, Bucket.readAt_eq_readAt hl]

/-- A packfile put twice under one checksum after `Create`, and a lock: a ranged read reads the
second packfile, as the read path does. -/
theorem run_getPackfileBlob_reads_last :
    ∃ b, create none [1] = .ok b ∧
      (∀ mac, Call.deletePackfile mac ∉
        [.putPackfile (.ofByte 1) [7, 8], .putLock (.ofByte 2) [], .putPackfile (.ofByte 1) [5, 6]]) ∧
      (getPackfileBlob ([.putPackfile (.ofByte 1) [7, 8], .putLock (.ofByte 2) [],
          .putPackfile (.ofByte 1) [5, 6]].foldl Call.apply b) (.ofByte 1) (1 : UInt32).toUInt64 1).bind
          .ok = .ok [6] ∧
      (getPackfileBlob ([.putPackfile (.ofByte 1) [7, 8], .putLock (.ofByte 2) [],
          .putPackfile (.ofByte 1) [5, 6]].foldl Call.apply b) (.ofByte 1) (1 : UInt32).toUInt64 1).bind
          .ok =
        Snapshot.getPackfileBlob .ok ([Call.putPackfile (.ofByte 1) [7, 8], .putLock (.ofByte 2) [],
          .putPackfile (.ofByte 1) [5, 6]].filterMap Call.packfilePut) (.ofByte 1) 1 1 :=
  have hdel : ∀ mac, Call.deletePackfile mac ∉
      [.putPackfile (.ofByte 1) [7, 8], .putLock (.ofByte 2) [], .putPackfile (.ofByte 1) [5, 6]] :=
    fun mac hm => by simp at hm
  (fun h => ⟨_, h, hdel, rfl, run_getPackfileBlob h hdel .ok (.ofByte 1) 1 1⟩) rfl

/-! ## The listings along a run -/

/-- The bucket's keys are those of `objs`, in its order, and no object is there twice. -/
def KeysOf (b : Bucket) (objs : List Obj) : Prop := b.map Prod.fst = objs.map Obj.key ∧ objs.Nodup

theorem Bucket.isSome_lookup (b : Bucket) (key : List UInt8) :
    (b.lookup key).isSome ↔ key ∈ b.map Prod.fst := by
  simp only [Bucket.lookup, Option.isSome_map', List.find?_isSome, List.mem_map, decide_eq_true_eq]

theorem Bucket.map_fst_removeObject (b : Bucket) (key : List UInt8) :
    (b.removeObject key).map Prod.fst = (b.map Prod.fst).filter (· ≠ key) := by
  rw [Bucket.removeObject, List.filter_map]
  rfl

theorem map_key_filter_ne (objs : List Obj) (o : Obj) :
    (objs.filter (· ≠ o)).map Obj.key = (objs.map Obj.key).filter (· ≠ o.key) := by
  rw [List.filter_map]
  congr 2
  funext o'
  simp [Obj.key_injective.eq_iff]

/-- **Step.**  A put leaves its object first and the others as they were. -/
theorem KeysOf.putObject {b : Bucket} {objs : List Obj} (h : KeysOf b objs) (o : Obj)
    (data : List UInt8) : KeysOf (b.putObject o.key data) (o :: objs.filter (· ≠ o)) := by
  refine ⟨?_, List.nodup_cons.2 ⟨by simp, h.2.filter _⟩⟩
  rw [Bucket.putObject, List.map_cons, Bucket.map_fst_removeObject, h.1, List.map_cons,
    map_key_filter_ne]

/-- **Step.**  A delete removes its object. -/
theorem KeysOf.removeObject {b : Bucket} {objs : List Obj} (h : KeysOf b objs) (o : Obj) :
    KeysOf (b.removeObject o.key) (objs.filter (· ≠ o)) :=
  ⟨by rw [Bucket.map_fst_removeObject, h.1, map_key_filter_ne], h.2.filter _⟩

/-- **Run.** -/
theorem KeysOf.run {b : Bucket} {objs : List Obj} (h : KeysOf b objs) (calls : List Call) :
    ∃ objs', KeysOf (calls.foldl Call.apply b) objs' := by
  induction calls generalizing b objs with
  | nil => exact ⟨objs, h⟩
  | cons c calls ih =>
    rw [List.foldl_cons, Call.apply_eq]
    cases c.target.2 with
    | some data => exact ih (h.putObject _ data)
    | none => exact ih (h.removeObject _)

/-- **Listings list the store.**  After `Create(config)` on a new bucket, along every sequence of
`Put*` and `Delete*` calls, `GetStates`, `GetPackfiles` and `GetLocks` over the bucket's keys list
the MACs of the objects the store holds after the same calls, each once: the states, packfiles
and locks put and not deleted since. -/
theorem run_lists_stored {config : List UInt8} {b : Bucket} (h : create none config = .ok b)
    (calls : List Call) :
    ∃ objs : List Obj, objs.Nodup ∧
      (∀ o, o ∈ objs ↔ (calls.foldl Store.apply (Store.created config) o).isSome) ∧
      getStates ((calls.foldl Call.apply b).map Prod.fst) = .ok (objs.filterMap Obj.stateMAC) ∧
      getPackfiles ((calls.foldl Call.apply b).map Prod.fst) =
        .ok (objs.filterMap Obj.packfileMAC) ∧
      getLocks ((calls.foldl Call.apply b).map Prod.fst) = .ok (objs.filterMap Obj.lockMAC) := by
  have hk₀ : KeysOf b [.config] := by cases h; exact ⟨rfl, List.nodup_singleton _⟩
  obtain ⟨objs, hk, hnd⟩ := hk₀.run calls
  have hr := refines_run (refines_create h) calls
  refine ⟨objs, hnd, fun o => ?_, by rw [hk]; exact getStates_keys objs,
    by rw [hk]; exact getPackfiles_keys objs, by rw [hk]; exact getLocks_keys objs⟩
  rw [← hr o, Bucket.isSome_lookup, hk, List.mem_map_of_injective Obj.key_injective]

/-- A state and a packfile put after `Create`, then the state deleted: `GetStates` lists
nothing, `GetPackfiles` the packfile. -/
theorem run_lists_packfile_after_delete :
    ∃ b, create none [1] = .ok b ∧
      getStates (([.putState (.ofByte 1) [7], .putPackfile (.ofByte 2) [8],
        .deleteState (.ofByte 1)] : List Call).foldl Call.apply b |>.map Prod.fst) = .ok [] ∧
      getPackfiles (([.putState (.ofByte 1) [7], .putPackfile (.ofByte 2) [8],
        .deleteState (.ofByte 1)] : List Call).foldl Call.apply b |>.map Prod.fst) =
        .ok [.ofByte 2] ∧
      ∃ objs : List Obj, objs.Nodup ∧
        (∀ o, o ∈ objs ↔ (([.putState (.ofByte 1) [7], .putPackfile (.ofByte 2) [8],
          .deleteState (.ofByte 1)] : List Call).foldl Store.apply (Store.created [1]) o).isSome) ∧
        getStates (([.putState (.ofByte 1) [7], .putPackfile (.ofByte 2) [8],
          .deleteState (.ofByte 1)] : List Call).foldl Call.apply b |>.map Prod.fst) =
          .ok (objs.filterMap Obj.stateMAC) ∧
        getPackfiles (([.putState (.ofByte 1) [7], .putPackfile (.ofByte 2) [8],
          .deleteState (.ofByte 1)] : List Call).foldl Call.apply b |>.map Prod.fst) =
          .ok (objs.filterMap Obj.packfileMAC) ∧
        getLocks (([.putState (.ofByte 1) [7], .putPackfile (.ofByte 2) [8],
          .deleteState (.ofByte 1)] : List Call).foldl Call.apply b |>.map Prod.fst) =
          .ok (objs.filterMap Obj.lockMAC) :=
  (fun h => ⟨_, h, rfl, rfl, run_lists_stored h _⟩) rfl

end S3

end Plakar
