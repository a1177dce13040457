import Plakar.Snapshot.Complete
import Plakar.State.Methods

/-!
# What the existence checks answer after a session

`SetPackfileFor<T>` stores into `Chunks` for a chunk, into `Blobs` for data, into the `snapshot`
map for a header, and into `Objects` for every other type (`BlobType.writes`).  No registration
stores into `Files` or `Directories`, so none moves a location a coherent registry has there
(`Registry.locate_setPackfileFor_of_writes_ne`), and neither does a flush
(`Sink.keeps_putPackfileFrom`).  Along every run both registries keep those two tables as they
started (`exec_checkFile_unchanged`): `CheckFile` and `CheckDirectory` answer after the session
as they did before it, whatever files and directories it put, and the delta `Commit` stores
locates no file and no directory.

`GetMetadata` returns, beside the metadata, the repository's `Checksum` of the bytes it read.
Where the data stored under a checksum was content-addressed, that is the checksum asked for
(`exec_getMetadata_verifies`).
-/

namespace Plakar

/-- The table `SetPackfileFor<T>` stores into, for the types that store into a table of `State`;
a header goes to the `snapshot` map. -/
def BlobType.writes : BlobType → Option Kind
  | .chunk => some .chunk
  | .data => some .blob
  | .snapshot => none
  | _ => some .object

/-- No type stores into `Files` or `Directories`. -/
theorem BlobType.writes_ne {kd : Kind} (hkd : kd = .file ∨ kd = .directory) (t : BlobType) :
    t.writes ≠ some kd := by
  rcases hkd with rfl | rfl <;> cases t <;> decide

namespace Snapshot

/-! ## `Check*` -/

/-- The body of `CheckFile`, `CheckDirectory`, `CheckChunk` and `CheckObject`: the state's
existence check `test` on the repository's state, which interns the checksum. -/
def Session.checkIn (test : State → Checksum → State × Bool) (s : Session) (checksum : Checksum) :
    Session × Bool :=
  let (st, found) := test s.sink.repoState.state checksum
  ({ s with sink := { s.sink with repoState := { s.sink.repoState with state := st } } }, found)

def Session.checkFile : Session → Checksum → Session × Bool := Session.checkIn State.fileExists

def Session.checkDirectory : Session → Checksum → Session × Bool :=
  Session.checkIn State.directoryExists

def Session.checkChunk : Session → Checksum → Session × Bool := Session.checkIn State.chunkExists

def Session.checkObject : Session → Checksum → Session × Bool := Session.checkIn State.objectExists

@[simp] theorem Session.checkIn_snd (test : State → Checksum → State × Bool) (s : Session)
    (c : Checksum) : (s.checkIn test c).2 = (test s.sink.repoState.state c).2 := rfl

/-- On a coherent state, `<K>Exists` answers whether the state locates the blob in table `k`. -/
theorem State.existsIn_snd {st : State} (hi : State.InternInv st) (k : Kind) (c : Checksum) :
    (st.existsIn k c).2 = (st.locate k c).isSome := by
  rw [State.existsIn_eq, State.getSubpartIn_eq hi]
  rcases st.locate k c with _ | ⟨p, o, l⟩ <;> rfl

/-- Two coherent states that locate the same blobs in table `k` answer `<K>Exists` alike. -/
theorem State.existsIn_snd_congr {st st' : State} (hi : State.InternInv st)
    (hi' : State.InternInv st') {k : Kind} (h : ∀ c, st'.locate k c = st.locate k c)
    (c : Checksum) : (st'.existsIn k c).2 = (st.existsIn k c).2 := by
  rw [State.existsIn_snd hi, State.existsIn_snd hi', h]

/-! ## Tables no registration writes -/

/-- A `SetPackfileFor<T>` moves no location of a table it does not store into. -/
theorem Registry.locate_setPackfileFor_of_writes_ne {reg : Registry}
    (hi : State.InternInv reg.state) {t : BlobType} {kd : Kind} (ht : t.writes ≠ some kd)
    (p c : Checksum) (o l : UInt32) (c' : Checksum) :
    (reg.setPackfileFor t p c o l).state.locate kd c' = reg.state.locate kd c' := by
  cases t
  case snapshot => exact Registry.locate_setPackfileForSnapshot hi p c o l kd c'
  all_goals
    dsimp only [Registry.setPackfileFor, State.setPackfileForChunk, State.setPackfileForObject,
      State.setPackfileForFile, State.setPackfileForDirectory, State.setPackfileForData]
    rw [State.locate_setPackfileIn hi, if_neg fun h => ht (by rw [h.1]; rfl)]

namespace Sink

/-- Registry `b` of `k'` is coherent if that of `k` is, and then locates in table `kd` exactly
what that of `k` locates. -/
def Keeps (b : Bool) (kd : Kind) (k k' : Sink) : Prop :=
  k.Coherent b → k'.Coherent b ∧
    ∀ c, (k'.registry b).state.locate kd c = (k.registry b).state.locate kd c

variable {b : Bool} {kd : Kind} {sk : Sink}

theorem Keeps.refl (k : Sink) : k.Keeps b kd k := fun h => ⟨h, fun _ => rfl⟩

theorem Keeps.trans {k₁ k₂ k₃ : Sink} (h₁ : k₁.Keeps b kd k₂) (h₂ : k₂.Keeps b kd k₃) :
    k₁.Keeps b kd k₃ :=
  fun h => ⟨(h₂ (h₁ h).1).1, fun c => ((h₂ (h₁ h).1).2 c).trans ((h₁ h).2 c)⟩

section Unwritten

variable (hkd : ∀ t : BlobType, t.writes ≠ some kd)
include hkd

theorem keeps_register (t : BlobType) (mac c : Checksum) (o l : UInt32) :
    sk.Keeps b kd (sk.register t mac c o l) := fun h =>
  ⟨(grows_register t mac c o l h).1, fun c' => by
    simp only [registry_register]
    exact Registry.locate_setPackfileFor_of_writes_ne h (hkd t) mac c o l c'⟩

theorem keeps_registerAll (mac : Checksum) (pack : PackFile) (t : BlobType) (cs : List Checksum) :
    sk.Keeps b kd (sk.registerAll mac pack t cs) := by
  induction cs generalizing sk with
  | nil => exact Keeps.refl _
  | cons c cs ih =>
    simp only [registerAll, List.foldl_cons] at ih ⊢
    split
    · exact (keeps_register hkd t mac c _ _).trans ih
    · exact ih

theorem keeps_registerEach (mac : Checksum) (pack : PackFile)
    (loops : List (BlobType × List Checksum)) : sk.Keeps b kd (sk.registerEach mac pack loops) := by
  induction loops generalizing sk with
  | nil => exact Keeps.refl _
  | cons tc loops ih => exact (keeps_registerAll hkd mac pack tc.1 tc.2).trans ih

/-- A flush keeps every table no `SetPackfileFor<T>` writes. -/
theorem keeps_putPackfileFrom {r : Repo} {sk' : Sink} {pack : PackFile} {seen : SeenSets}
    (h : sk.putPackfileFrom r pack seen = .ok sk') : sk.Keeps b kd sk' := by
  obtain ⟨mac, bytes, rfl⟩ := putPackfile_ok h
  refine Keeps.trans ?_ (keeps_registerEach hkd _ _ _)
  exact fun h => ⟨h, fun _ => rfl⟩

end Unwritten

end Sink

/-- A property of the sink that every flush keeps holds along every run. -/
theorem Session.exec_sink_induction (Q : Sink → Prop) {r : Repo} {w : Nat} {s₀ s : Session}
    {acts : List Action} (h₀ : Q s₀.sink)
    (hput : ∀ k k' pack seen, Q k → k.putPackfileFrom r pack seen = .ok k' → Q k')
    (h : Session.exec r w s₀ acts = some s) : Q s.sink :=
  Session.exec_induction (fun s => Q s.sink) h₀ (fun _ _ hq hs => by
    cases hs with
    | receiveFlush _ _ _ _ _ _ _ _ _ hp => exact hput _ _ _ _ hq hp
    | exitFlush _ _ _ _ _ _ hp => exact hput _ _ _ _ hq hp
    | _ => exact hq) h

/-- Along every run, registry `b`, if it starts coherent, stays so and locates in `Files` and in
`Directories` just what it located at the start. -/
theorem Session.keeps_of_exec {r : Repo} {w : Nat} {reg : Registry} {now : Time}
    {acts : List Action} {s : Session} (h : Session.exec r w (Session.new reg now) acts = some s)
    (b : Bool) {kd : Kind} (hkd : kd = .file ∨ kd = .directory) :
    (Session.new reg now).sink.Keeps b kd s.sink :=
  Session.exec_sink_induction _ (Sink.Keeps.refl _)
    (fun _ _ _ _ hk hp => hk.trans (Sink.keeps_putPackfileFrom (BlobType.writes_ne hkd) hp)) h

/-- **Files and directories are never found.**  No `SetPackfileFor<T>` stores into `Files` or
`Directories`.  So along every run on a repository whose state is coherent, whatever `Put*` it
makes and however its workers interleave, `CheckFile` and `CheckDirectory` answer for every
checksum as they did before the session, and the delta `Commit` stores locates no file and no
directory. -/
theorem exec_checkFile_unchanged {r : Repo} {w : Nat} {reg : Registry} {now : Time}
    {acts : List Action} {s : Session} (hreg : State.InternInv reg.state)
    (h : Session.exec r w (Session.new reg now) acts = some s) (c : Checksum) :
    (s.checkFile c).2 = ((Session.new reg now).checkFile c).2 ∧
      (s.checkDirectory c).2 = ((Session.new reg now).checkDirectory c).2 ∧
      (s.sink.stateDelta.state.fileExists c).2 = false ∧
      (s.sink.stateDelta.state.directoryExists c).2 = false := by
  have hδ := (Sink.readInv_new_delta reg now).intern
  obtain ⟨hr, hrf⟩ := Session.keeps_of_exec h false (.inl rfl) hreg
  obtain ⟨-, hrd⟩ := Session.keeps_of_exec h false (.inr rfl) hreg
  obtain ⟨hd, hdf⟩ := Session.keeps_of_exec h true (.inl rfl) hδ
  obtain ⟨-, hdd⟩ := Session.keeps_of_exec h true (.inr rfl) hδ
  exact ⟨State.existsIn_snd_congr hreg hr hrf c, State.existsIn_snd_congr hreg hr hrd c,
    (State.existsIn_snd hd _ c).trans (congrArg Option.isSome (hdf c)),
    (State.existsIn_snd hd _ c).trans (congrArg Option.isSome (hdd c))⟩

/-- One worker, a file, then the channel closed: the file lands in `Objects`, and `CheckFile`
still answers false. -/
theorem exec_checkFile_of_file_put :
    ∃ s, Session.exec (Repo.plain 4096) 1 (Session.new ⟨State.new Time.epoch, ∅⟩ Time.epoch)
        [.put .file (.ofByte 1) [7], .close, .recv 0, .exit 0] = some s ∧
      (s.checkObject (.ofByte 1)).2 = true ∧ (s.checkFile (.ofByte 1)).2 = false ∧
      ((s.checkFile (.ofByte 1)).2 =
          ((Session.new ⟨State.new Time.epoch, ∅⟩ Time.epoch).checkFile (.ofByte 1)).2 ∧
        (s.checkDirectory (.ofByte 1)).2 =
          ((Session.new ⟨State.new Time.epoch, ∅⟩ Time.epoch).checkDirectory (.ofByte 1)).2 ∧
        (s.sink.stateDelta.state.fileExists (.ofByte 1)).2 = false ∧
        (s.sink.stateDelta.state.directoryExists (.ofByte 1)).2 = false) :=
  (fun h => ⟨_, h, by decide, by decide,
    exec_checkFile_unchanged (State.InternInv.new _) h (.ofByte 1)⟩) rfl

/-! ## `GetMetadata` -/

theorem getMetadata_snd {α : Type} (r : Repo) (newFromBytes : List UInt8 → Except String α)
    (gpb : Checksum → UInt32 → UInt32 → Except String (List UInt8)) (st : State) (c : Checksum) :
    (getMetadata r newFromBytes gpb st c).2 = (readIn .blob "metadata not found" gpb st c).2.bind
      fun buffer => (newFromBytes buffer).map fun md => (md, r.checksum buffer) := rfl

/-- **`GetMetadata` verifies.**  After every run as in `exec_readIn`: `GetMetadata` of a checksum
`c` the repository's state does not locate as data fails with "metadata not found".  If every
`Put*` made under `c` along the run was content-addressed (its data's checksum is `c`), and so is
every payload the state already held for `c`, then `GetMetadata` of a located `c` reads data whose
checksum is `c`: it returns that data's decoding by `metadata.NewFromBytes`, and `c` as the
checksum it verified. -/
theorem exec_getMetadata_verifies {α : Type} {r : Repo} {w : Nat} {reg : Registry} {now : Time}
    {acts : List Action} {s : Session} {P₀ : List (Checksum × List UInt8)}
    {H₀ : Checksum → List UInt8 → Prop} {decode : List UInt8 → Except String (List UInt8)}
    (newFromBytes : List UInt8 → Except String α)
    (hdata : ∀ pack bytes, r.serializeData pack = .ok bytes → bytes = pack.data)
    (hdecode : ∀ d e, r.encode d = .ok e → decode e = .ok d)
    (hreg : State.InternInv reg.state) (hb₀ : Backed P₀ H₀ reg.state)
    (h : Session.exec r w (Session.new reg now) acts = some s) (hfit : s.packer.Fits)
    (hcf : ∀ x ∈ P₀ ++ s.sink.packfiles, ∀ y ∈ P₀ ++ s.sink.packfiles, x.1 = y.1 → x = y)
    (c : Checksum) (hput : ∀ t d, Action.put t c d ∈ acts → r.checksum d = c)
    (hheld : ∀ bytes, H₀ c bytes → ∃ d, decode bytes = .ok d ∧ r.checksum d = c) :
    (s.sink.repoState.state.locate .blob c = none →
      (getMetadata r newFromBytes (getPackfileBlob decode (P₀ ++ s.sink.packfiles))
        s.sink.repoState.state c).2 = .error "metadata not found") ∧
    ((s.sink.repoState.state.locate .blob c).isSome → ∃ d, r.checksum d = c ∧
      (getMetadata r newFromBytes (getPackfileBlob decode (P₀ ++ s.sink.packfiles))
        s.sink.repoState.state c).2 = (newFromBytes d).map fun md => (md, c)) := by
  have hk := Sink.readInv_of_exec hdata (Sink.readInv_new_repo hreg hb₀ now) h hfit
  have hi : State.InternInv s.sink.repoState.state := hk.intern
  refine ⟨fun hl => by rw [getMetadata_snd, readIn_eq hi, hl]; rfl, fun hl => ?_⟩
  obtain ⟨bytes, hh, hread⟩ := readIn_of_backed hi hk.backed hcf "metadata not found" hl
  obtain ⟨d, hd, hcd⟩ : ∃ d, decode bytes = .ok d ∧ r.checksum d = c := by
    rcases Session.sentOr_of_exec h hdecode hh with hH | ⟨t, d, hin, hd⟩
    · exact hheld bytes hH
    · exact ⟨d, hd, hput t d hin⟩
  refine ⟨d, hcd, ?_⟩
  rw [getMetadata_snd, hread, hd, ← hcd]
  rfl

/-- One worker, data put under the checksum of its bytes, then the channel closed: `GetMetadata`
returns the data with its checksum. -/
theorem exec_getMetadata_reads_data :
    ∃ s, Session.exec (Repo.plain 4096) 1 (Session.new ⟨State.new Time.epoch, ∅⟩ Time.epoch)
        [.put .data (.ofByte 7) [7], .close, .recv 0, .exit 0] = some s ∧ s.packer.Fits ∧
      (∀ x ∈ [] ++ s.sink.packfiles, ∀ y ∈ [] ++ s.sink.packfiles, x.1 = y.1 → x = y) ∧
      (s.sink.repoState.state.locate .blob (.ofByte 7)).isSome ∧
      (getMetadata (Repo.plain 4096) .ok (getPackfileBlob .ok ([] ++ s.sink.packfiles))
        s.sink.repoState.state (.ofByte 7)).2 = .ok ([7], .ofByte 7) ∧
      (∀ t d, Action.put t (.ofByte 7) d ∈
          [.put .data (.ofByte 7) [7], .close, .recv 0, .exit 0] →
        (Repo.plain 4096).checksum d = .ofByte 7) ∧
      ((s.sink.repoState.state.locate .blob (.ofByte 7) = none →
        (getMetadata (Repo.plain 4096) .ok (getPackfileBlob .ok ([] ++ s.sink.packfiles))
          s.sink.repoState.state (.ofByte 7)).2 = .error "metadata not found") ∧
      ((s.sink.repoState.state.locate .blob (.ofByte 7)).isSome → ∃ d,
        (Repo.plain 4096).checksum d = .ofByte 7 ∧
        (getMetadata (Repo.plain 4096) .ok (getPackfileBlob .ok ([] ++ s.sink.packfiles))
          s.sink.repoState.state (.ofByte 7)).2 = (Except.ok d).map fun md => (md, .ofByte 7))) :=
  have hput : ∀ t d, Action.put t (.ofByte 7) d ∈
      [.put .data (.ofByte 7) [7], .close, .recv 0, .exit 0] →
      (Repo.plain 4096).checksum d = .ofByte 7 := fun t d hin => by
    rcases List.mem_cons.1 hin with hin | hin
    · cases hin
      rfl
    · simp at hin
  (fun h => ⟨_, h, by decide, by decide, by decide, rfl, hput,
    exec_getMetadata_verifies .ok (fun _ _ h => (Except.ok.inj h).symm)
      (fun _ _ h => congrArg Except.ok (Except.ok.inj h).symm) (State.InternInv.new _)
      (backed_of_checksumToId rfl [] fun _ _ => False) h (by decide) (by decide) (.ofByte 7) hput
      fun _ h => h.elim⟩) rfl

end Snapshot

end Plakar
