import Plakar.Snapshot.Reload

/-!
# Every put is registered

A worker records the checksum of every message it adds in the seen-set of the message's type
(`Packer.SeenInv`), and `PutPackfile` registers every checksum of each seen-set that the
packfile's index carries.  Registrations only add locations (`Sink.Grows`).  So once a builder is
flushed, every message added to it is located in both registries, in the table its type's
`SetPackfileFor<T>` checks and writes: chunks, objects and data (`BlobType.ownKind`).  Once every
worker has left its loop, every message sent was added to a flushed builder, which gives
(`exec_registers_every_put`):

    m ∈ s.packer.sent → m.type.ownKind = some k →
      (s.sink.repoState.state.locate k m.checksum).isSome ∧
        (s.sink.stateDelta.state.locate k m.checksum).isSome

`Merge` registers the entries of each table with the table's own `SetPackfileFor<K>`, which for
chunks and objects writes the same table.  With `exec_commit_reload_backed`, a chunk put in a
committed session is read back by `GetChunk` in a process that loads the stored state into a
fresh one (`exec_commit_reload_getChunk`).
-/

namespace Plakar

/-- The table the `SetPackfileFor<T>` of type `t` both checks and writes, for the types that have
one: `File`, `Directory` and `Blob` check their own table and write `Objects`, and a header goes
to the `snapshot` map. -/
def BlobType.ownKind : BlobType → Option Kind
  | .chunk => some .chunk
  | .object => some .object
  | .data => some .blob
  | _ => none

namespace Snapshot

/-! ## Seen-sets -/

/-- The seen-set `PutPackfile` registers blobs of type `t` from. -/
def SeenSets.get (seen : SeenSets) : BlobType → List Checksum
  | .snapshot => seen.snapshotHeaders
  | .chunk => seen.chunks
  | .object => seen.objects
  | .file => seen.files
  | .directory => seen.directories
  | .data => seen.datas

@[simp] theorem SeenSets.get_empty (t : BlobType) : SeenSets.empty.get t = [] := by
  cases t <;> rfl

theorem SeenSets.mem_get_record {seen : SeenSets} {c c' : Checksum} {t t' : BlobType} :
    c' ∈ (seen.record c t).get t' ↔ c' ∈ seen.get t' ∨ t' = t ∧ c' = c := by
  cases t <;> cases t' <;>
    simp only [SeenSets.record, SeenSets.get, List.mem_insert_iff, reduceCtorEq, false_and,
      or_false, false_or, true_and, or_comm]

/-- The registration list of type `t` is `flushList` of its seen-set. -/
theorem SeenSets.mem_flushList {set : List Checksum} {c : Checksum} (h : c ∈ set) :
    c ∈ flushList set :=
  List.mem_append_right _ h

/-! ## The seen-sets cover the builder -/

namespace Packer

variable {w : Nat} {p : Packer} {i j : Nat}

@[simp] theorem setExited_seen : ((p.setExited i).workers j).seen = (p.workers j).seen := by
  by_cases h : j = i
  · subst h; simp
  · simp [h]

/-- Each worker's seen-sets hold the checksum of every message added to the builder it holds, in
the set of the message's type. -/
def SeenInv (p : Packer) : Prop :=
  ∀ i pack, (p.workers i).pack = some pack →
    ∀ m ∈ p.msgsOf (p.workers i).builder, m.checksum ∈ (p.workers i).seen.get m.type

/-- The builder a receive adds to is held by no other worker and was never flushed. -/
theorem builderOf_fresh (hi : PackerInv w p) (i : Nat) :
    (∀ j, j ≠ i → ∀ pack, (p.workers j).pack = some pack →
      (p.workers j).builder ≠ (p.builderOf i).2.1) ∧
    ∀ e ∈ p.flushed, e.1 ≠ (p.builderOf i).2.1 := by
  cases hp : (p.workers i).pack with
  | none =>
    rw [builderOf_of_none hp]
    exact ⟨fun j _ pack hj => Nat.ne_of_lt (hi.holding j pack hj).2.1,
      fun e he => Nat.ne_of_lt (hi.flushed_lt e he)⟩
  | some pack₀ =>
    rw [builderOf_of_some hp]
    refine ⟨fun j hji pack hj he => hji (hi.distinct j i (by simp [hj]) (by simp [hp]) he),
      fun e he h => (hi.holding i pack₀ hp).2.2.1 ?_⟩
    rw [← show e.1 = (p.workers i).builder from h]
    exact List.mem_map_of_mem Prod.fst he

/-- A receive keeps the seen-sets covering the builders: the worker records the message it
adds, to a builder that is its own or a new, empty one. -/
theorem SeenInv.receive (hs : p.SeenInv)
    (hfresh : ∀ j, j ≠ i → ∀ pack, (p.workers j).pack = some pack →
      (p.workers j).builder ≠ (p.builderOf i).2.1)
    (hnew : (p.workers i).pack = none → p.msgsOf p.nextBuilder = []) (msg : PackerMsg) :
    (p.receive i msg).SeenInv := by
  intro j pack hj m hm
  by_cases hji : j = i
  · subst hji
    simp only [receive_workers_self] at hm ⊢
    rw [msgsOf_receive, if_pos rfl, List.mem_append, List.mem_singleton] at hm
    rw [SeenSets.mem_get_record]
    rcases hm with hm | rfl
    · left
      cases hp : (p.workers j).pack with
      | none => simp only [builderOf_of_none hp, hnew hp, List.not_mem_nil] at hm
      | some pack₀ =>
        simp only [builderOf_of_some hp] at hm ⊢
        exact hs j pack₀ hp m hm
    · exact .inr ⟨rfl, rfl⟩
  · rw [receive_workers_of_ne hji] at hj hm ⊢
    rw [msgsOf_receive, if_neg (hfresh j hji pack hj)] at hm
    exact hs j pack hj m hm

theorem SeenInv.release (hs : p.SeenInv) (i : Nat) (pack : PackFile) :
    (p.release i pack).SeenInv := by
  intro j pack' hj m hm
  by_cases hji : j = i
  · subst hji; simp at hj
  · rw [release_workers_of_ne hji] at hj hm ⊢
    exact hs j pack' hj m hm

theorem SeenInv.setExited (hs : p.SeenInv) (i : Nat) : (p.setExited i).SeenInv := by
  intro j pack hj m hm
  rw [setExited_pack] at hj
  rw [setExited_builder] at hm
  rw [setExited_seen]
  exact hs j pack hj m hm

/-- A receive adds nothing to a flushed builder. -/
theorem receive_flushed {P : PackerMsg → Prop} (hfl : ∀ e ∈ p.flushed, e.1 ≠ (p.builderOf i).2.1)
    (msg : PackerMsg) (hf : ∀ e ∈ p.flushed, ∀ m ∈ p.msgsOf e.1, P m) :
    ∀ e ∈ (p.receive i msg).flushed, ∀ m ∈ (p.receive i msg).msgsOf e.1, P m := by
  intro e he m hm
  rw [msgsOf_receive, if_neg (hfl e he)] at hm
  exact hf e he m hm

end Packer

/-! ## Registrations only add locations -/

section Grows

variable {st : State} {reg : Registry} {k c c' p : Checksum} {o l : UInt32}

theorem State.isSome_locate_setPackfileIn (hi : State.InternInv st) (checked written : Kind)
    (p c : Checksum) (o l : UInt32) {kd : Kind} {c' : Checksum} (h : (st.locate kd c').isSome) :
    ((st.setPackfileIn checked written p c o l).locate kd c').isSome := by
  rw [State.locate_setPackfileIn hi]
  split_ifs <;> simp [h]

theorem State.isSome_locate_setPackfileIn_self (hi : State.InternInv st) (kd : Kind)
    (p c : Checksum) (o l : UInt32) : ((st.setPackfileIn kd kd p c o l).locate kd c).isSome := by
  rw [State.locate_setPackfileIn hi]
  by_cases h : st.locate kd c = none
  · simp [h]
  · simp [h, Option.ne_none_iff_isSome.1 h]

theorem Registry.isSome_locate_setPackfileFor (hi : State.InternInv reg.state) (t : BlobType)
    (p c : Checksum) (o l : UInt32) {kd : Kind} {c' : Checksum}
    (h : (reg.state.locate kd c').isSome) :
    ((reg.setPackfileFor t p c o l).state.locate kd c').isSome := by
  cases t
  case snapshot => rwa [Registry.setPackfileFor, Registry.locate_setPackfileForSnapshot hi]
  all_goals
    dsimp only [Registry.setPackfileFor, State.setPackfileForChunk, State.setPackfileForObject,
      State.setPackfileForFile, State.setPackfileForDirectory, State.setPackfileForData]
    exact State.isSome_locate_setPackfileIn hi _ _ p c o l h

theorem Registry.isSome_locate_setPackfileFor_own (hi : State.InternInv reg.state)
    {t : BlobType} {kd : Kind} (ht : t.ownKind = some kd) (p c : Checksum) (o l : UInt32) :
    ((reg.setPackfileFor t p c o l).state.locate kd c).isSome := by
  cases t <;> simp only [BlobType.ownKind, Option.some.injEq, reduceCtorEq] at ht <;> subst ht
  all_goals
    dsimp only [Registry.setPackfileFor, State.setPackfileForChunk, State.setPackfileForObject,
      State.setPackfileForData]
    exact State.isSome_locate_setPackfileIn_self hi _ p c o l

namespace Sink

/-- Registry `b` of `k` is coherent. -/
def Coherent (b : Bool) (k : Sink) : Prop := State.InternInv (k.registry b).state

/-- Registry `b` of `k` locates `c` in table `kd`. -/
def Locates (b : Bool) (k : Sink) (kd : Kind) (c : Checksum) : Prop :=
  ((k.registry b).state.locate kd c).isSome

/-- Registry `b` of `k'` is coherent if that of `k` is, and then locates whatever that of `k`
locates. -/
def Grows (b : Bool) (k k' : Sink) : Prop :=
  k.Coherent b → k'.Coherent b ∧ ∀ kd c, k.Locates b kd c → k'.Locates b kd c

variable {b : Bool} {sk : Sink} {mac : Checksum} {pack : PackFile} {t : BlobType} {kd : Kind}

theorem Grows.refl (k : Sink) : k.Grows b k := fun h => ⟨h, fun _ _ => id⟩

theorem Grows.trans {k₁ k₂ k₃ : Sink} (h₁ : k₁.Grows b k₂) (h₂ : k₂.Grows b k₃) :
    k₁.Grows b k₃ :=
  fun h => ⟨(h₂ (h₁ h).1).1, fun kd c hl => (h₂ (h₁ h).1).2 kd c ((h₁ h).2 kd c hl)⟩

theorem grows_packfiles (P : List (Checksum × List UInt8)) :
    sk.Grows b { sk with packfiles := P } :=
  fun h => ⟨h, fun _ _ => id⟩

theorem grows_register (t : BlobType) (mac c : Checksum) (o l : UInt32) :
    sk.Grows b (sk.register t mac c o l) := by
  intro h
  simp only [Coherent, Locates, registry_register]
  exact ⟨Registry.intern_setPackfileFor h t mac c o l,
    fun _ _ hl => Registry.isSome_locate_setPackfileFor h t mac c o l hl⟩

theorem grows_registerAll (mac : Checksum) (pack : PackFile) (t : BlobType) (cs : List Checksum) :
    sk.Grows b (sk.registerAll mac pack t cs) := by
  induction cs generalizing sk with
  | nil => exact Grows.refl _
  | cons c cs ih =>
    simp only [registerAll, List.foldl_cons] at ih ⊢
    split
    · exact (grows_register t mac c _ _).trans ih
    · exact ih

/-- A loop of type `t` locates, in the table `t` owns, every checksum of its list that the
packfile's index carries. -/
theorem locates_registerAll (hk : sk.Coherent b) (ht : t.ownKind = some kd) {cs : List Checksum}
    {c : Checksum} (hc : c ∈ cs) (hf : (pack.find c).isSome) :
    (sk.registerAll mac pack t cs).Locates b kd c := by
  induction cs generalizing sk with
  | nil => cases hc
  | cons c' cs ih =>
    simp only [registerAll, List.foldl_cons] at ih ⊢
    rcases List.mem_cons.1 hc with rfl | hc
    · obtain ⟨blob, hb⟩ := Option.isSome_iff_exists.1 hf
      simp only [hb]
      refine (grows_registerAll mac pack t cs
        ((grows_register t mac c blob.offset blob.length) hk).1).2 kd c ?_
      simp only [Locates, registry_register]
      exact Registry.isSome_locate_setPackfileFor_own hk ht mac c _ _
    · split
      · exact ih ((grows_register t mac c' _ _) hk).1 hc
      · exact ih hk hc

/-- Registration loops run one after the other, each over a type and a list of checksums. -/
def registerEach (k : Sink) (mac : Checksum) (pack : PackFile)
    (loops : List (BlobType × List Checksum)) : Sink :=
  loops.foldl (fun k tc => k.registerAll mac pack tc.1 tc.2) k

/-- `PutPackfile` stores the packfile, then runs its six loops. -/
theorem putPackfile_ok {r : Repo} {sk' : Sink}
    {objects chunks files directories datas snapshots : List Checksum}
    (h : sk.putPackfile r pack objects chunks files directories datas snapshots = .ok sk') :
    ∃ mac bytes, sk' = registerEach { sk with packfiles := sk.packfiles ++ [(mac, bytes)] } mac
      pack [(.chunk, chunks), (.object, objects), (.file, files), (.directory, directories),
        (.data, datas), (.snapshot, snapshots)] := by
  simp only [putPackfile] at h
  iterate 6 obtain ⟨_, -, h⟩ := Except.bind_eq_ok h
  cases h
  exact ⟨_, _, rfl⟩

theorem grows_registerEach (mac : Checksum) (pack : PackFile)
    (loops : List (BlobType × List Checksum)) : sk.Grows b (sk.registerEach mac pack loops) := by
  induction loops generalizing sk with
  | nil => exact Grows.refl _
  | cons tc loops ih => exact (grows_registerAll mac pack tc.1 tc.2).trans ih

theorem locates_registerEach (hk : sk.Coherent b) (ht : t.ownKind = some kd)
    {loops : List (BlobType × List Checksum)} {cs : List Checksum} (hl : (t, cs) ∈ loops)
    {c : Checksum} (hc : c ∈ cs) (hf : (pack.find c).isSome) :
    (sk.registerEach mac pack loops).Locates b kd c := by
  induction loops generalizing sk with
  | nil => cases hl
  | cons tc loops ih =>
    rcases List.mem_cons.1 hl with rfl | hl
    · exact (grows_registerEach mac pack loops
        (grows_registerAll mac pack t cs hk).1).2 kd c (locates_registerAll hk ht hc hf)
    · exact ih ((grows_registerAll mac pack tc.1 tc.2) hk).1 hl

/-- **A flush registers its builder.**  `PutPackfile` from seen-sets keeps the registries
growing, and locates every checksum of a seen-set of an owning type that the index carries. -/
theorem putPackfileFrom_grows {r : Repo} {sk' : Sink} {seen : SeenSets}
    (h : sk.putPackfileFrom r pack seen = .ok sk') :
    sk.Grows b sk' ∧ (sk.Coherent b → ∀ t kd c, t.ownKind = some kd → c ∈ seen.get t →
      (pack.find c).isSome → sk'.Locates b kd c) := by
  obtain ⟨mac, bytes, rfl⟩ := putPackfile_ok h
  refine ⟨(grows_packfiles _).trans (grows_registerEach _ _ _), fun hk t kd c ht hc hf => ?_⟩
  refine locates_registerEach (grows_packfiles _ hk).1 ht ?_ (SeenSets.mem_flushList hc) hf
  cases t <;> simp [SeenSets.get]

end Sink

end Grows

/-! ## Along a run -/

theorem PackFile.isSome_find_ofMsgs {msgs : List PackerMsg} {m : PackerMsg} (hm : m ∈ msgs) :
    ((PackFile.ofMsgs msgs).find m.checksum).isSome := by
  have : m.checksum ∈ (PackFile.ofMsgs msgs).index.map Blob.checksum :=
    PackFile.index_ofMsgs msgs ▸ List.mem_map_of_mem _ hm
  obtain ⟨blob, hb, hc⟩ := List.mem_map.1 this
  exact List.find?_isSome.2 ⟨blob, hb, beq_iff_eq.2 hc⟩

/-- Once every worker has left its loop, every message sent went to a builder that was flushed. -/
theorem PackerInv.mem_flushed_of_done {w : Nat} {p : Packer} (hi : PackerInv w p) (hw : 0 < w)
    (hd : p.Done w) {m : PackerMsg} (hm : m ∈ p.sent) : ∃ e ∈ p.flushed, m ∈ p.msgsOf e.1 := by
  rw [hi.fifo, (hi.exited 0 (hd 0 hw)).2.2, List.append_nil] at hm
  obtain ⟨a, ha, rfl⟩ := List.mem_map.1 hm
  rcases hi.covered a.1 (hi.added_lt a ha) with hf | ⟨j, hj, -⟩
  · obtain ⟨e, he, he1⟩ := List.mem_map.1 hf
    exact ⟨e, he, List.mem_map_of_mem _ (List.mem_filter.2 ⟨ha, decide_eq_true he1.symm⟩)⟩
  · obtain ⟨pack, hpk⟩ := Option.isSome_iff_exists.1 hj
    rw [(hi.exited j (hd j (hi.holding j pack hpk).1)).1] at hpk
    cases hpk

/-- What a run keeps for registration in registry `b`: the packer's invariant, the seen-sets, a
coherent registry, and every message of a flushed builder, of a type that owns a table, located
there. -/
structure Session.RegInv (b : Bool) (w : Nat) (s : Session) : Prop where
  packer : PackerInv w s.packer
  seen : s.packer.SeenInv
  coherent : s.sink.Coherent b
  flushed : ∀ e ∈ s.packer.flushed, ∀ m ∈ s.packer.msgsOf e.1, ∀ kd,
    m.type.ownKind = some kd → s.sink.Locates b kd m.checksum

section RegInv

variable {r : Repo} {w : Nat} {b : Bool}

/-- A flush registers every message of the builder it hands over. -/
theorem Sink.registered_flush {p : Packer} {i : Nat} {pack : PackFile} {k k' : Sink}
    (hi : PackerInv w p) (hs : p.SeenInv) (hk : k.Coherent b)
    (hf : ∀ e ∈ p.flushed, ∀ m ∈ p.msgsOf e.1, ∀ kd,
      m.type.ownKind = some kd → k.Locates b kd m.checksum)
    (hp : (p.workers i).pack = some pack)
    (hput : k.putPackfileFrom r pack (p.workers i).seen = .ok k') :
    k'.Coherent b ∧ ∀ e ∈ (p.release i pack).flushed, ∀ m ∈ (p.release i pack).msgsOf e.1, ∀ kd,
      m.type.ownKind = some kd → k'.Locates b kd m.checksum := by
  obtain ⟨hg, hnew⟩ := Sink.putPackfileFrom_grows hput
  refine ⟨(hg hk).1, fun e he m hm kd ht => ?_⟩
  rcases List.mem_append.1 (he : e ∈ p.flushed ++ [((p.workers i).builder, pack)]) with he | he
  · exact (hg hk).2 kd _ (hf e he m hm kd ht)
  · obtain rfl := List.mem_singleton.1 he
    obtain ⟨-, -, -, hpk⟩ := hi.holding i pack hp
    exact hnew hk m.type kd m.checksum ht (hs i pack hp m hm)
      (by rw [hpk]; exact PackFile.isSome_find_ofMsgs hm)

/-- A receive keeps what the invariant says of the packer. -/
theorem Session.RegInv.receive {s : Session} (h : s.RegInv b w) {i : Nat} {msg : PackerMsg}
    {rest : List PackerMsg} (hiw : i < w) (hc : s.packer.chan = msg :: rest) :
    PackerInv w ({ s.packer with chan := rest }.receive i msg) ∧
      ({ s.packer with chan := rest }.receive i msg).SeenInv ∧
      ∀ e ∈ ({ s.packer with chan := rest }.receive i msg).flushed,
        ∀ m ∈ ({ s.packer with chan := rest }.receive i msg).msgsOf e.1, ∀ kd,
          m.type.ownKind = some kd → s.sink.Locates b kd m.checksum :=
  have hfresh := Packer.builderOf_fresh h.packer i
  ⟨h.packer.receive hiw hc,
    Packer.SeenInv.receive (h.seen : Packer.SeenInv { s.packer with chan := rest }) hfresh.1
      (fun _ => Packer.msgsOf_eq_nil fun e he => Nat.ne_of_lt (h.packer.added_lt e he)) msg,
    Packer.receive_flushed hfresh.2 msg h.flushed⟩

/-- **Step.**  Every transition keeps the registration invariant. -/
theorem Session.RegInv.step {s s' : Session} (h : s.RegInv b w) (hs : Step r w s s') :
    s'.RegInv b w := by
  cases hs with
  | stay => exact h
  | send msg hc => exact ⟨h.packer.send msg hc, h.seen, h.coherent, h.flushed⟩
  | close => exact ⟨h.packer.close, h.seen, h.coherent, h.flushed⟩
  | receive i msg rest hiw hc _ =>
    obtain ⟨hq, hsq, hfq⟩ := h.receive hiw hc
    exact ⟨hq, hsq, h.coherent, hfq⟩
  | receiveFlush i msg rest pack sink hiw hc hp _ hput =>
    obtain ⟨hq, hsq, hfq⟩ := h.receive hiw hc
    obtain ⟨hk, hf⟩ := Sink.registered_flush hq hsq h.coherent hfq hp hput
    exact ⟨hq.release hp, hsq.release i pack, hk, hf⟩
  | exit i hc hch hp => exact ⟨h.packer.setExited hp hc hch, h.seen.setExited i, h.coherent, h.flushed⟩
  | exitFlush i pack sink hc hch hp hput =>
    obtain ⟨hk, hf⟩ := Sink.registered_flush h.packer h.seen h.coherent h.flushed hp hput
    exact ⟨(h.packer.release hp).setExited (by simp) hc hch, (h.seen.release i pack).setExited i,
      hk, hf⟩

/-- **Run.**  Along every run, a registry that starts coherent keeps the invariant. -/
theorem Session.regInv_of_exec {reg : Registry} {now : Time} {acts : List Action} {s : Session}
    (h₀ : (Session.new reg now).sink.Coherent b)
    (h : Session.exec r w (Session.new reg now) acts = some s) : s.RegInv b w :=
  Session.exec_induction (Session.RegInv b w)
    ⟨PackerInv.init reg now, fun i pack h => by simp [Session.new, Worker.init] at h, h₀,
      fun e he => by simp [Session.new] at he⟩
    (fun _ _ hi hs => hi.step hs) h

/-- Once every worker has left its loop, registry `b` locates every message sent in the table
its type owns. -/
theorem Session.locates_of_done {reg : Registry} {now : Time} {acts : List Action} {s : Session}
    (hw : 0 < w) (h₀ : (Session.new reg now).sink.Coherent b)
    (h : Session.exec r w (Session.new reg now) acts = some s) (hd : s.packer.Done w)
    {m : PackerMsg} (hm : m ∈ s.packer.sent) {kd : Kind} (ht : m.type.ownKind = some kd) :
    s.sink.Locates b kd m.checksum := by
  have hi := Session.regInv_of_exec h₀ h
  obtain ⟨e, he, hme⟩ := hi.packer.mem_flushed_of_done hw hd hm
  exact hi.flushed e he m hme kd ht

end RegInv

/-- **Every put is registered.**  Run a session with at least one worker on a repository whose
state is coherent, until `packerChanDone` is signalled (every worker has left its loop).  Every
message sent, of a type whose `SetPackfileFor<T>` checks and writes one table (chunks, objects,
data), is then located in that table, in the repository's state and in the delta. -/
theorem exec_registers_every_put {r : Repo} {w : Nat} {reg : Registry} {now : Time}
    {acts : List Action} {s : Session} (hw : 0 < w) (hreg : State.InternInv reg.state)
    (h : Session.exec r w (Session.new reg now) acts = some s) (hd : s.packer.Done w) :
    ∀ m ∈ s.packer.sent, ∀ k, m.type.ownKind = some k →
      (s.sink.repoState.state.locate k m.checksum).isSome ∧
        (s.sink.stateDelta.state.locate k m.checksum).isSome :=
  fun _ hm _ ht =>
    ⟨Session.locates_of_done hw (show (Session.new reg now).sink.Coherent false from hreg) h hd hm ht,
      Session.locates_of_done hw (Sink.readInv_new_delta reg now).intern h hd hm ht⟩

/-- One worker, a chunk and an object, then the channel closed: both are located. -/
theorem exec_registers_chunk_and_object :
    ∃ s, Session.exec (Repo.plain 4096) 1 (Session.new ⟨State.new Time.epoch, ∅⟩ Time.epoch)
        [.put .chunk (.ofByte 1) [7], .put .object (.ofByte 2) [8], .close, .recv 0, .recv 0,
          .exit 0] = some s ∧ s.packer.Done 1 ∧
      ∀ m ∈ s.packer.sent, ∀ k, m.type.ownKind = some k →
        (s.sink.repoState.state.locate k m.checksum).isSome ∧
          (s.sink.stateDelta.state.locate k m.checksum).isSome :=
  (fun h => ⟨_, h, by decide, exec_registers_every_put (by decide) (State.InternInv.new _) h
    (by decide)⟩) rfl

/-! ## Loaded back -/

/-- One loop of `Merge` keeps every location, and, in a table whose `SetPackfileFor<K>` writes
that same table, locates every checksum the loaded state names there. -/
theorem State.isSome_locate_mergeTable {st δ : State} (hi : State.InternInv st) (kt : Kind)
    {kd : Kind} {c : Checksum}
    (h : (st.locate kd c).isSome ∨
      kt.written = kt ∧ kd = kt ∧ ∃ e ∈ (δ.table kt).entries, lookupD δ.idToChecksum e.1 = c) :
    ((State.mergeTable kt δ st).locate kd c).isSome := by
  unfold State.mergeTable
  rw [State.setPackfileFor_eq]
  generalize (δ.table kt).entries = es at h
  induction es generalizing st with
  | nil =>
    rcases h with h | ⟨-, -, e, he, -⟩
    · exact h
    · cases he
  | cons e es ih =>
    rw [List.foldl_cons]
    refine ih (State.setPackfileIn_inv hi _ _ _ _ _ _).1 ?_
    rcases h with h | ⟨hw, rfl, e', he', rfl⟩
    · exact .inl (State.isSome_locate_setPackfileIn hi _ _ _ _ _ _ h)
    · rcases List.mem_cons.1 he' with rfl | he'
      · rw [hw]
        exact .inl (State.isSome_locate_setPackfileIn_self hi _ _ _ _ _)
      · exact .inr ⟨hw, rfl, e', he', rfl⟩

/-- **`Merge` keeps and adds locations.**  Merging into a coherent state keeps every location
it had, and locates every chunk and object the loaded state names in its own table. -/
theorem State.isSome_locate_merge {st δ : State} (hi : State.InternInv st) (stateID : Checksum)
    {kd : Kind} {c : Checksum}
    (h : (st.locate kd c).isSome ∨
      (kd = .chunk ∨ kd = .object) ∧ ∃ e ∈ (δ.table kd).entries, lookupD δ.idToChecksum e.1 = c) :
    ((st.merge stateID δ).locate kd c).isSome := by
  unfold State.merge
  simp only [List.foldl_cons, List.foldl_nil]
  have i₁ := State.mergeTable_inv hi .chunk δ
  have i₂ := State.mergeTable_inv i₁ .object δ
  have i₃ := State.mergeTable_inv i₂ .file δ
  have i₄ := State.mergeTable_inv i₃ .directory δ
  refine State.isSome_locate_mergeTable i₄ _ (.inl (State.isSome_locate_mergeTable i₃ _ (.inl
    (State.isSome_locate_mergeTable i₂ _ (.inl (State.isSome_locate_mergeTable i₁ _ ?_))))))
  rcases h with h | ⟨rfl | rfl, he⟩
  · exact .inl (State.isSome_locate_mergeTable hi _ (.inl h))
  · exact .inl (State.isSome_locate_mergeTable hi _ (.inr ⟨rfl, rfl, he⟩))
  · exact .inr ⟨rfl, rfl, he⟩

/-- A checksum a coherent state locates names an entry of the table in every state with the same
ids and the same entries. -/
theorem State.entry_of_locate {st st' : State} (hi : State.InternInv st)
    (hids : ∀ id, st'.idToChecksum.lookup id = st.idToChecksum.lookup id)
    (ht : ∀ k id, (st'.table k).lookup id = (st.table k).lookup id) {k : Kind} {c : Checksum}
    (h : (st.locate k c).isSome) :
    ∃ e ∈ (st'.table k).entries, lookupD st'.idToChecksum e.1 = c := by
  obtain ⟨x, hx⟩ := Option.isSome_iff_exists.1 h
  simp only [State.locate, Option.bind_eq_some, Option.map_eq_some'] at hx
  obtain ⟨id, hid, loc, hloc, -⟩ := hx
  refine ⟨⟨id, loc⟩, AList.mem_lookup_iff.1 (by rw [ht]; exact hloc), ?_⟩
  simp only [lookupD, hids, (hi.inverse c id).1 hid, Option.getD_some]

/-- **Put, commit, reload, read.**  Run a session with at least one worker, whose packfile writer
stores a builder's data area as it is, until `packerChanDone` is signalled, with flushed builders
below `2 ^ 32` bytes and a delta of fewer than `2 ^ 32` checksums, and let `Commit` store its
state.  On a backend that never holds two different packfiles under one checksum, with a `Decode`
that opens what `Encode` sealed: the stored state loads back, and in a fresh state it is merged
into, `GetChunk` of every chunk the session sent returns the data of a `Put*` of its checksum. -/
theorem exec_commit_reload_getChunk {r : Repo} {w : Nat} {reg : Registry} {now : Time}
    {acts : List Action} {s : Session} {putState : Checksum → List UInt8 → Except String Unit}
    {indexID : Checksum} {serialized : List UInt8}
    {decode : List UInt8 → Except String (List UInt8)} (hw : 0 < w)
    (hdata : ∀ pack bytes, r.serializeData pack = .ok bytes → bytes = pack.data)
    (hdecode : ∀ d e, r.encode d = .ok e → decode e = .ok d)
    (h : Session.exec r w (Session.new reg now) acts = some s) (hd : s.packer.Done w)
    (hfit : s.packer.Fits) (hsize : s.sink.stateDelta.state.size < 2 ^ 32)
    (hcommit : commitState r putState s = .ok (indexID, serialized))
    (hcf : ∀ x ∈ s.sink.packfiles, ∀ y ∈ s.sink.packfiles, x.1 = y.1 → x = y) :
    ∃ st', State.newFromBytes serialized = .ok st' ∧
      ∀ (later : Time) (stateID : Checksum), ∀ m ∈ s.packer.sent, m.type = .chunk →
        ∃ t d, Action.put t m.checksum d ∈ acts ∧
          (getChunk (getPackfileBlob decode s.sink.packfiles)
            ((State.new later).merge stateID st') m.checksum).2 = .ok d := by
  obtain ⟨st', hload, hids, ht, hδ⟩ := Sink.reload_of_exec hdata h hfit hsize hcommit
  refine ⟨st', hload, fun later stateID m hm hchunk => ?_⟩
  have h₀ := Sink.readInv_new_delta reg now
  have hloc : (s.sink.stateDelta.state.locate .chunk m.checksum).isSome :=
    Session.locates_of_done hw h₀.intern h hd hm (by rw [hchunk]; rfl)
  have hdi : State.InternInv s.sink.stateDelta.state :=
    (Sink.readInv_of_exec hdata h₀ h hfit).intern
  obtain ⟨hmi, hmb⟩ := backed_merge hδ (State.InternInv.new later)
    (backed_of_checksumToId rfl _ _) stateID
  obtain ⟨bytes, hh, hread⟩ := readIn_of_backed hmi hmb hcf "packfile not found"
    (State.isSome_locate_merge (State.InternInv.new later) stateID
      (.inr ⟨.inl rfl, State.entry_of_locate hdi hids ht hloc⟩))
  rcases Session.sentOr_of_exec h hdecode hh with hF | ⟨t, d, hin, hdec⟩
  · exact hF.elim
  · exact ⟨t, d, hin, hread.trans hdec⟩

/-- One worker, a chunk, then `Commit`: a fresh process that loads the stored state reads the
chunk's data back. -/
theorem exec_commit_reload_reads_chunk :
    ∃ s, Session.exec (Repo.plain 4096) 1 (Session.new ⟨State.new Time.epoch, ∅⟩ Time.epoch)
        [.put .chunk (.ofByte 1) [7], .close, .recv 0, .exit 0] = some s ∧ s.packer.Done 1 ∧
      s.packer.Fits ∧ s.sink.stateDelta.state.size < 2 ^ 32 ∧
      (∀ x ∈ s.sink.packfiles, ∀ y ∈ s.sink.packfiles, x.1 = y.1 → x = y) ∧
      ∃ st', State.newFromBytes s.sink.stateDelta.state.serialize = .ok st' ∧
        ∀ (later : Time) (stateID : Checksum), ∀ m ∈ s.packer.sent, m.type = .chunk →
          ∃ t d, Action.put t m.checksum d ∈
              [.put .chunk (.ofByte 1) [7], .close, .recv 0, .exit 0] ∧
            (getChunk (getPackfileBlob .ok s.sink.packfiles)
              ((State.new later).merge stateID st') m.checksum).2 = .ok d :=
  (fun h => ⟨_, h, by decide, by decide, by decide, by decide, exec_commit_reload_getChunk
    (by decide) (fun _ _ h => (Except.ok.inj h).symm)
    (fun _ _ h => congrArg Except.ok (Except.ok.inj h).symm) h (by decide) (by decide) (by decide)
    (show commitState (Repo.plain 4096) (fun _ _ => .ok ()) _ = .ok (_, _) from rfl)
    (by decide)⟩) rfl

end Snapshot

end Plakar
