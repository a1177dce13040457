import Plakar.Snapshot.Packer

/-!
# Commit and the order of registrations

`Commit` sends the header last (`PutHeader`), closes the channel and waits for
`packerChanDone`.  `PutPackfile` registers a packfile's blobs type by type, snapshots last
(`registered_putPackfile`).  So with one worker, whose builders are flushed in the order the
messages were sent, nothing but snapshots is registered after the header
(`exec_header_registered_last`):

    s.sink.registered = l₁ ++ l₂ →
      (∃ x ∈ l₁, x.type = .snapshot ∧ x.checksum = hdr.checksum) → ∀ y ∈ l₂, y.type = .snapshot

for every run whose last message sent is `hdr` and whose other messages carry other checksums.
With two workers the header's builder can be flushed while the other worker still holds a chunk
(`exec_registers_chunk_after_header`).
-/

namespace Plakar

namespace Snapshot

/-- `Snapshot.Commit` up to `<-snapshot.packerChanDone`: `PutHeader(Header.IndexID,
serializedHdr)`, then `close(snapshot.packerChan)`. -/
def commitStart (indexID : Checksum) (serializedHdr : List UInt8) : List Action :=
  [.put .snapshot indexID serializedHdr, .close]

/-! ## The registrations of one packfile -/

namespace Sink

variable {k k' : Sink}

/-- The registrations a loop of type `t` over `cs` makes: a pair for each checksum the
packfile's index carries. -/
def regsOf (pack : PackFile) (t : BlobType) (cs : List Checksum) : List Registration :=
  cs.flatMap fun c => if (pack.find c).isSome then [⟨false, t, c⟩, ⟨true, t, c⟩] else []

theorem mem_regsOf {pack : PackFile} {t : BlobType} {cs : List Checksum} {x : Registration}
    (h : x ∈ regsOf pack t cs) : x.type = t ∧ (pack.find x.checksum).isSome := by
  obtain ⟨c, -, hx⟩ := List.mem_flatMap.1 h
  split at hx
  · simp only [List.mem_cons, List.mem_singleton, List.not_mem_nil, or_false] at hx
    rcases hx with rfl | rfl <;> exact ⟨rfl, ‹_›⟩
  · simp at hx

theorem registered_registerAll (k : Sink) (mac : Checksum) (pack : PackFile) (t : BlobType)
    (cs : List Checksum) :
    (k.registerAll mac pack t cs).registered = k.registered ++ regsOf pack t cs := by
  induction cs generalizing k with
  | nil => simp [registerAll, regsOf]
  | cons c cs ih =>
    have hcons : k.registerAll mac pack t (c :: cs) =
        (match pack.find c with
          | some blob => k.register t mac c blob.offset blob.length
          | none => k).registerAll mac pack t cs := rfl
    rw [hcons]
    cases hf : pack.find c with
    | none => simpa [regsOf, hf] using ih k
    | some blob =>
      dsimp only
      rw [ih]
      simp [regsOf, hf, register]

/-- **One block per packfile.**  `PutPackfile` appends registrations of the packfile's
checksums: first of the other types, then of snapshots. -/
theorem registered_putPackfile {r : Repo} {pack : PackFile}
    {objects chunks files directories datas snapshots : List Checksum}
    (h : k.putPackfile r pack objects chunks files directories datas snapshots = .ok k') :
    ∃ l₁ l₂, k'.registered = k.registered ++ l₁ ++ l₂ ∧
      (∀ x ∈ l₁, x.type ≠ .snapshot ∧ (pack.find x.checksum).isSome) ∧
      ∀ x ∈ l₂, x.type = .snapshot ∧ (pack.find x.checksum).isSome := by
  simp only [putPackfile] at h
  iterate 6 obtain ⟨_, -, h⟩ := Except.bind_eq_ok h
  cases h
  refine ⟨regsOf pack .chunk chunks ++ regsOf pack .object objects ++ regsOf pack .file files ++
    regsOf pack .directory directories ++ regsOf pack .data datas, regsOf pack .snapshot snapshots,
    by simp [registered_registerAll], ?_, fun x hx => mem_regsOf hx⟩
  simp only [List.mem_append]
  rintro x ((((h | h) | h) | h) | h) <;> exact ⟨by simp [(mem_regsOf h).1], (mem_regsOf h).2⟩

end Sink

/-! ## One worker: the header is registered last -/

/-- In the log `l`, everything registered after a snapshot of checksum `c` is a snapshot. -/
def HeaderLast (c : Checksum) (l : List Registration) : Prop :=
  ∀ l₁ l₂, l = l₁ ++ l₂ → (∃ x ∈ l₁, x.type = .snapshot ∧ x.checksum = c) →
    ∀ y ∈ l₂, y.type = .snapshot

/-- A block that registers `(snapshot, c)` for the first time, snapshots last, leaves the
header last. -/
theorem headerLast_append {c : Checksum} {l l₁ l₂ : List Registration}
    (hl : ¬∃ x ∈ l, x.type = .snapshot ∧ x.checksum = c) (h₁ : ∀ x ∈ l₁, x.type ≠ .snapshot)
    (h₂ : ∀ x ∈ l₂, x.type = .snapshot) : HeaderLast c (l ++ l₁ ++ l₂) := by
  intro a b hab ⟨x, hx, hxs, hxc⟩
  rcases List.append_eq_append_iff.1 hab with ⟨a', -, rfl⟩ | ⟨c', h', -⟩
  · exact fun y hy => h₂ y (List.mem_append_right _ hy)
  · rcases List.mem_append.1 (h' ▸ List.mem_append_left c' hx) with hx | hx
    · exact absurd ⟨x, hx, hxs, hxc⟩ hl
    · exact absurd hxs (h₁ x hx)

/-- If a message of the last one's checksum was taken from `l₁ ++ l₂ = pre ++ [x]` into `l₁`,
and no message of `pre` has that checksum, nothing is left in `l₂`. -/
theorem eq_nil_of_append_eq_concat {pre l₁ l₂ : List PackerMsg} {x m : PackerMsg}
    (h : l₁ ++ l₂ = pre ++ [x]) (hm : m ∈ l₁) (hc : m.checksum = x.checksum)
    (hfresh : ∀ m ∈ pre, m.checksum ≠ x.checksum) : l₂ = [] := by
  rcases List.eq_nil_or_concat l₂ with h₂ | ⟨L, b, rfl⟩
  · exact h₂
  · rw [List.concat_eq_append, ← List.append_assoc] at h
    have := List.append_inj_left' h rfl
    exact absurd hc (hfresh m (this ▸ List.mem_append_left _ hm))

/-- Once `(snapshot, hdr.checksum)` is registered, on a run whose messages sent are to end with
`hdr`: every message was sent, the channel is empty, no worker holds a builder, and nothing but
snapshots was registered after it. -/
def HeaderInv (pre : List PackerMsg) (hdr : PackerMsg) (s : Session) : Prop :=
  s.packer.sent <+: pre ++ [hdr] →
    (∃ x ∈ s.sink.registered, x.type = .snapshot ∧ x.checksum = hdr.checksum) →
    s.packer.sent = pre ++ [hdr] ∧ s.packer.chan = [] ∧ (∀ i, (s.packer.workers i).pack = none) ∧
      HeaderLast hdr.checksum s.sink.registered

section HeaderInv

variable {r : Repo} {pre : List PackerMsg} {hdr : PackerMsg}
  (hfresh : ∀ m ∈ pre, m.checksum ≠ hdr.checksum)

theorem Step.sent_prefix {w : Nat} {s s' : Session} (h : Step r w s s') :
    s.packer.sent <+: s'.packer.sent := by
  cases h with
  | send msg _ => exact List.prefix_append _ _
  | _ => exact List.prefix_refl _

include hfresh in
/-- The flush that first registers `(snapshot, hdr.checksum)` holds `hdr`: so everything was
sent and received before it, and it registers snapshots last. -/
theorem headerInv_flush {p : Packer} {i : Nat} {pack : PackFile} {k k' : Sink}
    (hpi : PackerInv 1 p) (hp : (p.workers i).pack = some pack)
    (hput : k.putPackfileFrom r pack (p.workers i).seen = .ok k')
    (hpre : p.sent <+: pre ++ [hdr])
    (hreg : ¬∃ x ∈ k.registered, x.type = .snapshot ∧ x.checksum = hdr.checksum)
    (hreg' : ∃ x ∈ k'.registered, x.type = .snapshot ∧ x.checksum = hdr.checksum) :
    p.sent = pre ++ [hdr] ∧ p.chan = [] ∧ HeaderLast hdr.checksum k'.registered := by
  obtain ⟨l₁, l₂, hk', hl₁, hl₂⟩ := Sink.registered_putPackfile hput
  obtain ⟨x, hx, hxs, hxc⟩ := hreg'
  have hfind : (pack.find hdr.checksum).isSome := by
    rw [hk', List.mem_append, List.mem_append] at hx
    rcases hx with (hx | hx) | hx
    · exact absurd ⟨x, hx, hxs, hxc⟩ hreg
    · exact absurd hxs (hl₁ x hx).1
    · exact hxc ▸ (hl₂ x hx).2
  obtain ⟨-, -, -, hpk⟩ := hpi.holding i pack hp
  obtain ⟨m, hm, hmc⟩ := PackFile.exists_of_find_ofMsgs (hpk ▸ hfind)
  have hadded := Packer.mem_added_of_mem_msgsOf hm
  have hsent : p.sent = pre ++ [hdr] := by
    rcases List.prefix_concat_iff.1 hpre with h | h
    · exact h
    · have : m ∈ pre := h.subset (hpi.fifo ▸ List.mem_append_left _ hadded)
      exact absurd hmc (hfresh m this)
  refine ⟨hsent, eq_nil_of_append_eq_concat (hpi.fifo ▸ hsent) hadded hmc hfresh, ?_⟩
  rw [hk']
  exact headerLast_append hreg (fun x hx => (hl₁ x hx).1) fun x hx => (hl₂ x hx).1

/-- With one worker, a worker that has handed its builder over leaves none held. -/
theorem PackerInv.release_none {p : Packer} {i : Nat} {pack : PackFile} (hpi : PackerInv 1 p)
    (hp : (p.workers i).pack = some pack) (j : Nat) : ((p.release i pack).workers j).pack = none := by
  by_cases hji : j = i
  · subst hji; simp
  · rw [Packer.release_workers_of_ne hji]
    cases hpj : (p.workers j).pack with
    | none => rfl
    | some pack' =>
      have := (hpi.holding j pack' hpj).1
      have := (hpi.holding i pack hp).1
      omega

include hfresh in
/-- **Step**, with one worker. -/
theorem headerInv_step {s s' : Session} (hpi : PackerInv 1 s.packer) (hh : HeaderInv pre hdr s)
    (h : Step r 1 s s') : HeaderInv pre hdr s' := by
  intro hpre' hreg'
  have hpre := h.sent_prefix.trans hpre'
  by_cases hreg : ∃ x ∈ s.sink.registered, x.type = .snapshot ∧ x.checksum = hdr.checksum
  · obtain ⟨hsent, hch, hnone, hlast⟩ := hh hpre hreg
    cases h with
    | stay => exact ⟨hsent, hch, hnone, hlast⟩
    | send msg _ =>
      have := hpre'.length_le
      simp [Packer.send, hsent] at this
    | close => exact ⟨hsent, hch, hnone, hlast⟩
    | receive i msg rest _ hc => simp [hch] at hc
    | receiveFlush i msg rest pack sink _ hc => simp [hch] at hc
    | exit i _ _ _ => exact ⟨hsent, hch, fun j => by simpa using hnone j, hlast⟩
    | exitFlush i pack sink _ _ hp => simp [hnone i] at hp
  · cases h with
    | receiveFlush i msg rest pack sink hi hc hp _ hput =>
      have hpi' := hpi.receive hi hc
      obtain ⟨hsent, hch, hlast⟩ := headerInv_flush hfresh hpi' hp hput hpre hreg hreg'
      exact ⟨hsent, hch, hpi'.release_none hp, hlast⟩
    | exitFlush i pack sink _ hch hp hput =>
      obtain ⟨hsent, -, hlast⟩ := headerInv_flush hfresh hpi hp hput hpre hreg hreg'
      exact ⟨hsent, hch, fun j => by simpa using hpi.release_none hp j, hlast⟩
    | _ => exact absurd hreg' hreg

end HeaderInv

/-- **The header is registered last, with one worker.**  On every run of a session with one
worker whose messages sent end with `hdr`, the others carrying other checksums: once
`(snapshot, hdr.checksum)` has been registered, in the repository's state or in the delta,
every registration after it is of a snapshot. -/
theorem exec_header_registered_last {r : Repo} {reg : Registry} {now : Time}
    {acts : List Action} {s : Session} {pre : List PackerMsg} {hdr : PackerMsg}
    (h : Session.exec r 1 (Session.new reg now) acts = some s)
    (hsent : s.packer.sent = pre ++ [hdr]) (hfresh : ∀ m ∈ pre, m.checksum ≠ hdr.checksum)
    (l₁ l₂ : List Registration) (hsplit : s.sink.registered = l₁ ++ l₂)
    (hhdr : ∃ x ∈ l₁, x.type = .snapshot ∧ x.checksum = hdr.checksum) :
    ∀ y ∈ l₂, y.type = .snapshot := by
  have hinv := Session.exec_induction (fun s => PackerInv 1 s.packer ∧ HeaderInv pre hdr s)
    ⟨PackerInv.init reg now, fun _ ⟨_, hx, _⟩ => by simp [Session.new] at hx⟩
    (fun _ _ ⟨hpi, hh⟩ hs => ⟨hpi.step hs, headerInv_step hfresh hpi hh hs⟩) h
  obtain ⟨x, hx, hxs⟩ := hhdr
  obtain ⟨-, -, -, hlast⟩ := hinv.2 (hsent ▸ List.prefix_refl _)
    ⟨x, hsplit ▸ List.mem_append_left _ hx, hxs⟩
  exact hlast l₁ l₂ hsplit ⟨x, hx, hxs⟩

/-- One worker, a chunk, then `Commit`: the chunk's registrations come first. -/
theorem exec_registers_header_after_chunk :
    ∃ s, Session.exec (Repo.plain 4096) 1 (Session.new ⟨State.new Time.epoch, ∅⟩ Time.epoch)
        ([.put .chunk (.ofByte 1) [7]] ++ commitStart (.ofByte 2) [8] ++
          [.recv 0, .recv 0, .exit 0]) = some s ∧
      s.packer.sent = [⟨.chunk, .ofByte 1, [7]⟩] ++ [⟨.snapshot, .ofByte 2, [8]⟩] ∧
      (∀ m ∈ [(⟨.chunk, .ofByte 1, [7]⟩ : PackerMsg)],
        m.checksum ≠ (⟨.snapshot, .ofByte 2, [8]⟩ : PackerMsg).checksum) ∧
      s.sink.registered = [⟨false, .chunk, .ofByte 1⟩, ⟨true, .chunk, .ofByte 1⟩,
        ⟨false, .snapshot, .ofByte 2⟩] ++ [⟨true, .snapshot, .ofByte 2⟩] ∧
      (∃ x ∈ [(⟨false, .chunk, .ofByte 1⟩ : Registration), ⟨true, .chunk, .ofByte 1⟩,
        ⟨false, .snapshot, .ofByte 2⟩], x.type = .snapshot ∧ x.checksum = .ofByte 2) ∧
      ∀ y ∈ [(⟨true, .snapshot, .ofByte 2⟩ : Registration)], y.type = .snapshot :=
  (fun h hs hf hr hx => ⟨_, h, hs, hf, hr, hx, exec_header_registered_last h hs hf _ _ hr hx⟩)
    rfl (by decide) (by decide) (by decide) (by decide)

/-- Two workers, a chunk, then `Commit`: worker 0 takes the chunk, worker 1 the header and
leaves its loop first.  The chunk is registered after the header, in the repository's state and
in the delta. -/
theorem exec_registers_chunk_after_header :
    ∃ s, Session.exec (Repo.plain 4096) 2 (Session.new ⟨State.new Time.epoch, ∅⟩ Time.epoch)
        ([.put .chunk (.ofByte 1) [7]] ++ commitStart (.ofByte 2) [8] ++
          [.recv 0, .recv 1, .exit 1, .exit 0]) = some s ∧
      s.packer.Done 2 ∧
      s.sink.registered = [⟨false, .snapshot, .ofByte 2⟩, ⟨true, .snapshot, .ofByte 2⟩,
        ⟨false, .chunk, .ofByte 1⟩, ⟨true, .chunk, .ofByte 1⟩] :=
  ⟨_, rfl, by decide, by decide⟩

/-! ## A file misfiled by the delta -/

/-- One worker, a file, then `Commit`: `PutPackfile` registers the file with
`SetPackfileForFile`, which stores into `Objects`.  Once `packerChanDone` is signalled, the
delta reports no location for the file and locates it as an object. -/
theorem exec_commit_misfiles_file :
    ∃ s, Session.exec (Repo.plain 4096) 1 (Session.new ⟨State.new Time.epoch, ∅⟩ Time.epoch)
        ([.put .file (.ofByte 1) [7]] ++ commitStart (.ofByte 2) [8] ++
          [.recv 0, .recv 0, .exit 0]) = some s ∧
      s.packer.Done 1 ∧ s.sink.packfiles.map Prod.fst = [.ofByte 16] ∧
      (s.sink.stateDelta.state.getSubpartForFile (.ofByte 1)).2 = (Checksum.zero, 0, 0, false) ∧
      (s.sink.stateDelta.state.getSubpartForObject (.ofByte 1)).2 = (.ofByte 16, 0, 1, true) :=
  ⟨_, rfl, by decide, by decide, by decide, by decide⟩

end Snapshot

end Plakar
