import Plakar.Snapshot.Packer

/-!
# Packfiles close at the size threshold

A worker adds the message it receives to its builder, and hands the builder to `PutPackfile`
when `pack.Size() > uint32(repo.Configuration().PackfileSize)`; what it still holds when the
channel is closed and drained goes to `PutPackfile` as it leaves its loop.  With
`T = uint32(PackfileSize)`, every run keeps `SizeInv`:

* a builder a worker holds between two iterations has `Size() ≤ T`;
* every builder handed to `PutPackfile` was, before its last `AddBlob`, a fresh
  `packfile.New()` (the worker held none) or a builder of `Size() ≤ T`;
* a builder handed over at or under `T` was handed over on a closed and drained channel, when
  no message could join it any more.

`Size` is the repository's (`Repo.size`): the packfile package is not under src.
-/

namespace Plakar

namespace Snapshot

/-- `pack` is `pre` after one `AddBlob`, where `pre` is a fresh builder or one within the
threshold. -/
def LastAddWithin (r : Repo) (pack : PackFile) : Prop :=
  ∃ pre t c d, pack = pre.addBlob t c d ∧
    (pre = PackFile.new ∨ r.size pre ≤ UInt32.ofNat r.packfileSize)

/-- What the size check keeps along every run. -/
structure SizeInv (r : Repo) (p : Packer) : Prop where
  held : ∀ i pack, (p.workers i).pack = some pack →
    r.size pack ≤ UInt32.ofNat r.packfileSize ∧ LastAddWithin r pack
  flushed : ∀ e ∈ p.flushed, LastAddWithin r e.2 ∧
    (r.size e.2 ≤ UInt32.ofNat r.packfileSize → p.closed = true ∧ p.chan = [])

namespace SizeInv

variable {r : Repo} {p : Packer} {i : Nat}

/-- The builder a worker adds to is fresh or within the threshold. -/
theorem lastAddWithin_builderOf
    (hheld : ∀ i pack, (p.workers i).pack = some pack → r.size pack ≤ UInt32.ofNat r.packfileSize)
    (t : BlobType) (c : Checksum) (d : List UInt8) :
    LastAddWithin r ((p.builderOf i).1.addBlob t c d) := by
  cases hp : (p.workers i).pack with
  | none => exact ⟨_, t, c, d, rfl, .inl (by simp [Packer.builderOf, hp])⟩
  | some pack => exact ⟨_, t, c, d, rfl, .inr (by simpa [Packer.builderOf, hp] using hheld i pack hp)⟩

/-- While a message waits in the channel, every builder handed over so far was over the
threshold. -/
theorem flushed_over (hs : SizeInv r p) {msg : PackerMsg} {rest : List PackerMsg}
    (hc : p.chan = msg :: rest) : ∀ e ∈ p.flushed, UInt32.ofNat r.packfileSize < r.size e.2 :=
  fun e he => UInt32.not_le.1 fun hle => by
    have := ((hs.flushed e he).2 hle).2
    simp [hc] at this

theorem init (reg : Registry) (now : Time) : SizeInv r (Session.new reg now).packer where
  held := by simp [Session.new, Worker.init]
  flushed := by simp [Session.new]

theorem send (hs : SizeInv r p) (msg : PackerMsg) (hc : p.closed = false) :
    SizeInv r (p.send msg) where
  held := hs.held
  flushed e he := ⟨(hs.flushed e he).1, fun hle => by
    have := ((hs.flushed e he).2 hle).1
    simp [hc] at this⟩

theorem close (hs : SizeInv r p) : SizeInv r p.close where
  held := hs.held
  flushed e he := ⟨(hs.flushed e he).1, fun hle => ⟨rfl, ((hs.flushed e he).2 hle).2⟩⟩

/-- A receive under the threshold: the worker keeps its builder. -/
theorem receive (hs : SizeInv r p) {msg : PackerMsg} {rest : List PackerMsg}
    (hc : p.chan = msg :: rest)
    (hle : r.size (({ p with chan := rest }.builderOf i).1.addBlob msg.type msg.checksum
      msg.data) ≤ UInt32.ofNat r.packfileSize) :
    SizeInv r ({ p with chan := rest }.receive i msg) where
  held j pack hj := by
    by_cases hji : j = i
    · subst hji
      simp only [Packer.receive_workers_self, Option.some.injEq] at hj
      subst hj
      exact ⟨hle, @lastAddWithin_builderOf r { p with chan := rest } _
        (fun j pk h => (hs.held j pk h).1) _ _ _⟩
    · rw [Packer.receive_workers_of_ne hji] at hj
      exact hs.held j pack hj
  flushed e he := ⟨(hs.flushed e he).1,
    fun hle' => absurd hle' (UInt32.not_le.2 (hs.flushed_over hc e he))⟩

/-- A receive over the threshold: the worker hands its builder to `PutPackfile`. -/
theorem receiveFlush (hs : SizeInv r p) {msg : PackerMsg} {rest : List PackerMsg}
    {pack : PackFile} (hc : p.chan = msg :: rest)
    (hp : (({ p with chan := rest }.receive i msg).workers i).pack = some pack)
    (hgt : UInt32.ofNat r.packfileSize < r.size pack) :
    SizeInv r (({ p with chan := rest }.receive i msg).release i pack) where
  held j pack' hj := by
    by_cases hji : j = i
    · subst hji; simp at hj
    · rw [Packer.release_workers_of_ne hji, Packer.receive_workers_of_ne hji] at hj
      exact hs.held j pack' hj
  flushed e he := by
    simp only [Packer.release, List.mem_append, List.mem_singleton] at he
    rcases he with he | rfl
    · exact ⟨(hs.flushed e he).1,
        fun hle => absurd hle (UInt32.not_le.2 (hs.flushed_over hc e he))⟩
    · simp only [Packer.receive_workers_self, Option.some.injEq] at hp
      subst hp
      exact ⟨@lastAddWithin_builderOf r { p with chan := rest } _
        (fun j pk h => (hs.held j pk h).1) _ _ _,
        fun hle => absurd hle (UInt32.not_le.2 hgt)⟩

theorem setExited (hs : SizeInv r p) : SizeInv r (p.setExited i) where
  held j pack hj := hs.held j pack (by simpa using hj)
  flushed := hs.flushed

/-- A worker leaving its loop hands over what it holds, on a closed and drained channel. -/
theorem exitFlush (hs : SizeInv r p) {pack : PackFile} (hc : p.closed = true) (hch : p.chan = [])
    (hp : (p.workers i).pack = some pack) : SizeInv r ((p.release i pack).setExited i) where
  held j pack' hj := by
    by_cases hji : j = i
    · subst hji; simp at hj
    · exact hs.held j pack' (by simpa [hji] using hj)
  flushed e he := by
    simp only [Packer.setExited, Packer.release, List.mem_append, List.mem_singleton] at he
    rcases he with he | rfl
    · exact hs.flushed e he
    · exact ⟨(hs.held i pack hp).2, fun _ => ⟨hc, hch⟩⟩

/-- **Step.**  Every transition keeps the invariant. -/
theorem step {w : Nat} {s s' : Session} (hs : SizeInv r s.packer) (h : Step r w s s') :
    SizeInv r s'.packer := by
  cases h with
  | stay => exact hs
  | send msg hc => exact hs.send msg hc
  | close => exact hs.close
  | receive i msg rest _ hc hle => exact hs.receive hc hle
  | receiveFlush i msg rest pack sink _ hc hp hgt _ => exact hs.receiveFlush hc hp hgt
  | exit i _ _ _ => exact hs.setExited
  | exitFlush i pack sink hc hch hp _ => exact hs.exitFlush hc hch hp

end SizeInv

/-- **Run.**  Every session reachable from `Snapshot.New` keeps the invariant. -/
theorem exec_sizeInv {r : Repo} {w : Nat} {reg : Registry} {now : Time} {acts : List Action}
    {s : Session} (h : Session.exec r w (Session.new reg now) acts = some s) :
    SizeInv r s.packer :=
  Session.exec_induction (fun s => SizeInv r s.packer) (SizeInv.init reg now)
    (fun _ _ hs hst => hs.step hst) h

/-- **The size threshold.**  With `T = uint32(PackfileSize)`, along every run, whatever the
messages and the schedule: a worker holds no builder over `T` between two iterations; every
builder handed to `PutPackfile` was one `AddBlob` away from a fresh builder or from one within
`T`; and one handed over at or under `T` was handed over on a closed and drained channel. -/
theorem exec_respects_packfileSize {r : Repo} {w : Nat} {reg : Registry} {now : Time}
    {acts : List Action} {s : Session}
    (h : Session.exec r w (Session.new reg now) acts = some s) :
    (∀ i pack, (s.packer.workers i).pack = some pack →
      r.size pack ≤ UInt32.ofNat r.packfileSize) ∧
      ∀ e ∈ s.packer.flushed,
        (∃ pre t c d, e.2 = pre.addBlob t c d ∧
          (pre = PackFile.new ∨ r.size pre ≤ UInt32.ofNat r.packfileSize)) ∧
        (r.size e.2 ≤ UInt32.ofNat r.packfileSize → s.packer.closed = true ∧ s.packer.chan = []) :=
  have hs := exec_sizeInv h
  ⟨fun i pack hp => (hs.held i pack hp).1, hs.flushed⟩

/-- A threshold of one byte: a two-byte chunk is handed over at once, past the threshold, and a
one-byte chunk at exit, at the threshold. -/
theorem exec_flushes_over_threshold :
    ∃ s, Session.exec (Repo.plain 1) 1 (Session.new ⟨State.new Time.epoch, ∅⟩ Time.epoch)
        [.put .chunk (.ofByte 1) [7, 7], .put .chunk (.ofByte 2) [8], .close, .recv 0, .recv 0,
          .exit 0] = some s ∧
      s.packer.flushed = [(0, PackFile.new.addBlob .chunk (.ofByte 1) [7, 7]),
        (1, PackFile.new.addBlob .chunk (.ofByte 2) [8])] ∧
      (Repo.plain 1).size (PackFile.new.addBlob .chunk (.ofByte 1) [7, 7]) = 2 ∧
      (Repo.plain 1).size (PackFile.new.addBlob .chunk (.ofByte 2) [8]) = 1 ∧
      ((∀ i pack, (s.packer.workers i).pack = some pack →
        (Repo.plain 1).size pack ≤ UInt32.ofNat (Repo.plain 1).packfileSize) ∧
        ∀ e ∈ s.packer.flushed,
          (∃ pre t c d, e.2 = pre.addBlob t c d ∧
            (pre = PackFile.new ∨ (Repo.plain 1).size pre ≤ UInt32.ofNat (Repo.plain 1).packfileSize)) ∧
          ((Repo.plain 1).size e.2 ≤ UInt32.ofNat (Repo.plain 1).packfileSize →
            s.packer.closed = true ∧ s.packer.chan = [])) :=
  (fun h => ⟨_, h, rfl, by decide, by decide, exec_respects_packfileSize h⟩) rfl

end Snapshot

end Plakar
