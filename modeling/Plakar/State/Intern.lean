import Plakar.State.Basic

/-!
# The intern invariant

`InternInv st`: with `N = len(st.IdToChecksum)`, the ids of `IdToChecksum` are exactly
`0 .. N-1`, it is injective, `checksumToId` is its inverse, and every key and every
`Location.Packfile` of the five tables is below `N`.  Interning a checksum keeps it because the
fresh id `N` is unused (`getOrCreateIdForChecksum_inv`); a store keeps it when both ids were
handed out before (`storeIn_inv`).  Every method of the state is made of these two steps, so
every method keeps it (`setPackfileIn_inv`, `getSubpartIn_inv`, `merge_inv`, ...).
-/

namespace Plakar

theorem AList.lookup_insert_eq {α β : Type} [DecidableEq α] (m : AList fun _ : α => β)
    (a a' : α) (b : β) :
    (m.insert a b).lookup a' = if a' = a then some b else m.lookup a' := by
  split
  · subst_vars; exact AList.lookup_insert m
  · exact AList.lookup_insert_ne ‹_›

namespace State

/-- The intern table is coherent and every table points into it. -/
structure InternInv (st : State) : Prop where
  mem_iff_lt : ∀ id, id ∈ st.idToChecksum ↔ id < st.size
  injective : ∀ i j c, st.idToChecksum.lookup i = some c → st.idToChecksum.lookup j = some c → i = j
  inverse : ∀ c id, st.checksumToId.lookup c = some id ↔ st.idToChecksum.lookup id = some c
  table_lt : ∀ k id loc, (st.table k).lookup id = some loc → id < st.size ∧ loc.packfile < st.size

variable {st : State}

theorem InternInv.new (now : Time) : InternInv (State.new now) where
  mem_iff_lt id := by simp [State.new, size, AList.not_mem_empty]
  injective i j c h := by simp [State.new] at h
  inverse c id := by simp [State.new]
  table_lt k id loc h := by cases k <;> simp [State.new, table] at h

/-! ## Interning -/

theorem InternInv.size_not_mem (hi : InternInv st) : st.size ∉ st.idToChecksum :=
  fun h => absurd ((hi.mem_iff_lt _).1 h) (Nat.lt_irrefl _)

theorem size_insertChecksum (hi : InternInv st) (c : Checksum) :
    (st.insertChecksum c).size = st.size + 1 := by
  show (st.idToChecksum.insert st.size c).entries.length = _
  rw [AList.insert_entries_of_neg hi.size_not_mem]
  rfl

/-- A checksum absent from `checksumToId` is named by no id. -/
theorem InternInv.lookup_ne_of_none (hi : InternInv st) {c : Checksum}
    (h : st.checksumToId.lookup c = none) (id : Nat) : st.idToChecksum.lookup id ≠ some c :=
  fun e => by simp [(hi.inverse c id).2 e] at h

theorem insertChecksum_inv (hi : InternInv st) {c : Checksum}
    (h : st.checksumToId.lookup c = none) : InternInv (st.insertChecksum c) := by
  have hfresh := hi.lookup_ne_of_none h
  have hN : st.idToChecksum.lookup st.size = none := AList.lookup_eq_none.2 hi.size_not_mem
  constructor
  · intro id
    rw [size_insertChecksum hi, idToChecksum_insertChecksum, AList.mem_insert, hi.mem_iff_lt]
    omega
  · intro i j c'
    simp only [idToChecksum_insertChecksum, AList.lookup_insert_eq]
    split_ifs with hi' hj
    · exact fun _ _ => hi'.trans hj.symm
    · rintro ⟨⟩ e; exact absurd e (hfresh j)
    · rintro e ⟨⟩; exact absurd e (hfresh i)
    · exact hi.injective i j c'
  · intro c' id
    simp only [checksumToId_insertChecksum, idToChecksum_insertChecksum, AList.lookup_insert_eq]
    by_cases hc : c' = c
    · subst hc
      by_cases hid : id = st.size
      · simp [hid]
      · simp [hid, Ne.symm hid, hfresh id]
    · by_cases hid : id = st.size
      · subst hid; simp [hc, Ne.symm hc, hN, hi.inverse]
      · simp [hc, hid, hi.inverse]
  · intro k id loc hl
    have := hi.table_lt k id loc (by simpa using hl)
    rw [size_insertChecksum hi]
    omega

theorem InternInv.lt_size (hi : InternInv st) {id : Nat} {c : Checksum}
    (h : st.idToChecksum.lookup id = some c) : id < st.size :=
  (hi.mem_iff_lt id).1 (AList.lookup_isSome.1 (by simp [h]))

/-- Interning keeps the invariant; the state only grows, the ids it had keep their checksums,
and the id returned names `c`. -/
theorem getOrCreateIdForChecksum_inv (hi : InternInv st) {c : Checksum} {st' : State} {id : Nat}
    (h : st.getOrCreateIdForChecksum c = (st', id)) :
    InternInv st' ∧ st.size ≤ st'.size ∧ st'.idToChecksum.lookup id = some c ∧
      ∀ i, i < st.size → st'.idToChecksum.lookup i = st.idToChecksum.lookup i := by
  cases hc : st.checksumToId.lookup c with
  | some id' =>
    rw [st.getOrCreateIdForChecksum_of_some hc, Prod.mk.injEq] at h
    obtain ⟨rfl, rfl⟩ := h
    exact ⟨hi, le_rfl, (hi.inverse c _).1 hc, fun _ _ => rfl⟩
  | none =>
    rw [st.getOrCreateIdForChecksum_of_none hc, Prod.mk.injEq] at h
    obtain ⟨rfl, rfl⟩ := h
    refine ⟨insertChecksum_inv hi hc, by rw [size_insertChecksum hi]; omega, by simp, ?_⟩
    intro i hi'
    simp [AList.lookup_insert_eq, Nat.ne_of_lt hi']

/-- A state with the same intern table whose tables point below `N` keeps the invariant. -/
theorem InternInv.of_tables (hi : InternInv st) {st' : State}
    (h1 : st'.idToChecksum = st.idToChecksum) (h2 : st'.checksumToId = st.checksumToId)
    (ht : ∀ k id loc, (st'.table k).lookup id = some loc → id < st.size ∧ loc.packfile < st.size) :
    InternInv st' := by
  have hs : st'.size = st.size := by simp only [size, h1]
  exact ⟨by rw [hs, h1]; exact hi.mem_iff_lt, by rw [h1]; exact hi.injective,
    by rw [h1, h2]; exact hi.inverse, by rw [hs]; exact ht⟩

/-! ## Storing -/

theorem storeIn_inv (hi : InternInv st) {checked written : Kind} {id pid : Nat} (o l : UInt32)
    (hid : id < st.size) (hp : pid < st.size) :
    InternInv (st.storeIn checked written id ⟨pid, o, l⟩) := by
  unfold storeIn
  split
  · exact hi
  · refine hi.of_tables (by simp) (by simp) fun k i l hl => ?_
    by_cases hk : k = written
    · subst hk
      simp only [table_markDirty, table_setTable_self, AList.lookup_insert_eq] at hl
      split_ifs at hl with he
      · cases hl; exact ⟨he ▸ hid, hp⟩
      · exact hi.table_lt k i l hl
    · simp only [table_markDirty, table_setTable_of_ne _ _ hk] at hl
      exact hi.table_lt k i l hl

theorem size_storeIn (checked written : Kind) (id : Nat) (loc : Location) :
    (st.storeIn checked written id loc).size = st.size := by
  unfold storeIn; split <;> simp [size]

theorem setPackfileIn_inv (hi : InternInv st) (checked written : Kind) (p c : Checksum)
    (o l : UInt32) :
    InternInv (st.setPackfileIn checked written p c o l) ∧
      st.size ≤ (st.setPackfileIn checked written p c o l).size := by
  rcases h1 : st.getOrCreateIdForChecksum p with ⟨st1, pid⟩
  rcases h2 : st1.getOrCreateIdForChecksum c with ⟨st2, cid⟩
  obtain ⟨i1, s1, l1, -⟩ := getOrCreateIdForChecksum_inv hi h1
  obtain ⟨i2, s2, l2, -⟩ := getOrCreateIdForChecksum_inv i1 h2
  have hp : pid < st2.size := by have := i1.lt_size l1; omega
  simp only [setPackfileIn, h1, h2, size_storeIn]
  exact ⟨storeIn_inv i2 o l (i2.lt_size l2) hp, by omega⟩

/-! ## Queries, lineage, dirty flag -/

theorem getSubpartIn_fst (k : Kind) (c : Checksum) :
    (st.getSubpartIn k c).1 = (st.getOrCreateIdForChecksum c).1 := by
  rcases h : st.getOrCreateIdForChecksum c with ⟨st', id⟩
  simp only [getSubpartIn, h]
  split <;> rfl

theorem getPackfileIn_fst (k : Kind) (c : Checksum) :
    (st.getPackfileIn k c).1 = (st.getOrCreateIdForChecksum c).1 := by
  rcases h : st.getOrCreateIdForChecksum c with ⟨st', id⟩
  simp only [getPackfileIn, h]
  split <;> rfl

theorem existsIn_fst (k : Kind) (c : Checksum) :
    (st.existsIn k c).1 = (st.getOrCreateIdForChecksum c).1 := rfl

theorem getOrCreateIdForChecksum_inv' (hi : InternInv st) (c : Checksum) :
    InternInv (st.getOrCreateIdForChecksum c).1 ∧ st.size ≤ (st.getOrCreateIdForChecksum c).1.size :=
  let h := getOrCreateIdForChecksum_inv hi (@Prod.mk.eta _ _ (st.getOrCreateIdForChecksum c)).symm
  ⟨h.1, h.2.1⟩

theorem extends_inv (hi : InternInv st) (stateID : Checksum) : InternInv (st.extends stateID) :=
  hi.of_tables rfl rfl fun k => by simpa using hi.table_lt k

theorem resetDirty_inv (hi : InternInv st) : InternInv st.resetDirty :=
  hi.of_tables rfl rfl fun k => by simpa using hi.table_lt k

/-! ## Merge -/

theorem mergeTable_inv (hi : InternInv st) (k : Kind) (deltaState : State) :
    InternInv (mergeTable k deltaState st) := by
  unfold mergeTable
  induction (deltaState.table k).entries generalizing st with
  | nil => exact hi
  | cons e es ih =>
    rw [List.foldl_cons]
    exact ih (by rw [setPackfileFor_eq]; exact (setPackfileIn_inv hi _ _ _ _ _ _).1)

theorem merge_inv (hi : InternInv st) (stateID : Checksum) (deltaState : State) :
    InternInv (st.merge stateID deltaState) := by
  unfold merge
  simp only [List.foldl_cons, List.foldl_nil]
  exact mergeTable_inv (mergeTable_inv (mergeTable_inv (mergeTable_inv (mergeTable_inv hi _ _)
    _ _) _ _) _ _) _ _

end State

end Plakar
