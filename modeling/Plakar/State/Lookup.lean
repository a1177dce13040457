import Plakar.State.Intern

/-!
# What the state locates

`locate st k c` is where `st` places blob `c` in table `k`: the packfile's checksum, offset and
length.  On a coherent state it is what `GetSubpartFor<K>` reports (`getSubpartIn_eq`),
interning changes none of it (`locate_getOrCreateIdForChecksum`), and a registration changes one
entry of one table (`locate_setPackfileIn`):

    (st.setPackfileIn checked written p c o l).locate k c' =
      if k = written ∧ c' = c ∧ st.locate checked c = none then some (p, o, l)
      else st.locate k c'

For `Chunk` and `Object` (`checked = written`) that is a first-writer-wins update of the
method's own table.  `File`, `Directory` and `Blob` check their own table and write `Objects`.
-/

namespace Plakar

namespace State

/-- Where `st` places blob `c` in table `k`. -/
def locate (st : State) (k : Kind) (c : Checksum) : Option (Checksum × UInt32 × UInt32) :=
  (st.checksumToId.lookup c).bind fun id =>
    ((st.table k).lookup id).map fun loc => (lookupD st.idToChecksum loc.packfile, loc.offset, loc.length)

/-- A `GetSubpartFor*` result from an optional location. -/
def Subpart.ofOption : Option (Checksum × UInt32 × UInt32) → Subpart
  | none => (Checksum.zero, 0, 0, false)
  | some (p, o, l) => (p, o, l, true)

variable {st : State}

/-! ## Lemmas -/

theorem locate_of_lookup (st : State) {k : Kind} {c : Checksum} {id : Nat}
    (h : st.checksumToId.lookup c = some id) :
    st.locate k c = ((st.table k).lookup id).map fun loc =>
      (lookupD st.idToChecksum loc.packfile, loc.offset, loc.length) := by
  simp [locate, h]

theorem locate_of_none (st : State) (k : Kind) {c : Checksum}
    (h : st.checksumToId.lookup c = none) : st.locate k c = none := by
  simp [locate, h]

/-- The id `c` is interned under is in table `k` exactly when `st` locates `c` there. -/
theorem mem_table_iff (hi : InternInv st) {id : Nat} {c : Checksum}
    (h : st.idToChecksum.lookup id = some c) (k : Kind) :
    id ∈ st.table k ↔ (st.locate k c).isSome := by
  rw [st.locate_of_lookup ((hi.inverse c id).2 h), Option.isSome_map', AList.lookup_isSome]

/-- Interning keeps every location. -/
theorem locate_getOrCreateIdForChecksum (hi : InternInv st) {c : Checksum} {st' : State}
    {id : Nat} (h : st.getOrCreateIdForChecksum c = (st', id)) (k : Kind) (c' : Checksum) :
    st'.locate k c' = st.locate k c' := by
  cases hc : st.checksumToId.lookup c with
  | some id' =>
    rw [st.getOrCreateIdForChecksum_of_some hc, Prod.mk.injEq] at h
    rw [← h.1]
  | none =>
    rw [st.getOrCreateIdForChecksum_of_none hc, Prod.mk.injEq] at h
    obtain ⟨rfl, rfl⟩ := h
    have hN : (st.table k).lookup st.size = none :=
      AList.lookup_eq_none.2 fun m => by
        obtain ⟨l, hl⟩ := Option.isSome_iff_exists.1 (AList.lookup_isSome.2 m)
        exact Nat.lt_irrefl _ (hi.table_lt k _ l hl).1
    by_cases he : c' = c
    · subst he
      simp [locate, hc, hN]
    · simp only [locate, checksumToId_insertChecksum, AList.lookup_insert_ne he,
        table_insertChecksum, idToChecksum_insertChecksum]
      cases h' : st.checksumToId.lookup c' with
      | none => rfl
      | some i =>
        cases hl : (st.table k).lookup i with
        | none => simp [hl]
        | some loc =>
          have := (hi.table_lt k i loc hl).2
          simp [hl, lookupD, AList.lookup_insert_ne (Nat.ne_of_lt this)]

/-- Storing `id ↦ ⟨pid, o, l⟩`, with `id` naming `c` and `pid` naming `p`. -/
theorem locate_storeIn (hi : InternInv st) {checked written : Kind} {id pid : Nat}
    {c p : Checksum} (hc : st.idToChecksum.lookup id = some c)
    (hp : st.idToChecksum.lookup pid = some p) (o l : UInt32) (k : Kind) (c' : Checksum) :
    (st.storeIn checked written id ⟨pid, o, l⟩).locate k c' =
      if k = written ∧ c' = c ∧ st.locate checked c = none then some (p, o, l)
      else st.locate k c' := by
  have hmem := mem_table_iff hi hc checked
  unfold storeIn
  by_cases hin : id ∈ st.table checked
  · have : st.locate checked c ≠ none := Option.ne_none_iff_isSome.2 (hmem.1 hin)
    simp [hin, this]
  · have hnone : st.locate checked c = none := Option.not_isSome_iff_eq_none.1 (mt hmem.2 hin)
    simp only [hin, if_false, hnone, and_true]
    cases hc' : st.checksumToId.lookup c' with
    | none =>
      have hne : c' ≠ c := fun e => by rw [e, (hi.inverse c id).2 hc] at hc'; cases hc'
      simp [locate, hc', hne]
    | some i =>
      have hi' := (hi.inverse c' i).1 hc'
      simp only [locate, hc', checksumToId_markDirty, checksumToId_setTable, idToChecksum_markDirty,
        idToChecksum_setTable, table_markDirty, Option.some_bind]
      by_cases hk : k = written
      · subst hk
        simp only [table_setTable_self, AList.lookup_insert_eq]
        by_cases hic : i = id
        · subst hic
          have : c' = c := by rw [hi'] at hc; exact Option.some.inj hc
          simp [this, lookupD, hp]
        · have : c' ≠ c := fun e => hic (hi.injective i id c (e ▸ hi') hc)
          simp [hic, this]
      · simp [table_setTable_of_ne _ _ hk, hk]

/-- **Registration.**  Intern the packfile and the blob, then store in `written` if `checked`
had no location for the blob. -/
theorem locate_setPackfileIn (hi : InternInv st) (checked written : Kind) (p c : Checksum)
    (o l : UInt32) (k : Kind) (c' : Checksum) :
    (st.setPackfileIn checked written p c o l).locate k c' =
      if k = written ∧ c' = c ∧ st.locate checked c = none then some (p, o, l)
      else st.locate k c' := by
  rcases h1 : st.getOrCreateIdForChecksum p with ⟨st1, pid⟩
  rcases h2 : st1.getOrCreateIdForChecksum c with ⟨st2, cid⟩
  obtain ⟨i1, s1, l1, -⟩ := getOrCreateIdForChecksum_inv hi h1
  obtain ⟨i2, s2, l2, k2⟩ := getOrCreateIdForChecksum_inv i1 h2
  have hp : st2.idToChecksum.lookup pid = some p := by rw [k2 pid (i1.lt_size l1), l1]
  simp only [setPackfileIn, h1, h2]
  rw [locate_storeIn i2 l2 hp, locate_getOrCreateIdForChecksum i1 h2,
    locate_getOrCreateIdForChecksum hi h1, locate_getOrCreateIdForChecksum i1 h2,
    locate_getOrCreateIdForChecksum hi h1]

/-- On a coherent state, `GetSubpartFor<K>` reports `locate`. -/
theorem getSubpartIn_eq (hi : InternInv st) (k : Kind) (c : Checksum) :
    (st.getSubpartIn k c).2 = Subpart.ofOption (st.locate k c) := by
  rcases h : st.getOrCreateIdForChecksum c with ⟨st', id⟩
  obtain ⟨i', -, l', -⟩ := getOrCreateIdForChecksum_inv hi h
  rw [← locate_getOrCreateIdForChecksum hi h, st'.locate_of_lookup ((i'.inverse c id).2 l')]
  unfold getSubpartIn
  rw [h]
  cases hl : (st'.table k).lookup id <;> simp [hl, Subpart.ofOption]

end State

end Plakar
