import Plakar.State.Lookup

/-!
# The method families, kind by kind

The five `SetPackfileFor<K>`, `GetSubpartFor<K>`, `GetPackfileFor<K>` and `<K>Exists` share one
body each (`setPackfileIn`, `getSubpartIn`, `getPackfileIn`, `existsIn`) and differ in the
tables they touch:

    (setPackfileFor k st p c o l).locate k' c' =
      if k' = k.written ∧ c' = c ∧ st.locate k c = none then some (p, o, l)
      else st.locate k' c'                                          (locate_setPackfileFor)
    (st.existsIn k c).2 = (st.getSubpartIn k c).2.2.2.2                         (existsIn_eq)

`k.written` is `k` for `Chunk` and `Object` only: `File`, `Directory` and `Blob` store into
`Objects`, so `GetSubpartForFile` never sees what `SetPackfileForFile` stores, and `Merge`, which
goes through the setters, drops the delta's files, directories and blobs into `Objects`.
`k.existsTable` is `k` except for `Blob`: `BlobExists` reads `Directories`.
-/

namespace Plakar

namespace State

variable {st : State}

/-! ## Registration -/

theorem locate_setPackfileFor (hi : InternInv st) (k : Kind) (p c : Checksum) (o l : UInt32)
    (k' : Kind) (c' : Checksum) :
    (setPackfileFor k st p c o l).locate k' c' =
      if k' = k.written ∧ c' = c ∧ st.locate k c = none then some (p, o, l)
      else st.locate k' c' := by
  rw [setPackfileFor_eq]
  exact locate_setPackfileIn hi k k.written p c o l k' c'

theorem setPackfileFor_inv (hi : InternInv st) (k : Kind) (p c : Checksum) (o l : UInt32) :
    InternInv (setPackfileFor k st p c o l) := by
  rw [setPackfileFor_eq]; exact (setPackfileIn_inv hi _ _ _ _ _ _).1

theorem Subpart.ofOption_or (x : Option (Checksum × UInt32 × UInt32)) (p : Checksum)
    (o l : UInt32) :
    Subpart.ofOption (x.or (some (p, o, l))) =
      if (Subpart.ofOption x).2.2.2 then Subpart.ofOption x else (p, o, l, true) := by
  rcases x with _ | ⟨_, _, _⟩ <;> rfl

/-- `SetPackfileForChunk` and `SetPackfileForObject` are first-writer-wins updates of their own
table: `GetSubpartFor<K>(c)` reports the old location if there was one and the new one
otherwise, and every other kind reports what it did. -/
theorem getSubpartFor_setPackfileFor_own (hi : InternInv st) {k : Kind} (hk : k.written = k)
    (p c : Checksum) (o l : UInt32) :
    (getSubpartFor k (setPackfileFor k st p c o l) c).2 =
        (if (getSubpartFor k st c).2.2.2.2 then (getSubpartFor k st c).2 else (p, o, l, true)) ∧
      ∀ k', k' ≠ k → ∀ c',
        (getSubpartFor k' (setPackfileFor k st p c o l) c').2 = (getSubpartFor k' st c').2 := by
  have hi' := setPackfileFor_inv hi k p c o l
  simp only [getSubpartFor_eq, getSubpartIn_eq hi', getSubpartIn_eq hi,
    locate_setPackfileFor hi, hk]
  refine ⟨?_, fun k' hk' c' => by simp [hk']⟩
  rw [← Subpart.ofOption_or]
  cases st.locate k c <;> simp

/-- A chunk registered on a fresh state: `GetSubpartForChunk` reports it, and the other kinds
report what they did. -/
theorem getSubpartFor_setPackfileFor_chunk :
    InternInv (State.new Time.epoch) ∧ Kind.chunk.written = .chunk ∧
      (getSubpartFor .chunk (setPackfileFor .chunk (State.new Time.epoch) (.ofByte 1) (.ofByte 2)
        0 1) (.ofByte 2)).2 = (.ofByte 1, 0, 1, true) ∧
      ((getSubpartFor .chunk (setPackfileFor .chunk (State.new Time.epoch) (.ofByte 1) (.ofByte 2)
          0 1) (.ofByte 2)).2 =
          (if (getSubpartFor .chunk (State.new Time.epoch) (.ofByte 2)).2.2.2.2 then
            (getSubpartFor .chunk (State.new Time.epoch) (.ofByte 2)).2
          else (.ofByte 1, 0, 1, true)) ∧
        ∀ k', k' ≠ .chunk → ∀ c',
          (getSubpartFor k' (setPackfileFor .chunk (State.new Time.epoch) (.ofByte 1) (.ofByte 2)
            0 1) c').2 = (getSubpartFor k' (State.new Time.epoch) c').2) :=
  ⟨InternInv.new _, rfl, by decide,
    getSubpartFor_setPackfileFor_own (InternInv.new _) rfl (.ofByte 1) (.ofByte 2) 0 1⟩

/-- **A file stored as an object.**  On a fresh state, `SetPackfileForFile(p, c, 0, 1)` leaves
`GetSubpartForFile(c)` reporting nothing and makes `GetSubpartForObject(c)`, which reported
nothing before, report `(p, 0, 1)`. -/
theorem setPackfileForFile_misfiles :
    ((State.new Time.epoch).setPackfileForFile (.ofByte 1) (.ofByte 2) 0 1
        |>.getSubpartForFile (.ofByte 2)).2 = (Checksum.zero, 0, 0, false) ∧
      ((State.new Time.epoch).getSubpartForObject (.ofByte 2)).2 = (Checksum.zero, 0, 0, false) ∧
      ((State.new Time.epoch).setPackfileForFile (.ofByte 1) (.ofByte 2) 0 1
        |>.getSubpartForObject (.ofByte 2)).2 = (.ofByte 1, 0, 1, true) := by
  decide

/-! ## Existence checks -/

/-- On every state, `existsIn` and `getSubpartIn` intern alike and read the same table. -/
theorem existsIn_eq (st : State) (k : Kind) (c : Checksum) :
    (st.existsIn k c).2 = (st.getSubpartIn k c).2.2.2.2 := by
  rcases h : st.getOrCreateIdForChecksum c with ⟨st', id⟩
  unfold existsIn getSubpartIn
  rw [h]
  cases hl : (st'.table k).lookup id with
  | none => simpa [hl] using AList.lookup_eq_none.1 hl
  | some _ => simpa [hl] using AList.lookup_isSome.1 (by simp [hl])

/-- **`BlobExists` reads another table.**  A coherent state that locates blob `c` in `Blobs` (as a
`SetPackfileForBlob` storing into its own table writes it): `GetSubpartForBlob(c)` and
`GetPackfileForBlob(c)` report it, `BlobExists(c)` is false. -/
theorem blobExists_disagrees :
    ((State.new Time.epoch).setPackfileIn .blob .blob (.ofByte 1) (.ofByte 2) 0 1
        |>.blobExists (.ofByte 2)).2 = false ∧
      ((State.new Time.epoch).setPackfileIn .blob .blob (.ofByte 1) (.ofByte 2) 0 1
        |>.getSubpartForBlob (.ofByte 2)).2 = (.ofByte 1, 0, 1, true) ∧
      ((State.new Time.epoch).setPackfileIn .blob .blob (.ofByte 1) (.ofByte 2) 0 1
        |>.getPackfileForBlob (.ofByte 2)).2 = (.ofByte 1, true) := by
  decide

/-! ## The dirty flag -/

/-- **A file registered twice sets the flag twice.**  `SetPackfileForFile` checks `Files` and
stores into `Objects`, so `Files` never learns the file.  After a registration and
`ResetDirty`, registering the same file again, at another location, overwrites the object
entry the first call stored and sets the dirty flag, though it inserted under no new id. -/
theorem setPackfileForFile_redirties :
    (((State.new Time.epoch).setPackfileForFile (.ofByte 1) (.ofByte 2) 0 1).resetDirty
        |>.getSubpartForObject (.ofByte 2)).2 = (.ofByte 1, 0, 1, true) ∧
      ((State.new Time.epoch).setPackfileForFile (.ofByte 1) (.ofByte 2) 0 1).resetDirty.dirty =
        false ∧
      (((State.new Time.epoch).setPackfileForFile (.ofByte 1) (.ofByte 2) 0 1).resetDirty
        |>.setPackfileForFile (.ofByte 3) (.ofByte 2) 4 5).dirty = true ∧
      ((((State.new Time.epoch).setPackfileForFile (.ofByte 1) (.ofByte 2) 0 1).resetDirty
        |>.setPackfileForFile (.ofByte 3) (.ofByte 2) 4 5)
        |>.getSubpartForObject (.ofByte 2)).2 = (.ofByte 3, 4, 5, true) := by
  decide

/-! ## Merge -/

/-- **Merge misfiles a file.**  Merging into a fresh state a delta that locates file `c`
(in `Files`): the merged state has no file location for `c`, and an object location for `c`
that the delta did not have. -/
theorem merge_misfiles :
    ((State.new Time.epoch).setPackfileIn .file .file (.ofByte 1) (.ofByte 2) 0 1
        |>.getSubpartForFile (.ofByte 2)).2 = (.ofByte 1, 0, 1, true) ∧
      ((State.new Time.epoch).setPackfileIn .file .file (.ofByte 1) (.ofByte 2) 0 1
        |>.getSubpartForObject (.ofByte 2)).2 = (Checksum.zero, 0, 0, false) ∧
      ((State.new Time.epoch).merge Checksum.zero
          ((State.new Time.epoch).setPackfileIn .file .file (.ofByte 1) (.ofByte 2) 0 1)
        |>.getSubpartForFile (.ofByte 2)).2 = (Checksum.zero, 0, 0, false) ∧
      ((State.new Time.epoch).merge Checksum.zero
          ((State.new Time.epoch).setPackfileIn .file .file (.ofByte 1) (.ofByte 2) 0 1)
        |>.getSubpartForObject (.ofByte 2)).2 = (.ofByte 1, 0, 1, true) := by
  decide

end State

end Plakar
