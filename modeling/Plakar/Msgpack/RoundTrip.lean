import Plakar.Msgpack.Basic

/-!
# Reading back what is written

For each writer of `Plakar.Msgpack`, its reader on the written bytes followed by anything returns
the value and the bytes after it:

    readUint (writeUint64 n ++ rest) = .ok (n, rest)                 (n < 2 ^ 64)
    readTime (writeTime t ++ rest) = .ok (t, rest)
    readMap readValue ∅ (writeMap writeValue m ++ rest) = .ok (m', rest)

where `m'` holds what `m` holds, when `m` has fewer than `2 ^ 32` entries.  The lengths are the
only place the writers lose information: a length `l ≥ 2 ^ 32` is read back as `l % 2 ^ 32`.

Slices and structs written as maps read back the same way (`readSlice_writeSlice`,
`readStruct_writeStruct`), and what a struct decoder stores keeps any property each of its fields
keeps (`readStruct_invariant`); every length a header gives is below `2 ^ 32`.
-/

namespace Plakar

namespace Msgpack

@[simp] theorem Except.ok_bind {ε α β : Type} (a : α) (f : α → Except ε β) :
    (Except.ok a >>= f) = f a := rfl

@[simp] theorem uint8_toNat_ofNat (n : Nat) : (UInt8.ofNat n).toNat = n % 256 := by
  simp [UInt8.toNat, UInt8.ofNat]

@[simp] theorem uint32_toNat_ofNat (n : Nat) : (UInt32.ofNat n).toNat = n % 2 ^ 32 := by
  simp [UInt32.toNat, UInt32.ofNat]

@[simp] theorem uint32_ofNat_toNat (v : UInt32) : UInt32.ofNat v.toNat = v :=
  UInt32.toNat.inj (by simpa using Nat.mod_eq_of_lt v.toNat_lt_size)

/-! ## Bytes -/

@[simp] theorem length_putBE (w n : Nat) : (putBE w n).length = w := by
  induction w generalizing n with
  | zero => rfl
  | succ w ih => simp [putBE, ih]

theorem ofBE_concat (l : List UInt8) (b : UInt8) : ofBE (l ++ [b]) = ofBE l * 256 + b.toNat := by
  simp [ofBE, List.foldl_append]

theorem ofBE_putBE (w n : Nat) : ofBE (putBE w n) = n % 256 ^ w := by
  induction w generalizing n with
  | zero => simp [putBE, ofBE, Nat.mod_one]
  | succ w ih =>
    rw [putBE, ofBE_concat, ih, uint8_toNat_ofNat, Nat.pow_succ, Nat.mul_comm (256 ^ w), Nat.mod_mul]
    omega

theorem readN_append {l : List UInt8} {n : Nat} (h : l.length = n) (rest : List UInt8) :
    readN n (l ++ rest) = .ok (l, rest) := by
  simp [readN, ← h, List.take_left' rfl, List.drop_left' rfl]

theorem readBE_putBE (w n : Nat) (rest : List UInt8) :
    readBE w (putBE w n ++ rest) = .ok (n % 256 ^ w, rest) := by
  simp [readBE, readN_append (length_putBE w n), ofBE_putBE, Except.map]

theorem readBE_putBE_of_lt {w n : Nat} (h : n < 256 ^ w) (rest : List UInt8) :
    readBE w (putBE w n ++ rest) = .ok (n, rest) := by
  rw [readBE_putBE, Nat.mod_eq_of_lt h]

/-! ## Integers -/

theorem readUint_writeUint64 {n : Nat} (h : n < 2 ^ 64) (rest : List UInt8) :
    readUint (writeUint64 n ++ rest) = .ok (n, rest) := by
  simp [readUint, writeUint64, readByte, readBE_putBE_of_lt (show n < 256 ^ 8 from h)]

theorem readUint32_writeUint32 (v : UInt32) (rest : List UInt8) :
    readUint32 (writeUint32 v ++ rest) = .ok (v, rest) := by
  simp [readUint32, readUint, writeUint32, readByte,
    readBE_putBE_of_lt (show v.toNat < 256 ^ 4 from v.toNat_lt_size), Except.map]

/-! ## Headers -/

/-- The code and the rest of a map header read back as its length, modulo `2 ^ 32`. -/
theorem readMapLen_writeMapLen (l : Nat) (rest : List UInt8) :
    ∃ c r, writeMapLen l ++ rest = c :: r ∧ readMapLen c r = .ok (some (l % 2 ^ 32), rest) := by
  unfold writeMapLen
  split_ifs with h₁ h₂
  · have key : ∀ l < 16, UInt8.ofNat (0x80 + l) ≠ 0xc0 ∧ 0x80 ≤ UInt8.ofNat (0x80 + l) ∧
        UInt8.ofNat (0x80 + l) < 0x90 ∧ (UInt8.ofNat (0x80 + l)).toNat - 0x80 = l := by decide
    obtain ⟨k₁, k₂, k₃, k₄⟩ := key l h₁
    refine ⟨_, rest, rfl, ?_⟩
    rw [readMapLen, if_neg k₁, if_pos ⟨k₂, k₃⟩, k₄, Nat.mod_eq_of_lt (by omega)]
  · refine ⟨_, putBE 2 l ++ rest, rfl, ?_⟩
    rw [Nat.mod_eq_of_lt (by omega : l < 2 ^ 32)]
    simp [readMapLen, readBE_putBE_of_lt (show l < 256 ^ 2 from h₂), Except.map]
  · exact ⟨_, putBE 4 l ++ rest, rfl, by simp [readMapLen, readBE_putBE, Except.map]⟩

theorem readArrayLen_writeArrayLen (l : Nat) (rest : List UInt8) :
    ∃ c r, writeArrayLen l ++ rest = c :: r ∧
      readArrayLen c r = .ok (some (l % 2 ^ 32), rest) := by
  unfold writeArrayLen
  split_ifs with h₁ h₂
  · have key : ∀ l < 16, UInt8.ofNat (0x90 + l) ≠ 0xc0 ∧ 0x90 ≤ UInt8.ofNat (0x90 + l) ∧
        UInt8.ofNat (0x90 + l) < 0xa0 ∧ (UInt8.ofNat (0x90 + l)).toNat - 0x90 = l := by decide
    obtain ⟨k₁, k₂, k₃, k₄⟩ := key l h₁
    refine ⟨_, rest, rfl, ?_⟩
    rw [readArrayLen, if_neg k₁, if_pos ⟨k₂, k₃⟩, k₄, Nat.mod_eq_of_lt (by omega)]
  · refine ⟨_, putBE 2 l ++ rest, rfl, ?_⟩
    rw [Nat.mod_eq_of_lt (by omega : l < 2 ^ 32)]
    simp [readArrayLen, readBE_putBE_of_lt (show l < 256 ^ 2 from h₂), Except.map]
  · exact ⟨_, putBE 4 l ++ rest, rfl, by simp [readArrayLen, readBE_putBE, Except.map]⟩

/-! ## Strings, checksums, times -/

theorem readBE_one (b : UInt8) (rest : List UInt8) : readBE 1 (b :: rest) = .ok (b.toNat, rest) := by
  simp [readBE, readN, ofBE, Except.map]

/-- The code and the rest of a string header read back as its length, modulo `2 ^ 32`. -/
theorem readBytesLen_writeString (s rest : List UInt8) :
    ∃ c r, writeString s ++ rest = c :: r ∧
      readBytesLen c r = .ok (some (s.length % 2 ^ 32), s ++ rest) := by
  unfold writeString
  split_ifs with h₁ h₂ h₃
  · have key : ∀ l < 32, UInt8.ofNat (0xa0 + l) ≠ 0xc0 ∧ 0xa0 ≤ UInt8.ofNat (0xa0 + l) ∧
        UInt8.ofNat (0xa0 + l) < 0xc0 ∧ (UInt8.ofNat (0xa0 + l)).toNat - 0xa0 = l := by decide
    obtain ⟨k₁, k₂, k₃, k₄⟩ := key s.length h₁
    refine ⟨_, s ++ rest, rfl, ?_⟩
    rw [readBytesLen, if_neg k₁, if_pos ⟨k₂, k₃⟩, k₄, Nat.mod_eq_of_lt (by omega)]
  · refine ⟨_, UInt8.ofNat s.length :: (s ++ rest), rfl, ?_⟩
    rw [Nat.mod_eq_of_lt (by omega : s.length < 2 ^ 32)]
    simp [readBytesLen, readBE_one, Except.map, Nat.mod_eq_of_lt h₂]
  · refine ⟨0xda, putBE 2 s.length ++ (s ++ rest), by simp, ?_⟩
    rw [Nat.mod_eq_of_lt (by omega : s.length < 2 ^ 32)]
    simp [readBytesLen, readBE_putBE_of_lt (show s.length < 256 ^ 2 from h₃), Except.map]
  · exact ⟨0xdb, putBE 4 s.length ++ (s ++ rest), by simp,
      by simp [readBytesLen, readBE_putBE, Except.map]⟩

/-- The code and the rest of a binary header read back as its length, modulo `2 ^ 32`. -/
theorem readBytesLen_writeBytes (b rest : List UInt8) :
    ∃ c r, writeBytes b ++ rest = c :: r ∧
      readBytesLen c r = .ok (some (b.length % 2 ^ 32), b ++ rest) := by
  unfold writeBytes
  split_ifs with h₁ h₂
  · refine ⟨_, UInt8.ofNat b.length :: (b ++ rest), rfl, ?_⟩
    rw [Nat.mod_eq_of_lt (by omega : b.length < 2 ^ 32)]
    simp [readBytesLen, readBE_one, Except.map, Nat.mod_eq_of_lt h₁]
  · refine ⟨0xc5, putBE 2 b.length ++ (b ++ rest), by simp, ?_⟩
    rw [Nat.mod_eq_of_lt (by omega : b.length < 2 ^ 32)]
    simp [readBytesLen, readBE_putBE_of_lt (show b.length < 256 ^ 2 from h₂), Except.map]
  · exact ⟨0xc6, putBE 4 b.length ++ (b ++ rest), by simp,
      by simp [readBytesLen, readBE_putBE, Except.map]⟩

/-- A string shorter than `2 ^ 32` bytes reads back. -/
theorem readString_writeString {s : List UInt8} (h : s.length < 2 ^ 32) (rest : List UInt8) :
    readString (writeString s ++ rest) = .ok (s, rest) := by
  obtain ⟨c, r, he, hl⟩ := readBytesLen_writeString s rest
  simp only [he, readString, readByte, Except.ok_bind, hl, Nat.mod_eq_of_lt h, readN_append rfl]

/-- A `[]byte` shorter than `2 ^ 32` bytes reads back, nil as nil. -/
theorem readByteSlice_writeByteSlice {s : Option (List UInt8)} (h : (s.getD []).length < 2 ^ 32)
    (rest : List UInt8) : readByteSlice (writeByteSlice s ++ rest) = .ok (s, rest) := by
  cases s with
  | none => rfl
  | some b =>
    obtain ⟨c, r, he, hl⟩ := readBytesLen_writeBytes b rest
    simp only [Option.getD_some] at h
    simp only [writeByteSlice, he, readByteSlice, readByte, Except.ok_bind, hl, Nat.mod_eq_of_lt h,
      readN_append rfl]
    rfl

theorem Checksum.ofPrefix_bytes (c : Checksum) : Checksum.ofPrefix c.bytes = c := by
  obtain ⟨b, hb⟩ := c
  simp [Checksum.ofPrefix, List.take_left' hb]

theorem readChecksum_writeChecksum (c : Checksum) (rest : List UInt8) :
    readChecksum (writeChecksum c ++ rest) = .ok (c, rest) := by
  have hb := c.length_bytes
  obtain ⟨d, r, he, hl⟩ := readBytesLen_writeBytes c.bytes rest
  simp only [writeChecksum, he, readChecksum, readByte, Except.ok_bind, hl, hb, Nat.reducePow,
    Nat.reduceMod, le_refl, if_true, readN_append hb, Except.map, Checksum.ofPrefix_bytes]

theorem Time.ext' {t t' : Time} (hu : t.unix = t'.unix) (hn : t.nsec = t'.nsec) : t = t' := by
  cases t; cases t'; simp_all

/-- What `readTime` does after each of the three headers `writeTime` emits: `fixext4`, `fixext8`,
and `ext8` of length 12, each with type `-1`. -/
theorem readTime_fixext4 (b : List UInt8) :
    readTime (0xd6 :: 0xff :: b) = (readBE 4 b).map fun (sec, rest) => (Time.unixOf sec 0, rest) :=
  rfl

theorem readTime_fixext8 (b : List UInt8) :
    readTime (0xd7 :: 0xff :: b) =
      (readBE 8 b).map fun (data, rest) => (Time.unixOf (data % 2 ^ 34) (data / 2 ^ 34), rest) :=
  rfl

theorem readTime_ext8 (b : List UInt8) :
    readTime (0xc7 :: 12 :: 0xff :: b) = (do
      let (nsec, rest) ← readBE 4 b
      let (sec, rest) ← readBE 8 rest
      pure (Time.unixOf (toInt64 sec) nsec, rest)) :=
  rfl

theorem readTime_writeTime (t : Time) (rest : List UInt8) :
    readTime (writeTime t ++ rest) = .ok (t, rest) := by
  obtain ⟨u, n, hu₁, hu₂, hn⟩ := t
  have hS : (((u % 2 ^ 64).toNat : Nat) : Int) = u % 2 ^ 64 :=
    Int.toNat_of_nonneg (Int.emod_nonneg _ (by decide))
  unfold writeTime
  dsimp only
  generalize (u % 2 ^ 64).toNat = S at hS ⊢
  split_ifs with h₁ h₂
  · -- `fixext4`: no nanoseconds, seconds below `2 ^ 32`
    generalize hD : n * 2 ^ 34 + S = D at h₂
    simp only [List.append_assoc, List.cons_append, List.nil_append, readTime_fixext4,
      readBE_putBE_of_lt (show D < 256 ^ 4 by omega), Except.map, Except.ok.injEq, Prod.mk.injEq,
      and_true]
    exact Time.ext' (by simp only [Time.unixOf]; omega) (by simp only [Time.unixOf]; omega)
  · -- `fixext8`: `nsec << 34 | secs`
    generalize hD : n * 2 ^ 34 + S = D
    simp only [List.append_assoc, List.cons_append, List.nil_append, readTime_fixext8,
      readBE_putBE_of_lt (show D < 256 ^ 8 by omega), Except.map, Except.ok.injEq, Prod.mk.injEq,
      and_true]
    exact Time.ext' (by simp only [Time.unixOf]; omega) (by simp only [Time.unixOf]; omega)
  · -- `ext8`: `nsec`, then the seconds as an `int64`
    simp only [List.append_assoc, List.cons_append, List.nil_append, readTime_ext8,
      readBE_putBE_of_lt (show n < 256 ^ 4 by omega), readBE_putBE_of_lt (show S < 256 ^ 8 by omega),
      Except.ok_bind, pure, Except.pure, Except.ok.injEq, Prod.mk.injEq, and_true]
    exact Time.ext' (by simp only [Time.unixOf, toInt64]; split_ifs <;> omega)
      (by simp only [Time.unixOf]; omega)

/-! ## Maps, slices and structs -/

section Containers

variable {β : Type}

/-- Inserting the entries of a list with distinct keys, in order, into `acc`. -/
theorem lookup_foldl_insert (l : List (Sigma fun _ : Nat => β)) (hl : l.NodupKeys)
    (acc : AList fun _ : Nat => β) (k : Nat) :
    (l.foldl (fun m e => m.insert e.1 e.2) acc).lookup k = (l.dlookup k).or (acc.lookup k) := by
  induction l generalizing acc with
  | nil => rfl
  | cons e l ih =>
    obtain ⟨k', v⟩ := e
    rw [List.nodupKeys_cons] at hl
    rw [List.foldl_cons, ih hl.2]
    by_cases hk : k = k'
    · subst hk
      simp [List.dlookup_eq_none.2 hl.1, AList.lookup_insert, List.dlookup_cons_eq]
    · simp [List.dlookup_cons_ne l ⟨k', v⟩ hk, AList.lookup_insert_ne hk]

/-- A map read into the empty map holds what the written map held. -/
theorem lookup_foldl_insert_entries (m : AList fun _ : Nat => β) (k : Nat) :
    (m.entries.foldl (fun acc e => acc.insert e.1 e.2) (∅ : AList fun _ : Nat => β)).lookup k =
      m.lookup k := by
  rw [lookup_foldl_insert m.entries m.nodupKeys]
  simp [AList.lookup]

theorem readMapEntries_flatMap {readValue : Reader β} {writeValue : β → List UInt8}
    (l : List (Sigma fun _ : Nat => β)) (hk : ∀ e ∈ l, e.1 < 2 ^ 64)
    (hv : ∀ e ∈ l, ∀ rest, readValue (writeValue e.2 ++ rest) = .ok (e.2, rest))
    (m : AList fun _ : Nat => β) (rest : List UInt8) :
    readMapEntries readValue l.length m
        (l.flatMap (fun e => writeUint64 e.1 ++ writeValue e.2) ++ rest) =
      .ok (l.foldl (fun m e => m.insert e.1 e.2) m, rest) := by
  induction l generalizing m with
  | nil => rfl
  | cons e l ih =>
    simp only [List.length_cons, List.flatMap_cons, List.append_assoc, readMapEntries,
      readUint_writeUint64 (hk e (.head _)), Except.ok_bind, hv e (.head _), List.foldl_cons]
    exact ih (fun e h => hk e (.tail _ h)) (fun e h => hv e (.tail _ h)) _

/-- **Maps.**  A map of fewer than `2 ^ 32` entries with `uint64` keys reads back, into `m₀`,
as its entries inserted in order. -/
theorem readMap_writeMap {readValue : Reader β} {writeValue : β → List UInt8}
    (m : AList fun _ : Nat => β) (hlen : m.entries.length < 2 ^ 32)
    (hk : ∀ e ∈ m.entries, e.1 < 2 ^ 64)
    (hv : ∀ e ∈ m.entries, ∀ rest, readValue (writeValue e.2 ++ rest) = .ok (e.2, rest))
    (m₀ : AList fun _ : Nat => β) (rest : List UInt8) :
    readMap readValue m₀ (writeMap writeValue m ++ rest) =
      .ok (m.entries.foldl (fun m e => m.insert e.1 e.2) m₀, rest) := by
  obtain ⟨c, r, he, hl⟩ := readMapLen_writeMapLen m.entries.length
    (m.entries.flatMap (fun e => writeUint64 e.1 ++ writeValue e.2) ++ rest)
  rw [writeMap, List.append_assoc, he]
  simp only [readMap, readByte, Except.ok_bind, hl, Nat.mod_eq_of_lt hlen]
  exact readMapEntries_flatMap _ hk hv m₀ rest

theorem readElems_flatMap {readElem : Reader β} {writeElem : β → List UInt8} (l : List β)
    (hv : ∀ x ∈ l, ∀ rest, readElem (writeElem x ++ rest) = .ok (x, rest)) (n : Nat)
    (hn : n ≤ l.length) (rest : List UInt8) :
    readElems readElem n (l.flatMap writeElem ++ rest) =
      .ok (l.take n, (l.drop n).flatMap writeElem ++ rest) := by
  induction n generalizing l with
  | zero => rfl
  | succ n ih =>
    obtain _ | ⟨x, l⟩ := l
    · simp at hn
    · simp only [List.flatMap_cons, List.append_assoc, readElems, hv x (.head _), Except.ok_bind,
        ih l (fun y hy => hv y (.tail _ hy)) (by simpa using hn), List.take_succ_cons,
        List.drop_succ_cons]
      rfl

/-- **Slices.**  A slice reads back as its first `length % 2 ^ 32` elements; what follows them
is left unread. -/
theorem readArray_writeArray {readElem : Reader β} {writeElem : β → List UInt8} (l : List β)
    (hv : ∀ x ∈ l, ∀ rest, readElem (writeElem x ++ rest) = .ok (x, rest))
    (rest : List UInt8) :
    readArray readElem (writeArray writeElem l ++ rest) =
      .ok (l.take (l.length % 2 ^ 32), (l.drop (l.length % 2 ^ 32)).flatMap writeElem ++ rest) := by
  obtain ⟨c, r, he, hl⟩ := readArrayLen_writeArrayLen l.length (l.flatMap writeElem ++ rest)
  rw [writeArray, List.append_assoc, he]
  simp only [readArray, readByte, Except.ok_bind, hl]
  exact readElems_flatMap l hv _ (Nat.le_trans (Nat.mod_le _ _) le_rfl) rest

/-- A slice of fewer than `2 ^ 32` elements, each of which reads back, reads back; nil as
nil. -/
theorem readSlice_writeSlice {readElem : Reader β} {writeElem : β → List UInt8}
    {s : Option (List β)} (hl : (s.getD []).length < 2 ^ 32)
    (hv : ∀ x ∈ s.getD [], ∀ rest, readElem (writeElem x ++ rest) = .ok (x, rest))
    (rest : List UInt8) : readSlice readElem (writeSlice writeElem s ++ rest) = .ok (s, rest) := by
  cases s with
  | none => rfl
  | some l =>
    simp only [Option.getD_some] at hl hv
    obtain ⟨c, r, he, hlen⟩ := readArrayLen_writeArrayLen l.length (l.flatMap writeElem ++ rest)
    simp only [writeSlice, writeArray, List.append_assoc, he, readSlice, readByte, Except.ok_bind,
      hlen, Nat.mod_eq_of_lt hl, readElems_flatMap l hv l.length le_rfl, List.take_length,
      List.drop_length, List.flatMap_nil, List.nil_append]
    rfl

/-- A pointer whose target's bytes do not start with nil is read as that target. -/
theorem readPtr_of_ne_nil {read : Reader β} {input : List UInt8}
    (h : input.head? ≠ some 0xc0) :
    readPtr read input = (read input).map fun (x, rest) => (some x, rest) :=
  if_neg h

end Containers

/-! ## Lengths of what is read

A length is read from at most four bytes, so nothing read is `2 ^ 32` long. -/

section Bounds

variable {β : Type}

theorem ofBE_lt (l : List UInt8) : ofBE l < 256 ^ l.length := by
  induction l using List.reverseRecOn with
  | nil => simp [ofBE]
  | append_singleton l b ih =>
    have hb : b.toNat < 256 := b.toNat_lt_size
    rw [ofBE_concat, List.length_append, List.length_singleton, Nat.pow_succ]
    calc ofBE l * 256 + b.toNat < (ofBE l + 1) * 256 := by omega
      _ ≤ 256 ^ l.length * 256 := Nat.mul_le_mul_right _ ih

theorem readN_length {n : Nat} {input b rest : List UInt8} (h : readN n input = .ok (b, rest)) :
    b.length = n := by
  unfold readN at h
  split_ifs at h with hn
  simp only [Except.ok.injEq, Prod.mk.injEq] at h
  simp [← h.1, hn]

theorem readBE_lt {w n : Nat} {input rest : List UInt8} (h : readBE w input = .ok (n, rest)) :
    n < 256 ^ w := by
  obtain ⟨⟨b, r⟩, hb, he⟩ := Except.map_eq_ok h
  simp only [Prod.mk.injEq] at he
  exact he.1 ▸ readN_length hb ▸ ofBE_lt b

theorem some_of_readBE {w : Nat} {r r' : List UInt8} {n : Nat}
    (h : ((readBE w r).map fun (n, rest) => (some n, rest)) = .ok (some n, r')) : n < 256 ^ w := by
  obtain ⟨⟨m, r''⟩, hm, he⟩ := Except.map_eq_ok h
  simp only [Prod.mk.injEq, Option.some.injEq] at he
  exact he.1 ▸ readBE_lt hm

/-- A string or binary header gives a length below `2 ^ 32`. -/
theorem readBytesLen_lt {c : UInt8} {r r' : List UInt8} {n : Nat}
    (h : readBytesLen c r = .ok (some n, r')) : n < 2 ^ 32 := by
  have hc : c.toNat < 256 := c.toNat_lt_size
  unfold readBytesLen at h
  repeat' split at h
  all_goals first
    | exact lt_of_lt_of_le (some_of_readBE h) (by norm_num)
    | simp only [Except.ok.injEq, Prod.mk.injEq, Option.some.injEq, reduceCtorEq, false_and] at h <;>
      omega

/-- An array header gives a length below `2 ^ 32`. -/
theorem readArrayLen_lt {c : UInt8} {r r' : List UInt8} {n : Nat}
    (h : readArrayLen c r = .ok (some n, r')) : n < 2 ^ 32 := by
  have hc : c.toNat < 256 := c.toNat_lt_size
  unfold readArrayLen at h
  repeat' split at h
  all_goals first
    | exact lt_of_lt_of_le (some_of_readBE h) (by norm_num)
    | simp only [Except.ok.injEq, Prod.mk.injEq, Option.some.injEq, reduceCtorEq, false_and] at h <;>
      omega

/-- A string read is shorter than `2 ^ 32` bytes. -/
theorem readString_length_lt {input s rest : List UInt8} (h : readString input = .ok (s, rest)) :
    s.length < 2 ^ 32 := by
  obtain ⟨⟨c, r⟩, -, h⟩ := Except.bind_eq_ok h
  obtain ⟨⟨n, r'⟩, hn, h⟩ := Except.bind_eq_ok h
  cases n with
  | none => simp only [pure, Except.pure, Except.ok.injEq, Prod.mk.injEq] at h; simp [← h.1]
  | some n => exact readN_length h ▸ readBytesLen_lt hn

theorem readByteSlice_length_lt {input rest : List UInt8} {s : Option (List UInt8)}
    (h : readByteSlice input = .ok (s, rest)) : (s.getD []).length < 2 ^ 32 := by
  obtain ⟨⟨c, r⟩, -, h⟩ := Except.bind_eq_ok h
  obtain ⟨⟨n, r'⟩, hn, h⟩ := Except.bind_eq_ok h
  cases n with
  | none => simp only [pure, Except.pure, Except.ok.injEq, Prod.mk.injEq] at h; simp [← h.1]
  | some n =>
    obtain ⟨⟨b, r''⟩, hb, he⟩ := Except.map_eq_ok h
    simp only [Prod.mk.injEq] at he
    simpa [← he.1, readN_length hb] using readBytesLen_lt hn

/-- `n` elements are read, each one that `readElem` returned. -/
theorem readElems_spec {readElem : Reader β} {Q : β → Prop}
    (hQ : ∀ input x rest, readElem input = .ok (x, rest) → Q x) {n : Nat} {input rest : List UInt8}
    {xs : List β} (h : readElems readElem n input = .ok (xs, rest)) :
    xs.length = n ∧ ∀ x ∈ xs, Q x := by
  induction n generalizing input xs rest with
  | zero => simp only [readElems, Except.ok.injEq, Prod.mk.injEq] at h; simp [← h.1]
  | succ n ih =>
    obtain ⟨⟨x, r⟩, hx, h⟩ := Except.bind_eq_ok h
    obtain ⟨⟨xs', r'⟩, hxs, h⟩ := Except.bind_eq_ok h
    simp only [pure, Except.pure, Except.ok.injEq, Prod.mk.injEq] at h
    obtain ⟨hl, hm⟩ := ih hxs
    exact ⟨by simp [← h.1, hl], h.1 ▸ List.forall_mem_cons.2 ⟨hQ _ _ _ hx, hm⟩⟩

/-- A slice read has fewer than `2 ^ 32` elements, each one that `readElem` returned. -/
theorem readSlice_spec {readElem : Reader β} {Q : β → Prop}
    (hQ : ∀ input x rest, readElem input = .ok (x, rest) → Q x) {input rest : List UInt8}
    {s : Option (List β)} (h : readSlice readElem input = .ok (s, rest)) :
    (s.getD []).length < 2 ^ 32 ∧ ∀ x ∈ s.getD [], Q x := by
  obtain ⟨⟨c, r⟩, -, h⟩ := Except.bind_eq_ok h
  obtain ⟨⟨n, r'⟩, hn, h⟩ := Except.bind_eq_ok h
  cases n with
  | none => simp only [pure, Except.pure, Except.ok.injEq, Prod.mk.injEq] at h; simp [← h.1]
  | some n =>
    obtain ⟨⟨xs, r''⟩, hxs, he⟩ := Except.map_eq_ok h
    simp only [Prod.mk.injEq] at he
    obtain ⟨hl, hm⟩ := readElems_spec hQ hxs
    simpa [← he.1, hl] using And.intro (readArrayLen_lt hn) hm

/-- A pointer read is nil or a value that `read` returned. -/
theorem readPtr_spec {read : Reader β} {Q : β → Prop}
    (hQ : ∀ input x rest, read input = .ok (x, rest) → Q x) {input rest : List UInt8}
    {o : Option β} (h : readPtr read input = .ok (o, rest)) : ∀ x ∈ o, Q x := by
  unfold readPtr at h
  split_ifs at h
  · simp only [Except.ok.injEq, Prod.mk.injEq] at h
    simp [← h.1]
  · obtain ⟨⟨x, r⟩, hx, he⟩ := Except.map_eq_ok h
    simp only [Prod.mk.injEq] at he
    rintro y hy
    rw [← he.1, Option.mem_some_iff] at hy
    exact hy ▸ hQ _ _ _ hx

end Bounds

section Structs

variable {α : Type} {fields : List (StructField α)} {fuel : Nat}

/-- A struct written as a map starts with its number of fields. -/
theorem readStruct_writeMapLen (zero : α) (x : α) (n : Nat) (body : List UInt8) :
    readStruct zero fields fuel x (writeMapLen n ++ body) =
      readFieldsByName fields fuel (n % 2 ^ 32) x body := by
  obtain ⟨c, r, he, hl⟩ := readMapLen_writeMapLen n body
  rw [he]
  simp only [readStruct, readByte, Except.ok_bind, hl]

theorem readFieldsByName_zero (x : α) (input : List UInt8) :
    readFieldsByName fields fuel 0 x input = .ok (x, input) := rfl

/-- A field name (a fixstr) selects the field of that name. -/
theorem readFieldsByName_writeString (n : Nat) (x : α) {s : List UInt8} (hs : s.length < 32)
    (input : List UInt8) :
    readFieldsByName fields fuel (n + 1) x (writeString s ++ input) =
      match fields.find? (fun g => ascii g.name == s) with
      | some f => f.read x input >>= fun (x, rest) => readFieldsByName fields fuel n x rest
      | none => skip fuel input >>= fun rest => readFieldsByName fields fuel n x rest := by
  rw [readFieldsByName, readString_writeString (by omega)]
  rfl

/-- `fields` read the written fields `es` one after another, from `x` to `y`: each name selects
a field, which reads exactly the bytes of its value. -/
inductive ReadsFields (fields : List (StructField α)) :
    List (String × List UInt8) → α → α → Prop
  | nil (x : α) : ReadsFields fields [] x x
  | cons {name : String} {bytes : List UInt8} {es : List (String × List UInt8)} {x x' y : α}
      (g : StructField α) (hname : (ascii name).length < 32)
      (hfind : fields.find? (fun g => ascii g.name == ascii name) = some g)
      (hread : ∀ rest, g.read x (bytes ++ rest) = .ok (x', rest))
      (hes : ReadsFields fields es x' y) : ReadsFields fields ((name, bytes) :: es) x y

theorem ReadsFields.append {es₁ es₂ : List (String × List UInt8)} {x y z : α}
    (h₁ : ReadsFields fields es₁ x y) (h₂ : ReadsFields fields es₂ y z) :
    ReadsFields fields (es₁ ++ es₂) x z := by
  induction h₁ with
  | nil => exact h₂
  | cons g hn hf hr _ ih => exact .cons g hn hf hr (ih h₂)

/-- A field whose value reads back to `v` stores `v`; the fields after it go on from there. -/
theorem ReadsFields.ofSet_cons {β : Type} {name : String} {read : Reader β} {set : α → β → α}
    (hname : (ascii name).length < 32)
    (hfind : fields.find? (fun g => ascii g.name == ascii name) = some (.ofSet name read set))
    {bytes : List UInt8} {v : β} (hv : ∀ rest, read (bytes ++ rest) = .ok (v, rest))
    {es : List (String × List UInt8)} {x y : α} (hes : ReadsFields fields es (set x v) y) :
    ReadsFields fields ((name, bytes) :: es) x y :=
  .cons _ hname hfind (fun rest => by simp [StructField.ofSet, hv, Except.map]) hes

/-- An `omitempty` field: when it is written it stores `v`; when it is left out, storing `v`
changes nothing. -/
theorem ReadsFields.omitEmpty {β : Type} {name : String} {read : Reader β} {set : α → β → α}
    (hname : (ascii name).length < 32)
    (hfind : fields.find? (fun g => ascii g.name == ascii name) = some (.ofSet name read set))
    {empty : Bool} {bytes : List UInt8} {v : β} {x : α}
    (hv : empty = false → ∀ rest, read (bytes ++ rest) = .ok (v, rest))
    (hx : empty = true → set x v = x) :
    ReadsFields fields (Msgpack.omitEmpty name empty bytes) x (set x v) := by
  cases empty with
  | false => exact .ofSet_cons hname hfind (hv rfl) (.nil _)
  | true => rw [hx rfl]; exact .nil x

theorem length_append_omitEmpty (es : List (String × List UInt8)) (name : String) (empty : Bool)
    (bytes : List UInt8) : (es ++ Msgpack.omitEmpty name empty bytes).length ≤ es.length + 1 := by
  cases empty <;> simp [Msgpack.omitEmpty]

theorem readFieldsByName_of_readsFields {es : List (String × List UInt8)} {x y : α}
    (h : ReadsFields fields es x y) (rest : List UInt8) :
    readFieldsByName fields fuel es.length x
      (es.flatMap (fun e => writeString (ascii e.1) ++ e.2) ++ rest) = .ok (y, rest) := by
  induction h with
  | nil => rfl
  | cons g hn hf hr _ ih =>
    rw [List.flatMap_cons, List.length_cons, List.append_assoc, List.append_assoc,
      readFieldsByName_writeString _ _ hn, hf]
    simp only [hr, Except.ok_bind, ih]

/-- **Structs.**  A struct written as a map of fewer than `2 ^ 32` fields, each of which reads
back, reads back. -/
theorem readStruct_writeStruct (zero : α) {es : List (String × List UInt8)} {x y : α}
    (h : ReadsFields fields es x y) (hl : es.length < 2 ^ 32) (rest : List UInt8) :
    readStruct zero fields fuel x (writeStruct es ++ rest) = .ok (y, rest) := by
  rw [writeStruct, List.append_assoc, readStruct_writeMapLen, Nat.mod_eq_of_lt hl]
  exact readFieldsByName_of_readsFields h rest

/-! ## What decoding keeps -/

theorem StructField.ofSet_read {β : Type} {name : String} {read : Reader β} {set : α → β → α}
    {x y : α} {input rest : List UInt8}
    (h : (StructField.ofSet name read set).read x input = .ok (y, rest)) :
    ∃ v, read input = .ok (v, rest) ∧ y = set x v := by
  obtain ⟨⟨v, r⟩, hv, he⟩ := Except.map_eq_ok h
  simp only [Prod.mk.injEq] at he
  exact ⟨v, he.2 ▸ hv, he.1.symm⟩

section Invariant

variable (P : α → Prop)
  (hfields : ∀ g ∈ fields, ∀ x input y rest, P x → g.read x input = .ok (y, rest) → P y)
include hfields

theorem readFieldsByName_invariant {n : Nat} {x y : α} {input rest : List UInt8} (hx : P x)
    (h : readFieldsByName fields fuel n x input = .ok (y, rest)) : P y := by
  induction n generalizing x input with
  | zero => simp only [readFieldsByName, Except.ok.injEq, Prod.mk.injEq] at h; exact h.1 ▸ hx
  | succ n ih =>
    obtain ⟨⟨name, r⟩, -, h⟩ := Except.bind_eq_ok h
    simp only at h
    split at h
    · obtain ⟨⟨x', r'⟩, hr, h⟩ := Except.bind_eq_ok h
      exact ih (hfields _ (List.mem_of_find?_eq_some ‹_›) _ _ _ _ hx hr) h
    · obtain ⟨r', -, h⟩ := Except.bind_eq_ok h
      exact ih hx h

theorem readFieldsInOrder_invariant {fs : List (StructField α)} (hfs : fs ⊆ fields) {n : Nat}
    {x y : α} {input rest : List UInt8} (hx : P x)
    (h : readFieldsInOrder fuel fs n x input = .ok (y, rest)) : P y := by
  induction fs generalizing n x input with
  | nil =>
    cases n with
    | zero => simp only [readFieldsInOrder, Except.ok.injEq, Prod.mk.injEq] at h; exact h.1 ▸ hx
    | succ n =>
      obtain ⟨r, -, he⟩ := Except.map_eq_ok h
      simp only [Prod.mk.injEq] at he
      exact he.1 ▸ hx
  | cons f fs ih =>
    cases n with
    | zero => simp only [readFieldsInOrder, Except.ok.injEq, Prod.mk.injEq] at h; exact h.1 ▸ hx
    | succ n =>
      obtain ⟨⟨x', r'⟩, hr, h⟩ := Except.bind_eq_ok h
      exact ih (fun g hg => hfs (.tail _ hg))
        (hfields f (hfs (.head _)) _ _ _ _ hx hr) h

/-- **Invariant.**  A property of the zero value and of `x` that every field read keeps holds of
what `readStruct` reads. -/
theorem readStruct_invariant {zero x y : α} {input rest : List UInt8} (hzero : P zero)
    (hx : P x) (h : readStruct zero fields fuel x input = .ok (y, rest)) : P y := by
  obtain ⟨⟨c, r⟩, -, h⟩ := Except.bind_eq_ok h
  simp only at h
  split at h
  · simp only [pure, Except.pure, Except.ok.injEq, Prod.mk.injEq] at h; exact h.1 ▸ hzero
  · exact readFieldsByName_invariant P hfields hx h
  · split at h
    · exact readFieldsInOrder_invariant P hfields (fun _ h => h) hx h
    · cases h

end Invariant

end Structs

end Msgpack

end Plakar
