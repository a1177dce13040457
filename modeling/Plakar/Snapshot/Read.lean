import Plakar.Snapshot.Commit
import Plakar.State.Lookup

/-!
# Reading back what a session wrote

`Snapshot.GetChunk` and `Snapshot.LookupObject` ask the repository's state where a blob is
(`GetSubpartFor<K>`) and read that range of the packfile stored under the checksum the state
names (`GetPackfileBlob`).  `PutPackfile` stores a builder's data area at the head of the
packfile and registers each index entry's offset and length, and the entries of a builder tile
its data area with the payloads it was given (`PackFile.extract_ofMsgs`).

`Backed packfiles Holds st` says of every location of every table of `st` that it lies inside a
packfile stored under the checksum it names, and that the bytes there are a payload `Holds`
accepts for the blob.  Every registration keeps it (`Registry.backed_setPackfileFor`), and so
does a `PutPackfile` of a builder's messages (`Sink.ReadInv.putPackfile`).  Along every run of a
session whose builders stay below `2 ^ 32` bytes, the repository's state is backed by the
packfiles it had and those the session wrote, and the delta by those the session wrote, each
blob's bytes being a message sent under its checksum or, for the repository, a payload it
already held (`exec_backed`).

With content-addressed packfiles and a `Decode` that opens what `Encode` sealed, reading a blob
the state locates returns the data of a `Put*` of that checksum, or what the repository already
held for it; reading one it does not locate fails with the method's own error (`exec_readIn`):

    (readIn k missing (getPackfileBlob decode (P₀ ++ s.sink.packfiles))
        s.sink.repoState.state c).2 = .ok d   with   Action.put t c d ∈ acts
-/

namespace Plakar

namespace Snapshot

/-! ## The read path -/

/-- Bytes `offset` to `offset + length` of `bytes`, as far as they go. -/
def extract (bytes : List UInt8) (offset length : Nat) : List UInt8 :=
  (bytes.drop offset).take length

/-- The packfile last stored under `mac`: the backend's `PutPackfile` overwrites. -/
def latest (packfiles : List (Checksum × List UInt8)) (mac : Checksum) : Option (List UInt8) :=
  packfiles.reverse.lookup mac

/-- `object.ReadAt(buffer, offset)` with `len(buffer) = length` on the packfile stored under
`mac`: the bytes there, `io.EOF` when fewer than `length` are left, and the backend's
`NoSuchKey` when nothing is stored under `mac`. -/
def readAt (packfiles : List (Checksum × List UInt8)) (mac : Checksum) (offset length : Nat) :
    Except String (List UInt8) :=
  match latest packfiles mac with
  | none => .error "NoSuchKey"
  | some bytes =>
    let buffer := extract bytes offset length
    if buffer.length = length then .ok buffer else .error "EOF"

/-- The backend's `GetPackfileBlob`: `length` bytes at `offset` of the packfile, or an error;
"short read" when the read returned fewer bytes than asked. -/
def readPackfileBlob (packfiles : List (Checksum × List UInt8)) (mac : Checksum)
    (offset : Nat) (length : Nat) : Except String (List UInt8) :=
  (readAt packfiles mac offset length).bind fun buffer =>
    if buffer.length ≠ length then .error "short read" else .ok buffer

/-- `repository.GetPackfileBlob`, which the snapshot calls: the backend's ranged read, then the
repository's `Decode` of the sealed blob. -/
def getPackfileBlob (decode : List UInt8 → Except String (List UInt8))
    (packfiles : List (Checksum × List UInt8)) (mac : Checksum) (offset length : UInt32) :
    Except String (List UInt8) :=
  (readPackfileBlob packfiles mac offset.toNat length.toNat).bind decode

/-- The body `GetChunk` and `LookupObject` share: `GetSubpartFor<K>`, then `missing` if the
state has no location for the blob, else `GetPackfileBlob` at that location.  The state is
returned since `GetSubpartFor<K>` interns the checksum. -/
def readIn (k : Kind) (missing : String)
    (getPackfileBlob : Checksum → UInt32 → UInt32 → Except String (List UInt8)) (st : State)
    (checksum : Checksum) : State × Except String (List UInt8) :=
  let (st, (packfileChecksum, offset, length, found)) := st.getSubpartIn k checksum
  (st, if found then getPackfileBlob packfileChecksum offset length else .error missing)

/-- `Snapshot.GetChunk`. -/
def getChunk (getPackfileBlob : Checksum → UInt32 → UInt32 → Except String (List UInt8))
    (st : State) (checksum : Checksum) : State × Except String (List UInt8) :=
  readIn .chunk "packfile not found" getPackfileBlob st checksum

/-- `Snapshot.LookupObject`, with `objects.NewObjectFromBytes` as the object decoder. -/
def lookupObject {α : Type} (newObjectFromBytes : List UInt8 → Except String α)
    (getPackfileBlob : Checksum → UInt32 → UInt32 → Except String (List UInt8))
    (st : State) (checksum : Checksum) : State × Except String α :=
  let (st, buffer) := readIn .object "object not found" getPackfileBlob st checksum
  (st, buffer.bind newObjectFromBytes)

/-- `GetMetadata`, with `metadata.NewFromBytes` as the decoder: `readIn .blob "metadata not found"`
(`GetSubpartForData` reads the table `SetPackfileForData` writes), then the decoded metadata and
the repository's `Checksum` of the bytes read. -/
def getMetadata {α : Type} (r : Repo) (newFromBytes : List UInt8 → Except String α)
    (getPackfileBlob : Checksum → UInt32 → UInt32 → Except String (List UInt8))
    (st : State) (checksum : Checksum) : State × Except String (α × Checksum) :=
  let (st, buffer) := readIn .blob "metadata not found" getPackfileBlob st checksum
  (st, buffer.bind fun buffer => (newFromBytes buffer).map fun md => (md, r.checksum buffer))

/-! ## Reads -/

theorem extract_append_of_le {a b : List UInt8} {o l : Nat} (h : o + l ≤ a.length) :
    extract (a ++ b) o l = extract a o l := by
  rw [extract, List.drop_append_of_le_length (by omega)]
  exact List.take_append_of_le_length (by rw [List.length_drop]; omega)

theorem extract_append_length (a b : List UInt8) : extract (a ++ b) a.length b.length = b := by
  simp [extract]

theorem length_extract {bytes : List UInt8} {o l : Nat} (h : o + l ≤ bytes.length) :
    (extract bytes o l).length = l := by
  simp only [extract, List.length_take, List.length_drop]
  omega

/-- A ranged read within the packfile returns those bytes. -/
theorem readPackfileBlob_of_latest {packfiles : List (Checksum × List UInt8)} {mac : Checksum}
    {bytes : List UInt8} {o l : Nat} (hl : latest packfiles mac = some bytes)
    (h : o + l ≤ bytes.length) : readPackfileBlob packfiles mac o l = .ok (extract bytes o l) := by
  simp [readPackfileBlob, readAt, hl, length_extract h, Except.bind]

/-- In a store that never holds two packfiles under one checksum, the packfile stored under `mac`
is the one written under it. -/
theorem latest_of_mem {packfiles : List (Checksum × List UInt8)}
    (hcf : ∀ x ∈ packfiles, ∀ y ∈ packfiles, x.1 = y.1 → x = y) {mac : Checksum}
    {bytes : List UInt8} (h : (mac, bytes) ∈ packfiles) : latest packfiles mac = some bytes := by
  obtain ⟨b, hb⟩ := Option.isSome_iff_exists.1
    (List.lookup_isSome_iff.2 ⟨_, List.mem_reverse.2 h, beq_self_eq_true mac⟩)
  obtain ⟨l₁, l₂, he, -⟩ := List.lookup_eq_some_iff.1 hb
  have hm : (mac, b) ∈ packfiles :=
    List.mem_reverse.1 (he ▸ List.mem_append_right _ (List.mem_cons_self _ _))
  rw [latest, hb, (Prod.mk.inj (hcf _ hm _ h rfl)).2]

/-- `GetSubpartFor<K>` on a coherent state: the read fails with `missing` where the state has no
location for the blob, and reads the location it has otherwise. -/
theorem readIn_eq {st : State} (hi : State.InternInv st) (k : Kind) (missing : String)
    (gpb : Checksum → UInt32 → UInt32 → Except String (List UInt8)) (c : Checksum) :
    (readIn k missing gpb st c).2 = match st.locate k c with
      | none => .error missing
      | some (p, o, l) => gpb p o l := by
  have he := State.getSubpartIn_eq hi k c
  unfold readIn
  rcases h : st.getSubpartIn k c with ⟨st', p, o, l, found⟩
  rw [h] at he
  cases hl : st.locate k c with
  | none =>
    simp only [hl, State.Subpart.ofOption, Prod.mk.injEq] at he
    simp [he.2.2.2]
  | some x =>
    obtain ⟨p', o', l'⟩ := x
    simp only [hl, State.Subpart.ofOption, Prod.mk.injEq] at he
    obtain ⟨rfl, rfl, rfl, rfl⟩ := he
    rfl

/-! ## What a builder's index covers -/

theorem PackFile.mem_of_find {pack : PackFile} {c : Checksum} {blob : Blob}
    (h : pack.find c = some blob) : blob ∈ pack.index ∧ blob.checksum = c :=
  have h' : pack.index.find? (·.checksum == c) = some blob := h
  have hc := List.find?_some h'
  ⟨List.mem_of_find?_eq_some h', beq_iff_eq.1 hc⟩

/-- **Tiling.**  Each index entry of a builder whose data area stays below `2 ^ 32` bytes lies
inside the data area, and holds there the payload of a message added under its checksum. -/
theorem PackFile.extract_ofMsgs {msgs : List PackerMsg}
    (hfit : (PackFile.ofMsgs msgs).data.length < 2 ^ 32) {blob : Blob}
    (hb : blob ∈ (PackFile.ofMsgs msgs).index) :
    ∃ m ∈ msgs, m.checksum = blob.checksum ∧
      blob.offset.toNat + blob.length.toNat ≤ (PackFile.ofMsgs msgs).data.length ∧
      extract (PackFile.ofMsgs msgs).data blob.offset.toNat blob.length.toNat = m.data := by
  induction msgs using List.reverseRecOn generalizing blob with
  | nil => exact absurd hb (List.not_mem_nil _)
  | append_singleton msgs m ih =>
    rw [PackFile.ofMsgs_concat, PackFile.data_addBlob] at hfit ⊢
    rw [PackFile.ofMsgs_concat, PackFile.index_addBlob] at hb
    rw [List.length_append] at hfit ⊢
    rcases List.mem_append.1 hb with hb | hb
    · obtain ⟨m', hm', hc, hle, hx⟩ := ih (by omega) hb
      exact ⟨m', List.mem_append_left _ hm', hc, by omega, (extract_append_of_le hle).trans hx⟩
    · obtain rfl := List.mem_singleton.1 hb
      have ho : (UInt32.ofNat (PackFile.ofMsgs msgs).data.length).toNat =
          (PackFile.ofMsgs msgs).data.length := UInt32.toNat_ofNat_of_lt (show _ < 2 ^ 32 by omega)
      have hl : (UInt32.ofNat m.data.length).toNat = m.data.length :=
        UInt32.toNat_ofNat_of_lt (show _ < 2 ^ 32 by omega)
      refine ⟨m, List.mem_append_right _ (List.mem_singleton_self _), rfl, ?_, ?_⟩
      · rw [ho, hl]
      · rw [ho, hl, extract_append_length]

/-! ## Backed states -/

/-- Location `(p, o, l)` of blob `c` reads back in `packfiles`: a packfile stored under `p`
covers bytes `o` to `o + l`, and `Holds` accepts them for `c`. -/
def BacksAt (packfiles : List (Checksum × List UInt8)) (Holds : Checksum → List UInt8 → Prop)
    (c p : Checksum) (o l : UInt32) : Prop :=
  ∃ bytes, (p, bytes) ∈ packfiles ∧ o.toNat + l.toNat ≤ bytes.length ∧
    Holds c (extract bytes o.toNat l.toNat)

/-- Every location of every table of `st` reads back in `packfiles`. -/
def Backed (packfiles : List (Checksum × List UInt8)) (Holds : Checksum → List UInt8 → Prop)
    (st : State) : Prop :=
  ∀ k c p o l, st.locate k c = some (p, o, l) → BacksAt packfiles Holds c p o l

/-- A payload a message of `sent` carries for `c`, or one `H₀` accepts. -/
def SentOr (H₀ : Checksum → List UInt8 → Prop) (sent : List PackerMsg) (c : Checksum)
    (bytes : List UInt8) : Prop :=
  H₀ c bytes ∨ ∃ m ∈ sent, m.checksum = c ∧ m.data = bytes

section Backed

variable {P P' : List (Checksum × List UInt8)} {H H' : Checksum → List UInt8 → Prop}
  {st : State} {c p : Checksum} {o l : UInt32}

theorem BacksAt.mono (h : BacksAt P H c p o l) (hP : P ⊆ P') (hH : ∀ c b, H c b → H' c b) :
    BacksAt P' H' c p o l :=
  let ⟨bytes, hm, hle, hh⟩ := h
  ⟨bytes, hP hm, hle, hH _ _ hh⟩

theorem Backed.mono (h : Backed P H st) (hP : P ⊆ P') (hH : ∀ c b, H c b → H' c b) :
    Backed P' H' st :=
  fun k c p o l hl => (h k c p o l hl).mono hP hH

theorem SentOr.mono {H₀ H₀' : Checksum → List UInt8 → Prop} {sent sent' : List PackerMsg}
    (hH : ∀ c b, H₀ c b → H₀' c b) (hs : sent ⊆ sent') (c : Checksum) (b : List UInt8) :
    SentOr H₀ sent c b → SentOr H₀' sent' c b
  | .inl h => .inl (hH c b h)
  | .inr ⟨m, hm, he⟩ => .inr ⟨m, hs hm, he⟩

/-- Interning moves no location. -/
theorem Backed.getOrCreateIdForChecksum (hi : State.InternInv st) (hb : Backed P H st) (c : Checksum) :
    Backed P H (st.getOrCreateIdForChecksum c).1 := fun k c' p o l h =>
  hb k c' p o l (by
    rwa [← State.locate_getOrCreateIdForChecksum hi
      (@Prod.mk.eta _ _ (st.getOrCreateIdForChecksum c)).symm])

/-- A registration at a location that reads back keeps the state backed. -/
theorem Backed.setPackfileIn (hi : State.InternInv st) (hb : Backed P H st)
    (hnew : BacksAt P H c p o l) (checked written : Kind) :
    Backed P H (st.setPackfileIn checked written p c o l) := by
  intro k c' p' o' l' h
  rw [State.locate_setPackfileIn hi] at h
  split_ifs at h with hk
  · obtain ⟨-, rfl, -⟩ := hk
    cases h
    exact hnew
  · exact hb k c' p' o' l' h

/-- **A backed read.**  On a coherent backed state and a store that never holds two packfiles
under one checksum, reading a blob the state locates returns the decoding of a payload `Holds`
accepts for it. -/
theorem readIn_of_backed (hi : State.InternInv st) (hb : Backed P H st)
    (hcf : ∀ x ∈ P, ∀ y ∈ P, x.1 = y.1 → x = y) {decode : List UInt8 → Except String (List UInt8)}
    {k : Kind} (missing : String) (h : (st.locate k c).isSome) :
    ∃ bytes, H c bytes ∧ (readIn k missing (getPackfileBlob decode P) st c).2 = decode bytes := by
  obtain ⟨⟨p, o, l⟩, hloc⟩ := Option.isSome_iff_exists.1 h
  obtain ⟨bytes, hm, hle, hh⟩ := hb k c p o l hloc
  refine ⟨_, hh, ?_⟩
  rw [readIn_eq hi, hloc]
  simp only [getPackfileBlob, readPackfileBlob_of_latest (latest_of_mem hcf hm) hle]
  rfl

end Backed

/-! ## Registration keeps the states backed -/

namespace Registry

variable {P : List (Checksum × List UInt8)} {H : Checksum → List UInt8 → Prop} {reg : Registry}
  {p c : Checksum} {o l : UInt32}

theorem markDirty_inv {st : State} (hi : State.InternInv st) : State.InternInv st.markDirty :=
  hi.of_tables rfl rfl fun k => by simpa only [State.table_markDirty] using hi.table_lt k

theorem locate_markDirty (st : State) (k : Kind) (c : Checksum) :
    st.markDirty.locate k c = st.locate k c := rfl

/-- `SetPackfileForSnapshot` changes the state only by interning and the dirty flag. -/
theorem state_setPackfileForSnapshot (reg : Registry) (p c : Checksum) (o l : UInt32) :
    (reg.setPackfileForSnapshot p c o l).state =
        ((reg.state.getOrCreateIdForChecksum p).1.getOrCreateIdForChecksum c).1 ∨
      (reg.setPackfileForSnapshot p c o l).state =
        ((reg.state.getOrCreateIdForChecksum p).1.getOrCreateIdForChecksum c).1.markDirty := by
  rcases h1 : reg.state.getOrCreateIdForChecksum p with ⟨st1, pid⟩
  rcases h2 : st1.getOrCreateIdForChecksum c with ⟨st2, id⟩
  simp only [setPackfileForSnapshot, h1, h2]
  split_ifs
  · exact .inl rfl
  · exact .inr rfl

/-- `SetPackfileForSnapshot` moves no location of a coherent state. -/
theorem locate_setPackfileForSnapshot (hi : State.InternInv reg.state) (p c : Checksum)
    (o l : UInt32) (k : Kind) (c' : Checksum) :
    (reg.setPackfileForSnapshot p c o l).state.locate k c' = reg.state.locate k c' := by
  rcases h1 : reg.state.getOrCreateIdForChecksum p with ⟨st1, pid⟩
  rcases h2 : st1.getOrCreateIdForChecksum c with ⟨st2, cid⟩
  have e : st2.locate k c' = reg.state.locate k c' :=
    (State.locate_getOrCreateIdForChecksum (State.getOrCreateIdForChecksum_inv hi h1).1 h2 k c').trans
      (State.locate_getOrCreateIdForChecksum hi h1 k c')
  rcases state_setPackfileForSnapshot reg p c o l with h | h <;> rw [h, h1] <;> simp only [h2]
  · exact e
  · rw [locate_markDirty, e]

theorem intern_setPackfileFor (hi : State.InternInv reg.state) (t : BlobType) (p c : Checksum)
    (o l : UInt32) : State.InternInv (reg.setPackfileFor t p c o l).state := by
  cases t
  case snapshot =>
    have i2 := State.getOrCreateIdForChecksum_inv' (State.getOrCreateIdForChecksum_inv' hi p).1 c
    rcases state_setPackfileForSnapshot reg p c o l with h | h <;> rw [setPackfileFor, h]
    · exact i2.1
    · exact markDirty_inv i2.1
  all_goals
    dsimp only [setPackfileFor, State.setPackfileForChunk, State.setPackfileForObject,
      State.setPackfileForFile, State.setPackfileForDirectory, State.setPackfileForData]
    exact (State.setPackfileIn_inv hi _ _ p c o l).1

/-- **Registration.**  A `SetPackfileFor<T>` at a location that reads back keeps the registry's
state backed. -/
theorem backed_setPackfileFor (hi : State.InternInv reg.state) (hb : Backed P H reg.state)
    (hn : BacksAt P H c p o l) (t : BlobType) : Backed P H (reg.setPackfileFor t p c o l).state := by
  cases t
  case snapshot =>
    have i1 := State.getOrCreateIdForChecksum_inv' hi p
    have hb2 := (hb.getOrCreateIdForChecksum hi p).getOrCreateIdForChecksum i1.1 c
    rcases state_setPackfileForSnapshot reg p c o l with h | h <;> rw [setPackfileFor, h]
    · exact hb2
    · exact fun k c' p' o' l' hl => hb2 k c' p' o' l' (by rwa [locate_markDirty] at hl)
  all_goals
    dsimp only [setPackfileFor, State.setPackfileForChunk, State.setPackfileForObject,
      State.setPackfileForFile, State.setPackfileForDirectory, State.setPackfileForData]
    exact hb.setPackfileIn hi hn _ _

end Registry

namespace Sink

/-- The registry a registration loop writes second (`true`: the delta) or first (`false`: the
repository's state). -/
def registry (k : Sink) : Bool → Registry
  | false => k.repoState
  | true => k.stateDelta

@[simp] theorem registry_false (k : Sink) : k.registry false = k.repoState := rfl

@[simp] theorem registry_true (k : Sink) : k.registry true = k.stateDelta := rfl

@[simp] theorem registry_register (k : Sink) (t : BlobType) (mac c : Checksum) (o l : UInt32)
    (b : Bool) : (k.register t mac c o l).registry b = (k.registry b).setPackfileFor t mac c o l := by
  cases b <;> rfl

/-- What `PutPackfile` keeps of one registry of the sink, with `sent` the messages sent so far:
the registry is coherent, and backed by the packfiles `P₀` and those written, each blob's bytes
being a message sent under its checksum or a payload `H₀` accepts. -/
structure ReadInv (b : Bool) (P₀ : List (Checksum × List UInt8))
    (H₀ : Checksum → List UInt8 → Prop) (sent : List PackerMsg) (k : Sink) : Prop where
  intern : State.InternInv (k.registry b).state
  backed : Backed (P₀ ++ k.packfiles) (SentOr H₀ sent) (k.registry b).state

variable {b : Bool} {P₀ P : List (Checksum × List UInt8)} {H₀ : Checksum → List UInt8 → Prop}
  {sent sent' : List PackerMsg} {k k' : Sink} {mac : Checksum} {pack : PackFile}

theorem ReadInv.mono_sent (h : ReadInv b P₀ H₀ sent k) (hs : sent ⊆ sent') :
    ReadInv b P₀ H₀ sent' k :=
  ⟨h.intern, h.backed.mono (List.Subset.refl _) (SentOr.mono (fun _ _ => id) hs)⟩

theorem ReadInv.register (h : ReadInv b P₀ H₀ sent k) (t : BlobType) {c : Checksum}
    {o l : UInt32} (hn : BacksAt k.packfiles (SentOr (fun _ _ => False) sent) c mac o l) :
    ReadInv b P₀ H₀ sent (k.register t mac c o l) := by
  constructor
  · rw [registry_register]
    exact Registry.intern_setPackfileFor h.intern t mac c o l
  · rw [registry_register]
    exact Registry.backed_setPackfileFor h.intern h.backed (hn.mono (List.subset_append_right _ _)
      (SentOr.mono (fun _ _ => False.elim) (List.Subset.refl _))) t

/-- A registration loop over a stored packfile `P` ends in, whose index entries read back there,
keeps the invariant and the packfiles. -/
theorem ReadInv.registerAll (h : ReadInv b P₀ H₀ sent k) (t : BlobType) (cs : List Checksum)
    (hP : k.packfiles = P)
    (hall : ∀ blob ∈ pack.index,
      BacksAt P (SentOr (fun _ _ => False) sent) blob.checksum mac blob.offset blob.length) :
    ReadInv b P₀ H₀ sent (k.registerAll mac pack t cs) ∧
      (k.registerAll mac pack t cs).packfiles = P := by
  induction cs generalizing k with
  | nil => exact ⟨h, hP⟩
  | cons c cs ih =>
    simp only [registerAll, List.foldl_cons] at ih ⊢
    split
    · rename_i blob hf
      obtain ⟨hb, hc⟩ := PackFile.mem_of_find hf
      have hn := hall blob hb
      rw [hc, ← hP] at hn
      exact ih (h.register t hn) hP
    · exact ih h hP

theorem ReadInv.registerLoops (h : ReadInv b P₀ H₀ sent k)
    (hpack : ∀ blob ∈ pack.index, ∃ m ∈ sent, m.checksum = blob.checksum ∧
      blob.offset.toNat + blob.length.toNat ≤ pack.data.length ∧
      extract pack.data blob.offset.toNat blob.length.toNat = m.data)
    (mac : Checksum) (rest : List UInt8)
    (objects chunks files directories datas snapshots : List Checksum) :
    ReadInv b P₀ H₀ sent
      ((((((({ k with packfiles := k.packfiles ++ [(mac, pack.data ++ rest)] }).registerAll
        mac pack .chunk chunks).registerAll mac pack .object objects).registerAll
        mac pack .file files).registerAll mac pack .directory directories).registerAll
        mac pack .data datas).registerAll mac pack .snapshot snapshots) := by
  have hall : ∀ blob ∈ pack.index, BacksAt (k.packfiles ++ [(mac, pack.data ++ rest)])
      (SentOr (fun _ _ => False) sent) blob.checksum mac blob.offset blob.length := by
    intro blob hb
    obtain ⟨m, hm, hc, hle, hx⟩ := hpack blob hb
    refine ⟨_, List.mem_append_right _ (List.mem_singleton_self _), ?_, .inr ⟨m, hm, hc, ?_⟩⟩
    · rw [List.length_append]; omega
    · rw [extract_append_of_le hle, hx]
  have h₁ : ReadInv b P₀ H₀ sent
      { k with packfiles := k.packfiles ++ [(mac, pack.data ++ rest)] } :=
    ⟨h.intern, h.backed.mono ((List.sublist_append_left _ _).append_left P₀).subset fun _ _ => id⟩
  obtain ⟨h₂, e₂⟩ := h₁.registerAll .chunk chunks rfl hall
  obtain ⟨h₃, e₃⟩ := h₂.registerAll .object objects e₂ hall
  obtain ⟨h₄, e₄⟩ := h₃.registerAll .file files e₃ hall
  obtain ⟨h₅, e₅⟩ := h₄.registerAll .directory directories e₄ hall
  obtain ⟨h₆, e₆⟩ := h₅.registerAll .data datas e₅ hall
  exact (h₆.registerAll .snapshot snapshots e₆ hall).1

/-- **`PutPackfile`.**  Storing a builder whose index entries cover messages sent, with a data
area serialized as it is, keeps the invariant. -/
theorem ReadInv.putPackfile {r : Repo}
    {objects chunks files directories datas snapshots : List Checksum} (h : ReadInv b P₀ H₀ sent k)
    (hdata : ∀ bytes, r.serializeData pack = .ok bytes → bytes = pack.data)
    (hpack : ∀ blob ∈ pack.index, ∃ m ∈ sent, m.checksum = blob.checksum ∧
      blob.offset.toNat + blob.length.toNat ≤ pack.data.length ∧
      extract pack.data blob.offset.toNat blob.length.toNat = m.data)
    (hput : k.putPackfile r pack objects chunks files directories datas snapshots = .ok k') :
    ReadInv b P₀ H₀ sent k' := by
  simp only [Sink.putPackfile] at hput
  obtain ⟨bytes, hd, hput⟩ := Except.bind_eq_ok hput
  iterate 5 obtain ⟨_, -, hput⟩ := Except.bind_eq_ok hput
  cases hput
  obtain rfl := hdata bytes hd
  simp only [List.append_assoc]
  exact h.registerLoops hpack _ _ _ _ _ _ _ _

end Sink

/-! ## Along a run -/

/-- Every builder handed to `PutPackfile` has a data area below `2 ^ 32` bytes, so that the
`uint32` offsets and lengths of its index are exact. -/
def Packer.Fits (p : Packer) : Prop := ∀ e ∈ p.flushed, e.2.data.length < 2 ^ 32

instance (p : Packer) : Decidable p.Fits :=
  inferInstanceAs (Decidable (∀ e ∈ p.flushed, e.2.data.length < 2 ^ 32))

theorem Packer.fits_release {p : Packer} {i : Nat} {pack : PackFile} :
    (p.release i pack).Fits ↔ p.Fits ∧ pack.data.length < 2 ^ 32 := by
  simp only [Packer.Fits, Packer.release, List.mem_append, List.mem_singleton, or_imp,
    forall_and, forall_eq]

/-- A state that has interned nothing locates nothing. -/
theorem backed_of_checksumToId {st : State} (h : st.checksumToId = ∅)
    (P : List (Checksum × List UInt8)) (H : Checksum → List UInt8 → Prop) : Backed P H st :=
  fun k c _ _ _ hl => by rw [st.locate_of_none k (by rw [h]; exact AList.lookup_empty c)] at hl; cases hl

theorem checksum_of_put {r : Repo} {t : BlobType} {c : Checksum} {d : List UInt8} {m : PackerMsg}
    (h : put r t c d = .ok m) : m.checksum = c ∧ r.encode d = .ok m.data := by
  obtain ⟨e, he, rfl⟩ := Except.map_eq_ok h
  exact ⟨rfl, he⟩

namespace Session

variable {r : Repo} {w : Nat} {s s' : Session}

/-- A step sends at most the message of its own `Put*`. -/
theorem sent_step {a : Action} (h : step r w s a = some s') :
    s'.packer.sent = s.packer.sent ∨ ∃ t c d m, a = .put t c d ∧ put r t c d = .ok m ∧
      s'.packer.sent = s.packer.sent ++ [m] := by
  cases a with
  | put t c d =>
    simp only [step] at h
    split at h
    · cases h; exact .inl rfl
    · split at h
      · cases h; exact .inr ⟨t, c, d, _, rfl, ‹_›, rfl⟩
      · cases h
  | close =>
    simp only [step] at h
    split at h
    · cases h; exact .inl rfl
    · cases h
  | recv i =>
    refine .inl ?_
    simp only [step] at h
    split at h
    · cases h
    · split at h
      · split at h
        · rcases flush_cases h with ⟨-, rfl⟩ | ⟨pack, sink, -, -, rfl⟩ <;> rfl
        · cases h; rfl
      · cases h
  | exit i =>
    refine .inl ?_
    simp only [step] at h
    split at h
    · obtain ⟨s₁, h₁, rfl⟩ := Option.map_eq_some'.1 h
      rcases flush_cases h₁ with ⟨-, rfl⟩ | ⟨pack, sink, -, -, rfl⟩ <;> rfl
    · cases h

/-- Every message a run sent is the sealed payload of one of its `Put*` actions. -/
theorem exec_sent {s₀ : Session} {acts : List Action} (h : exec r w s₀ acts = some s)
    {m : PackerMsg} (hm : m ∈ s.packer.sent) :
    m ∈ s₀.packer.sent ∨ ∃ t d, Action.put t m.checksum d ∈ acts ∧ put r t m.checksum d = .ok m := by
  induction acts generalizing s₀ with
  | nil => cases h; exact .inl hm
  | cons a acts ih =>
    obtain ⟨s₁, h₁, h⟩ := Option.bind_eq_some.1 h
    rcases ih h with hm₁ | ⟨t, d, hin, hp⟩
    · rcases sent_step h₁ with he | ⟨t, c, d, m', rfl, hp, he⟩
      · exact .inl (he ▸ hm₁)
      · rcases List.mem_append.1 (he ▸ hm₁) with hm₀ | hm'
        · exact .inl hm₀
        · obtain rfl := List.mem_singleton.1 hm'
          obtain rfl := (checksum_of_put hp).1
          exact .inr ⟨t, d, List.mem_cons_self _ _, hp⟩
    · exact .inr ⟨t, d, List.mem_cons_of_mem _ hin, hp⟩

/-- With a `Decode` that opens what `Encode` sealed, a payload sent along a run from
`Snapshot.New` decodes to the data of one of its `Put*` actions. -/
theorem sentOr_of_exec {reg : Registry} {now : Time} {acts : List Action}
    {H₀ : Checksum → List UInt8 → Prop} {decode : List UInt8 → Except String (List UInt8)}
    (h : exec r w (Session.new reg now) acts = some s)
    (hdecode : ∀ d e, r.encode d = .ok e → decode e = .ok d) {c : Checksum} {bytes : List UInt8}
    (hs : SentOr H₀ s.packer.sent c bytes) :
    H₀ c bytes ∨ ∃ t d, Action.put t c d ∈ acts ∧ decode bytes = .ok d := by
  rcases hs with hH | ⟨m, hm, rfl, rfl⟩
  · exact .inl hH
  · obtain ⟨t, d, hin, hp⟩ := (exec_sent h hm).resolve_left (List.not_mem_nil _)
    exact .inr ⟨t, d, hin, hdecode d m.data (checksum_of_put hp).2⟩

end Session

/-- The read path's invariant on a session: the packer's, and that of registry `b` of the sink as
long as every builder flushed fits. -/
def Session.ReadInv (b : Bool) (P₀ : List (Checksum × List UInt8))
    (H₀ : Checksum → List UInt8 → Prop) (w : Nat) (s : Session) : Prop :=
  PackerInv w s.packer ∧ (s.packer.Fits → Sink.ReadInv b P₀ H₀ s.packer.sent s.sink)

section Run

variable {r : Repo} {w : Nat} {b : Bool} {P₀ : List (Checksum × List UInt8)}
  {H₀ : Checksum → List UInt8 → Prop}
  (hdata : ∀ pack bytes, r.serializeData pack = .ok bytes → bytes = pack.data)

include hdata in
/-- A worker's flush of the builder it holds keeps the sink's invariant. -/
theorem Sink.readInv_flush {p : Packer} {i : Nat} {pack : PackFile} {k k' : Sink}
    (hi : PackerInv w p) (hp : (p.workers i).pack = some pack) (hfit : pack.data.length < 2 ^ 32)
    (hk : Sink.ReadInv b P₀ H₀ p.sent k)
    (hput : k.putPackfileFrom r pack (p.workers i).seen = .ok k') :
    Sink.ReadInv b P₀ H₀ p.sent k' := by
  obtain ⟨-, -, -, rfl⟩ := hi.holding i pack hp
  refine hk.putPackfile (hdata _) (fun blob hb => ?_) hput
  obtain ⟨m, hm, hblob⟩ := PackFile.extract_ofMsgs hfit hb
  exact ⟨m, hi.fifo ▸ List.mem_append_left _ (Packer.mem_added_of_mem_msgsOf hm), hblob⟩

include hdata in
/-- **Step.**  Every transition keeps the read path's invariant. -/
theorem Session.ReadInv.step {s s' : Session} (hi : s.ReadInv b P₀ H₀ w) (h : Step r w s s') :
    s'.ReadInv b P₀ H₀ w := by
  refine ⟨hi.1.step h, fun hfit => ?_⟩
  cases h with
  | stay => exact hi.2 hfit
  | send msg _ => exact (hi.2 hfit).mono_sent (List.subset_append_left _ _)
  | close => exact hi.2 hfit
  | receive i msg rest _ _ _ => exact hi.2 hfit
  | receiveFlush i msg rest pack sink hiw hc hp _ hput =>
    obtain ⟨hf, hpf⟩ := Packer.fits_release.1 hfit
    have hk := Sink.readInv_flush hdata (hi.1.receive hiw hc) hp hpf (hi.2 hf) hput
    exact hk
  | exit i _ _ _ => exact hi.2 hfit
  | exitFlush i pack sink _ _ hp hput =>
    obtain ⟨hf, hpf⟩ := Packer.fits_release.1 (hfit : (s.packer.release i pack).Fits)
    have hk := Sink.readInv_flush hdata hi.1 hp hpf (hi.2 hf) hput
    exact hk

end Run

/-- Along every run, as long as the builders flushed fit, a registry of the sink that starts
coherent and backed stays so. -/
theorem Sink.readInv_of_exec {r : Repo} {w : Nat} {reg : Registry} {now : Time}
    {acts : List Action} {s : Session} {b : Bool} {P₀ : List (Checksum × List UInt8)}
    {H₀ : Checksum → List UInt8 → Prop}
    (hdata : ∀ pack bytes, r.serializeData pack = .ok bytes → bytes = pack.data)
    (h₀ : Sink.ReadInv b P₀ H₀ [] (Session.new reg now).sink)
    (h : Session.exec r w (Session.new reg now) acts = some s) (hfit : s.packer.Fits) :
    Sink.ReadInv b P₀ H₀ s.packer.sent s.sink :=
  (Session.exec_induction (Session.ReadInv b P₀ H₀ w) ⟨PackerInv.init reg now, fun _ => h₀⟩
    (fun _ _ hi hs => hi.step hdata hs) h).2 hfit

/-- The repository's state, coherent and backed by its packfiles, starts the run so. -/
theorem Sink.readInv_new_repo {reg : Registry} {P₀ : List (Checksum × List UInt8)}
    {H₀ : Checksum → List UInt8 → Prop} (hreg : State.InternInv reg.state)
    (hb₀ : Backed P₀ H₀ reg.state) (now : Time) :
    Sink.ReadInv false P₀ H₀ [] (Session.new reg now).sink :=
  ⟨hreg, hb₀.mono (List.subset_append_left _ _) fun _ _ => .inl⟩

/-- The delta starts the run empty. -/
theorem Sink.readInv_new_delta (reg : Registry) (now : Time) :
    Sink.ReadInv true [] (fun _ _ => False) [] (Session.new reg now).sink :=
  ⟨(State.InternInv.new now).of_tables rfl rfl fun k => (State.InternInv.new now).table_lt k,
    backed_of_checksumToId rfl _ _⟩

/-- **Backed along every run.**  Start a session on a repository whose state is coherent and
backed by its packfiles `P₀`, each blob's bytes a payload `H₀` accepts, and whose packfile writer
stores a builder's data area as it is.  On every run whose flushed builders stay below `2 ^ 32`
bytes, both states stay coherent; every location the repository's state records lies inside a
packfile of `P₀` or of those the session wrote, and holds there a payload sent under the blob's
checksum or one `H₀` accepts; every location of the delta lies inside a packfile the session
wrote, and holds there a payload sent under the blob's checksum. -/
theorem exec_backed {r : Repo} {w : Nat} {reg : Registry} {now : Time} {acts : List Action}
    {s : Session} {P₀ : List (Checksum × List UInt8)} {H₀ : Checksum → List UInt8 → Prop}
    (hdata : ∀ pack bytes, r.serializeData pack = .ok bytes → bytes = pack.data)
    (hreg : State.InternInv reg.state) (hb₀ : Backed P₀ H₀ reg.state)
    (h : Session.exec r w (Session.new reg now) acts = some s) (hfit : s.packer.Fits) :
    State.InternInv s.sink.repoState.state ∧
      Backed (P₀ ++ s.sink.packfiles) (SentOr H₀ s.packer.sent) s.sink.repoState.state ∧
      State.InternInv s.sink.stateDelta.state ∧
      Backed s.sink.packfiles (SentOr (fun _ _ => False) s.packer.sent) s.sink.stateDelta.state :=
  let hr := Sink.readInv_of_exec hdata (Sink.readInv_new_repo hreg hb₀ now) h hfit
  let hd := Sink.readInv_of_exec hdata (Sink.readInv_new_delta reg now) h hfit
  ⟨hr.intern, hr.backed, hd.intern, List.nil_append s.sink.packfiles ▸ hd.backed⟩

/-- One worker, a chunk, then the channel closed: the packfile written backs both states. -/
theorem exec_backs_chunk :
    ∃ s, Session.exec (Repo.plain 4096) 1 (Session.new ⟨State.new Time.epoch, ∅⟩ Time.epoch)
        [.put .chunk (.ofByte 1) [7], .close, .recv 0, .exit 0] = some s ∧ s.packer.Fits ∧
      State.InternInv s.sink.repoState.state ∧
      Backed ([] ++ s.sink.packfiles) (SentOr (fun _ _ => False) s.packer.sent)
        s.sink.repoState.state ∧
      State.InternInv s.sink.stateDelta.state ∧
      Backed s.sink.packfiles (SentOr (fun _ _ => False) s.packer.sent) s.sink.stateDelta.state :=
  (fun h => ⟨_, h, by decide, exec_backed (fun _ _ h => (Except.ok.inj h).symm)
    (State.InternInv.new _) (backed_of_checksumToId rfl _ _) h (by decide)⟩) rfl

/-- **Reading back.**  `GetChunk` is `readIn .chunk "packfile not found"` and `LookupObject`
decodes `readIn .object "object not found"`.  After every run as in `exec_backed`, on a backend
that never holds two different packfiles under one checksum, with a `Decode` that opens what
`Encode` sealed: reading blob `c` of kind `k` from the repository's state fails with `missing`
where the state has no location for it.  Where it has one, the read returns the data of a `Put*`
of checksum `c` made along the run, or the decoding of a payload `H₀` accepts for `c`. -/
theorem exec_readIn {r : Repo} {w : Nat} {reg : Registry} {now : Time} {acts : List Action}
    {s : Session} {P₀ : List (Checksum × List UInt8)} {H₀ : Checksum → List UInt8 → Prop}
    {decode : List UInt8 → Except String (List UInt8)}
    (hdata : ∀ pack bytes, r.serializeData pack = .ok bytes → bytes = pack.data)
    (hdecode : ∀ d e, r.encode d = .ok e → decode e = .ok d)
    (hreg : State.InternInv reg.state) (hb₀ : Backed P₀ H₀ reg.state)
    (h : Session.exec r w (Session.new reg now) acts = some s) (hfit : s.packer.Fits)
    (hcf : ∀ x ∈ P₀ ++ s.sink.packfiles, ∀ y ∈ P₀ ++ s.sink.packfiles, x.1 = y.1 → x = y)
    (k : Kind) (missing : String) (c : Checksum) :
    (s.sink.repoState.state.locate k c = none →
      (readIn k missing (getPackfileBlob decode (P₀ ++ s.sink.packfiles))
        s.sink.repoState.state c).2 = .error missing) ∧
    (s.sink.repoState.state.locate k c ≠ none →
      (∃ t d, Action.put t c d ∈ acts ∧ (readIn k missing (getPackfileBlob decode
        (P₀ ++ s.sink.packfiles)) s.sink.repoState.state c).2 = .ok d) ∨
      ∃ bytes, H₀ c bytes ∧ (readIn k missing (getPackfileBlob decode (P₀ ++ s.sink.packfiles))
        s.sink.repoState.state c).2 = decode bytes) := by
  have hk := Sink.readInv_of_exec hdata (Sink.readInv_new_repo hreg hb₀ now) h hfit
  have hi : State.InternInv s.sink.repoState.state := hk.intern
  refine ⟨fun hl => by rw [readIn_eq hi, hl], fun hl => ?_⟩
  obtain ⟨bytes, hh, hread⟩ := readIn_of_backed hi hk.backed hcf missing
    (Option.ne_none_iff_isSome.1 hl)
  rcases Session.sentOr_of_exec h hdecode hh with hH | ⟨t, d, hin, hd⟩
  · exact .inr ⟨_, hH, hread⟩
  · exact .inl ⟨t, d, hin, hread.trans hd⟩

/-- One worker, a chunk, then the channel closed: `GetChunk` of the chunk reads its data back. -/
theorem exec_getChunk_reads_put :
    ∃ s, Session.exec (Repo.plain 4096) 1 (Session.new ⟨State.new Time.epoch, ∅⟩ Time.epoch)
        [.put .chunk (.ofByte 1) [7], .close, .recv 0, .exit 0] = some s ∧ s.packer.Fits ∧
      (∀ x ∈ [] ++ s.sink.packfiles, ∀ y ∈ [] ++ s.sink.packfiles, x.1 = y.1 → x = y) ∧
      s.sink.repoState.state.locate .chunk (.ofByte 1) ≠ none ∧
      (getChunk (getPackfileBlob .ok ([] ++ s.sink.packfiles)) s.sink.repoState.state
        (.ofByte 1)).2 = .ok [7] ∧
      ((s.sink.repoState.state.locate .chunk (.ofByte 1) = none →
        (readIn .chunk "packfile not found" (getPackfileBlob .ok ([] ++ s.sink.packfiles))
          s.sink.repoState.state (.ofByte 1)).2 = .error "packfile not found") ∧
      (s.sink.repoState.state.locate .chunk (.ofByte 1) ≠ none →
        (∃ t d, Action.put t (.ofByte 1) d ∈
            [.put .chunk (.ofByte 1) [7], .close, .recv 0, .exit 0] ∧
          (readIn .chunk "packfile not found" (getPackfileBlob .ok ([] ++ s.sink.packfiles))
            s.sink.repoState.state (.ofByte 1)).2 = .ok d) ∨
        ∃ bytes, False ∧
          (readIn .chunk "packfile not found" (getPackfileBlob .ok ([] ++ s.sink.packfiles))
            s.sink.repoState.state (.ofByte 1)).2 = Except.ok bytes)) :=
  (fun h => ⟨_, h, by decide, by decide, by decide, rfl,
    exec_readIn (fun _ _ h => (Except.ok.inj h).symm) (fun _ _ h => congrArg Except.ok (Except.ok.inj h).symm)
      (State.InternInv.new _) (backed_of_checksumToId rfl [] fun _ _ => False) h (by decide)
      (by decide) .chunk
      "packfile not found" (.ofByte 1)⟩) rfl

end Snapshot

end Plakar
