import Plakar.State.Basic

/-!
# The snapshot listing of the HTTP API

`repositorySnapshots` (src/api/api_repository.go) loads every snapshot's header, sorts the
headers, and answers the page selected by the `offset` and `limit` query parameters.  Both are
`uint32`; `limit = 0` means every header.  The page is cut in `uint32` arithmetic:

    if offset > uint32(len(headers))                 { headers = []header.Header{} }
    else if offset+limit > uint32(len(headers))      { headers = headers[offset:] }
    else                                             { headers = headers[offset : offset+limit] }

When `offset + limit` passes `2^32` it wraps to a value below `offset`, the third branch is
taken, and the slice expression panics (`paginate_eq`).  Otherwise the page is
`headers[min(offset, n) : min(offset + L, n)]`, the page of `specPage`, and this is what the
handler answers on every request (`repositorySnapshots_page`).  A client that pages with a fixed
nonzero `limit` before the wrap gets every snapshot once, in order
(`repositorySnapshots_pages`).
-/

namespace Plakar

namespace Api

variable {α : Type}

/-- The slice expression `s[lo:hi]` on a slice whose capacity is its length; `none` is the
runtime panic "slice bounds out of range". -/
def slice (s : List α) (lo hi : Nat) : Option (List α) :=
  if lo ≤ hi ∧ hi ≤ s.length then some ((s.take hi).drop lo) else none

/-- `Items[T]`, the JSON body of a listing. -/
structure Items (α : Type) where
  total : Nat
  items : List α

/-- Lines 52 to 63 of `repositorySnapshots`: a zero `limit` becomes `uint32(len(headers))`,
then the page is cut. -/
def paginate (headers : List α) (offset limit : UInt32) : Option (List α) :=
  let limit := if limit = 0 then UInt32.ofNat headers.length else limit
  if offset > UInt32.ofNat headers.length then some []
  else if offset + limit > UInt32.ofNat headers.length then
    slice headers offset.toNat headers.length
  else slice headers offset.toNat (offset + limit).toNat

/-- `repositorySnapshots` once `offset` and `limit` are parsed (`QueryParamToUint32` is not under
src): `snapshot.Load` of every id `GetSnapshots` returned, the first error answered; the headers
sorted by `header.SortHeaders` (not under src, a parameter here); the page cut.  `headers` is
made with capacity `len(snapshotIDs)` and gets that many headers, so its capacity is its
length, and `SortHeaders` sorts it in place.  `none` is a panic of the handler. -/
def repositorySnapshots (sortHeaders : List α → List α) (load : Checksum → Except String α)
    (snapshotIDs : List Checksum) (offset limit : UInt32) : Except String (Option (Items α)) :=
  (snapshotIDs.mapM load).map fun headers =>
    (paginate (sortHeaders headers) offset limit).map fun page => ⟨snapshotIDs.length, page⟩

/-- Modelled from the spec: the page the listing promises, `headers[min(offset, n) :
min(offset + L, n)]` with `L = n` for a zero `limit` and `offset + L` unbounded. -/
def specPage (headers : List α) (offset limit : UInt32) : List α :=
  let L := if limit = 0 then headers.length else limit.toNat
  (headers.take (min (offset.toNat + L) headers.length)).drop (min offset.toNat headers.length)

/-! ## Lemmas -/

theorem slice_eq_some {s : List α} {lo hi : Nat} (h₁ : lo ≤ hi) (h₂ : hi ≤ s.length) :
    slice s lo hi = some ((s.take hi).drop lo) := if_pos ⟨h₁, h₂⟩

theorem slice_eq_none {s : List α} {lo hi : Nat} (h : hi < lo) : slice s lo hi = none :=
  if_neg fun h' => absurd h'.1 (Nat.not_le.2 h)

/-- **The page.**  On `n < 2^32` headers, the cut panics exactly when `offset ≤ n` and
`offset + L` reaches `2^32`; otherwise it is the promised page. -/
theorem paginate_eq (headers : List α) (offset limit : UInt32) (hn : headers.length < 2 ^ 32) :
    paginate headers offset limit =
      if offset.toNat ≤ headers.length ∧
          2 ^ 32 ≤ offset.toNat + (if limit = 0 then headers.length else limit.toNat) then none
      else some (specPage headers offset limit) := by
  have hN : (UInt32.ofNat headers.length).toNat = headers.length := UInt32.toNat_ofNat_of_lt hn
  have hL : (if limit = 0 then UInt32.ofNat headers.length else limit).toNat =
      if limit = 0 then headers.length else limit.toNat := by
    split <;> simp only [hN]
  have ho : offset.toNat < 2 ^ 32 := offset.toNat_lt_size
  simp only [paginate, specPage]
  generalize (if limit = 0 then UInt32.ofNat headers.length else limit) = l at hL ⊢
  generalize (if limit = 0 then headers.length else limit.toNat) = L at hL ⊢
  have hl : l.toNat < 2 ^ 32 := l.toNat_lt_size
  have hsum : (offset + l).toNat = (offset.toNat + L) % 2 ^ 32 := hL ▸ BitVec.toNat_add _ _
  have hgt₁ : offset > UInt32.ofNat headers.length ↔ headers.length < offset.toNat := by
    show (UInt32.ofNat headers.length).toNat < offset.toNat ↔ _
    rw [hN]
  have hgt₂ : offset + l > UInt32.ofNat headers.length ↔
      headers.length < (offset.toNat + L) % 2 ^ 32 := by
    show (UInt32.ofNat headers.length).toNat < (offset + l).toNat ↔ _
    rw [hN, hsum]
  simp only [hgt₁, hgt₂, hsum]
  by_cases h₁ : headers.length < offset.toNat
  · rw [if_pos h₁, if_neg (show ¬(offset.toNat ≤ headers.length ∧ _) by omega),
      min_eq_right (by omega), List.drop_eq_nil_of_le (by simp)]
  rw [if_neg h₁]
  by_cases hw : 2 ^ 32 ≤ offset.toNat + L
  · rw [if_neg (show ¬headers.length < (offset.toNat + L) % 2 ^ 32 by omega),
      slice_eq_none (by omega), if_pos ⟨Nat.not_lt.1 h₁, hw⟩]
  rw [Nat.mod_eq_of_lt (by omega),
    if_neg (show ¬(offset.toNat ≤ headers.length ∧ _) from fun h => hw h.2)]
  by_cases h₂ : headers.length < offset.toNat + L
  · rw [if_pos h₂, slice_eq_some (by omega) le_rfl, min_eq_right h₂.le, min_eq_left (by omega)]
  · rw [if_neg h₂, slice_eq_some (by omega) (by omega), min_eq_left (by omega),
      min_eq_left (by omega)]

/-- **One header, a wrapping page.**  One snapshot, `offset = 1` and `limit = 2^32 - 1`:
`offset + limit` wraps to `0`, the handler evaluates `headers[1:0]` and panics, where the
promised page is empty. -/
theorem repositorySnapshots_panics_on_wrap :
    repositorySnapshots id (fun _ => .ok ()) [Checksum.zero] 1 4294967295 = .ok none ∧
      specPage [()] 1 4294967295 = [] :=
  ⟨rfl, rfl⟩

/-! ## The answer on every request -/

theorem length_eq_of_mapM_eq_ok {β γ : Type} {f : β → Except String γ} :
    ∀ {l : List β} {l' : List γ}, l.mapM f = .ok l' → l'.length = l.length
  | [], _, h => by cases h; rfl
  | a :: l, l', h => by
    rw [List.mapM_cons] at h
    obtain ⟨b, -, h⟩ := Except.bind_eq_ok h
    obtain ⟨bs, hbs, h⟩ := Except.bind_eq_ok h
    cases h
    exact congrArg Nat.succ (length_eq_of_mapM_eq_ok hbs)

/-- **What the listing answers.**  On fewer than `2^32` snapshots and with a sort that keeps the
headers: a snapshot that fails to load is answered as its error; otherwise the handler panics
exactly when `offset ≤ n` and `offset + L` reaches `2^32`, and else answers `Total = n` and the
promised page of the sorted headers. -/
theorem repositorySnapshots_page {sortHeaders : List α → List α}
    (hsort : ∀ l, (sortHeaders l).length = l.length) (load : Checksum → Except String α)
    (snapshotIDs : List Checksum) (hn : snapshotIDs.length < 2 ^ 32) (offset limit : UInt32) :
    repositorySnapshots sortHeaders load snapshotIDs offset limit =
      (snapshotIDs.mapM load).map fun headers =>
        if offset.toNat ≤ snapshotIDs.length ∧
            2 ^ 32 ≤ offset.toNat + (if limit = 0 then snapshotIDs.length else limit.toNat) then
          none
        else some ⟨snapshotIDs.length, specPage (sortHeaders headers) offset limit⟩ := by
  cases h : snapshotIDs.mapM load with
  | error e => rw [repositorySnapshots, h]; rfl
  | ok headers =>
    have hlen : (sortHeaders headers).length = snapshotIDs.length := by
      rw [hsort, length_eq_of_mapM_eq_ok h]
    simp only [repositorySnapshots, h, Except.map]
    rw [paginate_eq _ _ _ (hlen ▸ hn), hlen]
    split_ifs <;> rfl

/-- One snapshot: the first page of everything, and the wrapping page that panics. -/
theorem repositorySnapshots_page_one :
    (∀ l : List Unit, (id l).length = l.length) ∧ [Checksum.zero].length < 2 ^ 32 ∧
      repositorySnapshots id (fun _ => .ok ()) [Checksum.zero] 0 0 = .ok (some ⟨1, [()]⟩) ∧
      repositorySnapshots id (fun _ => .ok ()) [Checksum.zero] 1 4294967295 = .ok none :=
  ⟨fun _ => rfl, by decide,
    (repositorySnapshots_page (fun _ => rfl) (fun _ => .ok ()) [Checksum.zero] (by decide) 0 0).trans
      rfl,
    (repositorySnapshots_page (fun _ => rfl) (fun _ => .ok ()) [Checksum.zero] (by decide) 1
      4294967295).trans rfl⟩

/-! ## Paging through the listing -/

/-- With a nonzero `limit` the promised page is the `limit` headers from `offset` on. -/
theorem specPage_of_ne_zero (headers : List α) (offset : UInt32) {limit : UInt32}
    (hl : limit ≠ 0) :
    specPage headers offset limit = (headers.take (offset.toNat + limit.toNat)).drop offset.toNat := by
  simp only [specPage, if_neg hl]
  rw [show headers.take (min (offset.toNat + limit.toNat) headers.length) =
    headers.take (offset.toNat + limit.toNat) from List.take_eq_take.2 (by omega)]
  rcases le_total offset.toNat headers.length with h | h
  · rw [min_eq_left h]
  · rw [min_eq_right h, List.drop_eq_nil_of_le (by rw [List.length_take]; omega),
      List.drop_eq_nil_of_le (by rw [List.length_take]; omega)]

/-- Pages of `L` cut one after the other make up the first `m * L` elements. -/
theorem flatten_pages (l : List α) (L m : Nat) :
    ((List.range m).map fun i => (l.take (i * L + L)).drop (i * L)).flatten = l.take (m * L) := by
  induction m with
  | zero => simp
  | succ m ih =>
    have hpre : (l.take (m * L + L)).take (m * L) = l.take (m * L) := by
      rw [List.take_take, min_eq_left (Nat.le_add_right _ _)]
    rw [List.range_succ, List.map_append, List.flatten_append, ih, List.map_singleton,
      List.flatten_singleton, ← hpre, List.take_append_drop, Nat.succ_mul]

/-- **Paging returns every snapshot once.**  A client that asks for the pages at offsets `0`,
`limit`, `2·limit`, … with a nonzero `limit`, as long as no `offset + limit` reaches `2^32`,
gets an answer to each, with `Total = n`, and the pages put together are the sorted headers,
each once and in order. -/
theorem repositorySnapshots_pages {sortHeaders : List α → List α}
    (hsort : ∀ l, (sortHeaders l).length = l.length) {load : Checksum → Except String α}
    {snapshotIDs : List Checksum} {headers : List α} (hload : snapshotIDs.mapM load = .ok headers)
    {limit : UInt32} (hl : limit ≠ 0) {m : Nat} (hm : snapshotIDs.length ≤ m * limit.toNat)
    (hw : m * limit.toNat < 2 ^ 32) :
    ∃ pages : List (List α), pages.flatten = sortHeaders headers ∧
      (List.range m).map (fun i => repositorySnapshots sortHeaders load snapshotIDs
          (UInt32.ofNat (i * limit.toNat)) limit) =
        pages.map fun page => .ok (some ⟨snapshotIDs.length, page⟩) := by
  have hlen : (sortHeaders headers).length = snapshotIDs.length := by
    rw [hsort, length_eq_of_mapM_eq_ok hload]
  refine ⟨(List.range m).map fun i =>
      ((sortHeaders headers).take (i * limit.toNat + limit.toNat)).drop (i * limit.toNat), ?_, ?_⟩
  · rw [flatten_pages, List.take_of_length_le (by omega)]
  · rw [List.map_map]
    refine List.map_congr_left fun i hi => ?_
    have hi : i * limit.toNat + limit.toNat ≤ m * limit.toNat := by
      simpa only [Nat.succ_mul] using Nat.mul_le_mul_right limit.toNat (List.mem_range.1 hi)
    have ho : (UInt32.ofNat (i * limit.toNat)).toNat = i * limit.toNat :=
      UInt32.toNat_ofNat_of_lt (show _ < 2 ^ 32 by omega)
    simp only [repositorySnapshots, hload, Except.map, Function.comp]
    rw [paginate_eq _ _ _ (by omega), if_neg (by rw [if_neg hl, ho, hlen]; omega),
      specPage_of_ne_zero _ _ hl, ho]
    rfl

/-- Three snapshots, two to a page: the pages at `0` and `2` are the first two and the last. -/
theorem repositorySnapshots_pages_three :
    [Checksum.ofByte 1, .ofByte 2, .ofByte 3].mapM (fun c => (.ok c : Except String Checksum)) =
        .ok [.ofByte 1, .ofByte 2, .ofByte 3] ∧
      (2 : UInt32) ≠ 0 ∧ [Checksum.ofByte 1, .ofByte 2, .ofByte 3].length ≤ 2 * (2 : UInt32).toNat ∧
      2 * (2 : UInt32).toNat < 2 ^ 32 ∧
      ∃ pages : List (List Checksum), pages.flatten = id [.ofByte 1, .ofByte 2, .ofByte 3] ∧
        (List.range 2).map (fun i => repositorySnapshots id (fun c => .ok c)
            [.ofByte 1, .ofByte 2, .ofByte 3] (UInt32.ofNat (i * (2 : UInt32).toNat)) 2) =
          pages.map fun page => .ok (some ⟨3, page⟩) :=
  ⟨rfl, by decide, by decide, by decide,
    repositorySnapshots_pages (fun _ => rfl) (by rfl) (by decide) (by decide) (by decide)⟩

/-! ## Importer types -/

/-- `repositoryImporterTypes` once `GetSnapshots` has answered (`RebuildState` is not under src):
`snapshot.Load` of every id, the first error answered; `strings.ToLower` (`toLower`) of the
importer type of each header's first source (`GetSource` is not under src: `importerType`) set in
a map; the map's keys appended in the order Go ranges over them (`iterate`, which the language
leaves open); `sort.Slice` by `<` (`sortSlice`); the listing of them all.  Go compares strings
bytewise, which on the UTF-8 of a `String` is the order of its characters. -/
def repositoryImporterTypes (toLower : String → String) (importerType : α → String)
    (load : Checksum → Except String α) (iterate sortSlice : List String → List String)
    (snapshotIDs : List Checksum) : Except String (Items String) :=
  (snapshotIDs.mapM load).map fun snaps =>
    let importerTypesMap := snaps.foldl (fun m snap => m.insert (toLower (importerType snap))) []
    let importerTypes := sortSlice (iterate importerTypesMap)
    ⟨importerTypes.length, importerTypes⟩

/-- What `sort.Slice(l, less)` promises: a permutation of `l` in which no element is less than
one before it. -/
def SortsSlice (sortSlice : List String → List String) : Prop :=
  ∀ l, (sortSlice l).Perm l ∧ (sortSlice l).Sorted (· ≤ ·)

/-- The keys of the map the handler fills: distinct, and the keys set. -/
theorem foldl_insert_keys (f : α → String) (snaps : List α) (m : List String) (hm : m.Nodup) :
    (snaps.foldl (fun m snap => m.insert (f snap)) m).Nodup ∧
      ∀ t, t ∈ snaps.foldl (fun m snap => m.insert (f snap)) m ↔ t ∈ m ∨ ∃ snap ∈ snaps, t = f snap := by
  induction snaps generalizing m with
  | nil => exact ⟨hm, fun t => by simp⟩
  | cons snap snaps ih =>
    obtain ⟨hnd, hmem⟩ := ih (m.insert (f snap)) hm.insert
    refine ⟨hnd, fun t => ?_⟩
    rw [List.foldl_cons, hmem, List.mem_insert_iff, List.exists_mem_cons_iff, or_assoc]
    exact or_left_comm

/-- **Importer types, in one order.**  Whatever order Go ranges over the map in, and whatever
sort `sort.Slice` runs: if a snapshot fails to load, the handler answers that error; otherwise it
lists each lowercased importer type of the snapshots exactly once, in strictly ascending order,
with `Total` their number, and so answers the same for every order and every sort. -/
theorem repositoryImporterTypes_sorted (toLower : String → String) (importerType : α → String)
    (load : Checksum → Except String α) {iterate sortSlice : List String → List String}
    (hiter : ∀ l, (iterate l).Perm l) (hsort : SortsSlice sortSlice) (snapshotIDs : List Checksum) :
    (∀ e, snapshotIDs.mapM load = .error e →
      repositoryImporterTypes toLower importerType load iterate sortSlice snapshotIDs = .error e) ∧
    ∀ snaps, snapshotIDs.mapM load = .ok snaps →
      ∃ items, repositoryImporterTypes toLower importerType load iterate sortSlice snapshotIDs =
          .ok items ∧ items.total = items.items.length ∧ items.items.Sorted (· < ·) ∧
        (∀ t, t ∈ items.items ↔ ∃ snap ∈ snaps, t = toLower (importerType snap)) ∧
        ∀ iterate' sortSlice' : List String → List String, (∀ l, (iterate' l).Perm l) →
          SortsSlice sortSlice' →
          repositoryImporterTypes toLower importerType load iterate' sortSlice' snapshotIDs =
            .ok items := by
  refine ⟨fun e he => by rw [repositoryImporterTypes, he]; rfl, fun snaps hs => ?_⟩
  obtain ⟨hnd, hmem⟩ :=
    foldl_insert_keys (fun snap => toLower (importerType snap)) snaps [] .nil
  set keys := snaps.foldl (fun m snap => m.insert (toLower (importerType snap))) []
  have hperm : ∀ {iterate sortSlice : List String → List String},
      (∀ l, (iterate l).Perm l) → SortsSlice sortSlice → (sortSlice (iterate keys)).Perm keys :=
    fun hi hs => (hs _).1.trans (hi keys)
  have hres : ∀ iterate sortSlice,
      repositoryImporterTypes toLower importerType load iterate sortSlice snapshotIDs =
        .ok ⟨(sortSlice (iterate keys)).length, sortSlice (iterate keys)⟩ := fun _ _ => by
    rw [repositoryImporterTypes, hs]
    rfl
  refine ⟨_, hres iterate sortSlice, rfl,
    (hsort _).2.lt_of_le ((hperm hiter hsort).nodup_iff.2 hnd), fun t => ?_,
    fun iterate' sortSlice' hi' hs' => ?_⟩
  · rw [(hperm hiter hsort).mem_iff, hmem]
    simp
  · rw [hres, List.eq_of_perm_of_sorted ((hperm hi' hs').trans (hperm hiter hsort).symm)
      (hs' _).2 (hsort _).2]

/-- Map order and sort as Go may run them: the identity, and `List.mergeSort`. -/
theorem repositoryImporterTypes_sorted_mergeSort :
    (∀ l : List String, (id l).Perm l) ∧ SortsSlice (fun l => l.mergeSort fun a b => decide (a ≤ b)) ∧
    ((∀ e, [Checksum.zero].mapM (fun _ => (.ok "FS" : Except String String)) = .error e →
      repositoryImporterTypes String.toLower id (fun _ => .ok "FS") id
        (fun l => l.mergeSort fun a b => decide (a ≤ b)) [Checksum.zero] = .error e) ∧
    ∀ snaps, [Checksum.zero].mapM (fun _ => (.ok "FS" : Except String String)) = .ok snaps →
      ∃ items, repositoryImporterTypes String.toLower id (fun _ => .ok "FS") id
          (fun l => l.mergeSort fun a b => decide (a ≤ b)) [Checksum.zero] = .ok items ∧
        items.total = items.items.length ∧ items.items.Sorted (· < ·) ∧
        (∀ t, t ∈ items.items ↔ ∃ snap ∈ snaps, t = String.toLower (id snap)) ∧
        ∀ iterate' sortSlice' : List String → List String, (∀ l, (iterate' l).Perm l) →
          SortsSlice sortSlice' →
          repositoryImporterTypes String.toLower id (fun _ => .ok "FS") iterate' sortSlice'
            [Checksum.zero] = .ok items) :=
  have hsort : SortsSlice (fun l => l.mergeSort fun a b => decide (a ≤ b)) := fun l =>
    ⟨List.mergeSort_perm l _, by
      simpa using @List.sorted_mergeSort _ (fun a b : String => decide (a ≤ b))
        (fun a b c hab hbc => by simpa using le_trans (by simpa using hab) (by simpa using hbc))
        (fun a b => by simpa using le_total a b) l⟩
  ⟨fun l => List.Perm.refl l, hsort,
    repositoryImporterTypes_sorted String.toLower id (fun _ => .ok "FS") (fun l => List.Perm.refl l)
      hsort [Checksum.zero]⟩

end Api

end Plakar
