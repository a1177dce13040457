import Plakar.Msgpack.RoundTrip

/-!
# File entries as blobs

Model of `vfs.FileEntry` (src/unnamed/part_000, lines 12 to 103).  `Serialize` is
`msgpack.Marshal(f)`; `FileEntryFromBytes` is `msgpack.Unmarshal` into a zero `FileEntry`, then
lines 70 to 97, which put an empty slice in place of every nil one (`FileEntry.normalize`).

The types of `Type`, `FileInfo` and `Object`, and the elements of `AlternateDataStreams`,
`ExtendedAttributes` and `CustomMetadata`, are not under src.  They are parameters
(`Foreign`), each with the codec the library uses for it.  When those codecs read back what
they write (`Foreign.ReadsBack`):

    f.Fits → fileEntryFromBytes T f.serialize = .ok f.normalize
    fileEntryFromBytes T b = .ok e → fileEntryFromBytes T e.serialize = .ok e

(`fileEntryFromBytes_serialize`).  `Fits` asks every string and slice of the entry to be
shorter than `2 ^ 32`: the library writes a longer length as `uint32(len)`, and, whatever the
codecs, no entry read has `2 ^ 32` tags (`length_tags_lt_of_fileEntryFromBytes`).
-/

namespace Plakar

namespace Vfs

open Msgpack

/-! ## The types that are not under src -/

/-- How `msgpack.Marshal` writes a value of a type that is not under src, how
`msgpack.Unmarshal` reads one, and which values it writes faithfully (for the library's own
codecs, those whose strings and slices are shorter than `2 ^ 32`). -/
structure Codec (α : Type) where
  write : α → List UInt8
  read : Reader α
  Fits : α → Prop

/-- The codec reads back, up to `norm`, every value that fits; it reads only values that fit;
and `norm` keeps a value fitting. -/
structure Codec.ReadsBack {α : Type} (c : Codec α) (norm : α → α) : Prop where
  read_write : ∀ x, c.Fits x →
    ∃ y, norm y = norm x ∧ ∀ rest, c.read (c.write x ++ rest) = .ok (y, rest)
  fits_read : ∀ input x rest, c.read input = .ok (x, rest) → c.Fits x
  fits_norm : ∀ x, c.Fits x → c.Fits (norm x)

/-- `objects.Object` (not under src): the slices `CustomMetadata` and `Tags`, which
`FileEntryFromBytes` reads, and its other fields. -/
structure Object (Fields CustomMetadata : Type) where
  fields : Fields
  customMetadata : Option (List CustomMetadata)
  tags : Option (List (List UInt8))

/-- `make([]T, 0)` in place of a nil slice. -/
def orEmpty {β : Type} : Option (List β) → Option (List β)
  | none => some []
  | some l => some l

/-- Lines 71 to 76: the object's nil slices made empty. -/
def Object.normalize {F C : Type} (o : Object F C) : Object F C :=
  { o with customMetadata := orEmpty o.customMetadata, tags := orEmpty o.tags }

/-- The types of a file entry's fields that are not under src (`importer.RecordType`,
`objects.FileInfo`, `objects.Object`, and the elements of `AlternateDataStreams`,
`ExtendedAttributes` and `CustomMetadata`), their codecs, and the zero values a decoded entry
starts from. -/
structure Foreign where
  RecordType : Type
  FileInfo : Type
  ObjectFields : Type
  ObjectCustomMetadata : Type
  AlternateDataStream : Type
  ExtendedAttribute : Type
  CustomMetadata : Type
  zeroRecordType : RecordType
  zeroFileInfo : FileInfo
  recordType : Codec RecordType
  fileInfo : Codec FileInfo
  object : Codec (Object ObjectFields ObjectCustomMetadata)
  alternateDataStream : Codec AlternateDataStream
  extendedAttribute : Codec ExtendedAttribute
  customMetadata : Codec CustomMetadata

/-- The codecs read back what they write, the object's up to its nil slices; the zero values
fit; and an object is never written as nil, which would be read back as a nil `*Object`. -/
structure Foreign.ReadsBack (T : Foreign) : Prop where
  recordType : T.recordType.ReadsBack id
  fileInfo : T.fileInfo.ReadsBack id
  object : T.object.ReadsBack Object.normalize
  alternateDataStream : T.alternateDataStream.ReadsBack id
  extendedAttribute : T.extendedAttribute.ReadsBack id
  customMetadata : T.customMetadata.ReadsBack id
  zeroRecordType : T.recordType.Fits T.zeroRecordType
  zeroFileInfo : T.fileInfo.Fits T.zeroFileInfo
  object_not_nil : ∀ o rest, (T.object.write o ++ rest).head? ≠ some 0xc0

/-! ## `FileEntry`, `Serialize`, `FileEntryFromBytes` -/

/-- `vfs.FileEntry`.  A string is its bytes; a slice or a pointer is `none` when nil. -/
structure FileEntry (T : Foreign) where
  version : UInt32
  parentPath : List UInt8
  type : T.RecordType
  fileInfo : T.FileInfo
  symlinkTarget : List UInt8
  object : Option (Object T.ObjectFields T.ObjectCustomMetadata)
  alternateDataStreams : Option (List T.AlternateDataStream)
  securityDescriptor : Option (List UInt8)
  fileAttributes : UInt32
  extendedAttributes : Option (List T.ExtendedAttribute)
  customMetadata : Option (List T.CustomMetadata)
  tags : Option (List (List UInt8))

variable {T : Foreign}

/-! Storing a value in one field, as the decoder of that field does. -/

@[simp] def FileEntry.setVersion (e : FileEntry T) (v : UInt32) :
    FileEntry T := { e with version := v }
@[simp] def FileEntry.setParentPath (e : FileEntry T) (v : List UInt8) :
    FileEntry T := { e with parentPath := v }
@[simp] def FileEntry.setType (e : FileEntry T) (v : T.RecordType) :
    FileEntry T := { e with type := v }
@[simp] def FileEntry.setFileInfo (e : FileEntry T) (v : T.FileInfo) :
    FileEntry T := { e with fileInfo := v }
@[simp] def FileEntry.setSymlinkTarget (e : FileEntry T) (v : List UInt8) :
    FileEntry T := { e with symlinkTarget := v }
@[simp] def FileEntry.setObject (e : FileEntry T)
    (v : Option (Object T.ObjectFields T.ObjectCustomMetadata)) : FileEntry T :=
  { e with object := v }
@[simp] def FileEntry.setAlternateDataStreams (e : FileEntry T)
    (v : Option (List T.AlternateDataStream)) : FileEntry T :=
  { e with alternateDataStreams := v }
@[simp] def FileEntry.setSecurityDescriptor (e : FileEntry T) (v : Option (List UInt8)) :
    FileEntry T := { e with securityDescriptor := v }
@[simp] def FileEntry.setFileAttributes (e : FileEntry T) (v : UInt32) :
    FileEntry T := { e with fileAttributes := v }
@[simp] def FileEntry.setExtendedAttributes (e : FileEntry T)
    (v : Option (List T.ExtendedAttribute)) : FileEntry T :=
  { e with extendedAttributes := v }
@[simp] def FileEntry.setCustomMetadata (e : FileEntry T) (v : Option (List T.CustomMetadata)) :
    FileEntry T := { e with customMetadata := v }
@[simp] def FileEntry.setTags (e : FileEntry T) (v : Option (List (List UInt8))) :
    FileEntry T := { e with tags := v }

/-- The fields `encodeStructValue` writes, in the order of the declaration and under their
`msgpack` tags; an `omitempty` field is left out when it is empty. -/
def FileEntry.encodedFields (f : FileEntry T) : List (String × List UInt8) :=
  [("version", writeUint32 f.version), ("parent_path", writeString f.parentPath),
    ("type", T.recordType.write f.type), ("file_info", T.fileInfo.write f.fileInfo)] ++
  omitEmpty "symlinkTarget" f.symlinkTarget.isEmpty (writeString f.symlinkTarget) ++
  omitEmpty "object" f.object.isNone (writePtr T.object.write f.object) ++
  omitEmpty "alternate_data_streams" (sliceEmpty f.alternateDataStreams)
    (writeSlice T.alternateDataStream.write f.alternateDataStreams) ++
  omitEmpty "security_descriptor" (sliceEmpty f.securityDescriptor)
    (writeByteSlice f.securityDescriptor) ++
  omitEmpty "file_attributes" (f.fileAttributes == 0) (writeUint32 f.fileAttributes) ++
  omitEmpty "extended_attributes" (sliceEmpty f.extendedAttributes)
    (writeSlice T.extendedAttribute.write f.extendedAttributes) ++
  omitEmpty "custom_metadata" (sliceEmpty f.customMetadata)
    (writeSlice T.customMetadata.write f.customMetadata) ++
  omitEmpty "tags" (sliceEmpty f.tags) (writeSlice writeString f.tags)

/-- `FileEntry.Serialize`: `msgpack.Marshal(f)`, which does not fail on a file entry. -/
def FileEntry.serialize (f : FileEntry T) : List UInt8 := writeStruct f.encodedFields

/-- The fields `decodeStructValue` knows, under their `msgpack` tags. -/
def fileEntryFields (T : Foreign) : List (StructField (FileEntry T)) :=
  [.ofSet "version" readUint32 FileEntry.setVersion,
    .ofSet "parent_path" readString FileEntry.setParentPath,
    .ofSet "type" T.recordType.read FileEntry.setType,
    .ofSet "file_info" T.fileInfo.read FileEntry.setFileInfo,
    .ofSet "symlinkTarget" readString FileEntry.setSymlinkTarget,
    .ofSet "object" (readPtr T.object.read) FileEntry.setObject,
    .ofSet "alternate_data_streams" (readSlice T.alternateDataStream.read)
      FileEntry.setAlternateDataStreams,
    .ofSet "security_descriptor" readByteSlice FileEntry.setSecurityDescriptor,
    .ofSet "file_attributes" readUint32 FileEntry.setFileAttributes,
    .ofSet "extended_attributes" (readSlice T.extendedAttribute.read)
      FileEntry.setExtendedAttributes,
    .ofSet "custom_metadata" (readSlice T.customMetadata.read) FileEntry.setCustomMetadata,
    .ofSet "tags" (readSlice readString) FileEntry.setTags]

/-- `var f FileEntry`. -/
def FileEntry.zero (T : Foreign) : FileEntry T :=
  ⟨0, [], T.zeroRecordType, T.zeroFileInfo, [], none, none, none, 0, none, none, none⟩

/-- Lines 70 to 97 of `FileEntryFromBytes`: every nil slice, the object's included, made
empty. -/
def FileEntry.normalize (f : FileEntry T) : FileEntry T :=
  { f with
    object := f.object.map Object.normalize
    alternateDataStreams := orEmpty f.alternateDataStreams
    securityDescriptor := orEmpty f.securityDescriptor
    extendedAttributes := orEmpty f.extendedAttributes
    customMetadata := orEmpty f.customMetadata
    tags := orEmpty f.tags }

/-- `FileEntryFromBytes`: `msgpack.Unmarshal` into `var f FileEntry` (one value is read, the
bytes after it are not looked at), then `normalize`. -/
def fileEntryFromBytes (T : Foreign) (serialized : List UInt8) : Except String (FileEntry T) :=
  (readStruct (.zero T) (fileEntryFields T) serialized.length (.zero T) serialized).map
    fun (f, _) => f.normalize

/-! ## What is written faithfully -/

/-- A slice of fewer than `2 ^ 32` elements, each of which fits. -/
def SliceFits {β : Type} (fits : β → Prop) (s : Option (List β)) : Prop :=
  (s.getD []).length < 2 ^ 32 ∧ ∀ x ∈ s.getD [], fits x

/-- Strings and slices shorter than `2 ^ 32`, and values of the other types that their codecs
write faithfully. -/
structure FileEntry.Fits (f : FileEntry T) : Prop where
  parentPath : f.parentPath.length < 2 ^ 32
  type : T.recordType.Fits f.type
  fileInfo : T.fileInfo.Fits f.fileInfo
  symlinkTarget : f.symlinkTarget.length < 2 ^ 32
  object : ∀ o ∈ f.object, T.object.Fits o
  alternateDataStreams : SliceFits T.alternateDataStream.Fits f.alternateDataStreams
  securityDescriptor : (f.securityDescriptor.getD []).length < 2 ^ 32
  extendedAttributes : SliceFits T.extendedAttribute.Fits f.extendedAttributes
  customMetadata : SliceFits T.customMetadata.Fits f.customMetadata
  tags : SliceFits (fun t => t.length < 2 ^ 32) f.tags

/-! ## Lemmas -/

@[simp] theorem getD_orEmpty {β : Type} (s : Option (List β)) : (orEmpty s).getD [] = s.getD [] := by
  cases s <;> rfl

@[simp] theorem orEmpty_orEmpty {β : Type} (s : Option (List β)) : orEmpty (orEmpty s) = orEmpty s := by
  cases s <;> rfl

@[simp] theorem Object.normalize_normalize {F C : Type} (o : Object F C) :
    o.normalize.normalize = o.normalize := by
  simp [Object.normalize]

theorem FileEntry.normalize_normalize (f : FileEntry T) : f.normalize.normalize = f.normalize := by
  simp [FileEntry.normalize, Option.map_map, Function.comp_def]

/-- An exact codec reads back every value that fits. -/
theorem Codec.ReadsBack.read_write_id {α : Type} {c : Codec α} (h : c.ReadsBack id) {x : α}
    (hx : c.Fits x) (rest : List UInt8) : c.read (c.write x ++ rest) = .ok (x, rest) := by
  obtain ⟨y, hy, hr⟩ := h.read_write x hx
  cases (hy : y = x)
  exact hr rest

/-- What reading an `omitempty` slice back gives: nil when it was left out. -/
def dropEmpty {β : Type} (s : Option (List β)) : Option (List β) := if sliceEmpty s then none else s

theorem orEmpty_dropEmpty {β : Type} (s : Option (List β)) : orEmpty (dropEmpty s) = orEmpty s := by
  rcases s with _ | _ | _ <;> rfl

/-- A slice written by `omitempty` reads back as `dropEmpty` of it, whatever follows. -/
theorem readSlice_dropEmpty {β : Type} {readElem : Reader β} {writeElem : β → List UInt8}
    {s : Option (List β)} (hl : (s.getD []).length < 2 ^ 32)
    (hv : ∀ x ∈ s.getD [], ∀ rest, readElem (writeElem x ++ rest) = .ok (x, rest))
    (he : sliceEmpty s = false) (rest : List UInt8) :
    readSlice readElem (writeSlice writeElem s ++ rest) = .ok (dropEmpty s, rest) := by
  rw [dropEmpty, if_neg (by simp [he]), readSlice_writeSlice hl hv]

theorem readByteSlice_dropEmpty {s : Option (List UInt8)} (hl : (s.getD []).length < 2 ^ 32)
    (he : sliceEmpty s = false) (rest : List UInt8) :
    readByteSlice (writeByteSlice s ++ rest) = .ok (dropEmpty s, rest) := by
  rw [dropEmpty, if_neg (by simp [he]), readByteSlice_writeByteSlice hl]

theorem dropEmpty_of_empty {β : Type} {s : Option (List β)} (he : sliceEmpty s = true) :
    dropEmpty s = none :=
  if_pos he

/-- A non-nil object is read back, up to its nil slices. -/
theorem Foreign.ReadsBack.readPtr_object (hT : T.ReadsBack)
    {o : Option (Object T.ObjectFields T.ObjectCustomMetadata)} (ho : ∀ x ∈ o, T.object.Fits x) :
    ∃ o', o'.map Object.normalize = o.map Object.normalize ∧ (o.isNone = true → o' = none) ∧
      (o.isNone = false → ∀ rest,
        readPtr T.object.read (writePtr T.object.write o ++ rest) = .ok (o', rest)) := by
  cases o with
  | none => exact ⟨none, rfl, fun _ => rfl, nofun⟩
  | some x =>
    obtain ⟨y, hy, hr⟩ := hT.object.read_write x (ho x rfl)
    refine ⟨some y, by simp [hy], nofun, fun _ rest => ?_⟩
    rw [writePtr, readPtr_of_ne_nil (hT.object_not_nil x rest), hr]
    rfl

theorem FileEntry.length_encodedFields (f : FileEntry T) : f.encodedFields.length ≤ 12 := by
  unfold FileEntry.encodedFields
  iterate 8 refine (length_append_omitEmpty _ _ _ _).trans (Nat.succ_le_succ ?_)
  exact le_rfl

/-- Reading the written fields from the zero entry gives an entry with the same
normalization. -/
theorem readsFields_encodedFields (hT : T.ReadsBack) {f : FileEntry T} (hf : f.Fits) :
    ∃ y, ReadsFields (fileEntryFields T) f.encodedFields (.zero T) y ∧
      y.normalize = f.normalize := by
  obtain ⟨o, ho, hnone, hread⟩ := hT.readPtr_object hf.object
  refine ⟨_, .append (.append (.append (.append (.append (.append (.append (.append
    (.ofSet_cons (by decide) (by rfl) (readUint32_writeUint32 f.version) <|
      .ofSet_cons (by decide) (by rfl) (readString_writeString hf.parentPath) <|
      .ofSet_cons (by decide) (by rfl) (hT.recordType.read_write_id hf.type) <|
      .ofSet_cons (by decide) (by rfl) (hT.fileInfo.read_write_id hf.fileInfo) (.nil _))
    (.omitEmpty (by decide) (by rfl) (fun _ => readString_writeString hf.symlinkTarget)
      fun h => by simp [FileEntry.zero, List.isEmpty_iff.1 h]))
    (.omitEmpty (by decide) (by rfl) hread fun h => by simp [FileEntry.zero, hnone h]))
    (.omitEmpty (by decide) (by rfl) (readSlice_dropEmpty hf.alternateDataStreams.1
      fun x hx => hT.alternateDataStream.read_write_id (hf.alternateDataStreams.2 x hx))
      fun h => by simp [FileEntry.zero, dropEmpty_of_empty h]))
    (.omitEmpty (by decide) (by rfl) (readByteSlice_dropEmpty hf.securityDescriptor)
      fun h => by simp [FileEntry.zero, dropEmpty_of_empty h]))
    (.omitEmpty (by decide) (by rfl) (fun _ => readUint32_writeUint32 f.fileAttributes)
      fun h => by simp [FileEntry.zero, beq_iff_eq.1 h]))
    (.omitEmpty (by decide) (by rfl) (readSlice_dropEmpty hf.extendedAttributes.1
      fun x hx => hT.extendedAttribute.read_write_id (hf.extendedAttributes.2 x hx))
      fun h => by simp [FileEntry.zero, dropEmpty_of_empty h]))
    (.omitEmpty (by decide) (by rfl) (readSlice_dropEmpty hf.customMetadata.1
      fun x hx => hT.customMetadata.read_write_id (hf.customMetadata.2 x hx))
      fun h => by simp [FileEntry.zero, dropEmpty_of_empty h]))
    (.omitEmpty (by decide) (by rfl) (readSlice_dropEmpty hf.tags.1
      fun t ht => readString_writeString (hf.tags.2 t ht))
      fun h => by simp [FileEntry.zero, dropEmpty_of_empty h]), ?_⟩
  simp [FileEntry.normalize, ho, orEmpty_dropEmpty]

/-- **Round trip.**  An entry that fits is read back as its normalization. -/
theorem fileEntryFromBytes_serialize_of_fits (hT : T.ReadsBack) {f : FileEntry T}
    (hf : f.Fits) : fileEntryFromBytes T f.serialize = .ok f.normalize := by
  obtain ⟨y, hy, hn⟩ := readsFields_encodedFields hT hf
  have h := @readStruct_writeStruct _ _ f.serialize.length (FileEntry.zero T) _ _ _ hy
    (lt_of_le_of_lt f.length_encodedFields (by decide)) []
  rw [List.append_nil] at h
  exact (congrArg (Except.map _) h).trans (congrArg Except.ok hn)

/-! ## What is read -/

theorem SliceFits.orEmpty {β : Type} {fits : β → Prop} {s : Option (List β)}
    (h : SliceFits fits s) : SliceFits fits (orEmpty s) := by
  unfold SliceFits
  rwa [getD_orEmpty]

theorem FileEntry.fits_zero (hT : T.ReadsBack) : (FileEntry.zero T).Fits := by
  constructor <;> simp [FileEntry.zero, SliceFits, hT.zeroRecordType, hT.zeroFileInfo]

theorem FileEntry.Fits.normalize (hT : T.ReadsBack) {f : FileEntry T} (hf : f.Fits) :
    f.normalize.Fits :=
  { hf with
    object := fun o ho => by
      obtain ⟨o', ho', rfl⟩ := Option.mem_map.1 ho
      exact hT.object.fits_norm o' (hf.object o' ho')
    alternateDataStreams := hf.alternateDataStreams.orEmpty
    securityDescriptor := by simpa [FileEntry.normalize] using hf.securityDescriptor
    extendedAttributes := hf.extendedAttributes.orEmpty
    customMetadata := hf.customMetadata.orEmpty
    tags := hf.tags.orEmpty }

/-- Every field read keeps an entry fitting: it stores a value its decoder returned. -/
theorem fits_of_read (hT : T.ReadsBack) :
    ∀ g ∈ fileEntryFields T, ∀ x input y rest, FileEntry.Fits x → g.read x input = .ok (y, rest) →
      y.Fits := by
  intro g hg x input y rest hx h
  simp only [fileEntryFields, List.mem_cons, List.mem_singleton, List.not_mem_nil, or_false] at hg
  rcases hg with rfl | rfl | rfl | rfl | rfl | rfl | rfl | rfl | rfl | rfl | rfl | rfl <;>
    obtain ⟨v, hv, rfl⟩ := StructField.ofSet_read h
  · exact { hx with }
  · exact { hx with parentPath := readString_length_lt hv }
  · exact { hx with type := hT.recordType.fits_read _ _ _ hv }
  · exact { hx with fileInfo := hT.fileInfo.fits_read _ _ _ hv }
  · exact { hx with symlinkTarget := readString_length_lt hv }
  · exact { hx with object := readPtr_spec hT.object.fits_read hv }
  · exact { hx with alternateDataStreams := readSlice_spec hT.alternateDataStream.fits_read hv }
  · exact { hx with securityDescriptor := readByteSlice_length_lt hv }
  · exact { hx with }
  · exact { hx with extendedAttributes := readSlice_spec hT.extendedAttribute.fits_read hv }
  · exact { hx with customMetadata := readSlice_spec hT.customMetadata.fits_read hv }
  · exact { hx with tags := readSlice_spec (fun _ _ _ => readString_length_lt) hv }

/-- An entry `FileEntryFromBytes` returns fits, and is its own normalization. -/
theorem fits_of_fileEntryFromBytes (hT : T.ReadsBack) {b : List UInt8} {e : FileEntry T}
    (h : fileEntryFromBytes T b = .ok e) : e.Fits ∧ e.normalize = e := by
  obtain ⟨⟨e₀, r⟩, h₀, rfl⟩ := Except.map_eq_ok h
  have hz := FileEntry.fits_zero hT
  exact ⟨(readStruct_invariant FileEntry.Fits (fits_of_read hT) hz hz h₀).normalize hT,
    e₀.normalize_normalize⟩

/-- Whatever the codecs, an entry `FileEntryFromBytes` returns has fewer than `2 ^ 32` tags. -/
theorem length_tags_lt_of_fileEntryFromBytes {b : List UInt8} {e : FileEntry T}
    (h : fileEntryFromBytes T b = .ok e) : (e.tags.getD []).length < 2 ^ 32 := by
  obtain ⟨⟨e₀, r⟩, h₀, rfl⟩ := Except.map_eq_ok h
  have hP : ∀ g ∈ fileEntryFields T, ∀ x input y rest, (x.tags.getD []).length < 2 ^ 32 →
      g.read x input = .ok (y, rest) → (y.tags.getD []).length < 2 ^ 32 := by
    intro g hg x input y rest hx h
    simp only [fileEntryFields, List.mem_cons, List.mem_singleton, List.not_mem_nil, or_false] at hg
    rcases hg with rfl | rfl | rfl | rfl | rfl | rfl | rfl | rfl | rfl | rfl | rfl | rfl <;>
      obtain ⟨v, hv, rfl⟩ := StructField.ofSet_read h <;>
      first | exact hx | exact (readSlice_spec (fun _ _ _ _ => trivial) hv).1
  have hz : ((FileEntry.zero T).tags.getD []).length < 2 ^ 32 := by simp [FileEntry.zero]
  simpa [FileEntry.normalize] using readStruct_invariant _ hP hz hz h₀

/-- **File entries round-trip.**  When the codecs of the types not under src read back what
they write: an entry whose strings and slices are shorter than `2 ^ 32` is read back from its
bytes as itself with every nil slice made empty, and an entry `FileEntryFromBytes` returns is
read back from its bytes as itself. -/
theorem fileEntryFromBytes_serialize (hT : T.ReadsBack) :
    (∀ f : FileEntry T, f.Fits → fileEntryFromBytes T f.serialize = .ok f.normalize) ∧
      ∀ b (e : FileEntry T), fileEntryFromBytes T b = .ok e →
        fileEntryFromBytes T e.serialize = .ok e :=
  ⟨fun _ hf => fileEntryFromBytes_serialize_of_fits hT hf, fun _ _ h =>
    let ⟨hf, hn⟩ := fits_of_fileEntryFromBytes hT h
    (fileEntryFromBytes_serialize_of_fits hT hf).trans (congrArg _ hn)⟩

/-! ## Concrete inputs

The types not under src, each a `uint32` written at full width. -/

/-- `uint32` values. -/
def uint32Codec : Codec UInt32 := ⟨writeUint32, readUint32, fun _ => True⟩

/-- Objects of `uint32` fields and metadata: the fields, the custom metadata and the tags in a
row. -/
def objectCodec : Codec (Object UInt32 UInt32) where
  write o := writeUint32 o.fields ++ writeSlice writeUint32 o.customMetadata ++
    writeSlice writeString o.tags
  read input := do
    let (fields, rest) ← readUint32 input
    let (customMetadata, rest) ← readSlice readUint32 rest
    let (tags, rest) ← readSlice readString rest
    pure (⟨fields, customMetadata, tags⟩, rest)
  Fits o := SliceFits (fun _ => True) o.customMetadata ∧
    SliceFits (fun t => t.length < 2 ^ 32) o.tags

/-- Every type not under src a `uint32`. -/
def uint32s : Foreign :=
  ⟨UInt32, UInt32, UInt32, UInt32, UInt32, UInt32, UInt32, 0, 0, uint32Codec, uint32Codec,
    objectCodec, uint32Codec, uint32Codec, uint32Codec⟩

theorem uint32Codec_readsBack : uint32Codec.ReadsBack id :=
  ⟨fun x _ => ⟨x, rfl, readUint32_writeUint32 x⟩, fun _ _ _ _ => trivial, fun _ h => h⟩

theorem objectCodec_readsBack : objectCodec.ReadsBack Object.normalize where
  read_write o ho := ⟨o, rfl, fun rest => by
    simp only [objectCodec, List.append_assoc, readUint32_writeUint32, Except.ok_bind,
      readSlice_writeSlice ho.1.1 fun x _ => readUint32_writeUint32 x,
      readSlice_writeSlice ho.2.1 fun t ht => readString_writeString (ho.2.2 t ht)]
    rfl⟩
  fits_read input o rest h := by
    obtain ⟨⟨_, r⟩, -, h⟩ := Except.bind_eq_ok h
    obtain ⟨⟨_, r'⟩, hcm, h⟩ := Except.bind_eq_ok h
    obtain ⟨⟨_, r''⟩, htags, h⟩ := Except.bind_eq_ok h
    simp only [pure, Except.pure, Except.ok.injEq, Prod.mk.injEq] at h
    obtain ⟨rfl, rfl⟩ := h
    exact ⟨readSlice_spec (fun _ _ _ _ => trivial) hcm,
      readSlice_spec (fun _ _ _ => readString_length_lt) htags⟩
  fits_norm _ ho := ⟨ho.1.orEmpty, ho.2.orEmpty⟩

theorem uint32s_readsBack : uint32s.ReadsBack where
  recordType := uint32Codec_readsBack
  fileInfo := uint32Codec_readsBack
  object := objectCodec_readsBack
  alternateDataStream := uint32Codec_readsBack
  extendedAttribute := uint32Codec_readsBack
  customMetadata := uint32Codec_readsBack
  zeroRecordType := trivial
  zeroFileInfo := trivial
  object_not_nil o rest := by simp [uint32s, objectCodec, writeUint32]

theorem uint32s_roundTrip :
    uint32s.ReadsBack ∧
      ((∀ f : FileEntry uint32s, f.Fits →
          fileEntryFromBytes uint32s f.serialize = .ok f.normalize) ∧
        ∀ b (e : FileEntry uint32s), fileEntryFromBytes uint32s b = .ok e →
          fileEntryFromBytes uint32s e.serialize = .ok e) :=
  ⟨uint32s_readsBack, fileEntryFromBytes_serialize uint32s_readsBack⟩

/-- An entry of `2 ^ 32` tags is not read back. -/
theorem fileEntryFromBytes_ne_of_length_tags {f : FileEntry T} {l : List (List UInt8)}
    (ht : f.tags = some l) (hl : l.length = 2 ^ 32) :
    fileEntryFromBytes T f.serialize ≠ .ok f.normalize := fun h => by
  have := length_tags_lt_of_fileEntryFromBytes h
  simp only [FileEntry.normalize, ht, orEmpty, Option.getD_some, hl] at this
  exact Nat.lt_irrefl _ this

/-- A file entry of `2 ^ 32` empty tags, its other fields zero. -/
def manyTags : FileEntry uint32s :=
  (FileEntry.zero uint32s).setTags (some (List.replicate (2 ^ 32) []))

/-- **`2 ^ 32` tags do not come back.**  `EncodeArrayLen` writes the count as `uint32(len)`,
and no entry read has that many tags. -/
theorem fileEntryFromBytes_loses_tags :
    fileEntryFromBytes uint32s manyTags.serialize ≠ .ok manyTags.normalize :=
  fileEntryFromBytes_ne_of_length_tags rfl (List.length_replicate _ _)

end Vfs

end Plakar
