import Plakar.State.Basic

/-!
# Packfiles while they are built

The `packfile` package is not under src; `Snapshot.New` and `Snapshot.PutPackfile` use its
`New`, `AddBlob`, `Size`, `Index` and `Serialize*`.  The builder here is the spec's (§4.2): a
data area and an index, `AddBlob` appending to both.  `Size` and the serializers are left as
parameters of the packer (`Plakar.Snapshot.Repo`).
-/

namespace Plakar

/-- `packfile.TYPE_*`, the blob types the packer workers accept. -/
inductive BlobType
  | snapshot
  | chunk
  | object
  | file
  | directory
  | data
  deriving DecidableEq, Repr

/-- Modelled from the spec: `packfile.Blob`, an index entry
`(type, mac, offset_from_data_start, length)`. -/
structure Blob where
  type : BlobType
  checksum : Checksum
  offset : UInt32
  length : UInt32
  deriving DecidableEq

/-- Modelled from the spec: `packfile.PackFile` while it is built, a data area and an index. -/
structure PackFile where
  data : List UInt8
  index : List Blob

namespace PackFile

/-- Modelled from the spec: `packfile.New()`. -/
def new : PackFile := ⟨[], []⟩

/-- Modelled from the spec: `AddBlob` appends to the data area and records an index entry at
the data area's end. -/
def addBlob (pack : PackFile) (type : BlobType) (checksum : Checksum) (data : List UInt8) :
    PackFile :=
  ⟨pack.data ++ data,
    pack.index ++ [⟨type, checksum, UInt32.ofNat pack.data.length, UInt32.ofNat data.length⟩]⟩

@[simp] theorem index_addBlob (pack : PackFile) (t : BlobType) (c : Checksum) (d : List UInt8) :
    (pack.addBlob t c d).index =
      pack.index ++ [⟨t, c, UInt32.ofNat pack.data.length, UInt32.ofNat d.length⟩] := rfl

@[simp] theorem data_addBlob (pack : PackFile) (t : BlobType) (c : Checksum) (d : List UInt8) :
    (pack.addBlob t c d).data = pack.data ++ d := rfl

/-- The first index entry of checksum `c`: the `for idx, chunk := range pack.Index` search of
`PutPackfile`, which stops at the first match whatever its type. -/
def find (pack : PackFile) (c : Checksum) : Option Blob := pack.index.find? (·.checksum == c)

end PackFile

end Plakar
