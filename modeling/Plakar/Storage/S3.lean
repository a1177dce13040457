import Plakar.State.Basic

/-!
# Object keys of the S3 backend

The S3 `Repository` (src/cmd/plakar/subcommands/check/check_test.go) stores each state,
packfile and lock as one object of a bucket, under a key made by `fmt.Sprintf`:

    states/%02x/%016x       mac[0], mac
    packfiles/%02x/%016x    mac[0], mac
    locks/%016x             mac

and lists a namespace by hex-decoding each listed key from a fixed offset (10, 13, 6).  A key
is a Go string, so a list of bytes here.  `%016x` of a `[32]byte` writes 64 hex digits, more
than the width, so it is never padded; the offsets skip exactly the prefix.  Hence, for every
bucket holding objects the backend wrote (`listMACs_keys`):

    getStates (objs.map Obj.key) = .ok (objs.filterMap Obj.stateMAC)

and likewise for packfiles and locks; distinct MACs get distinct keys in each namespace.
`Plakar.Storage.S3Store` follows the bucket along the backend's calls.
-/

namespace Plakar

namespace S3

/-- A Go string literal of ASCII characters, as its bytes. -/
def ascii (s : String) : List UInt8 := s.toList.map fun c => UInt8.ofNat c.toNat

/-! ## Formatting and decoding hex -/

/-- The lower-case hex digit of `d < 16`, as `fmt` and `encoding/hex` write it. -/
def hexDigit (d : Nat) : UInt8 := if d < 10 then UInt8.ofNat (48 + d) else UInt8.ofNat (87 + d)

/-- `%02x` of a byte. -/
def hexByte (b : UInt8) : List UInt8 := [hexDigit (b.toNat / 16), hexDigit (b.toNat % 16)]

/-- `%x` of a byte array: two digits a byte. -/
def hexBytes (bs : List UInt8) : List UInt8 := bs.flatMap hexByte

/-- `%016x` of a byte array: its digits, padded on the left to 16. -/
def hex016 (bs : List UInt8) : List UInt8 :=
  List.replicate (16 - (hexBytes bs).length) 48 ++ hexBytes bs

/-- `reverseHexTable` of `encoding/hex`: the value of a hex digit of either case. -/
def fromHexChar (c : UInt8) : Option Nat :=
  if 48 ≤ c.toNat ∧ c.toNat ≤ 57 then some (c.toNat - 48)
  else if 97 ≤ c.toNat ∧ c.toNat ≤ 102 then some (c.toNat - 87)
  else if 65 ≤ c.toNat ∧ c.toNat ≤ 70 then some (c.toNat - 55)
  else none

/-- The errors of `hex.DecodeString`. -/
inductive HexError
  | invalidByte (b : UInt8)
  | oddLength
  deriving DecidableEq

/-- `hex.DecodeString`: two digits a byte, `(a << 4) | b`; a bad digit first, then an odd
length, is an error. -/
def decodeString : List UInt8 → Except HexError (List UInt8)
  | [] => .ok []
  | [p] => match fromHexChar p with
    | none => .error (.invalidByte p)
    | some _ => .error .oddLength
  | p :: q :: rest => match fromHexChar p, fromHexChar q with
    | none, _ => .error (.invalidByte p)
    | some _, none => .error (.invalidByte q)
    | some a, some b => (decodeString rest).map (UInt8.ofNat (16 * a + b) :: ·)

/-! ## The backend -/

/-- `fmt.Sprintf("states/%02x/%016x", mac[0], mac)`, the key of `PutState`, `GetState` and
`DeleteState`. -/
def stateKey (mac : Checksum) : List UInt8 :=
  ascii "states/" ++ hexByte (mac.bytes.headD 0) ++ ascii "/" ++ hex016 mac.bytes

/-- `fmt.Sprintf("packfiles/%02x/%016x", mac[0], mac)`, the key of `PutPackfile`,
`GetPackfile`, `GetPackfileBlob` and `DeletePackfile`. -/
def packfileKey (mac : Checksum) : List UInt8 :=
  ascii "packfiles/" ++ hexByte (mac.bytes.headD 0) ++ ascii "/" ++ hex016 mac.bytes

/-- `fmt.Sprintf("locks/%016x", lockID)`, the key of `PutLock`, `GetLock` and `DeleteLock`. -/
def lockKey (mac : Checksum) : List UInt8 := ascii "locks/" ++ hex016 mac.bytes

/-- `ListObjects` with `Prefix: pre, Recursive: true`: the keys under `pre`, in the bucket's
order. -/
def listObjects (pre : List UInt8) (bucket : List (List UInt8)) : List (List UInt8) :=
  bucket.filter pre.isPrefixOf

/-- The loop of `GetStates`, `GetPackfiles` and `GetLocks` over the listed keys: a key that
starts with `pre` and is at least `offset` long is hex-decoded from `offset`; a decoding error
is returned, a result of other than 32 bytes skipped. -/
def listMACs (pre : List UInt8) (offset : Nat) : List (List UInt8) → Except HexError (List Checksum)
  | [] => .ok []
  | key :: keys =>
    if pre.isPrefixOf key ∧ offset ≤ key.length then
      match decodeString (key.drop offset) with
      | .error e => .error e
      | .ok t =>
        if h : t.length = 32 then (listMACs pre offset keys).map (⟨t, h⟩ :: ·)
        else listMACs pre offset keys
    else listMACs pre offset keys

def getStates (bucket : List (List UInt8)) : Except HexError (List Checksum) :=
  listMACs (ascii "states/") 10 (listObjects (ascii "states/") bucket)

def getPackfiles (bucket : List (List UInt8)) : Except HexError (List Checksum) :=
  listMACs (ascii "packfiles/") 13 (listObjects (ascii "packfiles/") bucket)

def getLocks (bucket : List (List UInt8)) : Except HexError (List Checksum) :=
  listMACs (ascii "locks/") 6 (listObjects (ascii "locks/") bucket)

/-- An object the backend writes: `CONFIG` (by `Create`), or a state, a packfile or a lock. -/
inductive Obj
  | config
  | state (mac : Checksum)
  | packfile (mac : Checksum)
  | lock (mac : Checksum)
  deriving DecidableEq

def Obj.key : Obj → List UInt8
  | .config => ascii "CONFIG"
  | .state mac => stateKey mac
  | .packfile mac => packfileKey mac
  | .lock mac => lockKey mac

def Obj.stateMAC : Obj → Option Checksum
  | .state mac => some mac
  | _ => none

def Obj.packfileMAC : Obj → Option Checksum
  | .packfile mac => some mac
  | _ => none

def Obj.lockMAC : Obj → Option Checksum
  | .lock mac => some mac
  | _ => none

/-! ## Hex round trip -/

theorem fromHexChar_hexDigit : ∀ d < 16, fromHexChar (hexDigit d) = some d := by
  decide

theorem ofNat_toNat_uint8 (b : UInt8) : UInt8.ofNat b.toNat = b :=
  UInt8.toNat.inj (UInt8.toNat_ofNat_of_lt b.toNat_lt_size)

theorem decodeString_hexByte (b : UInt8) (rest : List UInt8) :
    decodeString (hexByte b ++ rest) = (decodeString rest).map (b :: ·) := by
  have hb := b.toNat_lt_size
  have hdiv : b.toNat / 16 < 16 := by simp only [UInt8.size] at hb; omega
  simp only [hexByte, List.cons_append, List.nil_append, decodeString,
    fromHexChar_hexDigit _ hdiv, fromHexChar_hexDigit _ (Nat.mod_lt _ (by decide))]
  rw [Nat.div_add_mod, ofNat_toNat_uint8]
  rfl

theorem decodeString_hexBytes (bs : List UInt8) : decodeString (hexBytes bs) = .ok bs := by
  induction bs with
  | nil => rfl
  | cons b bs ih =>
    show decodeString (hexByte b ++ hexBytes bs) = _
    rw [decodeString_hexByte, ih]
    rfl

theorem length_hexBytes (bs : List UInt8) : (hexBytes bs).length = 2 * bs.length := by
  induction bs with
  | nil => rfl
  | cons b bs ih =>
    show (hexByte b ++ hexBytes bs).length = _
    rw [List.length_append, ih, List.length_cons]
    show 2 + 2 * bs.length = _
    omega

/-- A MAC's 64 digits are not padded. -/
theorem hex016_mac (mac : Checksum) : hex016 mac.bytes = hexBytes mac.bytes := by
  rw [hex016, length_hexBytes, mac.length_bytes]
  rfl

/-! ## Listings -/

/-- A key made of a prefix of `offset` bytes that starts with `pre`, then a MAC's digits,
lists as that MAC. -/
theorem listMACs_cons_mac {pre head : List UInt8} {offset : Nat} (mac : Checksum)
    (hpre : pre.isPrefixOf (head ++ hex016 mac.bytes) = true) (hlen : head.length = offset)
    (keys : List (List UInt8)) :
    listMACs pre offset ((head ++ hex016 mac.bytes) :: keys) =
      (listMACs pre offset keys).map (mac :: ·) := by
  have hdrop : (head ++ hex016 mac.bytes).drop offset = hexBytes mac.bytes := by
    rw [← hlen, List.drop_left, hex016_mac]
  rw [listMACs, if_pos ⟨hpre, by simp [hlen]⟩, hdrop, decodeString_hexBytes]
  simp only [mac.length_bytes, dite_true]

theorem isPrefixOf_append (l₁ l₂ : List UInt8) : l₁.isPrefixOf (l₁ ++ l₂) = true :=
  List.isPrefixOf_iff_prefix.2 (List.prefix_append _ _)

/-- **A namespace lists its objects.**  If the selected objects' keys are a head of `offset`
bytes starting with `pre` followed by the MAC's `%016x`, and every other object's key does not
start with `pre`, the listing of a bucket is the selected objects' MACs, in order. -/
theorem listMACs_keys {pre : List UInt8} {offset : Nat} {sel : Obj → Option Checksum}
    {head : Checksum → List UInt8}
    (hsel : ∀ o mac, sel o = some mac → o.key = head mac ++ hex016 mac.bytes)
    (hhead : ∀ mac, pre.isPrefixOf (head mac) = true ∧ (head mac).length = offset)
    (hskip : ∀ o, sel o = none → pre.isPrefixOf o.key = false) (objs : List Obj) :
    listMACs pre offset (listObjects pre (objs.map Obj.key)) = .ok (objs.filterMap sel) := by
  induction objs with
  | nil => rfl
  | cons o objs ih =>
    cases hs : sel o with
    | none =>
      rw [List.map_cons, listObjects, List.filter_cons_of_neg (by simp [hskip o hs]),
        List.filterMap_cons_none hs]
      exact ih
    | some mac =>
      have hpre : pre.isPrefixOf (head mac ++ hex016 mac.bytes) = true :=
        List.isPrefixOf_iff_prefix.2
          ((List.isPrefixOf_iff_prefix.1 (hhead mac).1).trans (List.prefix_append _ _))
      rw [List.map_cons, listObjects, List.filter_cons_of_pos (by rw [hsel o mac hs]; exact hpre),
        hsel o mac hs, List.filterMap_cons_some hs, listMACs_cons_mac mac hpre (hhead mac).2]
      exact congrArg _ ih

theorem isPrefixOf_states (x : UInt8) :
    (ascii "states/").isPrefixOf (ascii "states/" ++ hexByte x ++ ascii "/") = true ∧
      (ascii "states/" ++ hexByte x ++ ascii "/").length = 10 :=
  ⟨by rw [List.append_assoc]; exact isPrefixOf_append _ _, rfl⟩

theorem isPrefixOf_packfiles (x : UInt8) :
    (ascii "packfiles/").isPrefixOf (ascii "packfiles/" ++ hexByte x ++ ascii "/") = true ∧
      (ascii "packfiles/" ++ hexByte x ++ ascii "/").length = 13 :=
  ⟨by rw [List.append_assoc]; exact isPrefixOf_append _ _, rfl⟩

/-- A key function is injective when listing its key of a MAC gives back that MAC. -/
theorem injective_of_listing {key : Checksum → List UInt8}
    {list : List (List UInt8) → Except HexError (List Checksum)}
    (h : ∀ mac, list [key mac] = .ok [mac]) : Function.Injective key := fun m m' he => by
  have := (h m).symm.trans (show list [key m] = .ok [m'] by rw [he]; exact h m')
  simpa using this

theorem getStates_keys (objs : List Obj) :
    getStates (objs.map Obj.key) = .ok (objs.filterMap Obj.stateMAC) :=
  @listMACs_keys _ _ _
    (fun mac => ascii "states/" ++ hexByte (mac.bytes.headD 0) ++ ascii "/")
    (fun o mac h => by cases o <;> cases h; rfl) (fun mac => isPrefixOf_states _)
    (fun o h => by cases o <;> first | rfl | cases h) objs

theorem getPackfiles_keys (objs : List Obj) :
    getPackfiles (objs.map Obj.key) = .ok (objs.filterMap Obj.packfileMAC) :=
  @listMACs_keys _ _ _
    (fun mac => ascii "packfiles/" ++ hexByte (mac.bytes.headD 0) ++ ascii "/")
    (fun o mac h => by cases o <;> cases h; rfl) (fun mac => isPrefixOf_packfiles _)
    (fun o h => by cases o <;> first | rfl | cases h) objs

theorem getLocks_keys (objs : List Obj) :
    getLocks (objs.map Obj.key) = .ok (objs.filterMap Obj.lockMAC) :=
  @listMACs_keys _ _ _ (fun _ => ascii "locks/")
    (fun o mac h => by cases o <;> cases h; rfl) (fun _ => ⟨isPrefixOf_append _ [], rfl⟩)
    (fun o h => by cases o <;> first | rfl | cases h) objs

/-- **S3 keys and listings are inverse.**  For every bucket holding objects the backend wrote,
`GetStates`, `GetPackfiles` and `GetLocks` list exactly the MACs of its states, packfiles and
locks, one per object, in the bucket's order; and distinct MACs get distinct keys in each
namespace. -/
theorem listings_return_stored (objs : List Obj) :
    (getStates (objs.map Obj.key) = .ok (objs.filterMap Obj.stateMAC) ∧
      getPackfiles (objs.map Obj.key) = .ok (objs.filterMap Obj.packfileMAC) ∧
      getLocks (objs.map Obj.key) = .ok (objs.filterMap Obj.lockMAC)) ∧
    Function.Injective stateKey ∧ Function.Injective packfileKey ∧ Function.Injective lockKey :=
  ⟨⟨getStates_keys objs, getPackfiles_keys objs, getLocks_keys objs⟩,
    injective_of_listing fun m => getStates_keys [.state m],
    injective_of_listing fun m => getPackfiles_keys [.packfile m],
    injective_of_listing fun m => getLocks_keys [.lock m]⟩

/-! ## Keys of distinct objects -/

/-- Objects of distinct kinds or MACs have distinct keys: the three listings tell them apart. -/
theorem Obj.key_injective : Function.Injective Obj.key := by
  intro o o' h
  have hs := (getStates_keys [o]).symm.trans
    ((congrArg (fun k => getStates [k]) h).trans (getStates_keys [o']))
  have hp := (getPackfiles_keys [o]).symm.trans
    ((congrArg (fun k => getPackfiles [k]) h).trans (getPackfiles_keys [o']))
  have hl := (getLocks_keys [o]).symm.trans
    ((congrArg (fun k => getLocks [k]) h).trans (getLocks_keys [o']))
  cases o <;> cases o' <;>
    simp_all [Obj.stateMAC, Obj.packfileMAC, Obj.lockMAC]

end S3

end Plakar
