import Plakar.State.Basic

/-!
# The plakard request loop

`handleConnection` decodes `network.Request`s from a connection until decoding fails.  For a
request of one of the twelve handled types it starts a goroutine that calls the repository through
`lrepository` and encodes one response carrying the request's `Uuid`; it waits for all of them
before it returns.  `lrepository` starts as `repo`, the server's repository, which is nil in Stdio
mode, and `ReqCreate` and `ReqOpen` set it.  A goroutine that dereferences nil panics, and the
process exits.

A connection is a `Conn` that decodes and runs goroutines in any order (`Conn.step`).  Along every
run, in either mode and whatever the backend returns, each decoded request is answered at most
once, by a response with its `Uuid` and the matching `Res` type
(`exec_answers_each_request_once`):

    (c.answered.map Prod.fst ++ c.pending).Perm c.decoded

so that a run that ends with nothing pending and no panic has answered each handled request of
its input exactly once.  Two handlers panic where their siblings do not
(`handleConnection_exits_unanswered`).  `ReqGetPackfile` reads the reader that `GetPackfile`
returned even when the call failed, where `ReqGetPackfileBlob` reads it only on success; and
`ReqOpen` asks `repo` for its configuration, not the repository it opened, and `repo` is nil in
Stdio mode.
-/

namespace Plakar

namespace Plakard

/-! ## Requests, responses and the backend -/

/-- What `io.ReadAll` returns on a reader: the bytes read, and the error that stopped it. -/
structure Reader where
  data : List UInt8
  err : Option String
  deriving DecidableEq

/-- The payloads of `network.Request` that `handleConnection` reads and writes. -/
inductive Payload (Config : Type)
  | reqCreate (repository : String) (configuration : Config)
  | reqOpen (repository : String)
  | reqClose
  | reqGetStates
  | reqPutState (checksum : Checksum) (data : List UInt8)
  | reqGetState (checksum : Checksum)
  | reqDeleteState (checksum : Checksum)
  | reqGetPackfiles
  | reqPutPackfile (checksum : Checksum) (data : List UInt8)
  | reqGetPackfile (checksum : Checksum)
  | reqGetPackfileBlob (checksum : Checksum) (offset length : UInt32)
  | reqDeletePackfile (checksum : Checksum)
  | resCreate (err : String)
  | resOpen (configuration : Option Config) (err : String)
  | resClose (err : String)
  | resGetStates (checksums : List Checksum) (err : String)
  | resPutState (err : String)
  | resGetState (data : List UInt8) (err : String)
  | resDeleteState (err : String)
  | resGetPackfiles (checksums : List Checksum) (err : String)
  | resPutPackfile (err : String)
  | resGetPackfile (data : List UInt8) (err : String)
  | resGetPackfileBlob (data : List UInt8) (err : String)
  | resDeletePackfile (err : String)

/-- `network.Request`. -/
structure Request (Config : Type) where
  uuid : Nat
  type : String
  payload : Payload Config

/-- The types `handleConnection` handles. -/
def requestTypes : List String :=
  ["ReqCreate", "ReqOpen", "ReqClose", "ReqGetStates", "ReqPutState", "ReqGetState",
    "ReqDeleteState", "ReqGetPackfiles", "ReqPutPackfile", "ReqGetPackfile", "ReqGetPackfileBlob",
    "ReqDeletePackfile"]

/-- The response type matching a request type: `ReqX` is answered by `ResX`. -/
def responseType (type : String) : String := "Res" ++ type.drop 3

/-- The calls of the handlers into `storage` and `repository`, whose code is not modelled: each
may return anything.  A call that fails returns Go's zero value, so a failed `GetPackfile` or
`GetPackfileBlob` returns a nil reader. -/
structure Backend (Store Repo Config : Type) where
  storageCreate : String → Config → Except String Store
  storageOpen : String → Except String Store
  /-- `repository.New(st, nil)`, with `st` nil when storage failed. -/
  repositoryNew : Option Store → Except String Repo
  configuration : Repo → Config
  close : Repo → Except String Unit
  getStates : Repo → Except String (List Checksum)
  putState : Repo → Checksum → List UInt8 → Except String Unit
  getState : Repo → Checksum → Except String (List UInt8)
  deleteState : Repo → Checksum → Except String Unit
  getPackfiles : Repo → Except String (List Checksum)
  putPackfile : Repo → Checksum → List UInt8 → Except String Unit
  getPackfile : Repo → Checksum → Except String Reader
  getPackfileBlob : Repo → Checksum → UInt32 → UInt32 → Except String Reader
  deletePackfile : Repo → Checksum → Except String Unit

/-- What `handleConnection` runs with: `repo` is nil in Stdio mode. -/
structure Env (Store Repo Config : Type) where
  backend : Backend Store Repo Config
  repo : Option Repo
  /-- `options.NoDelete`. -/
  noDelete : Bool
  /-- `os.Getenv("HOME")`. -/
  homeDir : String
  /-- `filepath.Join`. -/
  join : String → String → String

/-- What one handler goroutine does: it panics, and the process exits, or it encodes one
response after setting `lrepository`. -/
inductive Outcome (Repo Config : Type)
  | panic
  | respond (lrepository : Option Repo) (result : Request Config)

/-- `retErr`: `err.Error()` when the call failed, `""` otherwise. -/
def retErr {α : Type} : Except String α → String
  | .ok _ => ""
  | .error e => e

/-- What a call returned; the zero value when it failed. -/
def value {α : Type} [Inhabited α] : Except String α → α
  | .ok a => a
  | .error _ => default

/-! ## The handlers -/

section Handlers

variable {Store Repo Config : Type} (env : Env Store Repo Config)

/-- The handlers that call one method of `lrepository` and answer with what it returned and
`retErr`: a nil `lrepository` is dereferenced. -/
def callHandler {α : Type} [Inhabited α] (resType : String) (call : Repo → Except String α)
    (payload : α → String → Payload Config) (lrepository : Option Repo) (uuid : Nat) :
    Outcome Repo Config :=
  match lrepository with
  | none => .panic
  | some r => .respond lrepository ⟨uuid, resType, payload (value (call r)) (retErr (call r))⟩

/-- The delete handlers: refused under `NoDelete` before `lrepository` is used. -/
def deleteHandler (resType : String) (call : Repo → Except String Unit)
    (payload : String → Payload Config) (lrepository : Option Repo) (uuid : Nat) :
    Outcome Repo Config :=
  if env.noDelete then .respond lrepository ⟨uuid, resType, payload "not allowed to delete"⟩
  else callHandler resType call (fun _ => payload) lrepository uuid

/-- `case "ReqCreate"`: `lrepository` is set to the new repository, nil if creating failed. -/
def handleCreate (request : Request Config) : Outcome Repo Config :=
  match request.payload with
  | .reqCreate repository configuration =>
    let dirPath := if repository = "" then env.join env.homeDir ".plakar" else repository
    let st := env.backend.storageCreate dirPath configuration
    let lrepository := env.backend.repositoryNew st.toOption
    .respond lrepository.toOption ⟨request.uuid, "ResCreate",
      .resCreate (match lrepository with | .error e => e | .ok _ => retErr st)⟩
  | _ => .panic

/-- `case "ReqOpen"`: the configuration answered is `repo.Configuration()`. -/
def handleOpen (request : Request Config) : Outcome Repo Config :=
  match request.payload with
  | .reqOpen location =>
    let st := env.backend.storageOpen location
    let lrepository := env.backend.repositoryNew st.toOption
    let err := match lrepository with | .error e => e | .ok _ => retErr st
    match lrepository, env.repo with
    | .error _, _ => .respond lrepository.toOption ⟨request.uuid, "ResOpen", .resOpen none err⟩
    | .ok _, none => .panic
    | .ok _, some repo => .respond lrepository.toOption ⟨request.uuid, "ResOpen",
        .resOpen (some (env.backend.configuration repo)) err⟩
  | _ => .panic

/-- `case "ReqClose"`: `lrepository` is closed only in Stdio mode. -/
def handleClose (lrepository : Option Repo) (request : Request Config) : Outcome Repo Config :=
  match env.repo with
  | none => callHandler "ResClose" env.backend.close (fun _ => .resClose) lrepository request.uuid
  | some _ => .respond lrepository ⟨request.uuid, "ResClose", .resClose ""⟩

def handleGetStates (lrepository : Option Repo) (request : Request Config) :
    Outcome Repo Config :=
  callHandler "ResGetStates" env.backend.getStates .resGetStates lrepository request.uuid

def handlePutState (lrepository : Option Repo) (request : Request Config) :
    Outcome Repo Config :=
  match request.payload with
  | .reqPutState checksum data =>
    callHandler "ResPutState" (env.backend.putState · checksum data) (fun _ => .resPutState)
      lrepository request.uuid
  | _ => .panic

def handleGetState (lrepository : Option Repo) (request : Request Config) :
    Outcome Repo Config :=
  match request.payload with
  | .reqGetState checksum =>
    callHandler "ResGetState" (env.backend.getState · checksum) .resGetState lrepository
      request.uuid
  | _ => .panic

def handleDeleteState (lrepository : Option Repo) (request : Request Config) :
    Outcome Repo Config :=
  match request.payload with
  | .reqDeleteState checksum =>
    deleteHandler env "ResDeleteState" (env.backend.deleteState · checksum) .resDeleteState
      lrepository request.uuid
  | _ => .panic

def handleGetPackfiles (lrepository : Option Repo) (request : Request Config) :
    Outcome Repo Config :=
  callHandler "ResGetPackfiles" env.backend.getPackfiles .resGetPackfiles lrepository request.uuid

def handlePutPackfile (lrepository : Option Repo) (request : Request Config) :
    Outcome Repo Config :=
  match request.payload with
  | .reqPutPackfile checksum data =>
    callHandler "ResPutPackfile" (env.backend.putPackfile · checksum data)
      (fun _ => .resPutPackfile) lrepository request.uuid
  | _ => .panic

/-- `case "ReqGetPackfile"`: `io.ReadAll(rd)` runs whether `GetPackfile` failed or not. -/
def handleGetPackfile (lrepository : Option Repo) (request : Request Config) :
    Outcome Repo Config :=
  match request.payload, lrepository with
  | .reqGetPackfile checksum, some r =>
    match env.backend.getPackfile r checksum with
    | .error _ => .panic
    | .ok rd => .respond lrepository ⟨request.uuid, "ResGetPackfile",
        .resGetPackfile rd.data (rd.err.getD "")⟩
  | _, _ => .panic

/-- `case "ReqGetPackfileBlob"`: `io.ReadAll(rd)` runs only when `GetPackfileBlob` succeeded. -/
def handleGetPackfileBlob (lrepository : Option Repo) (request : Request Config) :
    Outcome Repo Config :=
  match request.payload, lrepository with
  | .reqGetPackfileBlob checksum offset length, some r =>
    match env.backend.getPackfileBlob r checksum offset length with
    | .error e => .respond lrepository ⟨request.uuid, "ResGetPackfileBlob",
        .resGetPackfileBlob [] e⟩
    | .ok rd => .respond lrepository ⟨request.uuid, "ResGetPackfileBlob",
        .resGetPackfileBlob rd.data (rd.err.getD "")⟩
  | _, _ => .panic

def handleDeletePackfile (lrepository : Option Repo) (request : Request Config) :
    Outcome Repo Config :=
  match request.payload with
  | .reqDeletePackfile checksum =>
    deleteHandler env "ResDeletePackfile" (env.backend.deletePackfile · checksum)
      .resDeletePackfile lrepository request.uuid
  | _ => .panic

/-- `switch request.Type`: `none` for a type that is only printed. -/
def handle (lrepository : Option Repo) (request : Request Config) :
    Option (Outcome Repo Config) :=
  match request.type with
  | "ReqCreate" => some (handleCreate env request)
  | "ReqOpen" => some (handleOpen env request)
  | "ReqClose" => some (handleClose env lrepository request)
  | "ReqGetStates" => some (handleGetStates env lrepository request)
  | "ReqPutState" => some (handlePutState env lrepository request)
  | "ReqGetState" => some (handleGetState env lrepository request)
  | "ReqDeleteState" => some (handleDeleteState env lrepository request)
  | "ReqGetPackfiles" => some (handleGetPackfiles env lrepository request)
  | "ReqPutPackfile" => some (handlePutPackfile env lrepository request)
  | "ReqGetPackfile" => some (handleGetPackfile env lrepository request)
  | "ReqGetPackfileBlob" => some (handleGetPackfileBlob env lrepository request)
  | "ReqDeletePackfile" => some (handleDeletePackfile env lrepository request)
  | _ => none

end Handlers

/-! ## What the handlers answer -/

section Answers

variable {Store Repo Config : Type} (env : Env Store Repo Config)

/-- The shared handler answers with the `Uuid` and the type it is given. -/
theorem callHandler_respond {α : Type} [Inhabited α] {resType : String}
    {call : Repo → Except String α} {payload : α → String → Payload Config}
    {lrepository l : Option Repo} {uuid : Nat} {result : Request Config}
    (h : callHandler resType call payload lrepository uuid = .respond l result) :
    result.uuid = uuid ∧ result.type = resType := by
  cases lrepository <;> cases h
  exact ⟨rfl, rfl⟩

theorem deleteHandler_respond {resType : String} {call : Repo → Except String Unit}
    {payload : String → Payload Config} {lrepository l : Option Repo} {uuid : Nat}
    {result : Request Config}
    (h : deleteHandler env resType call payload lrepository uuid = .respond l result) :
    result.uuid = uuid ∧ result.type = resType := by
  unfold deleteHandler at h
  split at h
  · cases h
    exact ⟨rfl, rfl⟩
  · exact callHandler_respond h

/-- Every response carries its request's `Uuid` and the matching response type. -/
theorem handle_respond {lrepository l : Option Repo} {request result : Request Config}
    (h : handle env lrepository request = some (.respond l result)) :
    result.uuid = request.uuid ∧ result.type = responseType request.type := by
  unfold handle at h
  split at h <;> simp only [Option.some.injEq, reduceCtorEq] at h
  all_goals
    rename_i hty
    rw [hty]
    simp only [handleCreate, handleOpen, handleClose, handleGetStates, handlePutState,
      handleGetState, handleDeleteState, handleGetPackfiles, handlePutPackfile, handleGetPackfile,
      handleGetPackfileBlob, handleDeletePackfile] at h
    repeat' split at h
    all_goals first
      | cases h; done
      | cases h; exact ⟨rfl, rfl⟩
      | exact ⟨(callHandler_respond h).1, (callHandler_respond h).2.trans rfl⟩
      | exact ⟨(deleteHandler_respond env h).1, (deleteHandler_respond env h).2.trans rfl⟩

/-- The type alone decides whether a request is handled. -/
theorem isSome_handle (lrepository : Option Repo) (request : Request Config) :
    (handle env lrepository request).isSome = decide (request.type ∈ requestTypes) := by
  unfold handle
  split <;> simp_all [requestTypes]

end Answers

/-! ## The connection -/

/-- A connection being served: the requests not yet decoded, `lrepository`, the goroutines
started and not yet run, whether one panicked, and the log of the handled requests decoded and of
each response encoded with the request it answers. -/
structure Conn (Repo Config : Type) where
  input : List (Request Config)
  lrepository : Option Repo
  pending : List (Request Config)
  crashed : Bool
  decoded : List (Request Config)
  answered : List (Request Config × Request Config)

/-- One step of the connection: the loop decodes a request, or a pending goroutine runs. -/
inductive Action
  | decode
  | run (i : Nat)

section Conn

variable {Store Repo Config : Type} (env : Env Store Repo Config)

def Conn.init (input : List (Request Config)) : Conn Repo Config :=
  ⟨input, env.repo, [], false, [], []⟩

/-- Nothing happens after a panic; decoding stops at the end of the input. -/
def Conn.step (c : Conn Repo Config) : Action → Option (Conn Repo Config)
  | .decode =>
    if c.crashed then none
    else match c.input with
      | [] => none
      | request :: input =>
        match handle env c.lrepository request with
        | none => some { c with input := input }
        | some _ => some { c with
            input := input
            pending := c.pending ++ [request]
            decoded := c.decoded ++ [request] }
  | .run i =>
    if c.crashed then none
    else match c.pending[i]? with
      | none => none
      | some request =>
        match handle env c.lrepository request with
        | none => none
        | some .panic => some { c with crashed := true }
        | some (.respond lrepository result) =>
          some { c with
            lrepository := lrepository
            pending := c.pending.eraseIdx i
            answered := c.answered ++ [(request, result)] }

def Conn.exec (c : Conn Repo Config) : List Action → Option (Conn Repo Config)
  | [] => some c
  | a :: acts => (c.step env a).bind fun c => c.exec acts

theorem Conn.step_of_crashed {c : Conn Repo Config} (hc : c.crashed = true) (a : Action) :
    c.step env a = none := by
  cases a <;> simp [Conn.step, hc]

/-- After a panic the connection is gone: no run from it changes anything. -/
theorem Conn.exec_of_crashed {c c' : Conn Repo Config} (hc : c.crashed = true)
    {acts : List Action} (h : c.exec env acts = some c') : c' = c := by
  cases acts with
  | nil => exact (Option.some.inj h).symm
  | cons a acts => simp [Conn.exec, Conn.step_of_crashed env hc] at h

end Conn

/-- A repository holding no packfile: storing and listing succeed, and reading a packfile, a blob
or a state fails as a missing file does. -/
def noPackfiles (repo : Option Unit) : Env Unit Unit Unit where
  backend :=
    { storageCreate := fun _ _ => .ok ()
      storageOpen := fun _ => .ok ()
      repositoryNew := fun _ => .ok ()
      configuration := fun _ => ()
      close := fun _ => .ok ()
      getStates := fun _ => .ok []
      putState := fun _ _ _ => .ok ()
      getState := fun _ _ => .error "no such file or directory"
      deleteState := fun _ _ => .ok ()
      getPackfiles := fun _ => .ok []
      putPackfile := fun _ _ _ => .ok ()
      getPackfile := fun _ _ => .error "no such file or directory"
      getPackfileBlob := fun _ _ _ _ => .error "no such file or directory"
      deletePackfile := fun _ _ => .ok () }
  repo := repo
  noDelete := false
  homeDir := "/root"
  join := fun dir file => dir ++ "/" ++ file

/-! ## Each request is answered at most once -/

section Invariant

variable {Store Repo Config : Type} (env : Env Store Repo Config)

/-- What holds along a connection fed `input₀`: the decoded requests are the handled ones of the
input read so far, each one answered or pending, and each response matches its request. -/
structure ConnInv (input₀ : List (Request Config)) (c : Conn Repo Config) : Prop where
  read : ∃ consumed, input₀ = consumed ++ c.input ∧
    c.decoded = consumed.filter fun request => request.type ∈ requestTypes
  conserved : (c.answered.map Prod.fst ++ c.pending).Perm c.decoded
  answers : ∀ p ∈ c.answered, p.2.uuid = p.1.uuid ∧ p.2.type = responseType p.1.type

theorem ConnInv.init (input₀ : List (Request Config)) :
    ConnInv input₀ (Conn.init env input₀ : Conn Repo Config) :=
  ⟨⟨[], rfl, rfl⟩, by simp [Conn.init], by simp [Conn.init]⟩

theorem ConnInv.step {input₀ : List (Request Config)} {c c' : Conn Repo Config} {a : Action}
    (hi : ConnInv input₀ c) (h : c.step env a = some c') : ConnInv input₀ c' := by
  obtain ⟨⟨consumed, hin, hdec⟩, hperm, hans⟩ := hi
  cases a with
  | decode =>
    simp only [Conn.step] at h
    split at h
    · cases h
    split at h
    · cases h
    rename_i request input hinput
    have hread : input₀ = (consumed ++ [request]) ++ input := by simp [hin, hinput]
    cases hh : handle env c.lrepository request with
    | none =>
      rw [hh] at h
      cases h
      have hty : request.type ∉ requestTypes := by
        simpa [hh] using isSome_handle env c.lrepository request
      exact ⟨⟨_, hread, by simp [hdec, hty]⟩, hperm, hans⟩
    | some o =>
      rw [hh] at h
      cases h
      have hty : request.type ∈ requestTypes := by
        simpa [hh] using isSome_handle env c.lrepository request
      refine ⟨⟨_, hread, by simp [hdec, hty]⟩, ?_, hans⟩
      simpa only [List.append_assoc] using hperm.append_right [request]
  | run i =>
    simp only [Conn.step] at h
    split at h
    · cases h
    split at h
    · cases h
    rename_i request hreq
    split at h
    · cases h
    · cases h
      exact ⟨⟨consumed, hin, hdec⟩, hperm, hans⟩
    · rename_i lrepository result hres
      cases h
      refine ⟨⟨consumed, hin, hdec⟩, ?_, ?_⟩
      · refine List.Perm.trans ?_ hperm
        simpa using (perm_cons_eraseIdx hreq).symm.append_left (c.answered.map Prod.fst)
      · intro p hp
        rcases List.mem_append.1 hp with hp | hp
        · exact hans p hp
        · obtain rfl := List.mem_singleton.1 hp
          exact handle_respond env hres

theorem ConnInv.exec {input₀ : List (Request Config)} {c c' : Conn Repo Config}
    {acts : List Action} (hi : ConnInv input₀ c) (h : c.exec env acts = some c') :
    ConnInv input₀ c' := by
  induction acts generalizing c with
  | nil => exact Option.some.inj h ▸ hi
  | cons a acts ih =>
    obtain ⟨c₁, h₁, h⟩ := Option.bind_eq_some.1 h
    exact ih (hi.step env h₁) h

/-- **Each request is answered at most once.**  Along every run, in either mode and whatever the
backend returns, the requests decoded are the handled requests of the input read so far, each
either answered once or pending, and every response carries its request's `Uuid` and the
matching response type. -/
theorem exec_answers_each_request_once {input : List (Request Config)} {acts : List Action}
    {c : Conn Repo Config} (h : (Conn.init env input).exec env acts = some c) :
    (∃ consumed, input = consumed ++ c.input ∧
      c.decoded = consumed.filter fun request => request.type ∈ requestTypes) ∧
    (c.answered.map Prod.fst ++ c.pending).Perm c.decoded ∧
    ∀ p ∈ c.answered, p.2.uuid = p.1.uuid ∧ p.2.type = responseType p.1.type :=
  let hi := (ConnInv.init env input).exec env h
  ⟨hi.read, hi.conserved, hi.answers⟩

/-- A `ReqGetStates`, a request of an unknown type and a `ReqPutState`, with the third goroutine
run first: the second request is dropped, the third answered, the first pending. -/
theorem exec_answers_putState_first :
    ∃ c, (Conn.init (noPackfiles (some ())) [⟨1, "ReqGetStates", .reqGetStates⟩,
          ⟨2, "ReqPing", .reqClose⟩, ⟨3, "ReqPutState", .reqPutState Checksum.zero [7]⟩]).exec
          (noPackfiles (some ())) [.decode, .decode, .decode, .run 1] = some c ∧
      c.answered.map (fun p => p.2.uuid) = [3] ∧ c.pending.map Request.uuid = [1] ∧
      (∃ consumed, [⟨1, "ReqGetStates", .reqGetStates⟩, ⟨2, "ReqPing", .reqClose⟩,
          ⟨3, "ReqPutState", .reqPutState Checksum.zero [7]⟩] = consumed ++ c.input ∧
        c.decoded = consumed.filter fun request => request.type ∈ requestTypes) ∧
      (c.answered.map Prod.fst ++ c.pending).Perm c.decoded ∧
      ∀ p ∈ c.answered, p.2.uuid = p.1.uuid ∧ p.2.type = responseType p.1.type :=
  (fun h => ⟨_, h, rfl, rfl, exec_answers_each_request_once _ h⟩) rfl

end Invariant

/-! ## Where a goroutine panics -/

/-- A server asked for a packfile it does not hold exits without an answer, and so does a Stdio
server asked to open a repository that opens. -/
theorem handleConnection_exits_unanswered :
    (∃ c, (Conn.init (noPackfiles (some ()))
          [⟨1, "ReqGetPackfile", .reqGetPackfile Checksum.zero⟩]).exec (noPackfiles (some ()))
          [.decode, .run 0] = some c ∧ c.crashed = true ∧ c.answered = [] ∧
      ∀ acts c', c.exec (noPackfiles (some ())) acts = some c' → c'.answered = []) ∧
    (∃ c, (Conn.init (noPackfiles none) [⟨1, "ReqOpen", .reqOpen "plakar"⟩]).exec
          (noPackfiles none) [.decode, .run 0] = some c ∧ c.crashed = true ∧ c.answered = [] ∧
      ∀ acts c', c.exec (noPackfiles none) acts = some c' → c'.answered = []) :=
  ⟨⟨_, rfl, rfl, rfl, fun _ _ h => by rw [Conn.exec_of_crashed _ rfl h]; rfl⟩,
    ⟨_, rfl, rfl, rfl, fun _ _ h => by rw [Conn.exec_of_crashed _ rfl h]; rfl⟩⟩

end Plakard

end Plakar
