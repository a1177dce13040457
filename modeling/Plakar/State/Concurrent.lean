import Plakar.State.Intern

/-!
# The state under concurrent calls

Every method of `State` is thread-safe by its mutexes, and the atomic steps they delimit are:
interning one checksum (under `muChecksum`), and storing one location (under the table's mutex).
A call in flight is a list of `Pending` steps; a goroutine starts a call (`Action.call`) and the
scheduler lets any started call take its next atomic step (`Action.step i`).  `Merge` is a call
whose steps are the `SetPackfileFor*` of every location of the delta, in its maps' order.

    InternInv (Sys.exec (Sys.init now) acts).state                   (exec_internInv)

holds for every schedule `acts`, so for every interleaving of any calls; running one call alone
is the method of `Plakar.State.Basic` (`exec_call_alone`).
-/

namespace Plakar

namespace State

/-- What is left of one call, at the granularity of the state's mutexes. -/
inductive Pending
  | intern (checksum : Checksum)
  | set (checked written : Kind) (packfileChecksum checksum : Checksum) (offset length : UInt32)
  | setInterned (checked written : Kind) (packfileID : Nat) (checksum : Checksum)
      (offset length : UInt32)
  | store (checked written : Kind) (packfileID id : Nat) (offset length : UInt32)
  | «extends» (stateID : Checksum)
  | resetDirty

/-- One atomic step: the state it leaves, and what is left of the call. -/
def Pending.step : Pending → State → State × Option Pending
  | .intern c, st => ((st.getOrCreateIdForChecksum c).1, none)
  | .set chk wr p c o l, st =>
    let (st, pid) := st.getOrCreateIdForChecksum p
    (st, some (.setInterned chk wr pid c o l))
  | .setInterned chk wr pid c o l, st =>
    let (st, id) := st.getOrCreateIdForChecksum c
    (st, some (.store chk wr pid id o l))
  | .store chk wr pid id o l, st => (st.storeIn chk wr id ⟨pid, o, l⟩, none)
  | .extends stateID, st => (st.extends stateID, none)
  | .resetDirty, st => (st.resetDirty, none)

/-- The calls a goroutine can make on a shared state. -/
inductive Call
  | getOrCreateIdForChecksum (checksum : Checksum)
  | setPackfileFor (k : Kind) (packfileChecksum checksum : Checksum) (offset length : UInt32)
  | getPackfileFor (k : Kind) (checksum : Checksum)
  | getSubpartFor (k : Kind) (checksum : Checksum)
  | existsFor (k : Kind) (checksum : Checksum)
  | merge (stateID : Checksum) (deltaState : State)
  | «extends» (stateID : Checksum)
  | resetDirty

/-- `Merge`'s calls: the locations of `deltaState`, table by table. -/
def mergeProgram (deltaState : State) : List Pending :=
  [Kind.chunk, .object, .file, .directory, .blob].flatMap fun k =>
    (deltaState.table k).entries.map fun e =>
      .set k k.written (lookupD deltaState.idToChecksum e.2.packfile)
        (lookupD deltaState.idToChecksum e.1) e.2.offset e.2.length

/-- The steps a call starts with.  A query's only step that changes the state is its interning. -/
def Call.program : Call → List Pending
  | .getOrCreateIdForChecksum c => [.intern c]
  | .setPackfileFor k p c o l => [.set k k.written p c o l]
  | .getPackfileFor _ c => [.intern c]
  | .getSubpartFor _ c => [.intern c]
  | .existsFor _ c => [.intern c]
  | .merge _ d => mergeProgram d
  | .extends stateID => [.extends stateID]
  | .resetDirty => [.resetDirty]

/-- The effect of a call on the state, by the sequential model. -/
def Call.run : Call → State → State
  | .getOrCreateIdForChecksum c, st => (st.getOrCreateIdForChecksum c).1
  | .setPackfileFor k p c o l, st => State.setPackfileFor k st p c o l
  | .getPackfileFor k c, st => (State.getPackfileFor k st c).1
  | .getSubpartFor k c, st => (State.getSubpartFor k st c).1
  | .existsFor k c, st => (State.existsFor k st c).1
  | .merge stateID d, st => st.merge stateID d
  | .extends stateID, st => st.extends stateID
  | .resetDirty, st => st.resetDirty

/-- A shared state and the calls in flight on it, one list of steps per goroutine. -/
structure Sys where
  state : State
  threads : List (List Pending)

inductive Action
  | call (c : Call)
  | step (thread : Nat)

def Sys.init (now : Time) : Sys := ⟨State.new now, []⟩

/-- Thread `i` takes its next step; a finished or absent thread does nothing. -/
def Sys.stepThread (s : Sys) (i : Nat) : Sys :=
  match s.threads[i]? with
  | some (p :: rest) =>
    let (st, k) := p.step s.state
    ⟨st, s.threads.set i (k.toList ++ rest)⟩
  | _ => s

def Sys.step (s : Sys) : Action → Sys
  | .call c => { s with threads := s.threads ++ [c.program] }
  | .step i => s.stepThread i

def Sys.exec (s : Sys) (acts : List Action) : Sys := acts.foldl Sys.step s

/-! ## Lemmas -/

/-- The ids a pending step holds were handed out by the intern table. -/
def Pending.Bounded (n : Nat) : Pending → Prop
  | .setInterned _ _ pid _ _ _ => pid < n
  | .store _ _ pid id _ _ => pid < n ∧ id < n
  | _ => True

theorem Pending.Bounded.mono {n m : Nat} {p : Pending} (h : p.Bounded n) (hnm : n ≤ m) :
    p.Bounded m := by
  cases p <;> simp only [Pending.Bounded] at h ⊢ <;> omega

variable {st : State}

theorem Pending.step_inv (hi : InternInv st) {p : Pending} (hb : p.Bounded st.size) :
    InternInv (p.step st).1 ∧ st.size ≤ (p.step st).1.size ∧
      ∀ q ∈ (p.step st).2, q.Bounded (p.step st).1.size := by
  cases p with
  | intern c =>
    obtain ⟨h1, h2⟩ := getOrCreateIdForChecksum_inv' hi c
    exact ⟨h1, h2, by simp [Pending.step]⟩
  | set chk wr p c o l =>
    rcases h : st.getOrCreateIdForChecksum p with ⟨st1, pid⟩
    obtain ⟨i1, s1, l1, -⟩ := getOrCreateIdForChecksum_inv hi h
    simp only [Pending.step, h, Option.mem_def, Option.some.injEq, forall_eq']
    exact ⟨i1, s1, i1.lt_size l1⟩
  | setInterned chk wr pid c o l =>
    rcases h : st.getOrCreateIdForChecksum c with ⟨st1, id⟩
    obtain ⟨i1, s1, l1, -⟩ := getOrCreateIdForChecksum_inv hi h
    simp only [Pending.step, h, Option.mem_def, Option.some.injEq, forall_eq']
    exact ⟨i1, s1, by simp only [Pending.Bounded] at hb; omega, i1.lt_size l1⟩
  | store chk wr pid id o l =>
    obtain ⟨hp, hid⟩ := hb
    exact ⟨storeIn_inv hi o l hid hp, by simp [Pending.step, size_storeIn],
      by simp [Pending.step]⟩
  | «extends» stateID => exact ⟨extends_inv hi _, le_rfl, by simp [Pending.step]⟩
  | resetDirty => exact ⟨resetDirty_inv hi, le_rfl, by simp [Pending.step]⟩

theorem Call.program_bounded (c : Call) (n : Nat) : ∀ p ∈ c.program, p.Bounded n := by
  cases c with
  | merge _ d =>
    simp only [Call.program, mergeProgram, List.mem_flatMap, List.mem_map]
    rintro p ⟨k, -, e, -, rfl⟩
    trivial
  | _ =>
    simp only [Call.program, List.mem_singleton, forall_eq]
    trivial

/-- Every call keeps the invariant when it runs alone. -/
theorem Call.run_inv (hi : InternInv st) (c : Call) : InternInv (c.run st) := by
  cases c with
  | getOrCreateIdForChecksum c => exact (getOrCreateIdForChecksum_inv' hi c).1
  | setPackfileFor k p c o l =>
    rw [Call.run, setPackfileFor_eq]; exact (setPackfileIn_inv hi _ _ _ _ _ _).1
  | getPackfileFor k c =>
    rw [Call.run, getPackfileFor_eq, getPackfileIn_fst]; exact (getOrCreateIdForChecksum_inv' hi c).1
  | getSubpartFor k c =>
    rw [Call.run, getSubpartFor_eq, getSubpartIn_fst]; exact (getOrCreateIdForChecksum_inv' hi c).1
  | existsFor k c =>
    rw [Call.run, existsFor_eq, existsIn_fst]; exact (getOrCreateIdForChecksum_inv' hi c).1
  | merge stateID d => exact merge_inv hi stateID d
  | «extends» stateID => exact extends_inv hi stateID
  | resetDirty => exact resetDirty_inv hi

/-- The state is coherent and every step in flight holds ids below `N`. -/
structure SysInv (s : Sys) : Prop where
  state : InternInv s.state
  bounded : ∀ t ∈ s.threads, ∀ p ∈ t, p.Bounded s.state.size

theorem SysInv.init (now : Time) : SysInv (Sys.init now) :=
  ⟨InternInv.new now, by simp [Sys.init]⟩

theorem SysInv.stepThread {s : Sys} (h : SysInv s) (i : Nat) : SysInv (s.stepThread i) := by
  unfold Sys.stepThread
  split
  · next p rest ht =>
    have hmem : p :: rest ∈ s.threads := List.getElem?_mem ht
    obtain ⟨i1, s1, b1⟩ := Pending.step_inv h.state (h.bounded _ hmem p (List.mem_cons_self _ _))
    refine ⟨i1, fun t ht' q hq => ?_⟩
    rcases List.mem_or_eq_of_mem_set ht' with ht' | rfl
    · exact (h.bounded t ht' q hq).mono s1
    · rcases List.mem_append.1 hq with hq | hq
      · exact b1 q (Option.mem_toList.1 hq)
      · exact (h.bounded _ hmem q (List.mem_cons_of_mem _ hq)).mono s1
  · exact h

theorem SysInv.step {s : Sys} (h : SysInv s) (a : Action) : SysInv (s.step a) := by
  cases a with
  | call c =>
    refine ⟨h.state, fun t ht p hp => ?_⟩
    rcases List.mem_append.1 ht with ht | ht
    · exact h.bounded t ht p hp
    · rw [List.mem_singleton.1 ht] at hp; exact c.program_bounded _ p hp
  | step i => exact h.stepThread i

theorem SysInv.exec {s : Sys} (h : SysInv s) (acts : List Action) : SysInv (s.exec acts) := by
  induction acts generalizing s with
  | nil => exact h
  | cons a acts ih => exact ih (h.step a)

/-! ## One call alone -/

/-- What a pending call does when nothing interleaves with it. -/
def Pending.finish : Pending → State → State
  | .intern c, st => (st.getOrCreateIdForChecksum c).1
  | .set chk wr p c o l, st => st.setPackfileIn chk wr p c o l
  | .setInterned chk wr pid c o l, st =>
    let (st, id) := st.getOrCreateIdForChecksum c
    st.storeIn chk wr id ⟨pid, o, l⟩
  | .store chk wr pid id o l, st => st.storeIn chk wr id ⟨pid, o, l⟩
  | .extends stateID, st => st.extends stateID
  | .resetDirty, st => st.resetDirty

/-- How many atomic steps a pending call has left. -/
def Pending.steps : Pending → Nat
  | .set .. => 3
  | .setInterned .. => 2
  | _ => 1

theorem Sys.exec_append (s : Sys) (as bs : List Action) :
    s.exec (as ++ bs) = (s.exec as).exec bs := List.foldl_append _ _ _ _

theorem Pending.exec_finish (st : State) (p : Pending) (rest : List Pending) :
    Sys.exec ⟨st, [p :: rest]⟩ (List.replicate p.steps (.step 0)) = ⟨p.finish st, [rest]⟩ := by
  cases p <;>
    simp [Pending.steps, Sys.exec, Sys.step, Sys.stepThread, Pending.step, Pending.finish,
      setPackfileIn]

/-- A goroutine running the steps `ps` alone does what they do in sequence. -/
theorem exec_alone (st : State) (ps : List Pending) :
    Sys.exec ⟨st, [ps]⟩ (List.replicate (ps.map Pending.steps).sum (.step 0)) =
      ⟨ps.foldl (fun st p => p.finish st) st, [[]]⟩ := by
  induction ps generalizing st with
  | nil => rfl
  | cons p ps ih =>
    rw [List.map_cons, List.sum_cons, List.replicate_add, Sys.exec_append, Pending.exec_finish,
      ih, List.foldl_cons]

/-- The steps of a call, run in sequence, are the method of the sequential model. -/
theorem Call.run_eq_finish (c : Call) (st : State) :
    c.run st = c.program.foldl (fun st p => p.finish st) st := by
  cases c with
  | setPackfileFor k p c o l => simp [Call.run, Call.program, Pending.finish, setPackfileFor_eq]
  | getPackfileFor k c => simp [Call.run, Call.program, Pending.finish, getPackfileFor_eq,
      getPackfileIn_fst]
  | getSubpartFor k c => simp [Call.run, Call.program, Pending.finish, getSubpartFor_eq,
      getSubpartIn_fst]
  | existsFor k c => simp [Call.run, Call.program, Pending.finish, existsFor_eq, existsIn_fst]
  | merge stateID d =>
    simp [Call.run, Call.program, mergeProgram, State.merge, mergeTable, List.foldl_map,
      Pending.finish, setPackfileFor_eq]
  | _ => rfl

/-- **One call alone is the sequential method.**  A goroutine that starts a call on any state
and takes all of its atomic steps with nothing interleaved leaves the state that the method of
`Plakar.State.Basic` computes, and its thread done. -/
theorem exec_call_alone (st : State) (c : Call) :
    Sys.exec ⟨st, []⟩ (.call c :: List.replicate (c.program.map Pending.steps).sum (.step 0)) =
      ⟨c.run st, [[]]⟩ := by
  rw [Call.run_eq_finish]
  exact exec_alone st c.program

/-! ## Top theorems -/

/-- **Intern coherence.**  From `state.New()`, every sequence of calls run one after the other,
and every lock-granular interleaving of calls started at any time, leaves a state satisfying
`InternInv`. -/
theorem exec_internInv (now : Time) :
    (∀ calls : List Call, InternInv (calls.foldl (fun st c => c.run st) (State.new now))) ∧
      ∀ acts : List Action, InternInv ((Sys.init now).exec acts).state := by
  refine ⟨fun calls => ?_, fun acts => ((SysInv.init now).exec acts).state⟩
  suffices ∀ st, InternInv st → InternInv (calls.foldl (fun st c => c.run st) st) from
    this _ (InternInv.new now)
  induction calls with
  | nil => exact fun _ h => h
  | cons c calls ih => exact fun st h => ih _ (Call.run_inv h c)

end State

end Plakar
