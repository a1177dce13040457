import Plakar.State.Basic

/-!
# Locating snapshots

`LocateSnapshotIDs` (src/cmd/plakar/utils/locate.go) starts one goroutine per ID that
`repo.ListSnapshots()` yields, at most `MaxConcurrency` at a time (a buffered channel used as a
semaphore).  Each goroutine loads its snapshot, applies the filters that are set, and appends a
`result` to the shared `workSet` under a mutex.  After `wg.Wait()` the work set is sorted
(`sort.SliceStable`) if a sort order is set, cut to its last element if `Latest`, and mapped to
IDs.

The fan-out is a state machine (`Fanout.step`) over two actions a scheduler may take in any
order: the loop spawning the goroutine of the next ID, when a semaphore slot is free, and a
running goroutine finishing, which is when it appends.  A goroutine touches shared state only
in its append, so taking it whole at that step loses no behaviour.  Over every schedule the
work set together with the goroutines still to finish is a permutation of the sequential filter
(`FanoutInv`); with `MaxConcurrency ≥ 1` every partial schedule can be completed
(`exec_drain`).

`header.Header` of the version this file is written against, and its `HasTag`, are not under
src: `Header` holds the fields the filters read, and `HasTag` is taken as membership in `Tags`.
-/

namespace Plakar

/-! ## Time -/

/-- `t.IsZero()`: `t` is `time.Time{}`, January 1 of year 1, 00:00:00 UTC. -/
def Time.isZero (t : Time) : Bool := t.unix == -62135596800 && t.nsec == 0

/-- `t.Before(u)`. -/
def Time.before (t u : Time) : Bool := t.unix < u.unix || (t.unix == u.unix && t.nsec < u.nsec)

/-- `t.After(u)`. -/
def Time.after (t u : Time) : Bool := t.unix > u.unix || (t.unix == u.unix && t.nsec > u.nsec)

/-- `t ≤ u` when `t` is not after `u`. -/
instance : LE Time := ⟨fun t u => u.before t = false⟩

instance (t u : Time) : Decidable (t ≤ u) := inferInstanceAs (Decidable (u.before t = false))

theorem Time.le_iff (t u : Time) :
    t ≤ u ↔ t.unix < u.unix ∨ (t.unix = u.unix ∧ t.nsec ≤ u.nsec) := by
  show u.before t = false ↔ _
  simp [Time.before]
  omega

theorem Time.after_eq_before (t u : Time) : t.after u = u.before t := by
  simp only [Time.after, Time.before, gt_iff_lt, @Bool.beq_comm Int _ _ t.unix u.unix]

theorem Time.le_total (t u : Time) : t ≤ u ∨ u ≤ t := by
  rw [Time.le_iff, Time.le_iff]; omega

theorem Time.le_trans {t u v : Time} (h₁ : t ≤ u) (h₂ : u ≤ v) : t ≤ v := by
  rw [Time.le_iff] at *; omega

namespace Locate

/-- `locateSortOrder`. -/
def locateSortOrderNone : Int := 0

def locateSortOrderAscending : Int := 1

def locateSortOrderDescending : Int := -1

/-- The fields of a snapshot header the filters read. -/
structure Header where
  name : String
  category : String
  environment : String
  perimeter : String
  job : String
  tags : List String
  timestamp : Time

/-- `HasTag`, as membership in `Tags`. -/
def Header.hasTag (h : Header) (tag : String) : Bool := h.tags.contains tag

/-- `LocateOptions`. -/
structure LocateOptions where
  maxConcurrency : Int
  sortOrder : Int
  latest : Bool
  before : Time
  since : Time
  name : String
  category : String
  environment : String
  perimeter : String
  job : String
  tag : String

/-- `NewDefaultLocateOptions()`. -/
def newDefaultLocateOptions : LocateOptions where
  maxConcurrency := 1
  sortOrder := locateSortOrderNone
  latest := false
  before := Time.zero
  since := Time.zero
  name := ""
  category := ""
  environment := ""
  perimeter := ""
  job := ""
  tag := ""

/-- The `result` a goroutine appends. -/
structure Result where
  snapshotID : Checksum
  timestamp : Time

/-- The goroutine of `snapshotID`, lines 95 to 154: `snapshot.Load` (`load`, `none` on an
error), each filter that is set, and on success the result it appends. -/
def locateOne (opts : LocateOptions) (load : Checksum → Option Header) (snapshotID : Checksum) :
    Option Result :=
  match load snapshotID with
  | none => none
  | some h =>
    if opts.name ≠ "" ∧ h.name ≠ opts.name then none
    else if opts.category ≠ "" ∧ h.category ≠ opts.category then none
    else if opts.environment ≠ "" ∧ h.environment ≠ opts.environment then none
    else if opts.perimeter ≠ "" ∧ h.perimeter ≠ opts.perimeter then none
    else if opts.job ≠ "" ∧ h.job ≠ opts.job then none
    else if opts.tag ≠ "" ∧ h.hasTag opts.tag = false then none
    else if opts.before.isZero = false ∧ h.timestamp.after opts.before then none
    else if opts.since.isZero = false ∧ h.timestamp.before opts.since then none
    else some ⟨snapshotID, h.timestamp⟩

/-! ## The fan-out -/

/-- The IDs `ListSnapshots` has still to yield, the goroutines running (holding a semaphore
slot), and the shared work set. -/
structure Fanout where
  pending : List Checksum
  running : List Checksum
  workSet : List Result

/-- The loop spawns the next goroutine, or running goroutine `i` finishes. -/
inductive Action
  | spawn
  | finish (i : Nat)

namespace Fanout

def init (ids : List Checksum) : Fanout := ⟨ids, [], []⟩

/-- One step.  The loop's `maxConcurrency <- struct{}{}` blocks while the channel holds
`MaxConcurrency` tokens; a finishing goroutine appends under the mutex, then takes its token
back. -/
def step (opts : LocateOptions) (load : Checksum → Option Header) (s : Fanout) :
    Action → Option Fanout
  | .spawn =>
    match s.pending with
    | [] => none
    | id :: rest =>
      if (s.running.length : Int) < opts.maxConcurrency then
        some { s with pending := rest, running := s.running ++ [id] }
      else none
  | .finish i =>
    match s.running[i]? with
    | none => none
    | some id =>
      some { s with
        running := s.running.eraseIdx i
        workSet := s.workSet ++ (locateOne opts load id).toList }

def exec (opts : LocateOptions) (load : Checksum → Option Header) : Fanout → List Action →
    Option Fanout
  | s, [] => some s
  | s, a :: acts => (s.step opts load a).bind fun s => exec opts load s acts

end Fanout

/-! ## After `wg.Wait()` -/

/-- `sort.SliceStable(x, less)`.  For a strict weak order the stable sort of a list is one
list, whatever the algorithm; insertion sort computes it. -/
def sliceStable {β : Type} (less : β → β → Bool) (x : List β) : List β :=
  x.insertionSort fun a b => less b a = false

/-- Lines 159 to 169. -/
def sortWorkSet (opts : LocateOptions) (workSet : List Result) : List Result :=
  if opts.sortOrder ≠ locateSortOrderNone then
    if opts.sortOrder = locateSortOrderAscending then
      sliceStable (fun a b => a.timestamp.before b.timestamp) workSet
    else sliceStable (fun a b => a.timestamp.after b.timestamp) workSet
  else workSet

/-- Lines 171 to 175: `workSet[len(workSet)-1:]` when `Latest` and more than one result. -/
def keepLatest (opts : LocateOptions) (workSet : List Result) : List Result :=
  if opts.latest ∧ workSet.length > 1 then workSet.drop (workSet.length - 1) else workSet

/-- `LocateSnapshotIDs` on options `opts` (not `nil`), the IDs `ListSnapshots` yields, and the
schedule `sched`: the IDs it returns if `sched` runs the loop and every goroutine to the end. -/
def locateSnapshotIDs (opts : LocateOptions) (load : Checksum → Option Header)
    (ids : List Checksum) (sched : List Action) : Option (List Checksum) :=
  (Fanout.exec opts load (.init ids) sched).bind fun s =>
    if s.pending = [] ∧ s.running = [] then
      some ((keepLatest opts (sortWorkSet opts s.workSet)).map Result.snapshotID)
    else none

/-- Modelled from the spec: a header passes every filter that is set (`Name`, `Category`,
`Environment`, `Perimeter` and `Job` equal, `HasTag(Tag)`, `Timestamp ≤ Before` when `Before`
is set, `Timestamp ≥ Since` when `Since` is set). -/
def passes (opts : LocateOptions) (h : Header) : Bool :=
  (opts.name == "" || h.name == opts.name) &&
  (opts.category == "" || h.category == opts.category) &&
  (opts.environment == "" || h.environment == opts.environment) &&
  (opts.perimeter == "" || h.perimeter == opts.perimeter) &&
  (opts.job == "" || h.job == opts.job) &&
  (opts.tag == "" || h.hasTag opts.tag) &&
  (opts.before.isZero || decide (h.timestamp ≤ opts.before)) &&
  (opts.since.isZero || decide (opts.since ≤ h.timestamp))

/-- Modelled from the spec: the sequential filter, the yielded IDs, in order, whose snapshot
loads and whose header passes every filter that is set. -/
def sequentialFilter (opts : LocateOptions) (load : Checksum → Option Header)
    (ids : List Checksum) : List Checksum :=
  ids.filter fun id =>
    match load id with
    | none => false
    | some h => passes opts h

/-! ## The goroutine -/

variable {opts : LocateOptions} {load : Checksum → Option Header}

theorem Time.not_le_iff_before (t u : Time) : ¬ t ≤ u ↔ u.before t = true := by
  show ¬ u.before t = false ↔ _
  simp

/-- A filter that returns when `A ∧ B` is the test `p || q`, when `A` and `B` say that `p` and
`q` are false. -/
theorem ite_filter {α : Type} {A B : Prop} [Decidable (A ∧ B)] {p q : Bool}
    (hA : A ↔ p = false) (hB : B ↔ q = false) (x : Option α) :
    (if A ∧ B then none else x) = if (p || q) then x else none := by
  cases p <;> cases q <;> simp_all

theorem ite_and_none {α : Type} (a b : Bool) (x : Option α) :
    (if a then (if b then x else none) else none) = if (a && b) then x else none := by
  cases a <;> rfl

/-- **The goroutine is the filter.**  A snapshot that loads is kept exactly when its header
passes every filter that is set. -/
theorem locateOne_of_load {id : Checksum} {h : Header} (hl : load id = some h) :
    locateOne opts load id = if passes opts h then some ⟨id, h.timestamp⟩ else none := by
  have hne : ∀ s t : String, s ≠ t ↔ (s == t) = false := fun s t => by simp
  have hbefore : h.timestamp.after opts.before = true ↔
      decide (h.timestamp ≤ opts.before) = false := by
    rw [decide_eq_false_iff_not, Time.not_le_iff_before, Time.after_eq_before]
  have hsince : h.timestamp.before opts.since = true ↔
      decide (opts.since ≤ h.timestamp) = false := by
    rw [decide_eq_false_iff_not, Time.not_le_iff_before]
  simp only [locateOne, hl]
  rw [ite_filter (hne _ _) (hne _ _), ite_filter (hne _ _) (hne _ _),
    ite_filter (hne _ _) (hne _ _), ite_filter (hne _ _) (hne _ _),
    ite_filter (hne _ _) (hne _ _), ite_filter (hne _ _) Iff.rfl, ite_filter Iff.rfl hbefore,
    ite_filter Iff.rfl hsince]
  simp only [ite_and_none, passes, Bool.and_assoc]

/-- A goroutine's result carries its ID and its header's timestamp. -/
theorem locateOne_eq_some {id : Checksum} {w : Result} (h : locateOne opts load id = some w) :
    w.snapshotID = id ∧ (load id).map Header.timestamp = some w.timestamp := by
  cases hl : load id with
  | none => simp [locateOne, hl] at h
  | some hd =>
    rw [locateOne_of_load hl] at h
    split at h
    · cases h; exact ⟨rfl, rfl⟩
    · cases h

/-- The goroutines, run one after another, keep the IDs of the sequential filter. -/
theorem map_filterMap_locateOne (ids : List Checksum) :
    (ids.filterMap (locateOne opts load)).map Result.snapshotID = sequentialFilter opts load ids := by
  induction ids with
  | nil => rfl
  | cons id ids ih =>
    rw [sequentialFilter, List.filter_cons, ← sequentialFilter, ← ih, List.filterMap_cons]
    cases hl : load id with
    | none => simp [locateOne, hl]
    | some h =>
      rw [locateOne_of_load hl]
      cases hp : passes opts h <;> simp [hp]

/-! ## Every schedule -/

/-- What every schedule keeps: the work set, with the results that the goroutines still running
and the IDs still to yield will append, is a permutation of the goroutines' results in
`ListSnapshots` order. -/
def FanoutInv (opts : LocateOptions) (load : Checksum → Option Header) (ids : List Checksum)
    (s : Fanout) : Prop :=
  (s.workSet ++ (s.running ++ s.pending).filterMap (locateOne opts load)).Perm
    (ids.filterMap (locateOne opts load))

theorem toList_append_filterMap (f : Checksum → Option Result) (id : Checksum)
    (l : List Checksum) : (f id).toList ++ l.filterMap f = (id :: l).filterMap f := by
  rw [List.filterMap_cons]
  cases f id <;> rfl

/-- **Step.** -/
theorem FanoutInv.step {ids : List Checksum} {s s' : Fanout} {a : Action}
    (hi : FanoutInv opts load ids s) (h : s.step opts load a = some s') :
    FanoutInv opts load ids s' := by
  cases a with
  | spawn =>
    simp only [Fanout.step] at h
    split at h
    · cases h
    · rename_i id rest hp
      split at h
      · cases h
        simpa [FanoutInv, hp, List.append_assoc] using hi
      · cases h
  | finish i =>
    simp only [Fanout.step] at h
    split at h
    · cases h
    · rename_i id hid
      cases h
      refine List.Perm.trans ?_ hi
      rw [List.append_assoc, toList_append_filterMap, ← List.cons_append]
      exact ((((perm_cons_eraseIdx hid).append_right _).filterMap _).symm).append_left _

/-- **Run.** -/
theorem FanoutInv.exec {ids : List Checksum} {s s' : Fanout} {sched : List Action}
    (hi : FanoutInv opts load ids s) (h : Fanout.exec opts load s sched = some s') :
    FanoutInv opts load ids s' := by
  induction sched generalizing s with
  | nil => cases h; exact hi
  | cons a sched ih =>
    obtain ⟨s₁, h₁, h⟩ := Option.bind_eq_some.1 h
    exact ih (hi.step h₁) h

/-- Once the loop is over and every goroutine has finished, the work set is a permutation of
the goroutines' results in `ListSnapshots` order. -/
theorem exec_workSet_perm {ids : List Checksum} {sched : List Action} {s : Fanout}
    (h : Fanout.exec opts load (.init ids) sched = some s) (hp : s.pending = [])
    (hr : s.running = []) : s.workSet.Perm (ids.filterMap (locateOne opts load)) := by
  have := (show FanoutInv opts load ids (.init ids) by simp [FanoutInv, Fanout.init]).exec h
  simpa [FanoutInv, hp, hr] using this

/-! ## Every schedule can finish -/

theorem Fanout.exec_append (s : Fanout) (a b : List Action) :
    Fanout.exec opts load s (a ++ b) =
      (Fanout.exec opts load s a).bind fun s => Fanout.exec opts load s b := by
  induction a generalizing s with
  | nil => rfl
  | cons x a ih =>
    simp only [List.cons_append, Fanout.exec]
    cases s.step opts load x <;> simp [ih]

theorem Fanout.step_spawn {id : Checksum} {pending running : List Checksum}
    {workSet : List Result} (h : (running.length : Int) < opts.maxConcurrency) :
    Fanout.step opts load ⟨id :: pending, running, workSet⟩ .spawn =
      some ⟨pending, running ++ [id], workSet⟩ := by
  simp [Fanout.step, h]

theorem Fanout.step_finish_zero (pending : List Checksum) (id : Checksum)
    (running : List Checksum) (workSet : List Result) :
    Fanout.step opts load ⟨pending, id :: running, workSet⟩ (.finish 0) =
      some ⟨pending, running, workSet ++ (locateOne opts load id).toList⟩ := by
  simp [Fanout.step]

/-- Finishing the first running goroutine, as many times as there are. -/
theorem Fanout.exec_finish_all (pending running : List Checksum) (workSet : List Result)
    (rest : List Action) :
    Fanout.exec opts load ⟨pending, running, workSet⟩
        (List.replicate running.length (.finish 0) ++ rest) =
      Fanout.exec opts load ⟨pending, [], workSet ++ running.filterMap (locateOne opts load)⟩
        rest := by
  induction running generalizing workSet with
  | nil => simp
  | cons id running ih =>
    rw [List.length_cons, List.replicate_succ, List.cons_append, Fanout.exec,
      Fanout.step_finish_zero, Option.some_bind, ih, List.append_assoc, toList_append_filterMap]

/-- With a free slot and nothing running, spawning and finishing each remaining ID in turn. -/
theorem Fanout.exec_spawn_finish (hc : 1 ≤ opts.maxConcurrency) (pending : List Checksum)
    (workSet : List Result) (rest : List Action) :
    Fanout.exec opts load ⟨pending, [], workSet⟩
        (pending.flatMap (fun _ => [.spawn, .finish 0]) ++ rest) =
      Fanout.exec opts load ⟨[], [], workSet ++ pending.filterMap (locateOne opts load)⟩ rest := by
  induction pending generalizing workSet with
  | nil => simp
  | cons id pending ih =>
    have h0 : (([] : List Checksum).length : Int) < opts.maxConcurrency := by
      rw [List.length_nil]; omega
    rw [List.flatMap_cons, List.append_assoc, List.cons_append, Fanout.exec,
      Fanout.step_spawn h0, Option.some_bind, List.nil_append, List.cons_append, List.nil_append,
      Fanout.exec, Fanout.step_finish_zero, Option.some_bind, ih, List.append_assoc,
      toList_append_filterMap]

/-- The schedule that finishes every running goroutine, then spawns and finishes the remaining
IDs one at a time. -/
def Fanout.drain (s : Fanout) : List Action :=
  List.replicate s.running.length (.finish 0) ++ s.pending.flatMap fun _ => [.spawn, .finish 0]

/-- **No deadlock.**  With `MaxConcurrency ≥ 1`, from every state the drain schedule runs the
loop and every goroutine to the end. -/
theorem Fanout.exec_drain (hc : 1 ≤ opts.maxConcurrency) (s : Fanout) :
    Fanout.exec opts load s s.drain =
      some ⟨[], [], s.workSet ++ (s.running ++ s.pending).filterMap (locateOne opts load)⟩ := by
  rcases s with ⟨pending, running, workSet⟩
  have := @Fanout.exec_finish_all opts load pending running workSet
    (pending.flatMap fun _ => [.spawn, .finish 0])
  rw [Fanout.drain, this, ← List.append_nil (pending.flatMap _), Fanout.exec_spawn_finish hc]
  simp [Fanout.exec, List.filterMap_append]

theorem locateSnapshotIDs_completes (hc : 1 ≤ opts.maxConcurrency) {ids : List Checksum}
    {sched : List Action} (h : (Fanout.exec opts load (.init ids) sched).isSome) :
    ∃ more, (locateSnapshotIDs opts load ids (sched ++ more)).isSome := by
  obtain ⟨s, hs⟩ := Option.isSome_iff_exists.1 h
  refine ⟨s.drain, ?_⟩
  simp [locateSnapshotIDs, Fanout.exec_append, hs, Fanout.exec_drain hc]

/-! ## Sorting and `Latest` -/

theorem Time.le_refl (t : Time) : t ≤ t := by
  rw [Time.le_iff]; omega

theorem sortWorkSet_perm (opts : LocateOptions) (workSet : List Result) :
    (sortWorkSet opts workSet).Perm workSet := by
  unfold sortWorkSet sliceStable
  split_ifs
  · exact List.perm_insertionSort _ _
  · exact List.perm_insertionSort _ _
  · exact .refl _

/-- Sorted `Ascending`, timestamps never decrease. -/
theorem sortWorkSet_ascending (h : opts.sortOrder = locateSortOrderAscending)
    (workSet : List Result) :
    (sortWorkSet opts workSet).Pairwise fun a b => a.timestamp ≤ b.timestamp := by
  have hne : opts.sortOrder ≠ locateSortOrderNone := by rw [h]; decide
  rw [sortWorkSet, if_pos hne, if_pos h, sliceStable]
  have : IsTotal Result fun a b => b.timestamp.before a.timestamp = false :=
    ⟨fun a b => Time.le_total a.timestamp b.timestamp⟩
  have : IsTrans Result fun a b => b.timestamp.before a.timestamp = false :=
    ⟨fun _ _ _ => Time.le_trans⟩
  exact List.sorted_insertionSort _ _

/-- Sorted `Descending`, timestamps never increase. -/
theorem sortWorkSet_descending (h : opts.sortOrder = locateSortOrderDescending)
    (workSet : List Result) :
    (sortWorkSet opts workSet).Pairwise fun a b => b.timestamp ≤ a.timestamp := by
  have hne : opts.sortOrder ≠ locateSortOrderNone := by rw [h]; decide
  have hasc : opts.sortOrder ≠ locateSortOrderAscending := by rw [h]; decide
  rw [sortWorkSet, if_pos hne, if_neg hasc, sliceStable]
  have : IsTotal Result fun a b => b.timestamp.after a.timestamp = false :=
    ⟨fun a b => by simp only [Time.after_eq_before]; exact Time.le_total b.timestamp a.timestamp⟩
  have : IsTrans Result fun a b => b.timestamp.after a.timestamp = false :=
    ⟨fun a b c h₁ h₂ => by
      simp only [Time.after_eq_before] at *; exact @Time.le_trans _ b.timestamp _ h₂ h₁⟩
  refine (List.sorted_insertionSort _ _).imp fun h => ?_
  simpa only [Time.after_eq_before] using h

theorem drop_length_sub_one_eq {β : Type} {l : List β} (h : l ≠ []) :
    l.drop (l.length - 1) = [l.getLast h] := by
  conv_lhs => rw [← List.dropLast_append_getLast h]
  rw [List.length_append, List.length_singleton, Nat.add_sub_cancel, List.drop_left]

/-- With `Latest`, a nonempty work set is cut to its last element. -/
theorem keepLatest_of_latest (hl : opts.latest = true) {workSet : List Result}
    (hw : workSet ≠ []) : keepLatest opts workSet = [workSet.getLast hw] := by
  unfold keepLatest
  split_ifs with h
  · exact drop_length_sub_one_eq hw
  · have hlen : workSet.length = 1 := by
      have := List.length_pos.2 hw
      simp only [hl, true_and, gt_iff_lt, Nat.not_lt] at h
      omega
    obtain ⟨a, rfl⟩ := List.length_eq_one.1 hlen
    rfl

theorem keepLatest_of_not_latest (hl : opts.latest = false) (workSet : List Result) :
    keepLatest opts workSet = workSet := by
  simp [keepLatest, hl]

/-- In a list ordered by a reflexive relation, every element is related to the last. -/
theorem rel_getLast_of_pairwise {β : Type} {r : β → β → Prop} {l : List β} (hs : l.Pairwise r)
    (hr : ∀ a, r a a) (hl : l ≠ []) : ∀ x ∈ l, r x (l.getLast hl) := by
  intro x hx
  rw [← List.dropLast_append_getLast hl] at hs hx
  rw [List.pairwise_append] at hs
  rcases List.mem_append.1 hx with hx | hx
  · exact hs.2.2 x hx _ (List.mem_singleton_self _)
  · rw [List.mem_singleton.1 hx]; exact hr _

/-- The IDs of goroutine results, looked up again, give the results' timestamps. -/
theorem filterMap_timestamp {rs : List Result}
    (hrs : ∀ w ∈ rs, ∃ id, locateOne opts load id = some w) :
    (rs.map Result.snapshotID).filterMap (fun id => (load id).map Header.timestamp) =
      rs.map Result.timestamp := by
  induction rs with
  | nil => rfl
  | cons w rs ih =>
    obtain ⟨id, hw⟩ := hrs w (List.mem_cons_self _ _)
    obtain ⟨rfl, hts⟩ := locateOne_eq_some hw
    simp only [List.map_cons, List.filterMap_cons, hts,
      ih fun w' hw' => hrs w' (List.mem_cons_of_mem _ hw')]

/-- A completed schedule: the work set is a permutation of the goroutines' results, and the
IDs returned are those of the sorted, cut work set. -/
theorem locateSnapshotIDs_eq_some {ids : List Checksum} {sched : List Action}
    {result : List Checksum} (h : locateSnapshotIDs opts load ids sched = some result) :
    ∃ workSet, workSet.Perm (ids.filterMap (locateOne opts load)) ∧
      result = (keepLatest opts (sortWorkSet opts workSet)).map Result.snapshotID := by
  obtain ⟨s, hs, h⟩ := Option.bind_eq_some.1 h
  split at h
  · rename_i hd
    exact ⟨s.workSet, exec_workSet_perm hs hd.1 hd.2, (Option.some.inj h).symm⟩
  · cases h

/-- **The concurrent locator computes the sequential filter.**  With `MaxConcurrency ≥ 1` and
`Latest` off, every partial schedule of the goroutines can be run to the end, and every
schedule run to the end returns a permutation of the sequential filter's IDs; sorted
`Ascending` (`Descending`) their timestamps never decrease (increase). -/
theorem locateSnapshotIDs_eq_sequential (hc : 1 ≤ opts.maxConcurrency)
    (hl : opts.latest = false) (ids : List Checksum) :
    (∀ sched, (Fanout.exec opts load (.init ids) sched).isSome →
      ∃ more, (locateSnapshotIDs opts load ids (sched ++ more)).isSome) ∧
    ∀ sched result, locateSnapshotIDs opts load ids sched = some result →
      result.Perm (sequentialFilter opts load ids) ∧
      (opts.sortOrder = locateSortOrderAscending →
        (result.filterMap fun id => (load id).map Header.timestamp).Pairwise (· ≤ ·)) ∧
      (opts.sortOrder = locateSortOrderDescending →
        (result.filterMap fun id => (load id).map Header.timestamp).Pairwise (· ≥ ·)) := by
  refine ⟨fun _ => locateSnapshotIDs_completes hc, fun sched result h => ?_⟩
  obtain ⟨ws, hperm, rfl⟩ := locateSnapshotIDs_eq_some h
  rw [keepLatest_of_not_latest hl]
  have hmem : ∀ w ∈ sortWorkSet opts ws, ∃ id, locateOne opts load id = some w := fun w hw =>
    let ⟨id, _, h⟩ := List.mem_filterMap.1 (hperm.subset ((sortWorkSet_perm opts ws).subset hw))
    ⟨id, h⟩
  rw [filterMap_timestamp hmem, List.pairwise_map, List.pairwise_map]
  refine ⟨?_, fun h => sortWorkSet_ascending h ws, fun h => sortWorkSet_descending h ws⟩
  rw [← map_filterMap_locateOne]
  exact ((sortWorkSet_perm opts ws).trans hperm).map _

/-- Two snapshots, `00..01` at Unix second 1 and `00..02` at Unix second 2, with empty names
and no tags; every other ID fails to load. -/
def twoSnapshots (id : Checksum) : Option Header :=
  if id = .ofByte 1 then some ⟨"", "", "", "", "", [], ⟨1, 0, by decide, by decide, by decide⟩⟩
  else if id = .ofByte 2 then
    some ⟨"", "", "", "", "", [], ⟨2, 0, by decide, by decide, by decide⟩⟩
  else none

/-- The default options, sorted `Ascending`. -/
def ascendingOptions : LocateOptions :=
  { newDefaultLocateOptions with sortOrder := locateSortOrderAscending }

theorem locate_two_snapshots_ascending :
    (1 ≤ ascendingOptions.maxConcurrency ∧ ascendingOptions.latest = false) ∧
    ((∀ sched, (Fanout.exec ascendingOptions twoSnapshots (.init [.ofByte 1, .ofByte 2])
        sched).isSome →
      ∃ more, (locateSnapshotIDs ascendingOptions twoSnapshots [.ofByte 1, .ofByte 2]
        (sched ++ more)).isSome) ∧
    ∀ sched result,
      locateSnapshotIDs ascendingOptions twoSnapshots [.ofByte 1, .ofByte 2] sched = some result →
      result.Perm (sequentialFilter ascendingOptions twoSnapshots [.ofByte 1, .ofByte 2]) ∧
      (ascendingOptions.sortOrder = locateSortOrderAscending →
        (result.filterMap fun id => (twoSnapshots id).map Header.timestamp).Pairwise (· ≤ ·)) ∧
      (ascendingOptions.sortOrder = locateSortOrderDescending →
        (result.filterMap fun id => (twoSnapshots id).map Header.timestamp).Pairwise (· ≥ ·))) :=
  ⟨⟨by decide, rfl⟩, locateSnapshotIDs_eq_sequential (by decide) rfl _⟩

/-- **`Latest` keeps the last of the sorted work set.**  With `MaxConcurrency ≥ 1` and `Latest`,
every partial schedule can be run to the end, and a schedule run to the end, when some
snapshot matches, returns the ID of exactly one match: sorted `Ascending`, one of greatest
timestamp; sorted `Descending`, one of least timestamp. -/
theorem locateSnapshotIDs_latest (hc : 1 ≤ opts.maxConcurrency) (hl : opts.latest = true)
    (ids : List Checksum) :
    (∀ sched, (Fanout.exec opts load (.init ids) sched).isSome →
      ∃ more, (locateSnapshotIDs opts load ids (sched ++ more)).isSome) ∧
    ∀ sched result, locateSnapshotIDs opts load ids sched = some result →
      ids.filterMap (locateOne opts load) ≠ [] →
      ∃ w ∈ ids.filterMap (locateOne opts load), result = [w.snapshotID] ∧
        (opts.sortOrder = locateSortOrderAscending →
          ∀ w' ∈ ids.filterMap (locateOne opts load), w'.timestamp ≤ w.timestamp) ∧
        (opts.sortOrder = locateSortOrderDescending →
          ∀ w' ∈ ids.filterMap (locateOne opts load), w.timestamp ≤ w'.timestamp) := by
  refine ⟨fun _ => locateSnapshotIDs_completes hc, fun sched result h hne => ?_⟩
  obtain ⟨ws, hperm, rfl⟩ := locateSnapshotIDs_eq_some h
  have hp := (sortWorkSet_perm opts ws).trans hperm
  have hsne : sortWorkSet opts ws ≠ [] := fun he => hne (by rw [he] at hp; exact hp.symm.eq_nil)
  rw [keepLatest_of_latest hl hsne, List.map_singleton]
  refine ⟨_, hp.subset (List.getLast_mem hsne), rfl, fun ha w' hw' => ?_, fun hd w' hw' => ?_⟩
  · exact rel_getLast_of_pairwise (sortWorkSet_ascending ha ws) (fun a => Time.le_refl _) hsne w'
      (hp.symm.subset hw')
  · exact rel_getLast_of_pairwise (sortWorkSet_descending hd ws) (fun a => Time.le_refl _) hsne w'
      (hp.symm.subset hw')

/-- The default options with `Latest`, sorted `Ascending`. -/
def latestOptions : LocateOptions := { ascendingOptions with latest := true }

theorem locate_latest_of_two :
    (1 ≤ latestOptions.maxConcurrency ∧ latestOptions.latest = true) ∧
    ((∀ sched, (Fanout.exec latestOptions twoSnapshots (.init [.ofByte 1, .ofByte 2])
        sched).isSome →
      ∃ more, (locateSnapshotIDs latestOptions twoSnapshots [.ofByte 1, .ofByte 2]
        (sched ++ more)).isSome) ∧
    ∀ sched result,
      locateSnapshotIDs latestOptions twoSnapshots [.ofByte 1, .ofByte 2] sched = some result →
      [Checksum.ofByte 1, .ofByte 2].filterMap (locateOne latestOptions twoSnapshots) ≠ [] →
      ∃ w ∈ [Checksum.ofByte 1, .ofByte 2].filterMap (locateOne latestOptions twoSnapshots),
        result = [w.snapshotID] ∧
        (latestOptions.sortOrder = locateSortOrderAscending →
          ∀ w' ∈ [Checksum.ofByte 1, .ofByte 2].filterMap (locateOne latestOptions twoSnapshots),
            w'.timestamp ≤ w.timestamp) ∧
        (latestOptions.sortOrder = locateSortOrderDescending →
          ∀ w' ∈ [Checksum.ofByte 1, .ofByte 2].filterMap (locateOne latestOptions twoSnapshots),
            w.timestamp ≤ w'.timestamp)) :=
  ⟨⟨by decide, rfl⟩, locateSnapshotIDs_latest (by decide) rfl _⟩

/-- **`Latest` sorted `Descending` returns the oldest.**  Both snapshots match; sorted newest
first, the last element kept is the snapshot of Unix second 1, not the one of second 2. -/
theorem latest_descending_returns_oldest :
    locateSnapshotIDs { latestOptions with sortOrder := locateSortOrderDescending } twoSnapshots
        [.ofByte 1, .ofByte 2] [.spawn, .finish 0, .spawn, .finish 0] = some [.ofByte 1] ∧
      ([Checksum.ofByte 1, .ofByte 2].filterMap
        (locateOne { latestOptions with sortOrder := locateSortOrderDescending } twoSnapshots)).map
          (·.timestamp.unix) = [1, 2] :=
  ⟨rfl, rfl⟩

end Locate

end Plakar
