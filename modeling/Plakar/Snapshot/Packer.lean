import Plakar.Snapshot.Session

/-!
# The packer packs every message once

Every step of a session is one of the transitions of `Step` (`step_cases`).  Over them the
channel and the workers keep `PackerInv`:

* the messages sent are the messages added, in order, followed by those still in the channel;
* every builder number handed out went to a message;
* a builder is flushed at most once, and it holds exactly the messages added to it;
* a builder not yet flushed is held by exactly one worker;
* a worker that has left its loop holds nothing, and the channel is closed and empty.

With at least one worker, once every worker has left (`packerChanDone`) this gives:

    s.packer.sent = s.packer.added.map Prod.snd ∧
      (s.packer.flushed.map Prod.fst).Nodup ∧
      (∀ b, b ∈ s.packer.added.map Prod.fst ↔ b ∈ s.packer.flushed.map Prod.fst) ∧
      ∀ e ∈ s.packer.flushed, e.2 = PackFile.ofMsgs (s.packer.msgsOf e.1)
                                                          (exec_packs_each_message_once)
-/

namespace Plakar

namespace Snapshot

/-! ## Builders -/

@[simp] theorem PackFile.ofMsgs_nil : PackFile.ofMsgs [] = PackFile.new := rfl

theorem PackFile.ofMsgs_concat (msgs : List PackerMsg) (m : PackerMsg) :
    PackFile.ofMsgs (msgs ++ [m]) = (PackFile.ofMsgs msgs).addBlob m.type m.checksum m.data := by
  simp [PackFile.ofMsgs, List.foldl_append]

theorem PackFile.index_ofMsgs (msgs : List PackerMsg) :
    (PackFile.ofMsgs msgs).index.map Blob.checksum = msgs.map PackerMsg.checksum := by
  induction msgs using List.reverseRecOn with
  | nil => rfl
  | append_singleton msgs m ih => simp [PackFile.ofMsgs_concat, ih]

/-- A checksum a builder finds in its index is the checksum of a message added to it. -/
theorem PackFile.exists_of_find_ofMsgs {msgs : List PackerMsg} {c : Checksum}
    (h : ((PackFile.ofMsgs msgs).find c).isSome) : ∃ m ∈ msgs, m.checksum = c := by
  obtain ⟨blob, hb, hc⟩ := List.find?_isSome.1 h
  have : blob.checksum ∈ msgs.map PackerMsg.checksum :=
    PackFile.index_ofMsgs msgs ▸ List.mem_map_of_mem _ hb
  obtain ⟨m, hm, he⟩ := List.mem_map.1 this
  exact ⟨m, hm, he.trans (beq_iff_eq.1 hc)⟩

/-! ## The packer's operations -/

namespace Packer

variable {p : Packer} {i j : Nat}

theorem builderOf_of_none (h : (p.workers i).pack = none) :
    p.builderOf i = (PackFile.new, p.nextBuilder, SeenSets.empty) := by
  simp [builderOf, h]

theorem builderOf_of_some {pack : PackFile} (h : (p.workers i).pack = some pack) :
    p.builderOf i = (pack, (p.workers i).builder, (p.workers i).seen) := by
  simp [builderOf, h]

@[simp] theorem receive_workers_self (msg : PackerMsg) :
    (p.receive i msg).workers i =
      { p.workers i with
        pack := some ((p.builderOf i).1.addBlob msg.type msg.checksum msg.data)
        builder := (p.builderOf i).2.1
        seen := (p.builderOf i).2.2.record msg.checksum msg.type } := by
  simp [receive]

@[simp] theorem receive_workers_of_ne (h : j ≠ i) (msg : PackerMsg) :
    (p.receive i msg).workers j = p.workers j := by
  simp [receive, Function.update_noteq h]

@[simp] theorem release_workers_self (pack : PackFile) :
    (p.release i pack).workers i = { p.workers i with pack := none } := by
  simp [release]

@[simp] theorem release_workers_of_ne (h : j ≠ i) (pack : PackFile) :
    (p.release i pack).workers j = p.workers j := by
  simp [release, Function.update_noteq h]

@[simp] theorem setExited_workers_self : (p.setExited i).workers i =
    { p.workers i with exited := true } := by
  simp [setExited]

@[simp] theorem setExited_workers_of_ne (h : j ≠ i) : (p.setExited i).workers j = p.workers j := by
  simp [setExited, Function.update_noteq h]

@[simp] theorem receive_exited (msg : PackerMsg) :
    ((p.receive i msg).workers j).exited = (p.workers j).exited := by
  by_cases h : j = i
  · subst h; simp
  · simp [h]

@[simp] theorem setExited_pack : ((p.setExited i).workers j).pack = (p.workers j).pack := by
  by_cases h : j = i
  · subst h; simp
  · simp [h]

@[simp] theorem setExited_builder : ((p.setExited i).workers j).builder = (p.workers j).builder := by
  by_cases h : j = i
  · subst h; simp
  · simp [h]

theorem msgsOf_receive (msg : PackerMsg) (b : Nat) :
    (p.receive i msg).msgsOf b =
      if b = (p.builderOf i).2.1 then p.msgsOf b ++ [msg] else p.msgsOf b := by
  by_cases h : b = (p.builderOf i).2.1
  · subst h; simp [receive, msgsOf, List.filter_append]
  · simp [receive, msgsOf, List.filter_append, h, Ne.symm h]

/-- Builder `b` has received no message yet. -/
theorem msgsOf_eq_nil (h : ∀ e ∈ p.added, e.1 ≠ b) : p.msgsOf b = [] := by
  rw [msgsOf, List.map_eq_nil_iff, List.filter_eq_nil_iff]
  exact fun e he => by simpa using h e he

theorem mem_added_of_mem_msgsOf {b : Nat} {m : PackerMsg} (h : m ∈ p.msgsOf b) :
    m ∈ p.added.map Prod.snd := by
  obtain ⟨e, he, rfl⟩ := List.mem_map.1 h
  exact List.mem_map_of_mem _ (List.mem_filter.1 he).1

end Packer

/-! ## What a step can do -/

/-- The transitions of a session with `w` workers.  A receive may flush, and a worker that
leaves its loop flushes what it still holds. -/
inductive Step (r : Repo) (w : Nat) (s : Session) : Session → Prop
  | stay : Step r w s s
  | send (msg : PackerMsg) : s.packer.closed = false →
      Step r w s { s with packer := s.packer.send msg }
  | close : Step r w s { s with packer := s.packer.close }
  | receive (i : Nat) (msg : PackerMsg) (rest : List PackerMsg) : i < w →
      s.packer.chan = msg :: rest →
      r.size (({ s.packer with chan := rest }.builderOf i).1.addBlob msg.type msg.checksum
        msg.data) ≤ UInt32.ofNat r.packfileSize →
      Step r w s { s with packer := { s.packer with chan := rest }.receive i msg }
  | receiveFlush (i : Nat) (msg : PackerMsg) (rest : List PackerMsg) (pack : PackFile)
      (sink : Sink) : i < w → s.packer.chan = msg :: rest →
      (({ s.packer with chan := rest }.receive i msg).workers i).pack = some pack →
      UInt32.ofNat r.packfileSize < r.size pack →
      s.sink.putPackfileFrom r pack (({ s.packer with chan := rest }.receive i msg).workers i).seen =
        .ok sink →
      Step r w s ⟨({ s.packer with chan := rest }.receive i msg).release i pack, sink⟩
  | exit (i : Nat) : s.packer.closed = true → s.packer.chan = [] →
      (s.packer.workers i).pack = none → Step r w s { s with packer := s.packer.setExited i }
  | exitFlush (i : Nat) (pack : PackFile) (sink : Sink) : s.packer.closed = true →
      s.packer.chan = [] → (s.packer.workers i).pack = some pack →
      s.sink.putPackfileFrom r pack (s.packer.workers i).seen = .ok sink →
      Step r w s ⟨(s.packer.release i pack).setExited i, sink⟩

namespace Session

variable {r : Repo} {w : Nat} {s s' : Session}

theorem flush_cases {i : Nat} (h : s.flush r i = some s') :
    ((s.packer.workers i).pack = none ∧ s' = s) ∨
      ∃ pack sink, (s.packer.workers i).pack = some pack ∧
        s.sink.putPackfileFrom r pack (s.packer.workers i).seen = .ok sink ∧
        s' = ⟨s.packer.release i pack, sink⟩ := by
  unfold flush at h
  split at h
  · exact .inl ⟨‹_›, (Option.some.inj h).symm⟩
  · split at h
    · exact .inr ⟨_, _, ‹_›, ‹_›, (Option.some.inj h).symm⟩
    · cases h

/-- **Inversion.**  Every step of the session is a transition of `Step`. -/
theorem step_cases {a : Action} (h : step r w s a = some s') : Step r w s s' := by
  cases a with
  | put t c d =>
    simp only [step] at h
    split at h
    · cases h; exact .stay
    · split at h
      · cases h; exact .send _ ‹_ ∧ _›.1
      · cases h
  | close =>
    simp only [step] at h
    split at h
    · cases h; exact .close
    · cases h
  | recv i =>
    simp only [step] at h
    split at h
    · cases h
    · rename_i msg rest hc
      split at h
      · rename_i hi
        split at h
        · rename_i hgt
          rcases flush_cases h with ⟨hp, rfl⟩ | ⟨pack, sink, hp, hput, rfl⟩
          · simp at hp
          · refine .receiveFlush i msg rest pack sink hi.1 hc hp ?_ hput
            simp only [Packer.receive_workers_self, Option.some.injEq] at hp
            exact hp ▸ hgt
        · cases h; exact .receive i msg rest hi.1 hc (UInt32.not_lt.1 ‹_›)
      · cases h
  | exit i =>
    simp only [step] at h
    split at h
    · rename_i hg
      obtain ⟨s₁, h₁, rfl⟩ := Option.map_eq_some'.1 h
      rcases flush_cases h₁ with ⟨hp, rfl⟩ | ⟨pack, sink, hp, hput, rfl⟩
      · exact .exit i hg.2.2.1 hg.2.2.2 hp
      · exact .exitFlush i pack sink hg.2.2.1 hg.2.2.2 hp hput
    · cases h

/-- What a run can reach: a chain of steps. -/
theorem exec_induction (P : Session → Prop) {s₀ s : Session} {acts : List Action}
    (h₀ : P s₀) (hstep : ∀ s s', P s → Step r w s s' → P s')
    (h : exec r w s₀ acts = some s) : P s := by
  induction acts generalizing s₀ with
  | nil => cases h; exact h₀
  | cons a acts ih =>
    obtain ⟨s₁, h₁, h⟩ := Option.bind_eq_some.1 h
    exact ih (hstep _ _ h₀ (step_cases h₁)) h

end Session

/-! ## The invariant -/

/-- What the channel and the workers keep along every run with `w` workers. -/
structure PackerInv (w : Nat) (p : Packer) : Prop where
  fifo : p.sent = p.added.map Prod.snd ++ p.chan
  added_lt : ∀ e ∈ p.added, e.1 < p.nextBuilder
  lt_added : ∀ b < p.nextBuilder, b ∈ p.added.map Prod.fst
  flushed_nodup : (p.flushed.map Prod.fst).Nodup
  flushed_lt : ∀ e ∈ p.flushed, e.1 < p.nextBuilder
  flushed_pack : ∀ e ∈ p.flushed, e.2 = PackFile.ofMsgs (p.msgsOf e.1)
  holding : ∀ i pack, (p.workers i).pack = some pack →
    i < w ∧ (p.workers i).builder < p.nextBuilder ∧
      (p.workers i).builder ∉ p.flushed.map Prod.fst ∧
      pack = PackFile.ofMsgs (p.msgsOf (p.workers i).builder)
  distinct : ∀ i j, (p.workers i).pack.isSome → (p.workers j).pack.isSome →
    (p.workers i).builder = (p.workers j).builder → i = j
  covered : ∀ b < p.nextBuilder, b ∈ p.flushed.map Prod.fst ∨
    ∃ i, (p.workers i).pack.isSome ∧ (p.workers i).builder = b
  exited : ∀ i, (p.workers i).exited = true →
    (p.workers i).pack = none ∧ p.closed = true ∧ p.chan = []

namespace PackerInv

variable {w : Nat} {p : Packer}

theorem init (reg : Registry) (now : Time) : PackerInv w (Session.new reg now).packer where
  fifo := rfl
  added_lt := by simp [Session.new]
  lt_added := by simp [Session.new]
  flushed_nodup := by simp [Session.new]
  flushed_lt := by simp [Session.new]
  flushed_pack := by simp [Session.new]
  holding := by simp [Session.new, Worker.init]
  distinct := by simp [Session.new, Worker.init]
  covered := by simp [Session.new]
  exited := by simp [Session.new, Worker.init]

theorem send (hi : PackerInv w p) (msg : PackerMsg) (hc : p.closed = false) :
    PackerInv w (p.send msg) :=
  { hi with
    fifo := by simp [Packer.send, hi.fifo]
    exited := fun i he => by simp [(hi.exited i he).2.1] at hc }

theorem close (hi : PackerInv w p) : PackerInv w p.close :=
  { hi with exited := fun i he => ⟨(hi.exited i he).1, rfl, (hi.exited i he).2.2⟩ }

/-- A worker that receives a message while it holds no builder starts builder
`p.nextBuilder`. -/
theorem receive_new (hi : PackerInv w p) {i : Nat} {msg : PackerMsg} {rest : List PackerMsg}
    (hiw : i < w) (hc : p.chan = msg :: rest) (hp : (p.workers i).pack = none) :
    PackerInv w ({ p with chan := rest }.receive i msg) := by
  have hb : ({ p with chan := rest } : Packer).builderOf i =
      (PackFile.new, p.nextBuilder, SeenSets.empty) := Packer.builderOf_of_none hp
  have hm : ∀ b, ({ p with chan := rest }.receive i msg).msgsOf b =
      if b = p.nextBuilder then p.msgsOf b ++ [msg] else p.msgsOf b := by
    intro b; rw [Packer.msgsOf_receive, hb]; rfl
  have hold : ∀ j pack, j ≠ i → (p.workers j).pack = some pack →
      (p.workers j).builder < p.nextBuilder := fun j pack _ h => (hi.holding j pack h).2.1
  have hfl : ∀ e ∈ p.flushed, e.1 ≠ p.nextBuilder := fun e he => Nat.ne_of_lt (hi.flushed_lt e he)
  constructor
  case fifo => simp [Packer.receive, hi.fifo, hc]
  case added_lt =>
    simp only [Packer.receive, hb, hp, Option.isSome_none, List.mem_append, List.mem_singleton]
    rintro e (he | rfl)
    · exact Nat.lt_succ_of_lt (hi.added_lt e he)
    · exact Nat.lt_succ_self _
  case lt_added =>
    simp only [Packer.receive, hb, hp, Option.isSome_none, List.map_append, List.mem_append]
    intro b hb'
    rcases Nat.lt_succ_iff_lt_or_eq.1 hb' with hb' | rfl
    · exact .inl (hi.lt_added b hb')
    · exact .inr (List.mem_singleton_self _)
  case flushed_nodup => exact hi.flushed_nodup
  case flushed_lt =>
    simp only [Packer.receive, hb, hp, Option.isSome_none]
    exact fun e he => Nat.lt_succ_of_lt (hi.flushed_lt e he)
  case flushed_pack =>
    intro e he
    rw [hm, if_neg (hfl e he)]
    exact hi.flushed_pack e he
  case holding =>
    intro j pack hj
    by_cases hji : j = i
    · subst hji
      simp only [Packer.receive_workers_self, hb, Option.some.injEq] at hj ⊢
      subst hj
      refine ⟨hiw, by simp [Packer.receive, hp], fun h => ?_, ?_⟩
      · obtain ⟨e, he, he'⟩ := List.mem_map.1 h
        exact hfl e he he'
      · rw [hm, if_pos rfl, Packer.msgsOf_eq_nil fun e he => Nat.ne_of_lt (hi.added_lt e he)]
        rfl
    · rw [Packer.receive_workers_of_ne hji] at hj ⊢
      obtain ⟨h1, h2, h3, h4⟩ := hi.holding j pack hj
      refine ⟨h1, by simp [Packer.receive, hp]; omega, h3, ?_⟩
      rw [hm, if_neg (Nat.ne_of_lt h2)]
      exact h4
  case distinct =>
    have key : ∀ j, j ≠ i → (p.workers j).pack.isSome →
        (p.workers j).builder ≠ p.nextBuilder := fun j hj h => by
      obtain ⟨pack, hpk⟩ := Option.isSome_iff_exists.1 h
      exact Nat.ne_of_lt (hold j pack hj hpk)
    intro j k hj hk
    by_cases hji : j = i <;> by_cases hki : k = i
    · exact fun _ => hji.trans hki.symm
    · subst hji
      rw [Packer.receive_workers_of_ne hki] at hk ⊢
      simp only [Packer.receive_workers_self, hb]
      exact fun h => absurd h.symm (key k hki hk)
    · subst hki
      rw [Packer.receive_workers_of_ne hji] at hj ⊢
      simp only [Packer.receive_workers_self, hb]
      exact fun h => absurd h (key j hji hj)
    · rw [Packer.receive_workers_of_ne hji] at hj ⊢
      rw [Packer.receive_workers_of_ne hki] at hk ⊢
      exact hi.distinct j k hj hk
  case covered =>
    simp only [Packer.receive, hp, Option.isSome_none]
    intro b hb'
    rcases Nat.lt_succ_iff_lt_or_eq.1 hb' with hb' | rfl
    · rcases hi.covered b hb' with h | ⟨j, hj, rfl⟩
      · exact .inl h
      · have hji : j ≠ i := fun e => by simp [e, hp] at hj
        exact .inr ⟨j, by simpa [Function.update_noteq hji] using hj,
          by simp [Function.update_noteq hji]⟩
    · exact .inr ⟨i, by simp, by simp [hb]⟩
  case exited => exact fun j hj => by simpa [hc] using (hi.exited j (by simpa using hj)).2.2

/-- A worker that receives a message while it holds a builder adds it there. -/
theorem receive_same (hi : PackerInv w p) {i : Nat} {msg : PackerMsg} {rest : List PackerMsg}
    (hiw : i < w) (hc : p.chan = msg :: rest) {pack₀ : PackFile}
    (hp : (p.workers i).pack = some pack₀) :
    PackerInv w ({ p with chan := rest }.receive i msg) := by
  have hb : ({ p with chan := rest } : Packer).builderOf i =
      (pack₀, (p.workers i).builder, (p.workers i).seen) := Packer.builderOf_of_some hp
  obtain ⟨-, hlt, hnf, hpk⟩ := hi.holding i pack₀ hp
  have hm : ∀ b, ({ p with chan := rest }.receive i msg).msgsOf b =
      if b = (p.workers i).builder then p.msgsOf b ++ [msg] else p.msgsOf b := by
    intro b; rw [Packer.msgsOf_receive, hb]; rfl
  have hN : ({ p with chan := rest }.receive i msg).nextBuilder = p.nextBuilder := by
    simp [Packer.receive, hp]
  have hsome : ∀ j, (({ p with chan := rest }.receive i msg).workers j).pack.isSome =
      (p.workers j).pack.isSome := fun j => by
    by_cases hji : j = i
    · subst hji; simp [hp]
    · simp [hji]
  have hbuilder : ∀ j, (({ p with chan := rest }.receive i msg).workers j).builder =
      (p.workers j).builder := fun j => by
    by_cases hji : j = i
    · subst hji; simp [hb]
    · simp [hji]
  have hother : ∀ j, j ≠ i → (p.workers j).pack.isSome →
      (p.workers j).builder ≠ (p.workers i).builder :=
    fun j hj h he => hj (hi.distinct j i h (by simp [hp]) he)
  constructor
  case fifo => simp [Packer.receive, hi.fifo, hc]
  case added_lt =>
    simp only [hN]
    simp only [Packer.receive, hb, List.mem_append, List.mem_singleton]
    rintro e (he | rfl)
    · exact hi.added_lt e he
    · exact hlt
  case lt_added =>
    rw [hN]
    simp only [Packer.receive, List.map_append, List.mem_append]
    exact fun b hb' => .inl (hi.lt_added b hb')
  case flushed_nodup => exact hi.flushed_nodup
  case flushed_lt => simpa only [hN] using hi.flushed_lt
  case flushed_pack =>
    intro e he
    have : e.1 ≠ (p.workers i).builder := fun h => hnf (h ▸ List.mem_map_of_mem Prod.fst he)
    rw [hm, if_neg this]
    exact hi.flushed_pack e he
  case holding =>
    intro j pack hj
    rw [hN, hbuilder, hm]
    by_cases hji : j = i
    · subst hji
      simp only [Packer.receive_workers_self, hb, Option.some.injEq] at hj
      subst hj
      rw [if_pos rfl, PackFile.ofMsgs_concat, ← hpk]
      exact ⟨hiw, hlt, hnf, rfl⟩
    · rw [Packer.receive_workers_of_ne hji] at hj
      obtain ⟨h1, h2, h3, h4⟩ := hi.holding j pack hj
      rw [if_neg (hother j hji (Option.isSome_iff_exists.2 ⟨_, hj⟩))]
      exact ⟨h1, h2, h3, h4⟩
  case distinct =>
    intro j k hj hk
    rw [hsome] at hj hk
    rw [hbuilder, hbuilder]
    exact hi.distinct j k hj hk
  case covered =>
    simp only [hN, hsome, hbuilder]
    exact hi.covered
  case exited => exact fun j hj => by simpa [hc] using (hi.exited j (by simpa using hj)).2.2

theorem receive (hi : PackerInv w p) {i : Nat} {msg : PackerMsg} {rest : List PackerMsg}
    (hiw : i < w) (hc : p.chan = msg :: rest) :
    PackerInv w ({ p with chan := rest }.receive i msg) := by
  cases hp : (p.workers i).pack with
  | none => exact hi.receive_new hiw hc hp
  | some pack => exact hi.receive_same hiw hc hp

/-- A worker that hands its builder to `PutPackfile` records it as flushed and holds nothing. -/
theorem release (hi : PackerInv w p) {i : Nat} {pack : PackFile}
    (hp : (p.workers i).pack = some pack) : PackerInv w (p.release i pack) := by
  obtain ⟨-, hlt, hnf, hpk⟩ := hi.holding i pack hp
  have hother : ∀ j, j ≠ i → (p.workers j).pack.isSome →
      (p.workers j).builder ≠ (p.workers i).builder :=
    fun j hj h he => hj (hi.distinct j i h (by simp [hp]) he)
  constructor
  case fifo => exact hi.fifo
  case added_lt => exact hi.added_lt
  case lt_added => exact hi.lt_added
  case flushed_nodup =>
    simp only [Packer.release, List.map_append, List.map_cons, List.map_nil]
    exact hi.flushed_nodup.append (List.nodup_singleton _) (List.disjoint_singleton.2 hnf)
  case flushed_lt =>
    simp only [Packer.release, List.mem_append, List.mem_singleton]
    rintro e (he | rfl)
    · exact hi.flushed_lt e he
    · exact hlt
  case flushed_pack =>
    simp only [Packer.release, List.mem_append, List.mem_singleton]
    rintro e (he | rfl)
    · exact hi.flushed_pack e he
    · exact hpk
  case holding =>
    intro j pack' hj
    by_cases hji : j = i
    · subst hji; simp at hj
    · rw [Packer.release_workers_of_ne hji] at hj ⊢
      obtain ⟨h1, h2, h3, h4⟩ := hi.holding j pack' hj
      refine ⟨h1, h2, ?_, h4⟩
      simpa [Packer.release, h3] using hother j hji (by simp [hj])
  case distinct =>
    intro j k hj hk
    by_cases hji : j = i
    · subst hji; simp at hj
    by_cases hki : k = i
    · subst hki; simp at hk
    rw [Packer.release_workers_of_ne hji] at hj ⊢
    rw [Packer.release_workers_of_ne hki] at hk ⊢
    exact hi.distinct j k hj hk
  case covered =>
    intro b hb
    rcases hi.covered b hb with h | ⟨j, hj, rfl⟩
    · exact .inl (by simp [Packer.release, h])
    · by_cases hji : j = i
      · subst hji
        exact .inl (List.mem_map_of_mem Prod.fst (List.mem_append_right _ (List.mem_singleton_self _)))
      · exact .inr ⟨j, by simpa [hji] using hj, by simp [hji]⟩
  case exited =>
    intro j hj
    by_cases hji : j = i
    · subst hji; simpa [hp] using hi.exited j (by simpa using hj)
    · simpa [hji] using hi.exited j (by simpa [hji] using hj)

/-- A worker leaves its loop holding nothing, on a closed and drained channel. -/
theorem setExited (hi : PackerInv w p) {i : Nat} (hp : (p.workers i).pack = none)
    (hc : p.closed = true) (hch : p.chan = []) : PackerInv w (p.setExited i) :=
  { hi with
    holding := fun j pack hj => by
      simpa only [Packer.setExited_pack, Packer.setExited_builder] using
        hi.holding j pack (by simpa only [Packer.setExited_pack] using hj)
    distinct := fun j k hj hk => by
      simpa only [Packer.setExited_pack, Packer.setExited_builder] using
        hi.distinct j k (by simpa only [Packer.setExited_pack] using hj)
          (by simpa only [Packer.setExited_pack] using hk)
    covered := fun b hb => by
      simpa only [Packer.setExited_pack, Packer.setExited_builder] using hi.covered b hb
    exited := fun j hj => by
      by_cases hji : j = i
      · subst hji; exact ⟨by simpa using hp, hc, hch⟩
      · simpa using hi.exited j (by simpa [hji] using hj) }

/-- **Step.**  Every transition keeps the invariant. -/
theorem step {r : Repo} {s s' : Session} (hi : PackerInv w s.packer) (h : Step r w s s') :
    PackerInv w s'.packer := by
  cases h with
  | stay => exact hi
  | send msg hc => exact hi.send msg hc
  | close => exact hi.close
  | receive i msg rest hiw hc _ => exact hi.receive hiw hc
  | receiveFlush i msg rest pack sink hiw hc hp _ => exact (hi.receive hiw hc).release hp
  | exit i hc hch hp => exact hi.setExited hp hc hch
  | exitFlush i pack sink hc hch hp _ => exact (hi.release hp).setExited (by simp) hc hch

end PackerInv

/-- **Run.**  Every session reachable from `Snapshot.New` keeps the invariant. -/
theorem exec_packerInv {r : Repo} {w : Nat} {reg : Registry} {now : Time} {acts : List Action}
    {s : Session} (h : Session.exec r w (Session.new reg now) acts = some s) :
    PackerInv w s.packer :=
  Session.exec_induction (fun s => PackerInv w s.packer) (PackerInv.init reg now)
    (fun _ _ hi hs => hi.step hs) h

/-- **Every message packed once.**  With `w ≥ 1` workers, once `packerChanDone` is signalled:
the messages added are the messages sent, each added to one builder; every builder that got a
message went to `PutPackfile` exactly once, and no other builder did; each builder held exactly
the messages added to it. -/
theorem exec_packs_each_message_once {r : Repo} {w : Nat} {reg : Registry} {now : Time}
    {acts : List Action} {s : Session} (hw : 0 < w)
    (h : Session.exec r w (Session.new reg now) acts = some s) (hd : s.packer.Done w) :
    s.packer.sent = s.packer.added.map Prod.snd ∧ (s.packer.flushed.map Prod.fst).Nodup ∧
      (∀ b, b ∈ s.packer.added.map Prod.fst ↔ b ∈ s.packer.flushed.map Prod.fst) ∧
      ∀ e ∈ s.packer.flushed, e.2 = PackFile.ofMsgs (s.packer.msgsOf e.1) := by
  have hi := exec_packerInv h
  have hch : s.packer.chan = [] := (hi.exited 0 (hd 0 hw)).2.2
  have hnone : ∀ i, (s.packer.workers i).pack = none := fun i => by
    cases hp : (s.packer.workers i).pack with
    | none => rfl
    | some pack => simpa [hp] using (hi.exited i (hd i (hi.holding i pack hp).1)).1
  refine ⟨by rw [hi.fifo, hch, List.append_nil], hi.flushed_nodup,
    fun b => ⟨fun hb => ?_, fun hb => ?_⟩, hi.flushed_pack⟩
  · obtain ⟨e, he, rfl⟩ := List.mem_map.1 hb
    rcases hi.covered e.1 (hi.added_lt e he) with h | ⟨i, hi', -⟩
    · exact h
    · simp [hnone i] at hi'
  · obtain ⟨e, he, rfl⟩ := List.mem_map.1 hb
    exact hi.lt_added e.1 (hi.flushed_lt e he)

/-- Two workers, a chunk and a header: both packed, each in its own builder. -/
theorem exec_packs_chunk_and_header :
    ∃ s, Session.exec (Repo.plain 4096) 2 (Session.new ⟨State.new Time.epoch, ∅⟩ Time.epoch)
        [.put .chunk (.ofByte 1) [7], .put .snapshot (.ofByte 2) [8], .close, .recv 0, .recv 1,
          .exit 1, .exit 0] = some s ∧ s.packer.Done 2 ∧
      (s.packer.sent = s.packer.added.map Prod.snd ∧ (s.packer.flushed.map Prod.fst).Nodup ∧
        (∀ b, b ∈ s.packer.added.map Prod.fst ↔ b ∈ s.packer.flushed.map Prod.fst) ∧
        ∀ e ∈ s.packer.flushed, e.2 = PackFile.ofMsgs (s.packer.msgsOf e.1)) :=
  (fun h => ⟨_, h, by decide, exec_packs_each_message_once (by decide) h (by decide)⟩) rfl

/-! ## No deduplication -/

/-- **What a packfile indexes.**  Every packfile handed to `PutPackfile` indexes the checksums of
the messages added to its builder, in order: a worker calls `AddBlob` on every message it
receives, and its seen-sets only feed the registration lists.  So a packfile indexes a checksum
twice exactly when two messages carrying it went to its builder, and never when the messages
sent carry pairwise distinct checksums. -/
theorem exec_flushed_index_of_msgs {r : Repo} {w : Nat} {reg : Registry} {now : Time}
    {acts : List Action} {s : Session}
    (h : Session.exec r w (Session.new reg now) acts = some s) :
    (∀ e ∈ s.packer.flushed,
      e.2.index.map Blob.checksum = (s.packer.msgsOf e.1).map PackerMsg.checksum) ∧
      ((s.packer.sent.map PackerMsg.checksum).Nodup →
        ∀ e ∈ s.packer.flushed, (e.2.index.map Blob.checksum).Nodup) := by
  have hi := exec_packerInv h
  have hidx : ∀ e ∈ s.packer.flushed,
      e.2.index.map Blob.checksum = (s.packer.msgsOf e.1).map PackerMsg.checksum :=
    fun e he => by rw [hi.flushed_pack e he, PackFile.index_ofMsgs]
  refine ⟨hidx, fun hnd e he => ?_⟩
  have hsub : List.Sublist (s.packer.msgsOf e.1) s.packer.sent := by
    rw [hi.fifo]
    exact ((List.filter_sublist _).map _).trans (List.sublist_append_left _ _)
  rw [hidx e he]
  exact hnd.sublist (hsub.map _)

/-- One worker, two chunks of distinct checksums, one packfile indexing both once. -/
theorem exec_indexes_two_chunks :
    ∃ s, Session.exec (Repo.plain 4096) 1 (Session.new ⟨State.new Time.epoch, ∅⟩ Time.epoch)
        [.put .chunk (.ofByte 1) [7], .put .chunk (.ofByte 2) [8], .close, .recv 0, .recv 0,
          .exit 0] = some s ∧ (s.packer.sent.map PackerMsg.checksum).Nodup ∧
      ((∀ e ∈ s.packer.flushed,
        e.2.index.map Blob.checksum = (s.packer.msgsOf e.1).map PackerMsg.checksum) ∧
        ((s.packer.sent.map PackerMsg.checksum).Nodup →
          ∀ e ∈ s.packer.flushed, (e.2.index.map Blob.checksum).Nodup)) :=
  (fun h => ⟨_, h, by decide, exec_flushed_index_of_msgs h⟩) rfl

/-- One worker, the same chunk sent twice: both messages go to one builder, flushed at exit
with the chunk's checksum twice in its index. -/
theorem exec_packs_checksum_twice :
    ∃ s, Session.exec (Repo.plain 4096) 1 (Session.new ⟨State.new Time.epoch, ∅⟩ Time.epoch)
        [.put .chunk (.ofByte 1) [7], .put .chunk (.ofByte 1) [7], .close, .recv 0, .recv 0,
          .exit 0] = some s ∧
      ∃ e ∈ s.packer.flushed, ¬ (e.2.index.map Blob.checksum).Nodup :=
  ⟨_, rfl, by decide⟩

end Snapshot

end Plakar
