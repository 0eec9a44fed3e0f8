import CompletionRing.Proofs.Config.Environment
import CompletionRing.Proofs.Demo.Agreement
import CompletionRing.Proofs.Simulated.Region

namespace CompletionRing

variable {ring : Mapping} {l : Ledger} {start : UInt32} {released : Nat} {m : Memory ring} {p : Producer ring}

namespace Feed

-- A round of the producing loop, some steps after it has been entered at its first record. A round that owes a
-- least number of records has pushed them, or else has a record left and a free slot below the bound.
def Filling (f : Feed) (first least bound steps : Nat) : Prop :=
  match f.phase with
  | .fill pushed =>
      f.next = first + pushed ∧ pushed ≤ f.batch ∧ steps = pushed ∧
        (least ≤ pushed ∨ first < f.total ∧ first < bound)
  | .publish => first + least ≤ f.next ∧ f.next ≤ first + f.batch
  | .check => False
  | .finished => False

variable {f : Feed} {first least bound steps : Nat}

theorem Filling.mono (h : f.Filling first least bound steps) {bound' : Nat} (hle : bound ≤ bound') :
    f.Filling first least bound' steps := by
  unfold Filling at *
  cases hphase : f.phase with
  | fill pushed =>
      rw [hphase] at h
      obtain ⟨hnext, hpushed, hsteps, hleast | ⟨htotal, hbound⟩⟩ := h
      · exact ⟨hnext, hpushed, hsteps, .inl hleast⟩
      · exact ⟨hnext, hpushed, hsteps, .inr ⟨htotal, hbound.trans_le hle⟩⟩
  | check | publish | finished =>
      rw [hphase] at h
      exact h

theorem Filling.step (h : f.Filling first least (released + ring.size) steps) (hentered : f.Entered l)
    (hring : l.Describes start released m p) (hleast : least ≤ 1) (hbatch : 1 ≤ f.batch) {closed : Bool}
    (hinside : (f.step closed p m).1.phase ≠ .check) :
    (f.step closed p m).1.Filling first least (released + ring.size) (steps + 1) := by
  have hlength := hentered.length_pushed
  obtain ⟨total, batch, next, phase⟩ := f
  cases phase with
  | check | finished => exact h.elim
  | publish => exact absurd rfl hinside
  | fill pushed =>
      obtain ⟨hnext, hpushed, hsteps, hmore⟩ := h
      simp only at hnext hpushed hmore hlength hbatch
      by_cases hgo : (pushed < batch && next < total) = true
      · simp only [Feed.step, hgo, ↓reduceIte]
        simp only [Bool.and_eq_true, decide_eq_true_eq] at hgo
        by_cases hroom : l.pushed.length < released + ring.size
        · rw [hring.push_of_room _ hroom]
          simp only [Filling]
          omega
        · -- the first record had a slot below the bound, so this is not the first
          rw [hring.push_of_full _ hroom]
          simp only [Filling]
          omega
      · simp only [Feed.step, hgo]
        simp only [Bool.and_eq_true, decide_eq_true_eq] at hgo
        change first + least ≤ next ∧ next ≤ first + batch
        omega

theorem Filling.phase_eq (h : f.Filling first least bound steps) (hsteps : f.batch < steps) :
    f.phase = .publish := by
  unfold Filling at h
  cases hphase : f.phase with
  | fill pushed =>
      rw [hphase] at h
      omega
  | publish => rfl
  | check | finished =>
      rw [hphase] at h
      exact h.elim

end Feed

namespace Drainer

-- A batch of the draining loop, some steps after it was started with a record received last.
def Draining (d : Drainer) (q : Queue ring) (first shown steps : Nat) : Prop :=
  match d.phase with
  | .load => d.tally.inBatch = 0 ∧ d.tally.received = first ∧ first < shown ∧ steps = 0
  | .read tail =>
      d.tally.received = first + d.tally.inBatch ∧ d.tally.inBatch < d.tally.limit ∧
        steps = d.tally.inBatch + 1 ∧ (1 ≤ d.tally.inBatch ∨ q.head ≠ tail)
  | .release => first < d.tally.received ∧ d.tally.received ≤ first + d.tally.limit
  | .poll => False
  | .settle => False
  | .finished => False

variable {d : Drainer} {q : Queue ring} {first shown steps : Nat}

theorem Draining.mono (h : d.Draining q first shown steps) {shown' : Nat} (hle : shown ≤ shown') :
    d.Draining q first shown' steps := by
  unfold Draining at *
  cases hphase : d.phase with
  | load =>
      rw [hphase] at h
      obtain ⟨hbegun, hreceived, hshown, hsteps⟩ := h
      exact ⟨hbegun, hreceived, hshown.trans_le hle, hsteps⟩
  | poll | read tail | release | settle | finished =>
      rw [hphase] at h
      exact h

theorem Draining.step (h : d.Draining q first l.shown steps) (hfollows : d.Follows q l start released)
    (hring : l.Describes start released m p) (hlimit : 1 ≤ d.tally.limit)
    (hinside : (d.step q m).1.phase ≠ .poll) :
    (d.step q m).1.Draining (d.step q m).2.1 first l.shown (steps + 1) := by
  obtain ⟨total, tally, batch, phase⟩ := d
  cases phase with
  | poll | settle | finished => exact h.elim
  | release => exact absurd rfl hinside
  | load =>
      obtain ⟨hbegun, hreceived, hshown, hsteps⟩ := h
      simp only at hbegun hreceived hlimit
      have hne : q.head ≠ m.tail := fun heq => by
        have hall : tally.received = l.shown := (hfollows.head_eq_tail_iff hring).mp heq
        omega
      simp only [Drainer.step, Draining]
      exact ⟨by omega, by omega, by omega, .inr hne⟩
  | read tail =>
      obtain ⟨hreceived, hroom, hsteps, hmore⟩ := h
      simp only at hreceived hroom hsteps hmore
      by_cases hend : q.head = tail
      · have hsome : 1 ≤ tally.inBatch := hmore.resolve_right fun hne => hne hend
        simp only [Drainer.step, hend, ↓reduceIte, Draining]
        omega
      · simp only [Drainer.step, hend, ↓reduceIte, Tally.wantsMore, Tally.count, decide_eq_true_eq]
        by_cases hlast : tally.inBatch + 1 < tally.limit
        · simp only [if_pos hlast, Draining]
          exact ⟨by omega, hlast, by omega, .inl (by omega)⟩
        · simp only [if_neg hlast, Draining]
          omega

theorem Draining.phase_eq (h : d.Draining q first shown steps) (hsteps : d.tally.limit < steps) :
    d.phase = .release := by
  unfold Draining at h
  cases hphase : d.phase with
  | load | read tail =>
      rw [hphase] at h
      omega
  | release => rfl
  | poll | settle | finished =>
      rw [hphase] at h
      exact h.elim

end Drainer

namespace Pipeline

variable {pl : Pipeline ring}

-- What holds of every state that a run goes through, its first and its last among them.
def Throughout (inside : Pipeline ring → Prop) (pl : Pipeline ring) : List Turn → Prop
  | [] => inside pl
  | turn :: turns => inside pl ∧ Throughout inside (pl.step turn) turns

instance decidableThroughout (inside : Pipeline ring → Prop) [DecidablePred inside] :
    (pl : Pipeline ring) → (turns : List Turn) → Decidable (Throughout inside pl turns)
  | pl, [] => inferInstanceAs (Decidable (inside pl))
  | pl, turn :: turns =>
      have := decidableThroughout inside (pl.step turn) turns
      inferInstanceAs (Decidable (inside pl ∧ Throughout inside (pl.step turn) turns))

theorem Throughout.first {inside : Pipeline ring → Prop} {turns : List Turn}
    (h : pl.Throughout inside turns) : inside pl := by
  cases turns with
  | nil => exact h
  | cons turn turns => exact h.1

-- The other loop may only free slots in between.
theorem Flows.filling_run (h : pl.Flows l start released) {first least steps : Nat}
    (hfilling : pl.feed.Filling first least (released + ring.size) steps) (hleast : least ≤ 1)
    (hbatch : 1 ≤ pl.feed.batch) {turns : List Turn}
    (hinside : pl.Throughout (fun pl => pl.feed.phase ≠ .check) turns) :
    ∃ bound, (pl.run turns).feed.Filling first least bound (steps + turns.count .feed) := by
  induction turns generalizing pl l released steps with
  | nil => exact ⟨_, hfilling⟩
  | cons turn turns ih =>
      obtain ⟨_, hrest⟩ := hinside
      obtain ⟨released', hle, hflows⟩ := h.step turn
      have hbatch' : 1 ≤ (pl.step turn).feed.batch := (pl.bounds_step turn).1 ▸ hbatch
      cases turn with
      | feed =>
          have hstep := hfilling.step h.entered h.describes hleast hbatch hrest.first
          obtain ⟨bound, hlast⟩ := ih hflows (hstep.mono (by omega)) hbatch' hrest
          refine ⟨bound, ?_⟩
          rw [List.count_cons_self, ← Nat.add_assoc, Nat.add_right_comm]
          exact hlast
      | drain =>
          obtain ⟨bound, hlast⟩ := ih hflows (hfilling.mono (by omega)) hbatch' hrest
          refine ⟨bound, ?_⟩
          rw [List.count_cons_of_ne (by decide)]
          exact hlast

-- The other loop may only show more records in between.
theorem Flows.draining_run (h : pl.Flows l start released) {first steps : Nat}
    (hdraining : pl.drainer.Draining pl.halves.queue first l.shown steps)
    (hlimit : 1 ≤ pl.drainer.tally.limit) {turns : List Turn}
    (hinside : pl.Throughout (fun pl => pl.drainer.phase ≠ .poll) turns) :
    ∃ shown, (pl.run turns).drainer.Draining (pl.run turns).halves.queue first shown
      (steps + turns.count .drain) := by
  induction turns generalizing pl l released steps with
  | nil => exact ⟨_, hdraining⟩
  | cons turn turns ih =>
      obtain ⟨_, hrest⟩ := hinside
      obtain ⟨released', _, hflows⟩ := h.step turn
      have hlimit' : 1 ≤ (pl.step turn).drainer.tally.limit := (pl.bounds_step turn).2 ▸ hlimit
      cases turn with
      | feed =>
          have hgrows := pl.feed.grows_enter pl.halves.producer pl.halves.memory h.describes.shown_le
          obtain ⟨shown, hlast⟩ := ih hflows (hdraining.mono hgrows.shown) hlimit' hrest
          refine ⟨shown, ?_⟩
          rw [List.count_cons_of_ne (by decide)]
          exact hlast
      | drain =>
          have hstep := hdraining.step h.follows h.describes hlimit hrest.first
          obtain ⟨shown, hlast⟩ := ih hflows hstep hlimit' hrest
          refine ⟨shown, ?_⟩
          rw [List.count_cons_self, ← Nat.add_assoc, Nat.add_right_comm]
          exact hlast

-- What comes of a round of the producing loop that is entered in a state, as long as the loop has not come back
-- to its beginning. The round ends with a publication.
structure RoundBounded (pl : Pipeline ring) (later : List Turn) : Prop where
  ends : pl.feed.batch < later.count .feed → ((pl.step .feed).run later).feed.phase = .publish
  at_most : ((pl.step .feed).run later).feed.phase = .publish →
    ((pl.step .feed).run later).feed.next ≤ pl.feed.next + pl.feed.batch
  at_least : ((pl.step .feed).run later).feed.phase = .publish →
    0 < pl.halves.producer.available pl.halves.memory →
      pl.feed.next + 1 ≤ ((pl.step .feed).run later).feed.next

-- The same for a batch of the draining loop, which ends with a release.
structure BatchBounded (pl : Pipeline ring) (later : List Turn) : Prop where
  ends : pl.drainer.tally.limit < later.count .drain → ((pl.step .drain).run later).drainer.phase = .release
  at_most : ((pl.step .drain).run later).drainer.phase = .release →
    ((pl.step .drain).run later).drainer.tally.received ≤ pl.drainer.tally.received + pl.drainer.tally.limit
  at_least : ((pl.step .drain).run later).drainer.phase = .release →
    pl.drainer.tally.received + 1 ≤ ((pl.step .drain).run later).drainer.tally.received

theorem Flows.filling_of_check (h : pl.Flows l start released) (hcheck : pl.feed.phase = .check)
    (hnext : pl.feed.next < pl.feed.total) {least : Nat}
    (hleast : least = 0 ∨ pl.feed.next < released + ring.size) :
    (pl.step .feed).feed.Filling pl.feed.next least (released + ring.size) 0 := by
  have hopen := h.follows.closed_eq
  obtain ⟨⟨m, p, q⟩, ⟨total, batch, next, phase⟩, drainer⟩ := pl
  cases hcheck
  simp only at hnext hleast hopen
  simp only [Pipeline.step, Feed.step, hnext, hopen, decide_true, Bool.not_false, Bool.and_self, ↓reduceIte]
  refine ⟨rfl, Nat.zero_le _, rfl, ?_⟩
  exact hleast.imp Nat.le_of_eq fun hroom => ⟨hnext, hroom⟩

theorem Flows.draining_of_poll (h : pl.Flows l start released) (hpoll : pl.drainer.phase = .poll)
    (hpending : pl.halves.queue.hasCompletions pl.halves.memory = true) :
    (pl.step .drain).drainer.Draining (pl.step .drain).halves.queue pl.drainer.tally.received l.shown 0 := by
  have hhead := h.follows.head_eq_tail_iff h.describes
  have hreceived := h.follows.received_le
  obtain ⟨⟨m, p, q⟩, feed, ⟨total, tally, batch, phase⟩⟩ := pl
  cases hpoll
  simp only at hpending hhead hreceived
  simp only [Pipeline.step, Drainer.step, hpending, ↓reduceIte]
  refine ⟨rfl, rfl, lt_of_le_of_ne hreceived fun heq => ?_, rfl⟩
  simp [Queue.hasCompletions, hhead.mpr heq] at hpending

theorem Flows.roundBounded (h : pl.Flows l start released) (hbatch : 1 ≤ pl.feed.batch)
    (hcheck : pl.feed.phase = .check) (hnext : pl.feed.next < pl.feed.total) {later : List Turn}
    (hinside : (pl.step .feed).Throughout (fun pl => pl.feed.phase ≠ .check) later) :
    pl.RoundBounded later := by
  obtain ⟨released', hle, hflows⟩ := h.step .feed
  have hbatch_eq : ((pl.step .feed).run later).feed.batch = pl.feed.batch :=
    ((pl.step .feed).bounds_run later).1.trans (pl.bounds_step .feed).1
  have hrun : ∀ least ≤ 1, least = 0 ∨ pl.feed.next < released + ring.size →
      ∃ bound, ((pl.step .feed).run later).feed.Filling pl.feed.next least bound (0 + later.count .feed) := by
    intro least hleast hbegun
    have hfilling := (h.filling_of_check hcheck hnext hbegun).mono (Nat.add_le_add_right hle ring.size)
    exact hflows.filling_run hfilling hleast ((pl.bounds_step .feed).1 ▸ hbatch) hinside
  constructor
  case ends =>
    intro hcount
    obtain ⟨bound, hlast⟩ := hrun 0 (Nat.zero_le 1) (.inl rfl)
    apply hlast.phase_eq
    omega
  case at_most =>
    intro hphase
    obtain ⟨bound, hlast⟩ := hrun 0 (Nat.zero_le 1) (.inl rfl)
    rw [Feed.Filling, hphase] at hlast
    omega
  case at_least =>
    intro hphase havailable
    have hroom : pl.feed.next < released + ring.size := by
      rw [UInt32.lt_iff_toNat_lt, h.describes.toNat_available, h.entered.length_pushed] at havailable
      simp only [UInt32.toNat_zero] at havailable
      omega
    obtain ⟨bound, hlast⟩ := hrun 1 (Nat.le_refl 1) (.inr hroom)
    rw [Feed.Filling, hphase] at hlast
    exact hlast.1

theorem Flows.batchBounded (h : pl.Flows l start released) (hlimit : 1 ≤ pl.drainer.tally.limit)
    (hpoll : pl.drainer.phase = .poll) (hpending : pl.halves.queue.hasCompletions pl.halves.memory = true)
    {later : List Turn}
    (hinside : (pl.step .drain).Throughout (fun pl => pl.drainer.phase ≠ .poll) later) :
    pl.BatchBounded later := by
  obtain ⟨released', _, hflows⟩ := h.step .drain
  have hlimit_eq : ((pl.step .drain).run later).drainer.tally.limit = pl.drainer.tally.limit :=
    ((pl.step .drain).bounds_run later).2.trans (pl.bounds_step .drain).2
  obtain ⟨shown, hlast⟩ := hflows.draining_run (h.draining_of_poll hpoll hpending)
    ((pl.bounds_step .drain).2 ▸ hlimit) hinside
  constructor
  case ends =>
    intro hcount
    apply hlast.phase_eq
    omega
  case at_most =>
    intro hphase
    rw [Drainer.Draining, hphase] at hlast
    exact hlimit_eq ▸ hlast.2
  case at_least =>
    intro hphase
    rw [Drainer.Draining, hphase] at hlast
    exact hlast.1

end Pipeline

namespace CommandLine

theorem exists_drainUntil_iff (q : Queue ring) (m : Memory ring) (t : Tally) (period : UInt64) :
    (∃ drained, drainUntil q m t period.toNat = .ok drained) ↔ period ≠ 0 := by
  have hzero : period.toNat = 0 ↔ period = 0 := UInt64.toNat_inj (b := 0)
  by_cases hperiod : period = 0
  · simp [drainUntil, hperiod]
  · simp [drainUntil, hzero, hperiod]

theorem failure_eq_of_check {c : Config} (hcheck : c.check = .ok ()) :
    (pump c).2 = if c.pollInterval = 0 then some .zeroPeriod else none := by
  obtain ⟨ring, hsplit⟩ := Simulated.split_placement_of_check hcheck
  simp only [pump, Simulated.ofConfig_of_check hcheck, hsplit]
  by_cases hpoll : c.pollInterval = 0
  · rw [if_pos hpoll, if_pos hpoll]
  · rw [if_neg hpoll, if_neg hpoll]
    obtain ⟨hregular, _⟩ := Pipeline.finish_tally ring 0 c.total.toNat _ c.batchLimit.toNat (batch_pos_of_check hcheck)
    exact verdict_eq_none _ hregular.outOfOrder_eq

-- Only a clock that cannot tick stops the demo on an accepted configuration. Whatever the order of the steps, no
-- round of the producing loop that finds a free slot and no batch of the draining loop is empty or too long.
theorem accepted_runs_where_clock_ticks {c : Config} (haccepted : c.Accepted) :
    (pump c).2 = (if c.pollInterval = 0 then some .zeroPeriod else none) ∧
    (∀ (ring : Mapping) (q : Queue ring) (m : Memory ring) (t : Tally),
      (∃ drained, drainUntil q m t c.pollInterval.toNat = .ok drained) ↔ c.pollInterval ≠ 0) ∧
    ∃ simulated, Simulated.ofConfig c = .ok simulated ∧
      (∃ split, simulated.split Simulated.placement = .ok split) ∧
      ∀ (base : UInt64) (ring : Mapping) (halves : Halves ring),
        simulated.split base = .ok ⟨ring, halves⟩ → ∀ before later : List Turn,
          let pl := (Pipeline.start halves c.total.toNat c.producerBatch.toNat c.batchLimit.toNat).run before
          (pl.feed.total = c.total.toNat ∧ pl.feed.batch = c.producerBatch.toNat ∧
            pl.drainer.tally.limit = c.batchLimit.toNat) ∧
          (pl.feed.next ≤ pl.feed.total ∧ pl.drainer.tally.received ≤ pl.feed.total) ∧
          (pl.feed.phase = .check → pl.feed.next < pl.feed.total →
            (pl.step .feed).Throughout (fun pl => pl.feed.phase ≠ .check) later → pl.RoundBounded later) ∧
          (pl.drainer.phase = .poll → pl.halves.queue.hasCompletions pl.halves.memory = true →
            (pl.step .drain).Throughout (fun pl => pl.drainer.phase ≠ .poll) later →
              pl.BatchBounded later) := by
  have hcheck := haccepted.check_eq
  obtain ⟨_, _, hlimit, _⟩ := c.check_eq_ok_iff.mp hcheck
  obtain ⟨ring, hsplit⟩ := Simulated.split_placement_of_check hcheck
  refine ⟨failure_eq_of_check hcheck, fun _ _ _ _ => exists_drainUntil_iff _ _ _ _, ⟨c.entries, 0⟩,
    Simulated.ofConfig_of_check hcheck, ⟨_, hsplit⟩, ?_⟩
  intro base ring halves hhalves before later pl
  obtain ⟨_, rfl⟩ := (Simulated.split_eq_ok_iff _ _ _ _).mp hhalves
  let begun := Pipeline.start (.split (Memory.fresh ring 0)) c.total.toNat c.producerBatch.toNat
    c.batchLimit.toNat
  obtain ⟨htotal, _⟩ := begun.totals_run before
  obtain ⟨hbatch_eq, hlimit_eq⟩ := begun.bounds_run before
  obtain ⟨released, hflows⟩ : ∃ released, pl.Flows (begun.ledger .blank before) 0 released :=
    (Pipeline.flows_start ring 0 _ _ _).run before
  obtain ⟨hreceived, hpublished, _⟩ := hflows.published
  have hsome : 1 ≤ pl.feed.batch := (batch_pos_of_check hcheck).trans_eq hbatch_eq.symm
  have hsome' : 1 ≤ pl.drainer.tally.limit := by
    rw [hlimit_eq]
    exact Nat.one_le_iff_ne_zero.mpr fun h => hlimit (UInt64.toNat_inj.mp h)
  refine ⟨⟨htotal, hbatch_eq, hlimit_eq⟩, ⟨hflows.entered.next_le, hreceived.trans hpublished⟩, ?_, ?_⟩
  · intro hbegin hnext hinside
    exact hflows.roundBounded hsome hbegin hnext hinside
  · intro hbegin hpending hinside
    exact hflows.batchBounded hsome' hbegin hpending hinside

-- A ring of two slots is filled and one of its records is drained. The next round finds one slot free and is
-- refused a second one; the batch of the other side goes on in between.
theorem accepted_runs_in_two_slots :
    let c : Config := ⟨2, 1, 1, 2, 9⟩
    let ring : Mapping := ⟨(⟨2, 0⟩ : Simulated).layout 4096, rfl⟩
    let before : List Turn := [.feed, .feed, .feed, .feed, .feed, .drain, .drain, .drain, .drain]
    let round : List Turn := [.feed, .drain, .feed, .drain]
    let batch : List Turn := [.drain, .feed, .drain]
    let pl := (Pipeline.start (.split (Memory.fresh ring 0)) c.total.toNat c.producerBatch.toNat
      c.batchLimit.toNat).run before
    c.Accepted ∧ (pump c).2 = none ∧ pl.halves.producer.available pl.halves.memory = 1 ∧
      pl.RoundBounded round ∧ ((pl.step .feed).run round).feed.phase = .publish ∧
      pl.BatchBounded batch ∧ ((pl.step .drain).run batch).drainer.phase = .release := by
  intro c ring before round batch pl
  have haccepted : c.Accepted := .check (c.check_eq_ok_iff.mpr (by decide))
  obtain ⟨hpump, _, simulated, hsimulated, _, hall⟩ := accepted_runs_where_clock_ticks haccepted
  obtain ⟨_, rfl⟩ := (Simulated.create_eq_ok_iff 2 0 simulated).mp hsimulated
  have hsplit := (Simulated.split_eq_ok_iff ⟨2, 0⟩ 4096 ring (.split (.fresh ring 0))).mpr ⟨rfl, rfl⟩
  obtain ⟨_, _, hround, _⟩ := hall 4096 ring _ hsplit before round
  obtain ⟨_, _, _, hbatch⟩ := hall 4096 ring _ hsplit before batch
  refine ⟨haccepted, hpump, by decide +kernel, hround ?_ ?_ ?_, by decide +kernel, hbatch ?_ ?_ ?_,
    by decide +kernel⟩
  all_goals decide +kernel

-- No rule asks for a pause between two looks at the ring. The clock refuses to tick without one.
theorem accepted_fails_without_pause :
    let c : Config := { Config.standard with pollInterval := 0 }
    let env : Environment := fun name => if name = Config.pollIntervalVariable then some "0".toUTF8 else none
    c.check = .ok () ∧ Config.ofDocument "\x7b\"poll_interval_ms\":0\x7d" = .ok c ∧
      Config.ofEnvironment env = .ok c ∧ (work env).2 = some .zeroPeriod :=
  ⟨rfl, by decide +kernel, rfl, by decide +kernel⟩

-- No environment asks for fewer records than the largest ring has slots.
theorem entries_lt_total {env : Environment} {c : Config} (h : Config.ofEnvironment env = .ok c) :
    c.entries.toNat < c.total.toNat := by
  have hgives := Config.gives_ofEnvironment env
  rw [h] at hgives
  cases hgives with
  | checked _ _ _ hoverridden hjudged =>
      cases hjudged with
      | accepted hcheck =>
          obtain ⟨_, hmax, _⟩ := c.check_eq_ok_iff.mp hcheck
          have hentries : c.entries.toNat ≤ 65536 := UInt32.le_iff_toNat_le.mp hmax
          have htotal : c.total.toNat = 100000 := congrArg UInt64.toNat hoverridden.total_eq
          omega

-- So the producing loop never ends where nobody drains, for want of a clock.
theorem unfinished_of_ofEnvironment {env : Environment} {c : Config} (h : Config.ofEnvironment env = .ok c)
    (hring : ring.entries = c.entries) (count : Nat) :
    ((Supply.start (.split (.fresh ring 0)) c.total.toNat c.producerBatch.toNat).run
      (List.replicate count .feed)).feed.phase ≠ .finished := by
  have hbatch := batch_pos_of_check (Config.check_of_ofEnvironment h)
  have hlive := Pipeline.live_start ring 0 c.total.toNat c.producerBatch.toNat c.batchLimit.toNat hbatch
  apply hlive.sound.unfinished rfl
  change 0 + ring.entries.toNat < 0 + c.total.toNat
  rw [hring, Nat.zero_add, Nat.zero_add]
  exact entries_lt_total h

end CommandLine

end CompletionRing
