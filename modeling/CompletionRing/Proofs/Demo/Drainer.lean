import CompletionRing.Demo.DrainLoop
import CompletionRing.Demo.Pipeline
import CompletionRing.Proofs.Demo.Feed

namespace CompletionRing

namespace Tally

-- The counters of a tally that has met the first records of the demo, as the number of these determines
-- them.
structure Regular (t : Tally) : Prop where
  expected_eq : t.expected = .ofNat t.received
  failures_eq : t.failures = t.received / 7
  outOfOrder_eq : t.outOfOrder = 0

theorem regular_start (limit : Nat) : (start limit).Regular :=
  ⟨rfl, (Nat.zero_div 7).symm, rfl⟩

variable {t : Tally}

theorem Regular.newBatch (h : t.Regular) : t.newBatch.Regular :=
  ⟨h.expected_eq, h.failures_eq, h.outOfOrder_eq⟩

theorem Regular.count (h : t.Regular) : (t.count (demoRecord t.received)).Regular where
  expected_eq := by
    change UInt64.ofNat t.received + 1 = .ofNat (t.received + 1)
    rw [UInt64.ofNat_add]
    rfl
  failures_eq := by
    have hfailures := h.failures_eq
    simp only [Tally.count, isError_demoRecord]
    split <;> omega
  outOfOrder_eq := by
    simp [Tally.count, demoRecord, h.expected_eq, h.outOfOrder_eq]

end Tally

namespace Drainer

variable {ring : Mapping} {d : Drainer} {q : Queue ring} {l : Ledger} {start : UInt32} {released : Nat}
  {m : Memory ring} {p : Producer ring}

-- What holds of the records that are consumed at each point of a loop. The tail that a batch has loaded
-- may be behind the shared one, and only inside a batch are there consumed records that were not released.
def Holds (d : Drainer) (l : Ledger) (start : UInt32) (released : Nat) : Prop :=
  match d.phase with
  | .poll => released = d.tally.received
  | .load => released = d.tally.received
  | .read tail => ∃ limit, d.tally.received ≤ limit ∧ limit ≤ l.shown ∧ tail = start + .ofNat limit
  | .release => True
  | .settle => released = d.tally.received
  | .finished => released = d.tally.received ∧ d.total ≤ d.tally.received

-- A loop has received the first of the records that were shown.
structure Follows (d : Drainer) (q : Queue ring) (l : Ledger) (start : UInt32) (released : Nat) : Prop where
  regular : d.tally.Regular
  closed_eq : q.closed = false
  head_eq : q.head = start + .ofNat d.tally.received
  released_le : released ≤ d.tally.received
  received_le : d.tally.received ≤ l.shown
  holds : d.Holds l start released

theorem Follows.grows (h : d.Follows q l start released) {later : Ledger} (hgrows : l.Grows later) :
    d.Follows q later start released where
  regular := h.regular
  closed_eq := h.closed_eq
  head_eq := h.head_eq
  released_le := h.released_le
  received_le := h.received_le.trans hgrows.shown
  holds := by
    have hholds := h.holds
    unfold Holds at *
    cases hphase : d.phase with
    | read tail =>
        rw [hphase] at hholds
        obtain ⟨limit, hreceived, hshown, htail⟩ := hholds
        exact ⟨limit, hreceived, hshown.trans hgrows.shown, htail⟩
    | poll | load | release | settle | finished =>
        rw [hphase] at hholds
        exact hholds

-- Something is pending for a loop as long as it has not received all that was shown.
theorem Follows.head_eq_tail_iff (h : d.Follows q l start released) (hring : l.Describes start released m p) :
    q.head = m.tail ↔ d.tally.received = l.shown := by
  have hdistance := hring.toNat_tail_sub h.released_le h.received_le
  have hreceived := h.received_le
  rw [← h.head_eq] at hdistance
  constructor
  · intro heq
    rw [heq, UInt32.sub_self, UInt32.toNat_zero] at hdistance
    omega
  · intro heq
    rw [h.head_eq, hring.tail_eq, heq]

theorem total_step (d : Drainer) (q : Queue ring) (m : Memory ring) : (d.step q m).1.total = d.total := by
  unfold Drainer.step
  repeat' split
  all_goals rfl

theorem follows_start (total limit : Nat) (ring : Mapping) (begin : UInt32) :
    (Drainer.start total limit).Follows (Queue.attach (Memory.fresh ring begin)) .blank begin 0 where
  regular := Tally.regular_start limit
  closed_eq := rfl
  head_eq := (Ledger.Describes.fresh ring begin).head_eq
  released_le := Nat.le_refl _
  received_le := Nat.le_refl _
  holds := rfl

-- The number of released records after a step.
def releasing (d : Drainer) (released : Nat) : Nat :=
  match d.phase with
  | .release => d.tally.received
  | _ => released

theorem Follows.le_releasing (h : d.Follows q l start released) : released ≤ d.releasing released := by
  unfold releasing
  split
  · exact h.released_le
  · exact Nat.le_refl _

-- A step of a loop takes the next record of the ledger or releases what it has taken. A record before the
-- loaded tail was shown, and nothing has been written over it while it was not released.
theorem Follows.step (h : d.Follows q l start released) (hring : l.Describes start released m p)
    (hrecords : ∀ i (hi : i < l.pushed.length), l.pushed[i] = demoRecord i) :
    let after := d.step q m
    after.1.Follows after.2.1 l start (d.releasing released) ∧
      l.Describes start (d.releasing released) after.2.2 p := by
  obtain ⟨total, tally, batch, phase⟩ := d
  obtain ⟨hregular, hclosed, hhead, hreleased, hreceived, hholds⟩ := h
  cases phase with
  | poll =>
      by_cases hsome : q.hasCompletions m = true
      · simp only [Drainer.step, hsome, ↓reduceIte]
        exact ⟨⟨hregular.newBatch, hclosed, hhead, hreleased, hreceived, hholds⟩, hring⟩
      · simp only [Drainer.step, hsome]
        exact ⟨⟨hregular, hclosed, hhead, hreleased, hreceived, hholds⟩, hring⟩
  | load =>
      refine ⟨⟨hregular, hclosed, hhead, hreleased, hreceived, ?_⟩, hring⟩
      exact ⟨l.shown, hreceived, Nat.le_refl _, hring.tail_eq⟩
  | read tail =>
      obtain ⟨limit, hle, hlimit, htail⟩ := hholds
      by_cases hend : q.head = tail
      · simp only [Drainer.step, hend, ↓reduceIte]
        exact ⟨⟨hregular, hclosed, hhead, hreleased, hreceived, trivial⟩, hring⟩
      · have hlt : tally.received < limit := by
          refine lt_of_le_of_ne hle fun heq => hend ?_
          rw [hhead, htail, ← heq]
        have hread : m.read q.head = demoRecord tally.received := by
          have hi : tally.received < l.pushed.length := by
            have := hring.shown_le
            omega
          rw [hhead, hring.read_eq _ hi hreleased, hrecords]
        simp only [Drainer.step, hend, hread, ↓reduceIte]
        refine ⟨⟨hregular.count, hclosed, ?_, Nat.le_succ_of_le hreleased, ?_, ?_⟩, hring⟩
        · simp only [Queue.advance, hhead, Tally.count]
          exact (cursor_succ start tally.received).symm
        · exact hlt.trans_le hlimit
        · unfold Holds
          cases (tally.count (demoRecord tally.received)).wantsMore with
          | true => exact ⟨limit, hlt, hlimit, htail⟩
          | false => trivial
  | release =>
      refine ⟨⟨hregular, hclosed, hhead, Nat.le_refl _, hreceived, rfl⟩, ?_⟩
      simp only [Drainer.step, hhead]
      exact hring.release hreleased hreceived
  | settle =>
      refine ⟨⟨hregular, hclosed, hhead, hreleased, hreceived, ?_⟩, hring⟩
      simp only [Drainer.step, Holds]
      by_cases hall : total ≤ tally.received
      · simp only [hall, ↓reduceIte]
        exact ⟨hholds, trivial⟩
      · simp only [hall]
        exact hholds
  | finished => exact ⟨⟨hregular, hclosed, hhead, hreleased, hreceived, hholds⟩, hring⟩

-- A step with nobody else at the ring.
def stepAlone (s : Drainer × Queue ring × Memory ring) : Drainer × Queue ring × Memory ring :=
  s.1.step s.2.1 s.2.2

-- The calls of a drain that are left are the reads before the tail, whatever the cursors claim.
theorem exists_stepAlone_eq_drainLoop (total batch left processed : Nat) (hleft : left < 2 ^ 32)
    (tally : Tally) (q : Queue ring) (m : Memory ring) :
    let out := Queue.drainLoop Tally.handler left processed q m tally
    ∃ k, stepAlone^[k] (⟨total, tally, batch, .read (q.head + .ofNat left)⟩, q, m) =
      (⟨total, out.state, batch + 1, .poll⟩, out.queue, out.memory) := by
  induction left generalizing processed tally q with
  | zero =>
      have hend : q.head = q.head + .ofNat 0 := (UInt32.add_zero _).symm
      refine ⟨2, ?_⟩
      simp only [Function.iterate_succ_apply, Function.iterate_zero_apply, stepAlone, Drainer.step, ← hend,
        ↓reduceIte]
      rfl
  | succ left ih =>
      have hne : q.head ≠ q.head + .ofNat (left + 1) := by
        intro h
        have hsub := toNat_cursor_sub q.head (Nat.zero_le (left + 1)) (by omega)
        have hzero : q.head + .ofNat 0 = q.head := UInt32.add_zero _
        rw [← h, hzero, UInt32.sub_self] at hsub
        exact Nat.succ_ne_zero left hsub.symm
      cases hmore : (tally.count (m.read q.head)).wantsMore with
      | true =>
          obtain ⟨k, hk⟩ := ih (processed + 1) (by omega) (tally.count (m.read q.head)) q.advance
          refine ⟨k + 1, ?_⟩
          have htail : q.advance.head + .ofNat left = q.head + .ofNat (left + 1) := cursor_one_add q.head left
          rw [htail] at hk
          simp only [Function.iterate_succ_apply, stepAlone, Drainer.step, hne, hmore, ↓reduceIte,
            Queue.drainLoop, Tally.handler]
          exact hk
      | false =>
          refine ⟨2, ?_⟩
          simp only [Function.iterate_succ_apply, Function.iterate_zero_apply, stepAlone, Drainer.step, hne,
            hmore, ↓reduceIte, Queue.drainLoop, Tally.handler]
          rfl

-- Left alone, a loop that finds something pending runs through one batch.
theorem exists_stepAlone_eq_runBatch (total : Nat) (l : DrainLoop ring)
    (hpending : l.queue.hasCompletions l.memory = true) :
    ∃ k, stepAlone^[k] (⟨total, l.tally, l.batch, .poll⟩, l.queue, l.memory) =
      (⟨total, l.runBatch.tally, l.runBatch.batch, .poll⟩, l.runBatch.queue, l.runBatch.memory) := by
  obtain ⟨q, m, tally, batch, events⟩ := l
  have hopen : q.closed = false := by
    cases hclosed : q.closed with
    | false => rfl
    | true => simp [Queue.hasCompletions, hclosed] at hpending
  obtain ⟨k, hk⟩ := exists_stepAlone_eq_drainLoop total batch (m.tail - q.head).toNat 0
    (m.tail - q.head).toNat_lt tally.newBatch q m
  rw [← cursor_eq_add] at hk
  refine ⟨k + 2, ?_⟩
  simp only [Function.iterate_succ_apply, stepAlone, Drainer.step, hpending, ↓reduceIte, DrainLoop.runBatch,
    Queue.drain, hopen]
  exact hk

end Drainer

end CompletionRing
