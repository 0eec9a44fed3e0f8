import CompletionRing.Proofs.Demo.Batching

namespace CompletionRing

variable {ring : Mapping}

namespace DrainLoop

theorem sum_sizes (pending size batches : Nat) :
    ((List.range batches).map fun k => min size (pending - k * size)).sum = min pending (batches * size) := by
  induction batches with
  | zero => simp
  | succ batches ih =>
      rw [List.range_succ, List.map_append, List.sum_append, ih, Nat.succ_mul]
      simp only [List.map_cons, List.map_nil, List.sum_cons, List.sum_nil]
      omega

theorem size_of_not_last {pending size k : Nat} (hsize : 1 ≤ size) (hk : k + 1 < (pending + size - 1) / size) :
    min size (pending - k * size) = size := by
  have hle := (Nat.le_div_iff_mul_le hsize).mp (Nat.succ_le_of_lt hk)
  rw [Nat.succ_mul, Nat.succ_mul] at hle
  omega

end DrainLoop

namespace Drainer

-- A loop with nobody else at its ring, by the records that it has received and those before it.
structure Sole (d : Drainer) (q : Queue ring) (m : Memory ring) (all : Nat) : Prop where
  closed_eq : q.closed = false
  sum_eq : d.tally.received + (m.tail - q.head).toNat = all
  read_eq (tail : UInt32) (hphase : d.phase = .read tail) : tail = m.tail
  settle_eq (hphase : d.phase = .settle) : q.head = m.tail

variable {d : Drainer} {q : Queue ring} {m : Memory ring} {all : Nat}

theorem Sole.step (h : d.Sole q m all) :
    let after := d.step q m
    after.1.Sole after.2.1 after.2.2 all := by
  obtain ⟨total, tally, batch, phase⟩ := d
  obtain ⟨hopen, hsum, hread, hsettle⟩ := h
  cases phase with
  | poll =>
      cases hsome : q.hasCompletions m with
      | true =>
          simp only [Drainer.step, hsome, ↓reduceIte]
          exact ⟨hopen, hsum, by simp, by simp⟩
      | false =>
          have hend : q.head = m.tail := by simpa [Queue.hasCompletions, hopen] using hsome
          simp only [Drainer.step, hsome]
          exact ⟨hopen, hsum, by simp, fun _ => hend⟩
  | load => exact ⟨hopen, hsum, fun _ hphase => (Phase.read.inj hphase).symm, by simp [Drainer.step]⟩
  | release => exact ⟨hopen, hsum, by simp [Drainer.step], by simp [Drainer.step]⟩
  | finished => exact ⟨hopen, hsum, hread, hsettle⟩
  | settle =>
      refine ⟨hopen, hsum, ?_, ?_⟩
      · simp only [Drainer.step]
        split <;> simp
      · simp only [Drainer.step]
        split <;> simp
  | read tail =>
      obtain rfl := hread tail rfl
      by_cases hend : q.head = m.tail
      · simp only [Drainer.step, hend, ↓reduceIte]
        exact ⟨hopen, hsum, by simp, by simp⟩
      · have hsome : 1 ≤ (m.tail - q.head).toNat := by
          refine Nat.one_le_iff_ne_zero.mpr fun hnone => hend ?_
          rw [cursor_eq_add q.head m.tail, hnone]
          exact (UInt32.add_zero _).symm
        have hless : (m.tail - q.advance.head).toNat = (m.tail - q.head).toNat - 1 :=
          Queue.toNat_sub_taken q.head m.tail hsome
        simp only [Drainer.step, hend, ↓reduceIte]
        refine ⟨hopen, ?_, ?_, ?_⟩
        · simp only [Tally.count, hless]
          simp only at hsum
          omega
        · intro tail hphase
          split at hphase
          · exact (Phase.read.inj hphase).symm
          · cases hphase
        · intro hphase
          split at hphase <;> cases hphase

theorem Sole.iterate (h : d.Sole q m all) (j : Nat) :
    let after := stepAlone^[j] (d, q, m)
    after.1.Sole after.2.1 after.2.2 all := by
  induction j generalizing d q m with
  | zero => exact h
  | succ j ih => exact ih h.step

-- With enough before it a loop never asks twice whether its total has arrived.
theorem Sole.finished_of_settle (h : d.Sole q m all) (hsettle : d.phase = .settle) (htotal : d.total ≤ all) :
    (stepAlone (d, q, m)).1.phase = .finished := by
  have hreceived : d.tally.received = all := by
    have hsum := h.sum_eq
    rwa [h.settle_eq hsettle, UInt32.sub_self, UInt32.toNat_zero, Nat.add_zero] at hsum
  simp only [stepAlone, Drainer.step, hsettle, hreceived, htotal, ↓reduceIte]

theorem total_iterate (s : Drainer × Queue ring × Memory ring) (j : Nat) : (stepAlone^[j] s).1.total = s.1.total := by
  induction j generalizing s with
  | zero => rfl
  | succ j ih => exact (ih (stepAlone s)).trans (total_step s.1 s.2.1 s.2.2)

theorem exists_stepAlone_eq_runBatches (total left : Nat) (l : DrainLoop ring) :
    let out := DrainLoop.runBatches left l
    ∃ k, stepAlone^[k] (⟨total, l.tally, l.batch, .poll⟩, l.queue, l.memory) =
      (⟨total, out.tally, out.batch, .poll⟩, out.queue, out.memory) := by
  induction left generalizing l with
  | zero => exact ⟨0, rfl⟩
  | succ left ih =>
      cases hsome : l.queue.hasCompletions l.memory with
      | false =>
          simp only [DrainLoop.runBatches, hsome]
          exact ⟨0, rfl⟩
      | true =>
          obtain ⟨k, hk⟩ := exists_stepAlone_eq_runBatch total l hsome
          obtain ⟨k', hk'⟩ := ih l.runBatch
          refine ⟨k' + k, ?_⟩
          simp only [DrainLoop.runBatches, hsome, ↓reduceIte, Function.iterate_add_apply, hk]
          exact hk'

theorem stepAlone_stepAlone_of_complete {total batch : Nat} {tally : Tally} (hnone : q.hasCompletions m = false)
    (hcomplete : total ≤ tally.received) :
    stepAlone (stepAlone (⟨total, tally, batch, .poll⟩, q, m)) = (⟨total, tally, batch, .finished⟩, q, m) := by
  simp [stepAlone, Drainer.step, hnone, hcomplete]

end Drainer

namespace Tally

-- The counters of a tally that has met some records one after another, whatever batches they came in.
structure Counts (t after : Tally) (records : List Completion) : Prop where
  newBatch_eq : after.newBatch = (records.foldl count t).newBatch
  expected_eq : after.expected = (records.map fun c => c.userData + 1).getLast?.getD t.expected
  received_eq : after.received = t.received + records.length
  failures_eq : after.failures = t.failures + records.countP fun c => c.result < 0
  outOfOrder_eq : after.outOfOrder = t.outOfOrder + breaks t.expected records

theorem counts_of_newBatch_eq {t after : Tally} {records : List Completion}
    (h : after.newBatch = (records.foldl count t).newBatch) : t.Counts after records := by
  have hcounters := h
  rw [foldl_count] at hcounters
  exact ⟨h, congrArg expected hcounters, congrArg received hcounters, congrArg failures hcounters,
    congrArg outOfOrder hcounters⟩

end Tally

-- Draining is the counting of the pending records one after another, however a limit cuts them into batches. It takes
-- one tick of the clock.
theorem drain_folds_pending (q : Queue ring) (hopen : q.closed = false) (m : Memory ring) (t : Tally)
    {period total : Nat} (hperiod : period ≠ 0) (htotal : total ≤ t.received + (q.count m).toNat) :
    let n := (q.count m).toNat
    let pending := m.window q.head n
    let size := max t.limit 1
    let batches := (n + size - 1) / size
    let looking : Drainer × Queue ring × Memory ring := (⟨total, t, 0, .poll⟩, q, m)
    ∃ l, drainUntil q m t period = .ok l ∧ l.isComplete total = true ∧
      l.queue.hasCompletions l.memory = false ∧ l.batch = batches ∧ t.Counts l.tally pending ∧
      l.events.toList = ((List.range batches).flatMap fun k =>
        (if (k + 1) * size ≤ n then [.batchStopped size (n - (k + 1) * size)] else []) ++
          [.drainFinished k (min size (n - k * size))]) ∧
      (∀ k, k + 1 < batches → min size (n - k * size) = size) ∧
      ((List.range batches).map fun k => min size (n - k * size)).sum = n ∧
      (∀ k ≤ batches,
        let part := DrainLoop.runBatches k ⟨q, m, t, 0, #[]⟩
        part.batch = k ∧ t.Counts part.tally (pending.take (k * size))) ∧
      (∃ k, Drainer.stepAlone^[k] looking = (⟨total, l.tally, l.batch, .finished⟩, l.queue, l.memory)) ∧
      ∀ j, (Drainer.stepAlone^[j] looking).1.phase = .settle →
        (Drainer.stepAlone^[j + 1] looking).1.phase = .finished := by
  intro n pending size batches looking
  have hsize : 1 ≤ size := Nat.le_max_right _ _
  have hn : (m.tail - q.head).toNat = n := by simp only [n, Queue.count, hopen, Bool.false_eq_true, ↓reduceIte]
  let begun : DrainLoop ring := ⟨q, m, t, 0, #[]⟩
  have hall : begun.Passes begun.tick batches n ((List.range batches).flatMap (DrainLoop.told 0 size n)) := by
    have h := begun.passes_tick hopen
    simp only [begun, hn] at h
    exact h
  have hnone : begun.tick.queue.hasCompletions begun.tick.memory = false := begun.hasCompletions_tick hopen
  have hcounts : t.Counts begun.tick.tally pending := Tally.counts_of_newBatch_eq hall.tally_eq
  have hcomplete : total ≤ begun.tick.tally.received := by
    rw [hcounts.received_eq, Memory.length_window]
    exact htotal
  refine ⟨begun.tick, if_neg hperiod, decide_eq_true hcomplete, hnone, hall.batch_eq.trans (Nat.zero_add _),
    hcounts, ?_, fun k hk => DrainLoop.size_of_not_last hsize hk, ?_, ?_, ?_, ?_⟩
  · rw [hall.events_eq]
    unfold DrainLoop.told
    simp only [Nat.zero_add]
    rfl
  · rw [DrainLoop.sum_sizes, Nat.min_eq_left (DrainLoop.le_div_batches_mul n hsize)]
  · intro k hk part
    have h := begun.passes_runBatches k hopen
    simp only [begun, hn] at h
    have hbatches : min k ((n + size - 1) / size) = k := Nat.min_eq_left hk
    refine ⟨h.batch_eq.trans ((Nat.zero_add _).trans hbatches), Tally.counts_of_newBatch_eq ?_⟩
    rw [Memory.take_window, Nat.min_comm]
    exact h.tally_eq
  · obtain ⟨k, hk⟩ := Drainer.exists_stepAlone_eq_runBatches total (begun.queue.count begun.memory).toNat begun
    refine ⟨2 + k, ?_⟩
    rw [Function.iterate_add_apply]
    exact (congrArg (fun s => Drainer.stepAlone (Drainer.stepAlone s)) hk).trans
      (Drainer.stepAlone_stepAlone_of_complete hnone hcomplete)
  · intro j hsettle
    have hsole : looking.1.Sole q m (t.received + n) :=
      ⟨hopen, congrArg (t.received + ·) hn, by simp [looking], by simp [looking]⟩
    rw [Function.iterate_succ_apply']
    refine (hsole.iterate j).finished_of_settle hsettle ?_
    rw [Drainer.total_iterate]
    exact htotal

-- Tokens that wrap, a failure and a gap, with batches of two. The prior tally has met a record before.
theorem drain_folds_pending_across_wrap :
    let ring : Mapping := ⟨⟨4096, 4160, 3, 4, 4224, 0, 0, -1, 4⟩, rfl⟩
    let q : Queue ring := ⟨4294967295, false⟩
    let m : Memory ring := { (Memory.fresh ring 4294967295).write 4294967295 ⟨18446744073709551615, 5, 0⟩
      |>.write 0 ⟨0, -4, 1⟩ |>.write 1 ⟨7, 9, 0⟩ with tail := 2 }
    let t : Tally := ⟨2, 1, 3, 1, 0, 0⟩
    let all : List Completion := [⟨18446744073709551615, 5, 0⟩, ⟨0, -4, 1⟩, ⟨7, 9, 0⟩]
    m.window q.head (q.count m).toNat = all ∧
      ∃ l, drainUntil q m t 1 = .ok l ∧ l.batch = 2 ∧ t.Counts l.tally all ∧ Tally.breaks 3 all = 2 ∧
        l.events.toList = [.batchStopped 2 1, .drainFinished 0 2, .drainFinished 1 1] := by
  intro ring q m t all
  have hwindow : m.window q.head (q.count m).toNat = all := by decide +kernel
  have hcount : (q.count m).toNat = 3 := by decide +kernel
  obtain ⟨l, hl, _, _, hbatch, hcounts, hevents, _⟩ :=
    @drain_folds_pending ring q rfl m t 1 4 (by decide) (by rw [hcount])
  rw [hwindow] at hcounts
  have hsize : max t.limit 1 = 2 := rfl
  rw [hcount, hsize] at hbatch hevents
  exact ⟨hwindow, l, hl, hbatch, hcounts, by decide, hevents⟩

end CompletionRing
