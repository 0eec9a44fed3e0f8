import CompletionRing.Demo.CommandLine
import CompletionRing.Proofs.Demo.Finish
import CompletionRing.Proofs.Simulated

namespace CompletionRing

namespace CommandLine

theorem verdict_eq_none (t : Tally) (h : t.outOfOrder = 0) : verdict t = none := by
  simp [verdict, h]

theorem batch_pos_of_check {c : Config} (h : c.check = .ok ()) : 1 ≤ c.producerBatch.toNat := by
  obtain ⟨_, _, _, hbatch, _⟩ := c.check_eq_ok_iff.mp h
  exact Nat.one_le_iff_ne_zero.mpr fun hzero => hbatch (UInt32.toNat_inj.mp hzero)

-- Whatever the order of the steps, the records arrive in order and each of them is counted once; a draining
-- loop that has returned has received them all, and the demo finds nothing to object to. Where the two sides take
-- turns they do come to that, in the rounds that the demo gives them.
theorem pump_agrees {c : Config} (hcheck : c.check = .ok ()) (hpoll : c.pollInterval ≠ 0) :
    ((pump c).2 = none ∧ (pump c).1.getLast? = some (.finished c.total.toNat (c.total.toNat / 7) 0)) ∧
    ∃ simulated, Simulated.ofConfig c = .ok simulated ∧
      ∀ (base : UInt64) (ring : Mapping) (halves : Halves ring),
        simulated.split base = .ok ⟨ring, halves⟩ →
          let begun := Pipeline.start halves c.total.toNat c.producerBatch.toNat c.batchLimit.toNat
          (∃ turns, begun.finish = begun.run turns) ∧ begun.finish.isFinished = true ∧
          ∀ turns : List Turn,
            let pl := begun.run turns
            let t := pl.drainer.tally
            let m := pl.halves.memory
            let published := (begun.ledger .blank turns).published
            (t.outOfOrder = 0 ∧ t.failures = t.received / 7 ∧ t.received ≤ published.length ∧
              published.length ≤ c.total.toNat ∧ m.tail = .ofNat published.length ∧
              published = (List.range published.length).map demoRecord) ∧
            (pl.drainer.phase = .finished →
              t.received = c.total.toNat ∧ t.failures = c.total.toNat / 7 ∧ t.outOfOrder = 0 ∧
              m.head = m.tail ∧ pl.halves.queue.hasCompletions m = false ∧ pl.halves.queue.count m = 0 ∧
              verdict t = none) := by
  have hofConfig := Simulated.ofConfig_of_check hcheck
  have hbatch := batch_pos_of_check hcheck
  refine ⟨?_, ⟨c.entries, 0⟩, hofConfig, ?_⟩
  · obtain ⟨ring, hsplit⟩ := Simulated.split_placement_of_check hcheck
    simp only [pump, hofConfig, hsplit, hpoll, ↓reduceIte]
    obtain ⟨hregular, hall⟩ :=
      Pipeline.finish_tally ring 0 c.total.toNat c.producerBatch.toNat c.batchLimit.toNat hbatch
    refine ⟨verdict_eq_none _ hregular.outOfOrder_eq, ?_⟩
    rw [List.getLast?_append, hregular.outOfOrder_eq, hregular.failures_eq, hall]
    rfl
  · intro base ring halves hsplit begun
    obtain ⟨_, rfl⟩ := (Simulated.split_eq_ok_iff _ _ _ _).mp hsplit
    refine ⟨begun.exists_run_eq_finish, Pipeline.isFinished_finish ring 0 _ _ _ hbatch, ?_⟩
    intro turns pl t m published
    obtain ⟨hfeed, hdrainer⟩ := begun.totals_run turns
    obtain ⟨released, hflows⟩ : ∃ released, pl.Flows (begun.ledger .blank turns) 0 released :=
      (Pipeline.flows_start ring 0 _ _ _).run turns
    have hregular := hflows.follows.regular
    obtain ⟨hreceived, hle, htail, hpublished⟩ := hflows.published
    rw [UInt32.zero_add] at htail
    refine ⟨⟨hregular.outOfOrder_eq, hregular.failures_eq, hreceived, hle.trans_eq hfeed, htail,
      hpublished⟩, fun hfinished => ?_⟩
    obtain ⟨hall, hempty, hhead⟩ := hflows.of_finished (hfeed.trans hdrainer.symm).le hfinished
    have htotal : t.received = c.total.toNat := hall.trans hdrainer
    refine ⟨htotal, ?_, hregular.outOfOrder_eq, hempty, ?_, ?_, verdict_eq_none t hregular.outOfOrder_eq⟩
    · rw [← htotal]
      exact hregular.failures_eq
    · simp [Queue.hasCompletions, m, hhead]
    · simp [Queue.count, m, hhead]

-- Nine records through a ring of two slots, in batches of two on one side and of one on the other.
theorem pump_agrees_in_two_slots :
    let c : Config := ⟨2, 1, 1, 2, 9⟩
    let ring : Mapping := ⟨(⟨2, 0⟩ : Simulated).layout 4096, rfl⟩
    let turns := (List.replicate 24 [Turn.feed, .feed, .drain, .feed, .drain, .drain]).flatten
    c.check = .ok () ∧ c.pollInterval ≠ 0 ∧
      ((pump c).2 = none ∧ (pump c).1.getLast? = some (.finished 9 1 0)) ∧ ∃ pl,
      (Pipeline.start (.split (Memory.fresh ring 0)) c.total.toNat c.producerBatch.toNat
        c.batchLimit.toNat).run turns = pl ∧
      pl.drainer.phase = .finished ∧ pl.drainer.tally.received = 9 ∧ pl.drainer.tally.failures = 1 ∧
      pl.halves.memory.head = pl.halves.memory.tail := by
  intro c ring turns
  have hcheck : c.check = .ok () := c.check_eq_ok_iff.mpr (by decide)
  obtain ⟨⟨hpump, hshown⟩, simulated, hsimulated, hall⟩ := pump_agrees hcheck (by decide)
  obtain ⟨_, rfl⟩ := (Simulated.create_eq_ok_iff 2 0 simulated).mp hsimulated
  have hsplit := (Simulated.split_eq_ok_iff ⟨2, 0⟩ 4096 ring (.split (.fresh ring 0))).mpr ⟨rfl, rfl⟩
  obtain ⟨_, _, hruns⟩ := hall 4096 ring _ hsplit
  obtain ⟨_, hlast⟩ := hruns turns
  have hfinished : ((Pipeline.start (.split (Memory.fresh ring 0)) c.total.toNat c.producerBatch.toNat
      c.batchLimit.toNat).run turns).drainer.phase = .finished := by decide +kernel
  obtain ⟨hreceived, hfailures, _, hempty, _⟩ := hlast hfinished
  refine ⟨hcheck, by decide, ⟨hpump, hshown.trans (by decide)⟩, _, rfl, hfinished, hreceived, ?_, hempty⟩
  exact hfailures.trans (by decide)

end CommandLine

end CompletionRing
