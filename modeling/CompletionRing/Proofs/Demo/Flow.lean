import CompletionRing.Demo.Pipeline
import CompletionRing.Proofs.Demo.Drainer

namespace CompletionRing

namespace Pipeline

variable {ring : Mapping} {pl : Pipeline ring} {l : Ledger} {start : UInt32} {released : Nat}

-- The ledger after a turn. The draining side enters nothing.
def enter (pl : Pipeline ring) (l : Ledger) : Turn → Ledger
  | .feed => pl.feed.enter pl.halves.producer pl.halves.memory l
  | .drain => l

def ledger (pl : Pipeline ring) (l : Ledger) : List Turn → Ledger
  | [] => l
  | turn :: turns => (pl.step turn).ledger (pl.enter l turn) turns

-- Both loops go by one ledger, and the ring holds what lies between them.
structure Flows (pl : Pipeline ring) (l : Ledger) (start : UInt32) (released : Nat) : Prop where
  describes : l.Describes start released pl.halves.memory pl.halves.producer
  entered : pl.feed.Entered l
  follows : pl.drainer.Follows pl.halves.queue l start released

theorem flows_start (ring : Mapping) (begin : UInt32) (total batch limit : Nat) :
    (Pipeline.start (.split (Memory.fresh ring begin)) total batch limit).Flows .blank begin 0 where
  describes := .fresh ring begin
  entered := Feed.entered_start total batch
  follows := Drainer.follows_start total limit ring begin

theorem Flows.feed (h : pl.Flows l start released) : (pl.step .feed).Flows (pl.enter l .feed) start released := by
  obtain ⟨⟨m, p, q⟩, feed, drainer⟩ := pl
  obtain ⟨hring, hfeed, hdrainer⟩ := h
  obtain ⟨hfeed', hring'⟩ := hfeed.step hring q.closed
  exact ⟨hring', hfeed', hdrainer.grows (feed.grows_enter p m hring.shown_le)⟩

theorem Flows.drain (h : pl.Flows l start released) :
    (pl.step .drain).Flows l start (pl.drainer.releasing released) := by
  obtain ⟨⟨m, p, q⟩, feed, drainer⟩ := pl
  obtain ⟨hring, hfeed, hdrainer⟩ := h
  obtain ⟨hdrainer', hring'⟩ := hdrainer.step hring fun i hi => hfeed.getElem_eq hi
  exact ⟨hring', hfeed, hdrainer'⟩

theorem Flows.step (h : pl.Flows l start released) (turn : Turn) :
    ∃ released', released ≤ released' ∧ (pl.step turn).Flows (pl.enter l turn) start released' := by
  cases turn with
  | feed => exact ⟨released, Nat.le_refl _, h.feed⟩
  | drain => exact ⟨_, h.follows.le_releasing, h.drain⟩

theorem Flows.run (h : pl.Flows l start released) (turns : List Turn) :
    ∃ released', (pl.run turns).Flows (pl.ledger l turns) start released' := by
  induction turns generalizing pl l released with
  | nil => exact ⟨released, h⟩
  | cons turn turns ih =>
      obtain ⟨_, _, hmiddle⟩ := h.step turn
      exact ih hmiddle

theorem totals_run (pl : Pipeline ring) (turns : List Turn) :
    (pl.run turns).feed.total = pl.feed.total ∧ (pl.run turns).drainer.total = pl.drainer.total := by
  induction turns generalizing pl with
  | nil => exact ⟨rfl, rfl⟩
  | cons turn turns ih =>
      obtain ⟨hfeed, hdrainer⟩ := ih (pl.step turn)
      cases turn with
      | feed => exact ⟨hfeed.trans (Feed.total_step _ _ _ _), hdrainer⟩
      | drain => exact ⟨hfeed, hdrainer.trans (Drainer.total_step _ _ _)⟩

theorem bounds_step (pl : Pipeline ring) (turn : Turn) :
    (pl.step turn).feed.batch = pl.feed.batch ∧
      (pl.step turn).drainer.tally.limit = pl.drainer.tally.limit := by
  obtain ⟨⟨m, p, q⟩, feed, drainer⟩ := pl
  cases turn with
  | feed =>
      refine ⟨?_, rfl⟩
      simp only [Pipeline.step, Feed.step]
      repeat' split
      all_goals rfl
  | drain =>
      refine ⟨rfl, ?_⟩
      simp only [Pipeline.step, Drainer.step]
      repeat' split
      all_goals rfl

theorem bounds_run (pl : Pipeline ring) (turns : List Turn) :
    (pl.run turns).feed.batch = pl.feed.batch ∧
      (pl.run turns).drainer.tally.limit = pl.drainer.tally.limit := by
  induction turns generalizing pl with
  | nil => exact ⟨rfl, rfl⟩
  | cons turn turns ih =>
      obtain ⟨hbatch, hlimit⟩ := pl.bounds_step turn
      obtain ⟨hbatch', hlimit'⟩ := ih (pl.step turn)
      exact ⟨hbatch'.trans hbatch, hlimit'.trans hlimit⟩

-- Taking turns is one of the orders.
theorem exists_run_eq_alternate (rounds : Nat) (pl : Pipeline ring) :
    ∃ turns, alternate rounds pl = pl.run turns := by
  induction rounds generalizing pl with
  | zero => exact ⟨[], rfl⟩
  | succ rounds ih =>
      unfold alternate
      by_cases hfinished : pl.isFinished = true
      · exact ⟨[], if_pos hfinished⟩
      · obtain ⟨turns, hturns⟩ := ih ((pl.step .feed).step .drain)
        exact ⟨.feed :: .drain :: turns, (if_neg hfinished).trans hturns⟩

theorem exists_run_eq_finish (pl : Pipeline ring) : ∃ turns, pl.finish = pl.run turns :=
  exists_run_eq_alternate _ pl

-- What is published is the first records of the demo, and the draining side is not ahead of it.
theorem Flows.published (h : pl.Flows l start released) :
    pl.drainer.tally.received ≤ l.published.length ∧ l.published.length ≤ pl.feed.total ∧
      pl.halves.memory.tail = start + .ofNat l.published.length ∧
      l.published = (List.range l.published.length).map demoRecord := by
  have hshown := h.describes.shown_le
  have hpublished := h.entered.published_eq hshown
  have hlength : l.published.length = l.shown := by
    rw [hpublished, List.length_map, List.length_range]
  rw [hlength]
  refine ⟨h.follows.received_le, ?_, h.describes.tail_eq, hpublished⟩
  have hnext := h.entered.next_le
  rw [h.entered.length_pushed] at hshown
  omega

-- A draining loop returns when it has received all that there will ever be. The ring is empty then.
theorem Flows.of_finished (h : pl.Flows l start released) (htotal : pl.feed.total ≤ pl.drainer.total)
    (hfinished : pl.drainer.phase = .finished) :
    pl.drainer.tally.received = pl.drainer.total ∧
      pl.halves.memory.head = pl.halves.memory.tail ∧ pl.halves.queue.head = pl.halves.memory.tail := by
  have hholds := h.follows.holds
  rw [Drainer.Holds, hfinished] at hholds
  obtain ⟨hreleased, hall⟩ := hholds
  have hreceived := h.follows.received_le
  have hshown := h.describes.shown_le
  have hnext := h.entered.next_le
  rw [h.entered.length_pushed] at hshown
  have hsame : pl.drainer.tally.received = l.shown := by omega
  refine ⟨by omega, ?_, ?_⟩
  · rw [h.describes.head_eq, h.describes.tail_eq, hreleased, hsame]
  · rw [h.follows.head_eq, h.describes.tail_eq, hsame]

end Pipeline

end CompletionRing
