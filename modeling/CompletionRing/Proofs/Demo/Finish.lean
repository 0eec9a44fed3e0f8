import CompletionRing.Proofs.Demo.Alone
import CompletionRing.Proofs.Demo.Flow

namespace CompletionRing

variable {ring : Mapping}

namespace Feed

-- The steps to the next push of a loop that has a record left and finds room for it.
def toPush (f : Feed) : Nat :=
  match f.phase with
  | .publish => 3
  | .check => 2
  | .fill _ => 1
  | .finished => 0

theorem toEnd_le (f : Feed) : f.toEnd ≤ 3 := by
  unfold toEnd
  split <;> omega

theorem toPush_le (f : Feed) : f.toPush ≤ 3 := by
  unfold toPush
  split <;> omega

end Feed

namespace Drainer

-- The most steps to the end of a loop that has received all there will be.
def toEnd (d : Drainer) : Nat :=
  match d.phase with
  | .load => 5
  | .read _ => 4
  | .release => 3
  | .poll => 2
  | .settle => 1
  | .finished => 0

-- The most steps to the next record of a loop for which one is pending.
def toRead (d : Drainer) (head : UInt32) : Nat :=
  match d.phase with
  | .read tail => if head = tail then 5 else 1
  | .release => 4
  | .settle => 4
  | .poll => 3
  | .load => 2
  | .finished => 0

theorem toEnd_le (d : Drainer) : d.toEnd ≤ 5 := by
  unfold toEnd
  split <;> omega

theorem toRead_le (d : Drainer) (head : UInt32) : d.toRead head ≤ 5 := by
  unfold toRead
  repeat' split
  all_goals omega

end Drainer

namespace Pipeline

-- The turns to the next push or read, or to the end where none is left. A producing loop that has records to show
-- has to go on, or else a draining loop that has records to read or to release. Showing leads to a read, and a release
-- to a push or to the end, which 9 and 6 leave room for.
def toNext (f : Feed) (d : Drainer) (head : UInt32) (shown released : Nat) : Nat :=
  if shown < f.next then 9 + f.toEnd
  else if d.tally.received < shown then d.toRead head
  else if released < d.tally.received then 6 + d.toEnd
  else if f.next < f.total then f.toPush
  else f.toEnd + d.toEnd

-- A push or a read is worth more turns than it takes to the next one.
def turnsLeft (f : Feed) (d : Drainer) (head : UInt32) (shown released : Nat) : Nat :=
  13 * (f.total - f.next + (f.total - d.tally.received)) + toNext f d head shown released

theorem toNext_le (f : Feed) (d : Drainer) (head : UInt32) (shown released : Nat) :
    toNext f d head shown released ≤ 12 := by
  have hfeed := f.toEnd_le
  have hpush := f.toPush_le
  have hend := d.toEnd_le
  have hread := d.toRead_le head
  unfold toNext
  repeat' split
  all_goals omega

-- Whether it is the draining loop that has to go on.
def DrainDue (f : Feed) (d : Drainer) (shown released : Nat) : Prop :=
  shown = f.next ∧
    (d.tally.received < shown ∨ released < d.tally.received ∨ f.next = f.total ∧ d.phase ≠ .finished)

section

variable {f f' : Feed} {d d' : Drainer} {head head' : UInt32} {shown released released' : Nat}

-- A step of the producing loop that pushes and shows nothing. The draining loop may have to go on first.
theorem turnsLeft_feed (htotal : f'.total = f.total) (hnext : f'.next = f.next) (hshown : shown ≤ f.next)
    (hle : f.next ≤ f.total) (hreceived : d.tally.received ≤ shown) (hreleased : released ≤ d.tally.received)
    (hshow : shown < f.next → f'.toEnd < f.toEnd)
    (hpush : released = f.next → f.next < f.total → f'.toPush < f.toPush)
    (hend : shown = f.total → f'.toEnd < f.toEnd ∨ f'.toEnd = f.toEnd ∧ d.phase ≠ .finished) :
    turnsLeft f' d head shown released < turnsLeft f d head shown released ∨
      turnsLeft f' d head shown released = turnsLeft f d head shown released ∧ DrainDue f' d shown released := by
  simp only [turnsLeft, toNext, DrainDue, htotal, hnext]
  by_cases hunshown : shown < f.next
  · have := hshow hunshown
    simp only [if_pos hunshown]
    omega
  by_cases hpending : d.tally.received < shown
  · simp only [if_neg hunshown, if_pos hpending]
    exact .inr ⟨trivial, by omega, .inl hpending⟩
  by_cases hunreleased : released < d.tally.received
  · simp only [if_neg hunshown, if_neg hpending, if_pos hunreleased]
    exact .inr ⟨trivial, by omega, .inr (.inl hunreleased)⟩
  by_cases hleft : f.next < f.total
  · have := hpush (by omega) hleft
    simp only [if_neg hunshown, if_neg hpending, if_neg hunreleased, if_pos hleft]
    omega
  · simp only [if_neg hunshown, if_neg hpending, if_neg hunreleased, if_neg hleft]
    rcases hend (by omega) with hlt | ⟨heq, hgoing⟩
    · omega
    · exact .inr ⟨by rw [heq], by omega, .inr (.inr ⟨by omega, hgoing⟩)⟩

-- A step of the draining loop that reads nothing. The producing loop may have to go on first.
theorem turnsLeft_drain (htally : d'.tally.received = d.tally.received) (hshown : shown ≤ f.next)
    (hle : f.next ≤ f.total) (hreceived : d.tally.received ≤ shown) (hmore : released ≤ released')
    (hreleased : released' ≤ d.tally.received) (hread : d.tally.received < shown → d'.toRead head < d.toRead head)
    (hend : d.tally.received = shown → released < d.tally.received ∨ shown = f.total → d'.toEnd < d.toEnd) :
    turnsLeft f d' head shown released' ≤ turnsLeft f d head shown released ∧
      (DrainDue f d shown released → turnsLeft f d' head shown released' < turnsLeft f d head shown released) := by
  have hfeed := f.toEnd_le
  have hpush := f.toPush_le
  simp only [turnsLeft, toNext, htally]
  by_cases hunshown : shown < f.next
  · simp only [if_pos hunshown]
    exact ⟨Nat.le_refl _, fun hdue => absurd hdue.1 (Nat.ne_of_lt hunshown)⟩
  by_cases hpending : d.tally.received < shown
  · have := hread hpending
    simp only [if_neg hunshown, if_pos hpending]
    exact ⟨by omega, fun _ => by omega⟩
  by_cases hunreleased : released < d.tally.received
  · have := hend (by omega) (.inl hunreleased)
    simp only [if_neg hunshown, if_neg hpending, if_pos hunreleased]
    repeat' split
    all_goals exact ⟨by omega, fun _ => by omega⟩
  have hsame : released' = released := by omega
  subst hsame
  by_cases hleft : f.next < f.total
  · simp only [if_neg hunshown, if_neg hpending, if_neg hunreleased, if_pos hleft]
    refine ⟨Nat.le_refl _, fun hdue => ?_⟩
    obtain ⟨-, h | h | ⟨h, -⟩⟩ := hdue
    all_goals omega
  · have := hend (by omega) (.inr (by omega))
    simp only [if_neg hunshown, if_neg hpending, if_neg hunreleased, if_neg hleft]
    exact ⟨by omega, fun _ => by omega⟩

-- With a read or a push one record less is left.
theorem turnsLeft_read (htally : d'.tally.received = d.tally.received + 1) (hlt : d.tally.received < f.total) :
    turnsLeft f d' head' shown released < turnsLeft f d head shown released := by
  have hmost := toNext_le f d' head' shown released
  simp only [turnsLeft, htally]
  omega

theorem turnsLeft_push (htotal : f'.total = f.total) (hnext : f'.next = f.next + 1) (hlt : f.next < f.total) :
    turnsLeft f' d head shown released < turnsLeft f d head shown released := by
  have hmost := toNext_le f' d head shown released
  simp only [turnsLeft, htotal, hnext]
  omega

end

end Pipeline

namespace Supply

open Pipeline

-- With each step a producing loop comes nearer, or else it is for the draining one to go on.
theorem Fed.nearer {s s' : Supply ring} {act : Option (Feeding × Outcome)} {l : Ledger} {start : UInt32}
    {released : Nat} (h : Fed s act s') (hs : s.Sound l start 0 released) (hopen : s.intake.queue.closed = false)
    (hbatch : 1 ≤ s.feed.batch) (d : Drainer) (head : UInt32) (hreleased : released ≤ d.tally.received)
    (hreceived : d.tally.received ≤ l.shown) (hgoing : ¬ (s.feed.phase = .finished ∧ d.phase = .finished)) :
    turnsLeft s'.feed d head (note l act).shown released < turnsLeft s.feed d head l.shown released ∨
      turnsLeft s'.feed d head (note l act).shown released = turnsLeft s.feed d head l.shown released ∧
        DrainDue s'.feed d (note l act).shown released := by
  have hlength : l.pushed.length = s.feed.next := hs.length_eq.trans (Nat.zero_add _)
  have hnext := hs.next_le
  have howes := hs.owes
  have hshown := hlength ▸ hs.describes.shown_le
  cases h with
  | begin hlt =>
      have hnone : l.pushed.length - l.shown = 0 := howes
      refine turnsLeft_feed rfl rfl hshown hnext hreceived hreleased ?_ (fun _ _ => Nat.lt_succ_self _) ?_
      all_goals simp only [note] at *; omega
  | finish hend =>
      have hnone : l.pushed.length - l.shown = 0 := howes
      have hall := hend.resolve_right (Bool.eq_false_iff.mp hopen)
      refine turnsLeft_feed rfl rfl hshown hnext hreceived hreleased ?_ ?_ (fun _ => .inl (Nat.lt_succ_self _))
      all_goals simp only [note] at *; omega
  | rest =>
      obtain ⟨hnone, hend⟩ := howes
      have hall := hend.resolve_right (Bool.eq_false_iff.mp hopen)
      have hdrain : d.phase ≠ .finished := fun h => hgoing ⟨rfl, h⟩
      refine turnsLeft_feed rfl rfl hshown hnext hreceived hreleased ?_ ?_ fun _ => .inr ⟨rfl, hdrain⟩
      all_goals simp only [note] at *; omega
  | stop hend =>
      -- a batch that is full has a record to show
      obtain ⟨howed, _⟩ := howes
      refine turnsLeft_feed rfl rfl hshown hnext hreceived hreleased (fun _ => Nat.lt_succ_self _) ?_
        (fun _ => .inl (Nat.lt_succ_self _))
      simp only at *
      omega
  | @refuse _ _ next _ p m _ _ hsome hrefused =>
      -- a full ring is not one that was drained
      have hfull : ¬ l.pushed.length < released + ring.size := fun hroom => by
        rw [hs.describes.push_of_room _ hroom] at hrefused
        cases hrefused
      have hsize := ring.size_pos
      refine turnsLeft_feed rfl rfl hshown hnext hreceived hreleased (fun _ => Nat.lt_succ_self _) ?_
        (fun _ => .inl (Nat.lt_succ_self _))
      simp only at *
      omega
  | @publish total batch next p m i =>
      have hall : (note l (some (.publish, .done))).shown = next := hlength
      rw [hall]
      by_cases hunshown : l.shown < next
      · -- then there is something to read
        have hread := d.toRead_le head
        simp only [turnsLeft, toNext, if_pos hunshown, Nat.lt_irrefl, ↓reduceIte, Feed.toEnd,
          if_pos (hreceived.trans_lt hunshown)]
        omega
      · have hsame : l.shown = next := Nat.le_antisymm hshown (Nat.le_of_not_lt hunshown)
        rw [hsame] at hreceived ⊢
        exact turnsLeft_feed rfl rfl (Nat.le_refl _) hnext hreceived hreleased (fun _ => Nat.lt_succ_self _)
          (fun _ _ => Nat.lt_succ_self _) (fun _ => .inl (Nat.lt_succ_self _))
  | push _ hsome => exact .inl (turnsLeft_push rfl rfl hsome)

end Supply

namespace Pipeline

variable {pl : Pipeline ring} {l : Ledger} {start : UInt32} {released : Nat}

-- The producing loop with the draining one as whatever takes records at the other end.
def supply (pl : Pipeline ring) : Supply ring :=
  ⟨pl.feed, pl.halves.producer, pl.halves.memory, ⟨pl.halves.queue, pl.halves.queue.head⟩⟩

-- Two loops that are after the same records, where the producing one can push at all.
structure Live (pl : Pipeline ring) (l : Ledger) (start : UInt32) (released : Nat) : Prop extends
    pl.Flows l start released where
  owes : pl.feed.Owes (l.pushed.length - l.shown) pl.halves.queue.closed
  batch_pos : 1 ≤ pl.feed.batch
  total_eq : pl.drainer.total = pl.feed.total

theorem Live.sound (h : pl.Live l start released) : pl.supply.Sound l start 0 released where
  describes := h.describes
  within := ⟨pl.drainer.tally.received, pl.drainer.tally.received, h.follows.released_le, Nat.le_refl _,
    h.follows.received_le, h.follows.head_eq, h.follows.head_eq⟩
  length_eq := h.entered.length_pushed.trans (Nat.zero_add _).symm
  next_le := h.entered.next_le
  owes := h.owes

theorem enter_feed (pl : Pipeline ring) (l : Ledger) : pl.enter l .feed = Supply.note l (pl.supply.act? .feed) :=
  pl.supply.enter_eq_note l

theorem Live.feed (h : pl.Live l start released) : (pl.step .feed).Live (pl.enter l .feed) start released where
  toFlows := h.toFlows.feed
  owes := by
    rw [enter_feed]
    exact (h.sound.fed pl.supply.fed_step).owes
  batch_pos := (pl.bounds_step .feed).1 ▸ h.batch_pos
  total_eq := h.total_eq.trans (Feed.total_step _ _ _ _).symm

theorem Live.drain (h : pl.Live l start released) :
    (pl.step .drain).Live l start (pl.drainer.releasing released) where
  toFlows := h.toFlows.drain
  owes := by
    have howes := h.owes
    rw [h.follows.closed_eq] at howes
    rw [h.toFlows.drain.follows.closed_eq]
    exact howes
  batch_pos := h.batch_pos
  total_eq := (Drainer.total_step _ _ _).trans h.total_eq

-- Bounds the rounds in which the two loops come to their ends.
def distance (pl : Pipeline ring) (l : Ledger) (released : Nat) : Nat :=
  turnsLeft pl.feed pl.drainer pl.halves.queue.head l.shown released

theorem Live.nearer_drain (h : pl.Live l start released) :
    (pl.step .drain).distance l (pl.drainer.releasing released) ≤ pl.distance l released ∧
      (DrainDue pl.feed pl.drainer l.shown released →
        (pl.step .drain).distance l (pl.drainer.releasing released) < pl.distance l released) := by
  have hhead := h.follows.head_eq_tail_iff h.describes
  have hopen := h.follows.closed_eq
  have hholds := h.follows.holds
  have hreleased := h.follows.released_le
  have hreceived := h.follows.received_le
  have hshown : l.shown ≤ pl.feed.next := h.entered.length_pushed ▸ h.describes.shown_le
  have hnext := h.entered.next_le
  have htotal := h.total_eq
  have hstart := h.follows.head_eq
  have hmore := Nat.le_refl released
  obtain ⟨⟨m, p, q⟩, feed, ⟨total, tally, batch, phase⟩⟩ := pl
  simp only at hhead hopen hreleased hreceived hshown hnext htotal hstart
  cases phase with
  | poll =>
      have hnone : released = tally.received := hholds
      by_cases hend : q.head = m.tail
      · have hidle : ¬ q.hasCompletions m = true := by simp [Queue.hasCompletions, hend]
        simp only [distance, Pipeline.step, Drainer.step, Drainer.releasing, if_neg hidle]
        refine turnsLeft_drain rfl hshown hnext hreceived hmore hreleased (fun hlt => ?_)
          fun _ _ => Nat.lt_succ_self _
        exact absurd (hhead.mp hend) (Nat.ne_of_lt hlt)
      · have hsome : q.hasCompletions m = true := by simp [Queue.hasCompletions, hend, hopen]
        simp only [distance, Pipeline.step, Drainer.step, Drainer.releasing, if_pos hsome]
        refine turnsLeft_drain rfl hshown hnext hreceived hmore hreleased (fun _ => Nat.lt_succ_self _)
          fun heq => ?_
        exact absurd (hhead.mpr heq) hend
  | load =>
      simp only [distance, Pipeline.step, Drainer.step, Drainer.releasing]
      refine turnsLeft_drain rfl hshown hnext hreceived hmore hreleased (fun hlt => ?_)
        fun _ _ => Nat.lt_succ_self _
      have hne : q.head ≠ m.tail := fun heq => absurd (hhead.mp heq) (Nat.ne_of_lt hlt)
      simp only [Drainer.toRead, if_neg hne]
      exact Nat.lt_succ_self _
  | read tail =>
      obtain ⟨limit, hlimit, hle, htail⟩ := hholds
      by_cases hend : q.head = tail
      · simp only [distance, Pipeline.step, Drainer.step, Drainer.releasing, if_pos hend]
        refine turnsLeft_drain rfl hshown hnext hreceived hmore hreleased (fun _ => ?_)
          fun _ _ => Nat.lt_succ_self _
        simp only [Drainer.toRead, if_pos hend]
        exact Nat.lt_succ_self _
      · have hlt : tally.received < l.shown := by
          refine lt_of_le_of_ne hreceived fun heq => hend ?_
          rw [hstart, htail, le_antisymm hlimit (heq ▸ hle)]
        simp only [distance, Pipeline.step, Drainer.step, Drainer.releasing, if_neg hend]
        have hleft : tally.received < feed.total := by omega
        exact ⟨(turnsLeft_read rfl hleft).le, fun _ => turnsLeft_read rfl hleft⟩
  | release =>
      simp only [distance, Pipeline.step, Drainer.step, Drainer.releasing]
      exact turnsLeft_drain rfl hshown hnext hreceived hreleased (Nat.le_refl _) (fun _ => Nat.lt_succ_self _)
        fun _ _ => Nat.lt_succ_self _
  | settle =>
      have hnone : released = tally.received := hholds
      simp only [distance, Pipeline.step, Drainer.step, Drainer.releasing]
      by_cases hall : total ≤ tally.received
      · rw [if_pos hall]
        have hread : ¬ tally.received < l.shown := by omega
        exact turnsLeft_drain rfl hshown hnext hreceived hmore hreleased (absurd · hread)
          fun _ _ => Nat.lt_succ_self _
      · rw [if_neg hall]
        refine turnsLeft_drain rfl hshown hnext hreceived hmore hreleased (fun _ => Nat.lt_succ_self _)
          fun heq hdue => ?_
        simp only at heq hdue
        omega
  | finished =>
      -- all is read and released, so it is never for this loop to go on
      obtain ⟨hnone, hall⟩ := hholds
      refine ⟨Nat.le_refl _, fun hdue => ?_⟩
      obtain ⟨-, hunread | hunreleased | ⟨-, hgoing⟩⟩ := hdue
      · simp only at *
        omega
      · simp only at *
        omega
      · exact absurd rfl hgoing

theorem Live.nearer_feed (h : pl.Live l start released) (hgoing : pl.isFinished = false) :
    (pl.step .feed).distance (pl.enter l .feed) released < pl.distance l released ∨
      (pl.step .feed).distance (pl.enter l .feed) released = pl.distance l released ∧
        DrainDue (pl.step .feed).feed pl.drainer (pl.enter l .feed).shown released := by
  have hgoing' : ¬ (pl.feed.phase = .finished ∧ pl.drainer.phase = .finished) := by
    simpa [isFinished] using hgoing
  have hnearer := pl.supply.fed_step.nearer h.sound h.follows.closed_eq h.batch_pos pl.drainer pl.halves.queue.head
    h.follows.released_le h.follows.received_le hgoing'
  rw [← pl.enter_feed l] at hnearer
  exact hnearer

-- If the turn of the producing loop is no use, the next one of the draining loop is.
theorem Live.nearer (h : pl.Live l start released) (hgoing : pl.isFinished = false) :
    ((pl.step .feed).step .drain).distance (pl.enter l .feed) (pl.drainer.releasing released) <
      pl.distance l released := by
  obtain ⟨hle, hlt⟩ := h.feed.nearer_drain
  rcases h.nearer_feed hgoing with hnearer | ⟨hsame, hdue⟩
  · exact hle.trans_lt hnearer
  · exact (hlt hdue).trans_eq hsame

theorem Live.isFinished_alternate (h : pl.Live l start released) (rounds : Nat)
    (hrounds : pl.distance l released ≤ rounds) : (alternate rounds pl).isFinished = true := by
  induction rounds generalizing pl l released with
  | zero =>
      by_contra hgoing
      have hnearer := h.nearer (Bool.eq_false_iff.mpr hgoing)
      omega
  | succ rounds ih =>
      unfold alternate
      by_cases hfinished : pl.isFinished = true
      · rw [if_pos hfinished]
        exact hfinished
      · have hnearer := h.nearer (Bool.eq_false_iff.mpr hfinished)
        rw [if_neg hfinished]
        exact ih h.feed.drain (Nat.le_of_lt_succ (hnearer.trans_le hrounds))

theorem live_start (ring : Mapping) (begin : UInt32) (total batch limit : Nat) (hbatch : 1 ≤ batch) :
    (Pipeline.start (.split (Memory.fresh ring begin)) total batch limit).Live .blank begin 0 where
  toFlows := flows_start ring begin total batch limit
  owes := rfl
  batch_pos := hbatch
  total_eq := rfl

-- So taking turns comes to an end in the rounds that it is given.
theorem isFinished_finish (ring : Mapping) (begin : UInt32) (total batch limit : Nat) (hbatch : 1 ≤ batch) :
    (Pipeline.start (.split (Memory.fresh ring begin)) total batch limit).finish.isFinished = true := by
  apply (live_start ring begin total batch limit hbatch).isFinished_alternate
  have hmost := toNext_le (.start total batch) (.start total limit) begin 0 0
  simp only [distance, turnsLeft, Pipeline.start, Halves.split, Queue.attach, Memory.fresh, Feed.start, Drainer.start,
    Tally.start, Ledger.blank] at hmost ⊢
  omega

-- All records have arrived then, and each is counted once.
theorem finish_tally (ring : Mapping) (begin : UInt32) (total batch limit : Nat) (hbatch : 1 ≤ batch) :
    let t := (Pipeline.start (.split (Memory.fresh ring begin)) total batch limit).finish.drainer.tally
    t.Regular ∧ t.received = total := by
  have hend := isFinished_finish ring begin total batch limit hbatch
  obtain ⟨turns, hturns⟩ := exists_run_eq_finish (.start (.split (Memory.fresh ring begin)) total batch limit)
  obtain ⟨_, hlast⟩ := (flows_start ring begin total batch limit).run turns
  obtain ⟨hfeed, hdrainer⟩ := totals_run (.start (.split (Memory.fresh ring begin)) total batch limit) turns
  simp only [hturns, isFinished, Bool.and_eq_true, decide_eq_true_eq] at hend ⊢
  exact ⟨hlast.follows.regular, (hlast.of_finished (hfeed.trans hdrainer.symm).le hend.2).1.trans hdrainer⟩

end Pipeline

end CompletionRing
