import CompletionRing.Proofs.Demo.Drainer
import CompletionRing.Proofs.Drain.Batches
import CompletionRing.Proofs.Session.Accounting

namespace CompletionRing

variable {ring : Mapping}

namespace Tally

-- The records whose token does not follow the one before, of which the first is to have a given token.
def breaks (expected : UInt64) (records : List Completion) : Nat :=
  (records.zip (expected :: records.map fun c => c.userData + 1)).countP fun (c, wanted) => c.userData ≠ wanted

theorem foldl_count (t : Tally) (records : List Completion) :
    records.foldl count t =
      { limit := t.limit
        inBatch := t.inBatch + records.length
        expected := (records.map fun c => c.userData + 1).getLast?.getD t.expected
        received := t.received + records.length
        failures := t.failures + records.countP Completion.isError
        outOfOrder := t.outOfOrder + breaks t.expected records } := by
  induction records generalizing t with
  | nil => rfl
  | cons c records ih =>
      rw [List.foldl_cons, ih]
      have hbreaks : breaks t.expected (c :: records) =
          breaks (c.userData + 1) records + if c.userData ≠ t.expected then 1 else 0 := by
        simp [breaks, List.countP_cons]
      simp only [count, hbreaks, List.length_cons, List.map_cons, List.getLast?_cons, Option.getD_some,
        List.countP_cons, mk.injEq, true_and]
      refine ⟨by omega, by omega, ?_, ?_⟩
      · cases c.isError with
        | false => simp
        | true => exact Nat.add_right_comm _ _ _
      · by_cases hnext : c.userData = t.expected
        · simp [hnext]
        · simp only [ne_eq, hnext, not_false_eq_true, ↓reduceIte]
          omega

-- Where a batch begins makes no difference to the other counters.
theorem newBatch_foldl_count {t t' : Tally} (h : t.newBatch = t'.newBatch) (records : List Completion) :
    (records.foldl count t).newBatch = (records.foldl count t').newBatch := by
  induction records generalizing t t' with
  | nil => exact h
  | cons c records ih => exact ih (congrArg (fun now => (now.count c).newBatch) h)

end Tally

theorem Memory.window_succ (m : Memory ring) (start : UInt32) (i : Nat) :
    m.window start (i + 1) = m.window start i ++ [m.read (start + .ofNat i)] := by
  simp [window, List.range_succ]

namespace Walk

theorem before_tally (head : UInt32) (m : Memory ring) (t : Tally) (i : Nat) :
    (⟨Tally.handler, head, m, t⟩ : Walk ring Tally Empty).before i =
      (m, (m.window head i).foldl Tally.count t) := by
  induction i with
  | zero => rfl
  | succ i ih =>
      rw [before, ih, Memory.window_succ, List.foldl_append]
      rfl

theorem verdict_tally (head : UInt32) (m : Memory ring) (t : Tally) (hnew : t.inBatch = 0) (i : Nat) :
    (⟨Tally.handler, head, m, t⟩ : Walk ring Tally Empty).verdict i =
      if i + 1 < max t.limit 1 then .proceed else .stop := by
  have hmore : i + 1 < t.limit ↔ i + 1 < max t.limit 1 := by omega
  rw [verdict, before_tally]
  simp only [Tally.handler, Tally.wantsMore, Tally.count, Tally.foldl_count, hnew, Nat.zero_add,
    Memory.length_window, decide_eq_true_eq, hmore]

end Walk

theorem Queue.drain_tally (q : Queue ring) (hopen : q.closed = false) (m : Memory ring) (t : Tally)
    (hnew : t.inBatch = 0) :
    let size := max t.limit 1
    let pending := (m.tail - q.head).toNat
    let n := min size pending
    q.drain Tally.handler m t =
      ⟨{ q with head := q.head + .ofNat n }, { m with head := q.head + .ofNat n },
        (m.window q.head n).foldl Tally.count t, n,
        if size ≤ pending then .stopped (pending - size) else .emptied⟩ := by
  intro size pending n
  let w : Walk ring Tally Empty := ⟨Tally.handler, q.head, m, t⟩
  have hverdict (i : Nat) : w.verdict i = if i + 1 < size then .proceed else .stop :=
    Walk.verdict_tally q.head m t hnew i
  obtain ⟨k, hk, heq⟩ := q.drain_eq hopen Tally.handler m t
  have hlength : k = n := by
    refine hk.eq_min (Nat.le_max_right _ _) fun i _ _ => ?_
    rw [hverdict]
    by_cases hmore : i + 1 < size <;> simp [hmore, Verdict.proceeds]
  have hbefore : w.before n = (m, (m.window q.head n).foldl Tally.count t) := Walk.before_tally q.head m t n
  have hending : w.ending pending n = if size ≤ pending then .stopped (pending - size) else .emptied := by
    cases hn : n with
    | zero =>
        have hnone : ¬ size ≤ pending := by omega
        simp only [hnone, ↓reduceIte, Walk.ending]
    | succ i =>
        rw [Walk.ending, hverdict]
        by_cases hfull : size ≤ pending
        · have hlast : i + 1 = size := by omega
          simp only [hfull, hlast, lt_irrefl, ↓reduceIte, Verdict.ending]
        · have hmore : i + 1 < size := by omega
          simp only [hmore, hfull, ↓reduceIte, Verdict.ending]
  rw [heq, hlength, ← hending]
  change (⟨_, { (w.before n).1 with head := _ }, (w.before n).2, n, w.ending pending n⟩ : Drained ring Tally Empty) = _
  rw [hbefore]

namespace DrainLoop

-- What the log tells of a batch, some batches after one that found a number of records.
def told (first size pending k : Nat) : List Event :=
  (if (k + 1) * size ≤ pending then [.batchStopped size (pending - (k + 1) * size)] else []) ++
    [.drainFinished (first + k) (min size (pending - k * size))]

theorem told_succ (first size pending k : Nat) (hsize : 1 ≤ size) :
    told first size pending (k + 1) = told (first + 1) size (pending - size) k := by
  have hmul : (k + 1 + 1) * size = (k + 1) * size + size := Nat.succ_mul _ _
  have hfull : (k + 1 + 1) * size ≤ pending ↔ (k + 1) * size ≤ pending - size := by
    have hpos : 0 < (k + 1) * size := Nat.mul_pos (Nat.succ_pos k) hsize
    omega
  have hrest : pending - (k + 1) * size = pending - size - k * size := by
    rw [Nat.succ_mul]
    omega
  have hleft : pending - (k + 1 + 1) * size = pending - size - (k + 1) * size := by omega
  simp only [told, hfull, hrest, hleft, Nat.add_assoc, Nat.add_comm 1 k]

-- A loop after some more batches, with what they handed out together and what is told of them.
structure Passes (l out : DrainLoop ring) (batches records : Nat) (events : List Event) : Prop where
  queue_eq : out.queue = { l.queue with head := l.queue.head + .ofNat records }
  memory_eq : ∃ head, out.memory = { l.memory with head }
  tally_eq : out.tally.newBatch = ((l.memory.window l.queue.head records).foldl Tally.count l.tally).newBatch
  batch_eq : out.batch = l.batch + batches
  events_eq : out.events.toList = l.events.toList ++ events

theorem Passes.refl (l : DrainLoop ring) : l.Passes l 0 0 [] where
  queue_eq := by simp
  memory_eq := ⟨_, rfl⟩
  tally_eq := rfl
  batch_eq := rfl
  events_eq := (List.append_nil _).symm

theorem Passes.trans {l middle out : DrainLoop ring} {batches records batches' records' : Nat}
    {events events' : List Event} (h : l.Passes middle batches records events)
    (h' : middle.Passes out batches' records' events') :
    l.Passes out (batches + batches') (records + records') (events ++ events') where
  queue_eq := by rw [h'.queue_eq, h.queue_eq, cursor_add]
  memory_eq := by
    obtain ⟨_, hmemory⟩ := h.memory_eq
    obtain ⟨head, hmemory'⟩ := h'.memory_eq
    exact ⟨head, by rw [hmemory', hmemory]⟩
  tally_eq := by
    obtain ⟨_, hmemory⟩ := h.memory_eq
    have hwindow : middle.memory.window middle.queue.head records' =
        l.memory.window (l.queue.head + .ofNat records) records' := by
      rw [h.queue_eq, hmemory]
      rfl
    rw [h'.tally_eq, hwindow, Memory.window_append, List.foldl_append]
    exact Tally.newBatch_foldl_count h.tally_eq _
  batch_eq := by rw [h'.batch_eq, h.batch_eq, Nat.add_assoc]
  events_eq := by rw [h'.events_eq, h.events_eq, List.append_assoc]

theorem Passes.limit_eq {l out : DrainLoop ring} {batches records : Nat} {events : List Event}
    (h : l.Passes out batches records events) : out.tally.limit = l.tally.limit := by
  have hlimit := congrArg Tally.limit h.tally_eq
  rwa [Tally.foldl_count] at hlimit

-- One batch takes as many records as its limit says, one at least, or all there are.
theorem passes_runBatch (l : DrainLoop ring) (hopen : l.queue.closed = false)
    (hsome : 0 < (l.memory.tail - l.queue.head).toNat) :
    let size := max l.tally.limit 1
    let pending := (l.memory.tail - l.queue.head).toNat
    l.Passes l.runBatch 1 (min size pending) (told l.batch size pending 0) := by
  intro size pending
  have hdrain := l.queue.drain_tally hopen l.memory l.tally.newBatch rfl
  constructor
  case queue_eq => rw [runBatch, hdrain]; rfl
  case memory_eq => exact ⟨_, by rw [runBatch, hdrain]⟩
  case tally_eq =>
    have hnew : l.tally.newBatch.newBatch = l.tally.newBatch := rfl
    rw [runBatch, hdrain]
    exact Tally.newBatch_foldl_count hnew _
  case batch_eq => rfl
  case events_eq =>
    have hpos : 0 < min size pending := by omega
    rw [runBatch, hdrain, told, Nat.zero_mul, Nat.sub_zero, Nat.zero_add, Nat.one_mul]
    change (l.events ++ Drained.events (⟨_, _, _, min size pending,
      if size ≤ pending then .stopped (pending - size) else .emptied⟩ : Drained ring Tally Empty) ++
      Span.events ⟨l.batch, min size pending⟩).toList = _
    rw [Span.events, if_pos hpos]
    by_cases hfull : size ≤ pending
    · simp [hfull, Drained.events]
    · simp [hfull, Drained.events]

theorem div_batches_succ {pending size : Nat} (hsome : 0 < pending) (hsize : 1 ≤ size) :
    (pending + size - 1) / size = 1 + (pending - size + size - 1) / size := by
  by_cases hfull : size ≤ pending
  · rw [show pending + size - 1 = pending - size + size - 1 + size by omega, Nat.add_div_right _ hsize, Nat.add_comm]
  · rw [Nat.div_eq_of_lt (a := pending - size + size - 1) (by omega)]
    exact Nat.div_eq_of_lt_le (by omega) (by omega)

theorem div_batches_le (pending : Nat) {size : Nat} (hsize : 1 ≤ size) :
    (pending + size - 1) / size ≤ pending := by
  have hmul := Nat.le_mul_of_pos_right pending hsize
  rw [← Nat.lt_succ_iff, Nat.div_lt_iff_lt_mul hsize, Nat.succ_mul]
  omega

theorem le_div_batches_mul (pending : Nat) {size : Nat} (hsize : 1 ≤ size) :
    pending ≤ (pending + size - 1) / size * size := by
  have hlt := Nat.lt_div_mul_add (a := pending + size - 1) hsize
  omega

-- However many batches are allowed, each takes its part until nothing is pending.
theorem passes_runBatches (left : Nat) (l : DrainLoop ring) (hopen : l.queue.closed = false) :
    let size := max l.tally.limit 1
    let pending := (l.memory.tail - l.queue.head).toNat
    let batches := min left ((pending + size - 1) / size)
    l.Passes (runBatches left l) batches (min pending (left * size))
      ((List.range batches).flatMap (told l.batch size pending)) := by
  induction left generalizing l with
  | zero =>
      simp only [Nat.zero_min, Nat.zero_mul, Nat.min_zero, List.range_zero, List.flatMap_nil]
      exact Passes.refl l
  | succ left ih =>
      intro size pending batches
      have hsize : 1 ≤ size := Nat.le_max_right _ _
      cases hsome : l.queue.hasCompletions l.memory with
      | false =>
          have hnone : pending = 0 := by
            have hcount : l.queue.count l.memory = 0 := by
              by_contra hne
              exact absurd ((l.queue.hasCompletions_iff l.memory).mpr hne) (by simp [hsome])
            rw [Queue.count, hopen] at hcount
            exact congrArg UInt32.toNat hcount
          have hbatches : batches = 0 :=
            Nat.le_zero.mp ((Nat.min_le_right _ _).trans ((div_batches_le pending hsize).trans hnone.le))
          simp only [runBatches, hsome, hbatches, hnone, Nat.zero_min, List.range_zero, List.flatMap_nil]
          exact Passes.refl l
      | true =>
          have hpos : 0 < pending := by
            have hcount := (l.queue.hasCompletions_iff l.memory).mp hsome
            rw [Queue.count, hopen] at hcount
            exact Nat.pos_of_ne_zero fun h => hcount (UInt32.toNat_inj.mp h)
          have hfirst := l.passes_runBatch hopen hpos
          have hrest := ih l.runBatch (by rw [hfirst.queue_eq]; exact hopen)
          obtain ⟨head, hmemory⟩ := hfirst.memory_eq
          have hpending : (l.runBatch.memory.tail - l.runBatch.queue.head).toNat = pending - size := by
            rw [hfirst.queue_eq, hmemory]
            change (l.memory.tail - (l.queue.head + .ofNat (min size pending))).toNat = _
            rw [Queue.toNat_sub_taken _ _ (Nat.min_le_right _ _)]
            change pending - min size pending = pending - size
            omega
          rw [hpending, hfirst.limit_eq, hfirst.batch_eq] at hrest
          have hall := hfirst.trans hrest
          have hrecords : min size pending + min (pending - size) (left * size) = min pending ((left + 1) * size) := by
            rw [Nat.succ_mul]
            omega
          have hbatches : batches = 1 + min left ((pending - size + size - 1) / size) := by
            rw [← Nat.add_min_add_left, ← div_batches_succ hpos hsize, Nat.add_comm 1 left]
          have hevents : (List.range batches).flatMap (told l.batch size pending) =
              told l.batch size pending 0 ++ (List.range (min left ((pending - size + size - 1) / size))).flatMap
                (told (l.batch + 1) size (pending - size)) := by
            rw [hbatches, Nat.add_comm, List.range_succ_eq_map, List.flatMap_cons, List.flatMap_map]
            simp only [told_succ _ _ _ _ hsize]
          simp only [runBatches, hsome, ↓reduceIte]
          rw [hevents, hbatches, ← hrecords]
          exact hall

-- One tick takes all that is pending.
theorem passes_tick (l : DrainLoop ring) (hopen : l.queue.closed = false) :
    let size := max l.tally.limit 1
    let pending := (l.memory.tail - l.queue.head).toNat
    let batches := (pending + size - 1) / size
    l.Passes l.tick batches pending ((List.range batches).flatMap (told l.batch size pending)) := by
  intro size pending batches
  have hsize : 1 ≤ size := Nat.le_max_right _ _
  have hcount : (l.queue.count l.memory).toNat = pending := by rw [Queue.count, hopen]; rfl
  have hbatches : min pending batches = batches := Nat.min_eq_right (div_batches_le pending hsize)
  have hrecords : min pending (pending * size) = pending := Nat.min_eq_left (Nat.le_mul_of_pos_right pending hsize)
  have hall : l.Passes (runBatches pending l) (min pending batches) (min pending (pending * size))
      ((List.range (min pending batches)).flatMap (told l.batch size pending)) := l.passes_runBatches pending hopen
  rw [hbatches, hrecords] at hall
  rw [tick, hcount]
  exact hall

theorem hasCompletions_tick (l : DrainLoop ring) (hopen : l.queue.closed = false) :
    l.tick.queue.hasCompletions l.tick.memory = false := by
  have hall := l.passes_tick hopen
  obtain ⟨_, hmemory⟩ := hall.memory_eq
  have hend : l.tick.queue.head = l.tick.memory.tail := by
    rw [hall.queue_eq, hmemory]
    exact (cursor_eq_add l.queue.head l.memory.tail).symm
  simp [Queue.hasCompletions, hend]

end DrainLoop

end CompletionRing
