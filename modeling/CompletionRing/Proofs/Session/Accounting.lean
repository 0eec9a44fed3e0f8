import CompletionRing.Proofs.Session.Conservation

namespace CompletionRing

variable {ring : Mapping}

-- Every slot is free, taken by a record that was not shown yet, or by one that was shown and not released.
-- The producer never takes more for pending than there are slots.
structure Balanced (p : Producer ring) (m : Memory ring) : Prop where
  sum_eq : (p.available m).toNat + (p.unpublished m).toNat + (m.tail - m.head).toNat = ring.entries.toNat
  pending_le : p.pending m ≤ ring.entries

theorem Ledger.Describes.balanced {l : Ledger} {start : UInt32} {released : Nat} {m : Memory ring}
    {p : Producer ring} (h : l.Describes start released m p) : Balanced p m := by
  refine ⟨?_, h.pending_le⟩
  have hfits := h.fits
  have hreleased := h.released_le
  have hshown := h.shown_le
  rw [h.toNat_available, h.toNat_unpublished, h.toNat_count]
  unfold Mapping.size at *
  omega

theorem Queue.hasCompletions_iff (q : Queue ring) (m : Memory ring) :
    q.hasCompletions m = true ↔ q.count m ≠ 0 := by
  have hsub : m.tail - q.head = 0 ↔ q.head = m.tail := by
    rw [UInt32.sub_eq_iff_eq_add, UInt32.zero_add, eq_comm]
  cases hclosed : q.closed <;> simp [Queue.hasCompletions, Queue.count, hclosed, hsub]

namespace Session

variable {s : Session ring} {l : Ledger} {start : UInt32} {released : Nat}

theorem moments_of_closed (s : Session ring) (l : Ledger) (conduct : Conduct Feeding)
    (hclosed : s.halves.queue.closed = true) : (s.watch l conduct).moments = [] := by
  simp [watch, watched, Queue.drain, hclosed]

theorem Settled.toNat_pending (h : s.Settled l start released) :
    (s.halves.memory.tail - s.halves.queue.head).toNat = l.shown - released := by
  rw [h.head_eq]
  exact h.describes.toNat_tail_sub (Nat.le_refl _) h.describes.released_le

theorem Settled.toNat_count (h : s.Settled l start released) (hopen : s.halves.queue.closed = false) :
    (s.halves.queue.count s.halves.memory).toNat = l.shown - released := by
  rw [Queue.count, hopen]
  exact h.toNat_pending

-- Since a drain has begun the count of a monitor has only grown, by the records published meanwhile.
theorem Settled.count_of_since (h : s.Settled l start released) (hopen : s.halves.queue.closed = false)
    {now : Moment ring} (hnow : now.Since l start released) :
    ∃ since, now.ledger.published = l.published ++ since ∧
      now.count.toNat = (s.halves.queue.count s.halves.memory).toNat + since.length := by
  refine ⟨_, hnow.grows.published_eq h.describes.shown_le, ?_⟩
  have hcount : now.count.toNat = now.ledger.shown - released := hnow.describes.toNat_count
  have hreleased := h.describes.released_le
  have hshown := hnow.grows.shown
  have hpushed := hnow.describes.shown_le
  rw [hcount, h.toNat_count hopen, List.length_take, List.length_drop]
  omega

end Session

-- Between two steps the two heads are one, so that the queue and its monitors agree; in a drain the released
-- head stands still, so that its monitors go on counting what it has consumed.
theorem slots_accounted_for {entries start : UInt32} {base : UInt64} {s₀ : Session ring}
    {events : List Event} (h : Simulated.session entries start base = .ok ⟨ring, s₀, events⟩)
    (steps : List (Step Feeding)) :
    let s := s₀.after steps
    let l := s₀.ledger .blank steps
    let m := s.halves.memory
    let q := s.halves.queue
    (Balanced s.halves.producer m ∧ m.head = q.head ∧
      (q.closed = false → (Sighting.of q m).count = m.tail - m.head) ∧
      (Sighting.of q m).count = q.count m ∧
      (Sighting.of q m).hasCompletions = q.hasCompletions m ∧
      (q.hasCompletions m = true ↔ q.count m ≠ 0)) ∧
    ∀ conduct : Conduct Feeding,
      (∀ now ∈ (s.watch l conduct).moments,
        Balanced now.producer now.memory ∧
        (Sighting.of q now.memory).count = now.memory.tail - now.memory.head ∧
        ∃ since, now.ledger.published = l.published ++ since ∧
          (Sighting.of q now.memory).count.toNat = (q.count m).toNat + since.length) ∧
      ∀ count ∈ (q.drain (Conduct.handler conduct) m (s.halves.producer, Trace.empty)).state.2.observed,
        ∃ now ∈ (s.watch l conduct).moments, count = (Sighting.of q now.memory).count := by
  intro s l m q
  have hbegin : s₀.Settled .blank start 0 := by
    rw [Simulated.eq_begin_of_session h]
    exact Session.settled_begin ring start
  obtain ⟨released, hs, _⟩ := hbegin.run steps
  have hheads : m.head = q.head := hs.describes.head_eq.trans hs.head_eq.symm
  refine ⟨⟨hs.describes.balanced, hheads, ?_, ?_, ?_, q.hasCompletions_iff m⟩, ?_⟩
  · intro hopen
    simp [Sighting.of, Sighting.between, Sighting.count, hopen]
  · simp only [Sighting.of, Sighting.between, Sighting.count, Queue.count, hheads]
  · simp only [Sighting.of, Sighting.between, Sighting.hasCompletions, Queue.hasCompletions, hheads]
  · intro conduct
    obtain ⟨_, _, _, _, _, _, hmoments, hobserved⟩ := hs.watched conduct
    cases hclosed : q.closed with
    | true =>
        have hnone : (s.watch l conduct).moments = [] := s.moments_of_closed l conduct hclosed
        simp [hnone, Queue.drain, hclosed, Trace.empty]
    | false =>
        have hcount (now : Moment ring) : (Sighting.of q now.memory).count = now.count := by
          simp [Sighting.of, Sighting.between, Moment.count, hclosed]
        simp only [hcount]
        refine ⟨fun now hnow => ⟨(hmoments now hnow).describes.balanced, rfl, ?_⟩, ?_⟩
        · exact hs.count_of_since hclosed (hmoments now hnow)
        · rw [← q.drain_noting (Conduct.handler conduct) (Conduct.note conduct) m _ ⟨l, []⟩]
          exact hobserved

-- The handler posts a second record while it holds the first: a monitor then counts both, in a ring of two
-- slots whose cursors have wrapped in between.
theorem slots_accounted_for_across_wrap :
    let ring : Mapping := ⟨(⟨2, 4294967295⟩ : Simulated).layout 4096, rfl⟩
    let s₀ := (Session.begin (Memory.fresh ring 4294967295)).1
    let steps : List (Step Feeding) := [.act (.post ⟨1, 5, 0⟩)]
    let conduct : Conduct Feeding := fun _ _ => .act (.post ⟨2, 6, 0⟩) fun _ => .answer .proceed
    let moments := ((s₀.after steps).watch (s₀.ledger .blank steps) conduct).moments
    Simulated.session 2 4294967295 4096 =
        .ok ⟨ring, s₀, (Session.begin (Memory.fresh ring 4294967295)).2⟩ ∧
      Balanced (s₀.after steps).halves.producer (s₀.after steps).halves.memory ∧
      moments.map Moment.count = [1, 2] ∧ ∀ now ∈ moments, Balanced now.producer now.memory := by
  intro ring s₀ steps conduct moments
  have hsession : Simulated.session 2 4294967295 4096 =
      .ok ⟨ring, s₀, (Session.begin (Memory.fresh ring 4294967295)).2⟩ := rfl
  have hcounts : moments.map Moment.count = [1, 2] := by decide +kernel
  obtain ⟨⟨hbalanced, _⟩, hdrain⟩ := slots_accounted_for hsession steps
  exact ⟨hsession, hbalanced, hcounts, fun now hnow => ((hdrain conduct).1 now hnow).1⟩

end CompletionRing
