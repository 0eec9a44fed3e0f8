import CompletionRing.Proofs.Session.Snapshot

namespace CompletionRing

variable {ring : Mapping}

-- None of a number of cursors in a row has the slot.
def Mapping.Avoids (ring : Mapping) (slot : Fin ring.size) (first : UInt32) (count : Nat) : Prop :=
  ∀ i < count, ring.slot (first + .ofNat i) ≠ slot

-- As many records are told for pending as there are slots, and never more.
def Overflow.full (ring : Mapping) : Overflow :=
  ⟨ring.entries, ring.entries⟩

-- What comes of one action after another, with nothing consumed in between.
def Feeding.outcomes : List Feeding → Producer ring → Memory ring → List Outcome
  | [], _, _ => []
  | f :: feedings, p, m =>
      let (outcome, p, m) := f.perform p m
      outcome :: outcomes feedings p m

-- A record is taken where a slot is free and refused where none is, and either way all else stays as it is.
structure Producer.FillsExactly (p : Producer ring) (m : Memory ring) : Prop where
  taken_iff (c : Completion) : (∃ after, p.push m c = .ok after) ↔ 0 < p.available m
  taken (c : Completion) {p' : Producer ring} {m' : Memory ring} (htaken : p.push m c = .ok (p', m')) :
    p'.tail = p.tail + 1 ∧ m'.head = m.head ∧ m'.tail = m.tail ∧ m'.slotAt (ring.slot p.tail) = c ∧
      ∀ slot, slot ≠ ring.slot p.tail → m'.slotAt slot = m.slotAt slot
  avoids_pending (hroom : 0 < p.available m) :
    ring.Avoids (ring.slot p.tail) m.head (m.tail - m.head).toNat
  avoids_unpublished (hroom : 0 < p.available m) :
    ring.Avoids (ring.slot p.tail) m.tail (p.unpublished m).toNat
  refused (c : Completion) (hfull : p.available m = 0) : p.push m c = .error (.full ring)
  push_unchanged (c : Completion) (hfull : p.available m = 0) :
    (Feeding.push c).perform p m = (.refused (.full ring), p, m)
  post_unchanged (c : Completion) (hfull : p.available m = 0) :
    (Feeding.post c).perform p m = (.refused (.full ring), p, m)
  outcomes (records : List Completion) :
    Feeding.outcomes (records.map .push) p m =
      List.replicate (min records.length (p.available m).toNat) .done ++
        List.replicate (records.length - (p.available m).toNat) (.refused (.full ring))

namespace Ledger.Describes

variable {l : Ledger} {start : UInt32} {released : Nat} {m : Memory ring} {p : Producer ring}

theorem available_pos_iff (h : l.Describes start released m p) :
    0 < p.available m ↔ l.pushed.length < released + ring.size := by
  rw [UInt32.lt_iff_toNat_lt, h.toNat_available, UInt32.toNat_zero]
  omega

theorem not_room_of_full (h : l.Describes start released m p) (hfull : p.available m = 0) :
    ¬ l.pushed.length < released + ring.size := by
  rw [← h.available_pos_iff, hfull]
  exact UInt32.lt_irrefl 0

-- With a slot free there are fewer cursors from the head to the own tail than slots, so no two of them share one.
theorem avoids (h : l.Describes start released m p) (hroom : 0 < p.available m) {first count : Nat}
    (hlo : released ≤ first) (hhi : first + count ≤ l.pushed.length) :
    ring.Avoids (ring.slot p.tail) (start + .ofNat first) count := by
  intro i hi
  have hfits := h.available_pos_iff.mp hroom
  rw [← cursor_add, h.own_tail_eq]
  exact ring.slot_cursor_ne start (by omega) (by omega)

theorem outcomes_eq (h : l.Describes start released m p) (records : List Completion) :
    Feeding.outcomes (records.map .push) p m =
      List.replicate (min records.length (p.available m).toNat) .done ++
        List.replicate (records.length - (p.available m).toNat) (.refused (.full ring)) := by
  induction records generalizing l m p with
  | nil => simp [Feeding.outcomes]
  | cons c records ih =>
      have havailable := h.toNat_available
      by_cases hroom : l.pushed.length < released + ring.size
      · have hwrite := h.write c hroom
        have hrest := ih hwrite
        have hless := hwrite.toNat_available
        simp only [Ledger.push, List.length_append, List.length_singleton] at hless
        have hmin : min (records.length + 1) (p.available m).toNat =
            min records.length ((⟨p.tail + 1⟩ : Producer ring).available (m.write p.tail c)).toNat + 1 := by omega
        have hsub : records.length + 1 - (p.available m).toNat =
            records.length - ((⟨p.tail + 1⟩ : Producer ring).available (m.write p.tail c)).toNat := by omega
        simp only [List.map_cons, Feeding.outcomes, Feeding.perform, h.push_of_room c hroom, hrest,
          List.length_cons, hmin, hsub, List.replicate_succ, List.cons_append]
      · have hnone : (p.available m).toNat = 0 := by omega
        have hrest := ih h
        simp only [hnone, Nat.min_zero, Nat.sub_zero, List.replicate_zero, List.nil_append] at hrest ⊢
        simp only [List.map_cons, Feeding.outcomes, Feeding.perform, h.push_of_full c hroom, hrest]
        rfl

theorem fillsExactly (h : l.Describes start released m p) : p.FillsExactly m where
  taken_iff c := by
    rw [h.available_pos_iff]
    by_cases hroom : l.pushed.length < released + ring.size
    · simp [h.push_of_room c hroom, hroom]
    · simp [h.push_of_full c hroom, hroom]
  taken := by
    intro c p' m' htaken
    unfold Producer.push at htaken
    split at htaken
    · cases htaken
    · cases htaken
      refine ⟨rfl, rfl, rfl, m.slotAt_setSlot_self _ c, ?_⟩
      intro slot hne
      exact m.slotAt_setSlot_of_ne c hne.symm
  avoids_pending hroom := by
    have hshown := h.shown_le
    rw [h.toNat_count, h.head_eq]
    exact h.avoids hroom (Nat.le_refl _) (by have := h.released_le; omega)
  avoids_unpublished hroom := by
    have hshown := h.shown_le
    rw [h.toNat_unpublished, h.tail_eq]
    exact h.avoids hroom h.released_le (by omega)
  refused c hfull := h.push_of_full c (h.not_room_of_full hfull)
  push_unchanged c hfull := by
    simp only [Feeding.perform, h.push_of_full c (h.not_room_of_full hfull)]
    rfl
  post_unchanged c hfull := by
    simp only [Feeding.perform, Producer.post, h.push_of_full c (h.not_room_of_full hfull), bind, Except.bind]
    rfl
  outcomes := h.outcomes_eq

end Ledger.Describes

-- A producer never has to guess: a record finds a place exactly where a slot is counted as available, and that slot is
-- none that anyone has still to read, a draining handler that pushes among them. A refusal leaves no trace.
theorem overflow_is_exact {entries start : UInt32} {base : UInt64} {s₀ : Session ring}
    {events : List Event} (h : Simulated.session entries start base = .ok ⟨ring, s₀, events⟩)
    (steps : List (Step Feeding)) :
    let s := s₀.after steps
    let q := s.halves.queue
    let m := s.halves.memory
    let p := s.halves.producer
    (p.FillsExactly m ∧ m.head = q.head) ∧
    ∀ {τ ε : Type} (handler : Handler ring (Producer ring × τ) ε) (t : τ), handler.Feeds →
      let w : Walk ring (Producer ring × τ) ε := ⟨handler, q.head, m, (p, t)⟩
      ∀ i ≤ (q.drain handler m (p, t)).processed, ∀ feedings : List Feeding,
        let now := Feeding.performAll feedings (w.before i).2.1 (w.before i).1
        now.1.FillsExactly now.2 ∧ now.2.head = q.head ∧
          (0 < now.1.available now.2 →
            ring.Avoids (ring.slot now.1.tail) q.head (m.tail - q.head).toNat) := by
  intro s q m p
  obtain ⟨released, hs, _⟩ := (Simulated.settled_of_session h).run steps
  let l := s₀.ledger .blank steps
  have hs : s.Settled l start released := hs
  have hheads : m.head = q.head := hs.describes.head_eq.trans hs.head_eq.symm
  refine ⟨⟨hs.describes.fillsExactly, hheads⟩, ?_⟩
  intro τ ε handler t hfeeds w i _ feedings now
  obtain ⟨called, hcalled, hm, hp⟩ := hs.before_since handler hfeeds t i
  obtain ⟨later, hlater, hperformed⟩ := hcalled.performAll feedings
  rw [hm, hp] at hperformed
  have hnow : now = (later.producer, later.memory) := hperformed.symm
  have hlater' := hlater.describes
  have hpushed := hlater.grows.pushed.length_le
  have hshown := hs.describes.shown_le
  have hreleased := hs.describes.released_le
  rw [hnow]
  refine ⟨hlater'.fillsExactly, hlater'.head_eq.trans hs.head_eq.symm, ?_⟩
  intro hroom
  rw [hs.toNat_pending, hs.head_eq]
  exact hlater'.avoids hroom (Nat.le_refl released) (by omega)

-- One record is shown and one is not in a ring of two slots whose cursors wrap. There is no room for a third, even
-- when the handler has the first in hand; once it is released there is room for one.
theorem overflow_is_exact_across_wrap :
    let ring : Mapping := ⟨(⟨2, 4294967295⟩ : Simulated).layout 4096, rfl⟩
    let s₀ := (Session.begin (Memory.fresh ring 4294967295)).1
    let steps : List (Step Feeding) := [.act (.post ⟨1, 5, 0⟩), .act (.push ⟨2, 6, 0⟩)]
    let more : List (Step Feeding) := steps ++ [.reap 1]
    let conduct : Conduct Feeding := fun _ _ => .act (.post ⟨3, 7, 0⟩) fun _ => .answer .proceed
    let handler : Handler ring (Producer ring × Trace) String := Conduct.handler conduct
    let w : Walk ring (Producer ring × Trace) String := ⟨handler, (s₀.after steps).halves.queue.head,
      (s₀.after steps).halves.memory, ((s₀.after steps).halves.producer, Trace.empty)⟩
    Simulated.session 2 4294967295 4096 =
        .ok ⟨ring, s₀, (Session.begin (Memory.fresh ring 4294967295)).2⟩ ∧
      handler.Feeds ∧ Overflow.full ring = ⟨2, 2⟩ ∧
      (Feeding.post ⟨3, 7, 0⟩).perform (s₀.after steps).halves.producer (s₀.after steps).halves.memory =
        (.refused (.full ring), (s₀.after steps).halves.producer, (s₀.after steps).halves.memory) ∧
      (w.before 1).2.1.push (w.before 1).1 ⟨3, 7, 0⟩ = .error (.full ring) ∧
      Feeding.outcomes [.push ⟨3, 7, 0⟩, .push ⟨4, 8, 0⟩] (s₀.after more).halves.producer
        (s₀.after more).halves.memory = [.done, .refused (.full ring)] := by
  intro ring s₀ steps more conduct handler w
  have hsession : Simulated.session 2 4294967295 4096 =
      .ok ⟨ring, s₀, (Session.begin (Memory.fresh ring 4294967295)).2⟩ := rfl
  obtain ⟨⟨hfills, _⟩, hdrain⟩ := overflow_is_exact hsession steps
  obtain ⟨⟨hlater, _⟩, _⟩ := overflow_is_exact hsession more
  have hinside : ∀ i ≤ 1, (w.before i).2.1.FillsExactly (w.before i).1 := fun i hi =>
    (hdrain handler Trace.empty conduct.handler_feeds i (hi.trans (by decide +kernel)) []).1
  have hnone : (s₀.after steps).halves.producer.available (s₀.after steps).halves.memory = 0 := by
    decide +kernel
  have hnone' : (w.before 1).2.1.available (w.before 1).1 = 0 := by decide +kernel
  have hone : ((s₀.after more).halves.producer.available (s₀.after more).halves.memory).toNat = 1 := by
    decide +kernel
  have houtcomes := hlater.outcomes [⟨3, 7, 0⟩, ⟨4, 8, 0⟩]
  rw [hone] at houtcomes
  exact ⟨hsession, conduct.handler_feeds, rfl, hfills.post_unchanged _ hnone, (hinside 1 le_rfl).refused _ hnone',
    houtcomes⟩

end CompletionRing
