import CompletionRing.Proofs.Session.Twins

namespace CompletionRing

variable {ring₁ ring₂ : Mapping} {l : Ledger} {start₁ start₂ : UInt32} {released : Nat}

theorem cursor_sub_cursor (start₁ start₂ : UInt32) (i : Nat) :
    (start₂ + .ofNat i) - (start₁ + .ofNat i) = start₂ - start₁ := by
  grind

theorem Sighting.count_relative (s : Sighting) : s.relative.count = s.count := by
  cases hclosed : s.closed <;> simp [count, relative, hclosed]

theorem Sighting.hasCompletions_relative (s : Sighting) :
    s.relative.hasCompletions = s.hasCompletions := by
  have hsub : 0 = s.tail - s.head ↔ s.head = s.tail := by
    rw [eq_comm, UInt32.sub_eq_iff_eq_add, UInt32.zero_add, eq_comm]
  rw [Bool.eq_iff_iff]
  simp [hasCompletions, relative, hsub]

-- Two rings that show the same to their producers and their monitors, and each cursor of the second stands
-- as far behind that of the first.
structure Producer.Shifted (distance : UInt32) (p₁ : Producer ring₁) (m₁ : Memory ring₁)
    (p₂ : Producer ring₂) (m₂ : Memory ring₂) : Prop where
  unpublished_eq : p₁.unpublished m₁ = p₂.unpublished m₂
  available_eq : p₁.available m₁ = p₂.available m₂
  pending_eq : m₁.tail - m₁.head = m₂.tail - m₂.head
  head_sub : m₂.head - m₁.head = distance
  shown_sub : m₂.tail - m₁.tail = distance
  tail_sub : p₂.tail - p₁.tail = distance

theorem Moment.Twins.shifted {now₁ : Moment ring₁} {now₂ : Moment ring₂}
    (h : now₁.Twins now₂ l start₁ start₂ released) :
    Producer.Shifted (start₂ - start₁) now₁.producer now₁.memory now₂.producer now₂.memory := by
  obtain ⟨ledger, p₁, m₁⟩ := now₁
  obtain ⟨ledger₂, p₂, m₂⟩ := now₂
  obtain rfl : ledger = ledger₂ := h.ledger_eq
  have h₁ : ledger.Describes start₁ released m₁ p₁ := h.first.describes
  have h₂ : ledger.Describes start₂ released m₂ p₂ := h.second.describes
  have hpending : p₁.pending m₁ = p₂.pending m₂ := by
    rw [← UInt32.toNat_inj, h₁.toNat_pending, h₂.toNat_pending]
  constructor
  case unpublished_eq => rw [← UInt32.toNat_inj, h₁.toNat_unpublished, h₂.toNat_unpublished]
  case available_eq => rw [Producer.available, Producer.available, hpending, h.entries_eq]
  case pending_eq => exact h.count_eq
  case head_sub => rw [h₁.head_eq, h₂.head_eq, cursor_sub_cursor]
  case shown_sub => rw [h₁.tail_eq, h₂.tail_eq, cursor_sub_cursor]
  case tail_sub => rw [h₁.own_tail_eq, h₂.own_tail_eq, cursor_sub_cursor]

namespace Session

variable {s₁ : Session ring₁} {s₂ : Session ring₂}

-- Two sessions whose queues, monitors and producers show the same, with a fixed distance between their
-- cursors.
structure Shifted (distance : UInt32) (s₁ : Session ring₁) (s₂ : Session ring₂) : Prop where
  closed_eq : s₁.halves.queue.closed = s₂.halves.queue.closed
  count_eq : s₁.halves.queue.count s₁.halves.memory = s₂.halves.queue.count s₂.halves.memory
  hasCompletions_eq :
    s₁.halves.queue.hasCompletions s₁.halves.memory = s₂.halves.queue.hasCompletions s₂.halves.memory
  monitors_eq : s₁.monitors = s₂.monitors
  sighting_count_eq : (Sighting.of s₁.halves.queue s₁.halves.memory).count =
    (Sighting.of s₂.halves.queue s₂.halves.memory).count
  sighting_hasCompletions_eq : (Sighting.of s₁.halves.queue s₁.halves.memory).hasCompletions =
    (Sighting.of s₂.halves.queue s₂.halves.memory).hasCompletions
  head_sub : s₂.halves.queue.head - s₁.halves.queue.head = distance
  ring : Producer.Shifted distance s₁.halves.producer s₁.halves.memory s₂.halves.producer s₂.halves.memory

theorem Twins.shifted (h : s₁.Twins s₂ l start₁ start₂ released) : Shifted (start₂ - start₁) s₁ s₂ where
  closed_eq := h.closed_eq
  count_eq := h.count_eq
  hasCompletions_eq := by
    rw [Bool.eq_iff_iff, Queue.hasCompletions_iff, Queue.hasCompletions_iff, h.count_eq]
  monitors_eq := h.monitors_eq
  sighting_count_eq := by rw [← Sighting.count_relative, h.sighting_eq, Sighting.count_relative]
  sighting_hasCompletions_eq := by
    rw [← Sighting.hasCompletions_relative, h.sighting_eq, Sighting.hasCompletions_relative]
  head_sub := by rw [h.first.head_eq, h.second.head_eq, cursor_sub_cursor]
  ring := h.moment.shifted

theorem Twins.moments (h : s₁.Twins s₂ l start₁ start₂ released) (conduct : Conduct Feeding) :
    List.Forall₂ (fun now₁ now₂ => now₁.Twins now₂ l start₁ start₂ released)
      (s₁.watch l conduct).moments (s₂.watch l conduct).moments := by
  obtain ⟨_, _, _, _, _, hcalls⟩ := h.watched conduct
  exact hcalls.moments

end Session

namespace Simulated

theorem relative_layout (s : Simulated) (base : UInt64) : (s.layout base).relative = s.layout 0 := by
  have hoffset (offset : UInt64) : base + offset - base = 0 + offset := by grind
  simp only [layout, Layout.relative, hoffset]

theorem twins_of_session {entries start₁ start₂ : UInt32} {base₁ base₂ : UInt64} {s₁ : Session ring₁}
    {s₂ : Session ring₂} {events₁ events₂ : List Event}
    (h₁ : session entries start₁ base₁ = .ok ⟨ring₁, s₁, events₁⟩)
    (h₂ : session entries start₂ base₂ = .ok ⟨ring₂, s₂, events₂⟩) :
    s₁.Twins s₂ .blank start₁ start₂ 0 := by
  obtain ⟨_, hlayout₁, hbegin₁⟩ := (session_eq_ok_iff entries start₁ base₁ s₁ events₁).mp h₁
  obtain ⟨_, hlayout₂, hbegin₂⟩ := (session_eq_ok_iff entries start₂ base₂ s₂ events₂).mp h₂
  obtain ⟨rfl, _⟩ := Prod.mk.inj hbegin₁
  obtain ⟨rfl, _⟩ := Prod.mk.inj hbegin₂
  refine ⟨Session.settled_begin ring₁ start₁, Session.settled_begin ring₂ start₂, rfl, rfl, ?_⟩
  rw [hlayout₁, hlayout₂, relative_layout, relative_layout]
  rfl

end Simulated

-- Nothing that a ring answers tells where its cursors began, for they are only ever compared with one
-- another. Any start is accepted. Two rings of one size take every run alike, before each step and at each
-- moment of a drain, and their cursors keep the distance at which they began.
theorem start_unobservable {entries start₁ start₂ : UInt32} {base₁ base₂ : UInt64} {s₁ : Session ring₁}
    {s₂ : Session ring₂} {events₁ events₂ : List Event}
    (h₁ : Simulated.session entries start₁ base₁ = .ok ⟨ring₁, s₁, events₁⟩)
    (h₂ : Simulated.session entries start₂ base₂ = .ok ⟨ring₂, s₂, events₂⟩) (steps : List (Step Feeding)) :
    let now₁ := s₁.after steps
    let now₂ := s₂.after steps
    (∃ s events, Simulated.session entries start₂ base₁ = .ok ⟨ring₁, s, events⟩) ∧
      Session.Shifted (start₂ - start₁) now₁ now₂ ∧
      (∀ next : Step Feeding, next.showsHead = false →
        (now₁.step next).1.relative = (now₂.step next).1.relative) ∧
      ∀ conduct : Conduct Feeding, List.Forall₂ (fun moment₁ moment₂ =>
          Producer.Shifted (start₂ - start₁) moment₁.producer moment₁.memory moment₂.producer moment₂.memory)
        (now₁.watch (s₁.ledger .blank steps) conduct).moments
        (now₂.watch (s₂.ledger .blank steps) conduct).moments := by
  intro now₁ now₂
  have hbegin := Simulated.twins_of_session h₁ h₂
  obtain ⟨_, hnow⟩ := hbegin.after steps
  obtain ⟨haccepted, hring, _⟩ := (Simulated.session_eq_ok_iff entries start₁ base₁ s₁ events₁).mp h₁
  have hcreated := (Simulated.session_eq_ok_iff entries start₂ base₁ _ _).mpr ⟨haccepted, hring, rfl⟩
  refine ⟨⟨_, _, hcreated⟩, hnow.shifted, fun next hnext => ?_, fun conduct => ?_⟩
  · exact (hnow.corresponds next).answer (Or.inr hnext)
  · rw [← hbegin.ledger_congr steps]
    exact (hnow.moments conduct).imp fun _ _ h => h.shifted

-- Two slots, with cursors that wrap at the second record and with others that do not. The handler finds room
-- for one more record and none for a third.
theorem start_unobservable_across_wrap :
    let ring₁ : Mapping := ⟨(⟨2, 4294967295⟩ : Simulated).layout 4096, rfl⟩
    let ring₂ : Mapping := ⟨(⟨2, 5⟩ : Simulated).layout 8192, rfl⟩
    let s₁ := (Session.begin (Memory.fresh ring₁ 4294967295)).1
    let s₂ := (Session.begin (Memory.fresh ring₂ 5)).1
    let steps : List (Step Feeding) := [.act (.post ⟨1, 5, 0⟩),
      .drain fun _ _ => .act (.post ⟨2, 6, 0⟩) fun _ => .act (.push ⟨3, 7, 0⟩) fun _ => .answer .proceed,
      .act (.push ⟨4, 8, 0⟩), .makeMonitor]
    Simulated.session 2 4294967295 4096 =
        .ok ⟨ring₁, s₁, (Session.begin (Memory.fresh ring₁ 4294967295)).2⟩ ∧
      Simulated.session 2 5 8192 = .ok ⟨ring₂, s₂, (Session.begin (Memory.fresh ring₂ 5)).2⟩ ∧
      (s₁.after steps).halves.queue.head = 0 ∧ (s₂.after steps).halves.queue.head = 6 ∧
      ((s₁.after steps).step (.reap 3 : Step Feeding)).1.relative = .records [⟨2, 6, 0⟩] ∧
      ((s₂.after steps).step (.reap 3 : Step Feeding)).1.relative = .records [⟨2, 6, 0⟩] ∧
      (s₁.after steps).halves.producer.available (s₁.after steps).halves.memory =
        (s₂.after steps).halves.producer.available (s₂.after steps).halves.memory := by
  intro ring₁ ring₂ s₁ s₂ steps
  have hsession₁ : Simulated.session 2 4294967295 4096 =
      .ok ⟨ring₁, s₁, (Session.begin (Memory.fresh ring₁ 4294967295)).2⟩ := rfl
  have hsession₂ : Simulated.session 2 5 8192 =
      .ok ⟨ring₂, s₂, (Session.begin (Memory.fresh ring₂ 5)).2⟩ := rfl
  have hhead₁ : (s₁.after steps).halves.queue.head = 0 := by decide +kernel
  have hreaped : ((s₁.after steps).halves.queue.reap 3 (s₁.after steps).halves.memory).state.toList =
      [⟨2, 6, 0⟩] := by decide +kernel
  have hanswer₁ (s : Session ring₁) : (s.step (.reap 3 : Step Feeding)).1.relative =
      .records (s.halves.queue.reap 3 s.halves.memory).state.toList := rfl
  have hrecords : ((s₁.after steps).step (.reap 3 : Step Feeding)).1.relative = .records [⟨2, 6, 0⟩] :=
    (hanswer₁ (s₁.after steps)).trans (congrArg Answer.records hreaped)
  obtain ⟨_, hshifted, hanswer, _⟩ := start_unobservable hsession₁ hsession₂ steps
  have hhead₂ : (s₂.after steps).halves.queue.head = 6 := by
    have hsub := hshifted.head_sub
    rw [hhead₁, UInt32.sub_zero] at hsub
    rw [hsub]
    rfl
  exact ⟨hsession₁, hsession₂, hhead₁, hhead₂, hrecords, (hanswer (.reap 3) rfl).symm.trans hrecords,
    hshifted.ring.available_eq⟩

end CompletionRing
