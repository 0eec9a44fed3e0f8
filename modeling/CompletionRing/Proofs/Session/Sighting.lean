import CompletionRing.Proofs.Session.Accounting

namespace CompletionRing

variable {ring : Mapping}

namespace Session

variable {s : Session ring} {l : Ledger} {start : UInt32} {released : Nat} {m : Memory ring}

-- The memories that a monitor on another thread may come upon: the one that a step has left, and those of
-- a drain while it runs.
inductive Shows (s : Session ring) (l : Ledger) : Memory ring → Prop
  | left : s.Shows l s.halves.memory
  | during (conduct : Conduct Feeding) (now : Moment ring) (hnow : now ∈ (s.watch l conduct).moments) :
      s.Shows l now.memory

-- A drain releases nothing before it ends, so its memories go by the head that it began with.
theorem Settled.exists_moment (h : s.Settled l start released) (hm : s.Shows l m) :
    ∃ now : Moment ring, now.memory = m ∧ now.Since l start released := by
  cases hm with
  | left => exact ⟨⟨l, s.halves.producer, s.halves.memory⟩, rfl, .refl l, h.describes⟩
  | during conduct now hnow =>
      obtain ⟨_, _, _, _, _, _, hmoments, _⟩ := h.watched conduct
      exact ⟨now, rfl, hmoments now hnow⟩

theorem Settled.pending_le (h : s.Settled l start released) (hm : s.Shows l m) :
    (m.tail - m.head).toNat ≤ ring.size := by
  obtain ⟨now, rfl, hnow⟩ := h.exists_moment hm
  have hsum := hnow.describes.balanced.sum_eq
  unfold Mapping.size
  omega

-- The head of an earlier state is behind the present one by what has been handed out since.
theorem Settled.tail_sub_earlier_head (h : s.Settled l start released) (steps : List (Step Feeding))
    {m₁ m₂ : Memory ring} (h₁ : s.Shows l m₁) (h₂ : (s.after steps).Shows (s.ledger l steps) m₂) :
    m₂.tail - m₁.head = .ofNat ((m₂.tail - m₂.head).toNat + (s.delivered steps).length) := by
  obtain ⟨now₁, rfl, hnow₁⟩ := h.exists_moment h₁
  obtain ⟨now₂, rfl, hnow₂⟩ := (h.after steps).exists_moment h₂
  have hreleased := hnow₂.describes.released_le
  rw [hnow₂.describes.toNat_count, hnow₂.describes.tail_eq, hnow₁.describes.head_eq,
    cursor_sub start (by omega)]
  congr 1
  omega

end Session

-- A monitor that loads the head in one state and the tail in a later one counts what is pending at the second
-- load and all that was taken out between the two. Only what is pending is bounded by the ring, so the count
-- keeps to that bound just where the two together do, as a word.
theorem monitor_counts_across_loads {entries start : UInt32} {base : UInt64} {s₀ : Session ring}
    {events : List Event} (h : Simulated.session entries start base = .ok ⟨ring, s₀, events⟩)
    (before between : List (Step Feeding)) :
    let s₁ := s₀.after before
    let s₂ := s₁.after between
    let l₁ := s₀.ledger .blank before
    let l₂ := s₁.ledger l₁ between
    let q := s₂.halves.queue
    q.closed = false → ∀ m₁ m₂ : Memory ring, s₁.Shows l₁ m₁ → s₂.Shows l₂ m₂ →
      let pending := (Sighting.of q m₂).count.toNat
      let taken := (s₁.delivered between).length
      let seen := Sighting.between q m₁ m₂
      pending ≤ entries.toNat ∧ seen.count = .ofNat (pending + taken) ∧
        (seen.count ≤ entries ↔ (pending + taken) % 2 ^ 32 ≤ entries.toNat) := by
  intro s₁ s₂ l₁ l₂ q hopen m₁ m₂ h₁ h₂ pending taken seen
  obtain ⟨_, hring, _⟩ := (Simulated.session_eq_ok_iff entries start base s₀ events).mp h
  have hentries : ring.entries = entries := congrArg Layout.entries hring
  have hs₁ := (Simulated.settled_of_session h).after before
  have hs₂ := hs₁.after between
  have hpending : pending = (m₂.tail - m₂.head).toNat := by
    simp [pending, Sighting.of, Sighting.between, Sighting.count, hopen]
  have hseen : seen.count = .ofNat (pending + taken) := by
    have hcount : seen.count = m₂.tail - m₁.head := by
      simp [seen, Sighting.between, Sighting.count, hopen]
    rw [hcount, hpending]
    exact hs₁.tail_sub_earlier_head between h₁ h₂
  refine ⟨?_, hseen, ?_⟩
  · rw [hpending, ← hentries]
    exact hs₂.pending_le h₂
  · rw [hseen, UInt32.le_iff_toNat_le, UInt32.toNat_ofNat']

-- A ring of two slots whose cursors wrap between the loads. The tail is loaded while a handler holds the second
-- record and has posted the third.
theorem monitor_counts_across_loads_in_drain :
    let ring : Mapping := ⟨(⟨2, 4294967295⟩ : Simulated).layout 4096, rfl⟩
    let s₀ := (Session.begin (Memory.fresh ring 4294967295)).1
    let before : List (Step Feeding) := [.act (.post ⟨1, 5, 0⟩)]
    let between : List (Step Feeding) := [.reap 1, .act (.post ⟨2, 6, 0⟩)]
    Simulated.session 2 4294967295 4096 =
        .ok ⟨ring, s₀, (Session.begin (Memory.fresh ring 4294967295)).2⟩ ∧
      ((s₀.after before).after between).halves.queue.closed = false ∧
      ((s₀.after before).delivered between).length = 1 ∧
      ∃ m₂, ((s₀.after before).after between).Shows
          ((s₀.after before).ledger (s₀.ledger .blank before) between) m₂ ∧
        (Sighting.of ((s₀.after before).after between).halves.queue m₂).count = 2 ∧
        (Sighting.between ((s₀.after before).after between).halves.queue
          (s₀.after before).halves.memory m₂).count = 3 := by
  intro ring s₀ before between
  have hsession : Simulated.session 2 4294967295 4096 =
      .ok ⟨ring, s₀, (Session.begin (Memory.fresh ring 4294967295)).2⟩ := rfl
  have hopen : ((s₀.after before).after between).halves.queue.closed = false := by decide +kernel
  have htaken : ((s₀.after before).delivered between).length = 1 := by decide +kernel
  let conduct : Conduct Feeding := fun _ _ => .act (.post ⟨3, 7, 0⟩) fun _ => .answer .proceed
  have hcounts : (((s₀.after before).after between).watch
      ((s₀.after before).ledger (s₀.ledger .blank before) between) conduct).moments.map Moment.count =
        [1, 2] := by
    decide +kernel
  have hlast : (2 : UInt32) ∈ [1, 2] := by decide
  rw [← hcounts] at hlast
  obtain ⟨now, hnow, hcount⟩ := List.mem_map.mp hlast
  have hpending : (Sighting.of ((s₀.after before).after between).halves.queue now.memory).count = 2 := by
    rw [← hcount, Sighting.of, Sighting.between, hopen]
    rfl
  obtain ⟨_, hseen, _⟩ := monitor_counts_across_loads hsession before between hopen
    (s₀.after before).halves.memory now.memory .left (.during conduct now hnow)
  rw [hpending, htaken] at hseen
  exact ⟨hsession, hopen, htaken, now.memory, .during conduct now hnow, hpending, hseen⟩

-- Two records are taken out of a ring of two slots and a third one is posted between the loads. The monitor
-- counts all three.
theorem monitor_counts_more_than_fits :
    let ring : Mapping := ⟨(⟨2, 0⟩ : Simulated).layout 4096, rfl⟩
    let s₁ := (Session.begin (Memory.fresh ring 0)).1
    let between : List (Step Feeding) :=
      [.act (.post ⟨1, 5, 0⟩), .reap 1, .act (.post ⟨2, 6, 0⟩), .reap 1, .act (.post ⟨3, 7, 0⟩)]
    let s₂ := s₁.after between
    let seen := Sighting.between s₂.halves.queue s₁.halves.memory s₂.halves.memory
    Simulated.session 2 0 4096 = .ok ⟨ring, s₁, (Session.begin (Memory.fresh ring 0)).2⟩ ∧
      s₁.halves.queue.closed = false ∧ s₂.halves.queue.closed = false ∧
      seen.count = 3 ∧ ¬ seen.count ≤ ring.entries := by
  intro ring s₁ between s₂ seen
  have hcount : seen.count = 3 := by decide +kernel
  refine ⟨rfl, rfl, by decide +kernel, hcount, ?_⟩
  rw [hcount]
  decide

end CompletionRing
