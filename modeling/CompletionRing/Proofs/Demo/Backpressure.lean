import CompletionRing.Proofs.Demo.Supply
import CompletionRing.Proofs.Session.Conservation

namespace CompletionRing

variable {ring : Mapping}

namespace Feed

-- Where a loop is that was never refused, by the number of its publications.
def Paced (f : Feed) (published : Nat) : Prop :=
  match f.phase with
  | .check => f.next = min (published * f.batch) f.total ∧ published * f.batch < f.total + f.batch
  | .fill pushed => f.next = published * f.batch + pushed ∧ pushed ≤ f.batch ∧ published * f.batch < f.total
  | .publish => f.next = min ((published + 1) * f.batch) f.total ∧ published * f.batch < f.total
  | .finished => f.next = f.total ∧ published = (f.total + f.batch - 1) / f.batch

section Paced

variable {total batch next published : Nat}

theorem Paced.begin (h : Paced ⟨total, batch, next, .check⟩ published) (hlt : next < total) :
    Paced ⟨total, batch, next, .fill 0⟩ published := by
  obtain ⟨hnext : next = min (published * batch) total, _⟩ := h
  refine ⟨?_, Nat.zero_le _, ?_⟩
  · change next = published * batch + 0
    omega
  · change published * batch < total
    omega

theorem Paced.finish (h : Paced ⟨total, batch, next, .check⟩ published) (hge : ¬ next < total) :
    Paced ⟨total, batch, next, .finished⟩ published := by
  obtain ⟨hnext : next = min (published * batch) total, hlt : published * batch < total + batch⟩ := h
  refine ⟨?_, (Nat.div_eq_of_lt_le ?_ ?_).symm⟩
  · change next = total
    omega
  · change published * batch ≤ total + batch - 1
    omega
  · change total + batch - 1 < (published + 1) * batch
    rw [Nat.succ_mul]
    omega

theorem Paced.push {pushed : Nat} (h : Paced ⟨total, batch, next, .fill pushed⟩ published) (hlt : pushed < batch) :
    Paced ⟨total, batch, next + 1, .fill (pushed + 1)⟩ published := by
  obtain ⟨hnext : next = published * batch + pushed, _, hsome⟩ := h
  exact ⟨congrArg (· + 1) hnext, hlt, hsome⟩

theorem Paced.stop {pushed : Nat} (h : Paced ⟨total, batch, next, .fill pushed⟩ published) (hle : next ≤ total)
    (hend : ¬ (pushed < batch ∧ next < total)) : Paced ⟨total, batch, next, .publish⟩ published := by
  obtain ⟨hnext : next = published * batch + pushed, hpushed : pushed ≤ batch, hsome⟩ := h
  refine ⟨?_, hsome⟩
  change next = min ((published + 1) * batch) total
  rw [Nat.succ_mul]
  omega

theorem Paced.publish (h : Paced ⟨total, batch, next, .publish⟩ published) :
    Paced ⟨total, batch, next, .check⟩ (published + 1) := by
  obtain ⟨hnext, hsome : published * batch < total⟩ := h
  refine ⟨hnext, ?_⟩
  change (published + 1) * batch < total + batch
  rw [Nat.succ_mul]
  omega

end Paced

end Feed

namespace Supply

variable {s s' : Supply ring} {act : Option (Feeding × Outcome)} {l : Ledger} {start : UInt32}
  {base released published : Nat}

-- A loop with nobody else at its ring, which has room for all that it will push.
structure Lone (s : Supply ring) (l : Ledger) (start : UInt32) (base released published : Nat) : Prop where
  sound : s.Sound l start base released
  closed_eq : s.intake.queue.closed = false
  batch_pos : 1 ≤ s.feed.batch
  fits : base + s.feed.total ≤ released + ring.size
  paced : s.feed.Paced published

theorem Lone.advance (h : s.Lone l start base released published) (hfed : Fed s act s') :
    s'.feed.Paced (published + publications act.toList) ∧ s'.feed.left ≤ s.feed.left - 1 ∧
      ∀ done ∈ act, done.2 = .done := by
  obtain ⟨hsound, hclosed, hbatch, hfits, hpaced⟩ := h
  have hlength := hsound.length_eq
  have hnext := hsound.next_le
  have hring := hsound.describes
  cases hfed with
  | begin hlt => exact ⟨hpaced.begin hlt, Nat.le_refl _, by simp⟩
  | finish hend =>
      refine ⟨hpaced.finish (hend.resolve_right ?_), Nat.zero_le _, by simp⟩
      exact Bool.eq_false_iff.mp hclosed
  | publish => exact ⟨hpaced.publish, Nat.le_refl _, by simp⟩
  | rest => exact ⟨hpaced, Nat.le_refl _, by simp⟩
  | @push total batch next pushed _ _ _ _ _ hlt hsome =>
      refine ⟨hpaced.push hlt, ?_, by simp⟩
      cases pushed with
      | zero =>
          change 4 * (total - (next + 1)) + 4 ≤ 4 * (total - next) + 1 - 1
          omega
      | succ pushed =>
          change 4 * (total - (next + 1)) + 4 ≤ 4 * (total - next) + 4 - 1
          omega
  | @refuse total _ next _ _ _ _ _ hsome hrefused =>
      have hroom : l.pushed.length < released + ring.size := by
        simp only at hfits hlength
        omega
      rw [hring.push_of_room _ hroom] at hrefused
      cases hrefused
  | @stop total batch next pushed _ _ _ hend =>
      refine ⟨hpaced.stop hnext hend, ?_, by simp⟩
      cases pushed with
      | zero =>
          obtain ⟨hsum : next = published * batch + 0, _, hlt : published * batch < total⟩ := hpaced
          simp only at hbatch
          omega
      | succ pushed => exact Nat.le_refl _

theorem Lone.step (h : s.Lone l start base released published) :
    ∃ l', (s.step .feed).Lone l' start base released (published + publications (s.act? .feed).toList) := by
  obtain ⟨htotal, hbatch⟩ := s.fed_step.bounds_eq
  exact ⟨_, h.sound.fed s.fed_step, h.closed_eq, hbatch ▸ h.batch_pos, htotal ▸ h.fits, (h.advance s.fed_step).1⟩

theorem Lone.run (h : s.Lone l start base released published) (count : Nat) :
    let alone := List.replicate count .feed
    (∃ l', (s.run alone).Lone l' start base released (published + publications (s.acts alone))) ∧
      (s.run alone).feed.left ≤ s.feed.left - count ∧ ∀ act ∈ s.acts alone, act.2 = .done := by
  induction count generalizing s l published with
  | zero => exact ⟨⟨l, h⟩, Nat.le_refl _, by simp [acts]⟩
  | succ count ih =>
      obtain ⟨_, hleft, hdone⟩ := h.advance s.fed_step
      obtain ⟨l', hstep⟩ := h.step
      obtain ⟨⟨l'', hlone⟩, hleft', hdone'⟩ := ih hstep
      have hcount : publications (s.acts (List.replicate (count + 1) .feed)) =
          publications (s.act? .feed).toList + publications ((s.step .feed).acts (List.replicate count .feed)) :=
        List.countP_append
      refine ⟨⟨l'', ?_⟩, ?_, ?_⟩
      · rw [hcount, ← Nat.add_assoc]
        exact hlone
      · change ((s.step .feed).run (List.replicate count .feed)).feed.left ≤ _
        omega
      · intro act hact
        rcases List.mem_append.mp hact with hfirst | hlater
        · exact hdone act (Option.mem_toList.mp hfirst)
        · exact hdone' act hlater

-- A loop that has pushed some records, whatever may be done next.
structure Orderly (s : Supply ring) (pushed : List Completion) : Prop where
  pushed_eq : pushed =
    (List.range s.feed.next).map fun i => ⟨.ofNat i, if i % 7 = 6 then -11 else 512, 0⟩
  next_le : s.feed.next ≤ s.feed.total
  -- a record is tried until it is taken
  tries (c : Completion) (outcome : Outcome) (htried : s.act? .feed = some (.push c, outcome)) :
    c = ⟨.ofNat pushed.length, if pushed.length % 7 = 6 then -11 else 512, 0⟩
  -- what it does to its ring is nothing else
  acts : ((s.step .feed).producer, (s.step .feed).memory) = s.leaves (s.act? .feed)
  shows (turn : Turn ring) : ((s.step turn).memory.tail - s.memory.tail).toNat ≤ s.feed.batch
  ends (hend : s.feed.phase = .finished) :
    s.producer.unpublished s.memory = 0 ∧ s.feed.events = [.producerFinished pushed.length] ∧
      (pushed.length = s.feed.total ∨ s.intake.queue.closed = true)

theorem Sound.orderly (h : s.Sound l start base released) :
    s.Orderly ((List.range s.feed.next).map demoRecord) where
  pushed_eq := rfl
  next_le := h.next_le
  tries := by
    intro c outcome htried
    have hfed := s.fed_step
    rw [htried] at hfed
    generalize s.step .feed = s' at hfed
    rw [List.length_map, List.length_range]
    cases hfed with
    | push | refuse => rfl
  acts := s.fed_step.leaves_eq
  shows := h.toNat_shown_le
  ends := by
    intro hend
    have howes := h.owes
    unfold Feed.Owes at howes
    rw [hend] at howes
    obtain ⟨hnone, hall⟩ := howes
    refine ⟨?_, ?_, ?_⟩
    · rw [← UInt32.toNat_inj, h.describes.toNat_unpublished, hnone]
      rfl
    · rw [Feed.events, if_pos hend, List.length_map, List.length_range]
    · rw [List.length_map, List.length_range]
      exact hall

theorem sound_start {session : Session ring} (h : session.Settled l start released)
    (hshown : session.halves.producer.unpublished session.halves.memory = 0) (total batch : Nat) :
    (Supply.start session.halves total batch).Sound l start l.pushed.length released where
  describes := h.describes
  within := ⟨released, released, Nat.le_refl _, Nat.le_refl _, h.describes.released_le, h.head_eq, h.head_eq⟩
  length_eq := rfl
  next_le := Nat.zero_le _
  owes := by
    have hunpublished := h.describes.toNat_unpublished
    rw [hshown] at hunpublished
    exact hunpublished.symm

end Supply

-- A producing loop neither skips nor repeats a record, whatever the far side does between its steps. Alone, with room
-- for all its records, it takes a batch after the other and ends.
theorem supply_keeps_order {entries start : UInt32} {base : UInt64} {s₀ : Session ring}
    {events : List Event} (h : Simulated.session entries start base = .ok ⟨ring, s₀, events⟩)
    (steps : List (Step Feeding)) :
    let halves := (s₀.after steps).halves
    halves.producer.unpublished halves.memory = 0 → ∀ total batch : Nat, 1 ≤ batch →
      let begun := Supply.start halves total batch
      (∀ turns : List (Supply.Turn ring),
        let now := begun.run turns
        now.Orderly (Supply.pushes (begun.acts turns)) ∧ now.feed.total = total ∧ now.feed.batch = batch) ∧
      (halves.queue.closed = false → total ≤ (halves.producer.available halves.memory).toNat →
        ∀ count, 4 * total + 2 ≤ count →
          let alone : List (Supply.Turn ring) := List.replicate count .feed
          (begun.run alone).feed.phase = .finished ∧ (∀ act ∈ begun.acts alone, act.2 = .done) ∧
            (Supply.pushes (begun.acts alone)).length = total ∧
            Supply.publications (begun.acts alone) = (total + batch - 1) / batch) := by
  intro halves hshown total batch hbatch begun
  obtain ⟨released, hs, _⟩ := (Simulated.settled_of_session h).run steps
  let l := s₀.ledger .blank steps
  have hbegun := Supply.sound_start hs hshown total batch
  have hpushes (turns : List (Supply.Turn ring)) : Supply.pushes (begun.acts turns) =
      (List.range (begun.run turns).feed.next).map demoRecord := begun.pushes_acts turns
  constructor
  · intro turns now
    obtain ⟨_, _, hnow⟩ := hbegun.run turns
    rw [hpushes turns]
    exact ⟨hnow.orderly, begun.bounds_run turns⟩
  · intro hopen hroom count hcount alone
    have hlone : begun.Lone l start l.pushed.length released 0 := by
      refine ⟨hbegun, hopen, hbatch, ?_, ?_⟩
      · have hroom : total ≤ released + ring.size - l.pushed.length := hs.describes.toNat_available ▸ hroom
        have hfits : l.pushed.length ≤ released + ring.size := hs.describes.fits
        change l.pushed.length + total ≤ _
        omega
      · change 0 = min (0 * batch) total ∧ 0 * batch < total + batch
        omega
    obtain ⟨⟨_, hend⟩, hleft, hdone⟩ := hlone.run count
    have hfinished : (begun.run alone).feed.phase = .finished := by
      apply Feed.phase_of_left_eq_zero
      change (begun.run alone).feed.left ≤ 4 * total + 2 - count at hleft
      omega
    have hpaced := hend.paced
    unfold Feed.Paced at hpaced
    rw [hfinished, (begun.bounds_run alone).1, (begun.bounds_run alone).2, Nat.zero_add] at hpaced
    refine ⟨hfinished, hdone, ?_, hpaced.2⟩
    rw [hpushes alone, List.length_map, List.length_range]
    exact hpaced.1

-- Another record takes one of two slots, so that the second record of a batch is refused. It is the first of the next
-- batch once the far side has released what it took.
theorem supply_keeps_order_in_two_slots :
    let ring : Mapping := ⟨(⟨2, 4294967295⟩ : Simulated).layout 4096, rfl⟩
    let s₀ := (Session.begin (Memory.fresh ring 4294967295)).1
    let steps : List (Step Feeding) := [.act (.post ⟨9, 0, 0⟩)]
    let begun := Supply.start (s₀.after steps).halves 3 2
    let turns : List (Supply.Turn ring) := [.feed, .feed, .feed, .intake .load, .feed, .intake .take,
      .intake .release, .feed, .feed, .feed]
    Simulated.session 2 4294967295 4096 =
        .ok ⟨ring, s₀, (Session.begin (Memory.fresh ring 4294967295)).2⟩ ∧
      (begun.acts turns).map Prod.snd = [.done, .refused ⟨2, 2⟩, .done, .done, .refused ⟨2, 2⟩] ∧
      (begun.run turns).Orderly (Supply.pushes (begun.acts turns)) ∧
      Supply.pushes (begun.acts turns) = [⟨0, 512, 0⟩, ⟨1, 512, 0⟩] ∧
      Supply.publications ((Supply.start (s₀.after steps).halves 1 2).acts (List.replicate 6 .feed)) = 1 := by
  intro ring s₀ steps begun turns
  have hsession : Simulated.session 2 4294967295 4096 =
      .ok ⟨ring, s₀, (Session.begin (Memory.fresh ring 4294967295)).2⟩ := rfl
  have hshown : (s₀.after steps).halves.producer.unpublished (s₀.after steps).halves.memory = 0 := by
    decide +kernel
  obtain ⟨hall, _⟩ := supply_keeps_order hsession steps hshown 3 2 (by decide)
  obtain ⟨_, halone⟩ := supply_keeps_order hsession steps hshown 1 2 (by decide)
  obtain ⟨_, _, _, hone⟩ := halone (by decide +kernel) (by decide +kernel) 6 (by decide)
  exact ⟨hsession, by decide +kernel, (hall turns).1, by decide +kernel, hone⟩

end CompletionRing
