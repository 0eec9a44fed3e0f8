import CompletionRing.Proofs.Session.Start

namespace CompletionRing

variable {ring ring' : Mapping} {l : Ledger} {start : UInt32} {released : Nat}

namespace Ledger

-- The ledger as someone would keep it who has come when a number of records were released.
def rest (l : Ledger) (released : Nat) : Ledger :=
  ⟨l.pushed.drop released, l.shown - released⟩

theorem rest_split (l : Ledger) (released : Nat) (hshown : l.shown ≤ l.pushed.length) :
    l.split.rest released = (blank.push (l.published.drop released)).publish := by
  have hlength : (l.published.drop released).length = l.shown - released := by
    rw [List.length_drop, published, List.length_take, Nat.min_eq_left hshown]
  exact congrArg (mk (l.published.drop released)) hlength.symm

theorem published_publish_push (records : List Completion) :
    ((blank.push records).publish).published = records :=
  List.take_length

-- Whoever comes later may count from the head that he finds.
theorem Describes.rest {m : Memory ring} {p : Producer ring} (h : l.Describes start released m p) :
    (l.rest released).Describes (start + .ofNat released) 0 m p := by
  have hreleased := h.released_le
  have hshown := h.shown_le
  have hfits := h.fits
  have hpushed : (l.rest released).pushed.length = l.pushed.length - released := List.length_drop
  have hcursor {n : Nat} (hn : released ≤ n) :
      start + .ofNat n = start + .ofNat released + .ofNat (n - released) := by
    rw [← cursor_add, Nat.add_sub_cancel' hn]
  constructor
  case released_le => exact Nat.zero_le _
  case shown_le => exact hpushed ▸ Nat.sub_le_sub_right hshown released
  case fits => omega
  case head_eq => rw [h.head_eq]; exact (UInt32.add_zero _).symm
  case tail_eq => exact h.tail_eq.trans (hcursor hreleased)
  case own_tail_eq => rw [hpushed]; exact h.own_tail_eq.trans (hcursor (hreleased.trans hshown))
  case read_eq =>
    intro i hi _
    have hlt : released + i < l.pushed.length := by omega
    rw [← cursor_add, h.read_eq (released + i) hlt (Nat.le_add_right _ _)]
    exact List.getElem_drop.symm

end Ledger

-- What a producer does to show a number of records at once.
def Feeding.load (records : List Completion) : List Feeding :=
  records.map Feeding.push ++ [.publish]

namespace Session

variable {s : Session ring}

theorem after_acts (s : Session ring) (feedings : List Feeding) :
    (s.after (feedings.map .act)).halves.queue = s.halves.queue ∧
      (s.after (feedings.map .act)).monitors = s.monitors := by
  induction feedings generalizing s with
  | nil => exact ⟨rfl, rfl⟩
  | cons f feedings ih => exact ih (s.step (.act f)).2.2

-- Records for which there is room are all taken.
theorem Settled.load (h : s.Settled l start released) (records : List Completion)
    (hroom : l.pushed.length + records.length ≤ released + ring.size) :
    let loading := (Feeding.load records).map Step.act
    (∀ done ∈ s.run loading, done.1 = .outcome .done) ∧
      (s.after loading).Settled (l.push records).publish start released := by
  induction records generalizing s l with
  | nil =>
      have hnone : l.push [] = l := by simp [Ledger.push]
      rw [hnone]
      refine ⟨?_, h.describes.publish, h.head_eq⟩
      intro done hdone
      rw [List.mem_singleton.mp hdone]
      rfl
  | cons c records ih =>
      rw [List.length_cons] at hroom
      have houtcome : ((Feeding.push c).perform s.halves.producer s.halves.memory).1 = .done := by
        simp only [Feeding.perform, h.describes.push_of_room c (by omega)]
      have hpush : (s.step (.act (Feeding.push c))).2.2.Settled (l.push [c]) start released := by
        have hperform := h.describes.perform (.push c)
        rw [houtcome] at hperform
        exact ⟨hperform, h.head_eq⟩
      have hassoc : (l.push [c]).push records = l.push (c :: records) := by
        simp [Ledger.push]
      obtain ⟨hdone, hsettled⟩ := ih hpush (by
        simp only [Ledger.push, List.length_append, List.length_singleton]
        omega)
      rw [hassoc] at hsettled
      refine ⟨?_, hsettled⟩
      intro done hmem
      rcases List.mem_cons.mp hmem with rfl | hmem
      · exact congrArg Answer.outcome houtcome
      · exact hdone done hmem

-- A ring that is split again describes the records that are left from where its head stands.
theorem Settled.split (h : s.Settled l start released) :
    ((s.step (.split : Step Feeding)).2.2).Settled (Ledger.blank.push (l.published.drop released)).publish
      s.halves.memory.head 0 := by
  have hrest := h.describes.split.rest
  rw [l.rest_split released h.describes.shown_le, ← h.describes.head_eq] at hrest
  exact ⟨hrest, (UInt32.add_zero _).symm⟩

-- What a run has handed out since its session began is what it has released.
theorem Settled.after_begin (h : s.Settled .blank start 0) (steps : List (Step Feeding)) :
    (s.after steps).Settled (s.ledger .blank steps) start (s.delivered steps).length ∧
      s.delivered steps <+: (s.ledger .blank steps).published := by
  obtain ⟨released, hrun, htake⟩ := h.run steps
  have hdelivered : s.delivered steps = (s.ledger .blank steps).pushed.take released := htake.symm
  have hafter := h.after steps
  rw [Nat.zero_add] at hafter
  refine ⟨hafter, ?_⟩
  rw [hdelivered]
  exact List.take_prefix_take_left hrun.describes.released_le

-- A ring that is split again, beside a fresh one into which the records that are left have been loaded.
theorem Settled.split_twins (h : s.Settled l start released)
    (hlayout : ring.layout.relative = ring'.layout.relative) :
    let pending := l.published.drop released
    let head := s.halves.memory.head
    let fresh := (begin (Memory.fresh ring' head)).1
    let loading := (Feeding.load pending).map Step.act
    (∀ done ∈ fresh.run loading, done.1 = .outcome .done) ∧
      (s.step (.split : Step Feeding)).2.2.Twins (fresh.after loading)
        (Ledger.blank.push pending).publish head head 0 := by
  intro pending head fresh loading
  have hfits : pending.length ≤ ring'.size := by
    have hlength : pending.length = l.shown - released := h.length_published_drop
    have hsize : ring.size = ring'.size := Mapping.size_congr (Mapping.entries_congr hlayout)
    have hshown := h.describes.shown_le
    have hring := h.describes.fits
    omega
  have hroom : Ledger.blank.pushed.length + pending.length ≤ 0 + ring'.size :=
    Nat.add_le_add (Nat.le_refl 0) hfits
  obtain ⟨hdone, hloaded⟩ := (settled_begin ring' head).load pending hroom
  obtain ⟨hqueue, hmonitors⟩ := fresh.after_acts (Feeding.load pending)
  exact ⟨hdone, h.split, hloaded, (congrArg Queue.closed hqueue).symm, hmonitors.symm, hlayout⟩

end Session

-- A ring that is split again is as good as a fresh one that begins at the shared head and has been loaded
-- with the records that were published and not consumed. Both attach alike, and no run after that tells
-- them apart: what was consumed or never published, whether the queue was closed and what else lies in the
-- slots is gone.
theorem split_again_forgets_unpublished {entries start : UInt32} {base : UInt64} {s₀ : Session ring}
    {events : List Event} (h : Simulated.session entries start base = .ok ⟨ring, s₀, events⟩)
    (before : List (Step Feeding)) :
    let s := s₀.after before
    let published := (s₀.ledger .blank before).published
    let pending := published.drop (s₀.delivered before).length
    let loaded := (Ledger.blank.push pending).publish
    let loading := (Feeding.load pending).map Step.act
    let head := s.halves.memory.head
    let again := s.step (.split : Step Feeding)
    (Mapping.of? ((⟨entries, start⟩ : Simulated).layout base) = .ok ring ∧ again.1 = .attached) ∧
    s₀.delivered before ++ pending = published ∧
    again.2.2.halves.queue.closed = false ∧
    again.2.2.halves.queue.snapshot again.2.2.halves.memory = pending ∧
    (∃ fresh events', Simulated.session entries head base = .ok ⟨ring, fresh, events'⟩) ∧
    ∀ {ring' : Mapping} {base' : UInt64} {fresh : Session ring'} {events' : List Event},
      Simulated.session entries head base' = .ok ⟨ring', fresh, events'⟩ →
      again.2.1 = events' ∧ (∀ done ∈ fresh.run loading, done.1 = .outcome .done) ∧
      ∀ steps : List (Step Feeding),
        let now₁ := again.2.2.after steps
        let now₂ := (fresh.after loading).after steps
        Session.Shifted 0 now₁ now₂ ∧
        (∀ next : Step Feeding,
          (now₁.step next).1.relative = (now₂.step next).1.relative ∧
          (now₁.step next).2.1 = (now₂.step next).2.1) ∧
        ∀ conduct : Conduct Feeding, List.Forall₂ (fun moment₁ moment₂ =>
            Producer.Shifted 0 moment₁.producer moment₁.memory moment₂.producer moment₂.memory)
          (now₁.watch (again.2.2.ledger loaded steps) conduct).moments
          (now₂.watch ((fresh.after loading).ledger loaded steps) conduct).moments := by
  intro s published pending loaded loading head again
  have hbegin := Simulated.settled_of_session h
  obtain ⟨haccepted, hring, _⟩ := (Simulated.session_eq_ok_iff entries start base s₀ events).mp h
  obtain ⟨hs, hdelivered⟩ := hbegin.after_begin before
  have hs : s.Settled (s₀.ledger .blank before) start (s₀.delivered before).length := hs
  have hsnapshot : again.2.2.halves.queue.snapshot again.2.2.halves.memory = loaded.published :=
    hs.split.snapshot_eq rfl
  refine ⟨⟨(Mapping.of?_eq_ok_iff _ _).mpr hring, rfl⟩, List.prefix_iff_eq_append.mp hdelivered, rfl,
    hsnapshot.trans (Ledger.published_publish_push pending), ?_, ?_⟩
  · exact ⟨_, _, (Simulated.session_eq_ok_iff entries head base _ _).mpr ⟨haccepted, hring, rfl⟩⟩
  · intro ring' base' fresh events' hfresh
    have hlayout := (Simulated.twins_of_session h hfresh).layout_eq
    obtain ⟨_, _, hbegin'⟩ := (Simulated.session_eq_ok_iff entries head base' fresh events').mp hfresh
    have hfresh' : fresh = (Session.begin (Memory.fresh ring' head)).1 := congrArg Prod.fst hbegin'
    have hevents : events' = (Session.begin (Memory.fresh ring' head)).2 := congrArg Prod.snd hbegin'
    obtain ⟨hdone, htwins⟩ := hs.split_twins hlayout
    rw [← hfresh'] at hdone htwins
    have hattached : again.2.1 = events' := by
      rw [hevents]
      exact congrArg ([·]) (Queue.attachEvent_congr hlayout rfl)
    refine ⟨hattached, hdone, fun steps => ?_⟩
    obtain ⟨_, hnow⟩ := htwins.after steps
    have hdistance : head - head = 0 := UInt32.sub_self head
    refine ⟨hdistance ▸ hnow.shifted, fun next => ?_, fun conduct => ?_⟩
    · have hnext := hnow.corresponds next
      exact ⟨hnext.answer (Or.inl rfl), hnext.events rfl⟩
    · rw [← htwins.ledger_congr steps]
      exact (hnow.moments conduct).imp fun _ _ h => hdistance ▸ h.shifted

-- The handler fails at the first of two records, a third is pushed and never shown, and the queue is closed.
-- What is left is the second record.
theorem split_again_forgets_unpublished_of_closed :
    let ring : Mapping := ⟨(⟨2, 4294967295⟩ : Simulated).layout 4096, rfl⟩
    let ring' : Mapping := ⟨(⟨2, 0⟩ : Simulated).layout 8192, rfl⟩
    let s₀ := (Session.begin (Memory.fresh ring 4294967295)).1
    let fresh := (Session.begin (Memory.fresh ring' 0)).1
    let before : List (Step Feeding) := [.act (.post ⟨1, 5, 0⟩), .act (.post ⟨2, 6, 0⟩),
      .drain fun _ _ => .answer (.fail "late"), .act (.push ⟨3, 7, 0⟩), .close]
    let loading := (Feeding.load [⟨2, 6, 0⟩]).map Step.act
    Simulated.session 2 4294967295 4096 =
        .ok ⟨ring, s₀, (Session.begin (Memory.fresh ring 4294967295)).2⟩ ∧
      Simulated.session 2 0 8192 = .ok ⟨ring', fresh, (Session.begin (Memory.fresh ring' 0)).2⟩ ∧
      (s₀.after before).halves.queue.closed = true ∧
      ((s₀.after before).step (.split : Step Feeding)).2.2.halves.queue.closed = false ∧
      s₀.delivered before = [⟨1, 5, 0⟩] ∧
      ((s₀.after before).step (.split : Step Feeding)).2.2.halves.queue.snapshot
        ((s₀.after before).step (.split : Step Feeding)).2.2.halves.memory = [⟨2, 6, 0⟩] ∧
      ∀ steps : List (Step Feeding), Session.Shifted 0
        (((s₀.after before).step (.split : Step Feeding)).2.2.after steps)
        ((fresh.after loading).after steps) := by
  intro ring ring' s₀ fresh before loading
  have hsession : Simulated.session 2 4294967295 4096 =
      .ok ⟨ring, s₀, (Session.begin (Memory.fresh ring 4294967295)).2⟩ := rfl
  have hhead : (s₀.after before).halves.memory.head = 0 := by decide +kernel
  have hfresh : Simulated.session 2 (s₀.after before).halves.memory.head 8192 =
      .ok ⟨ring', fresh, (Session.begin (Memory.fresh ring' 0)).2⟩ := by
    rw [hhead]
    rfl
  have hclosed : (s₀.after before).halves.queue.closed = true := by decide +kernel
  have hdelivered : s₀.delivered before = [⟨1, 5, 0⟩] := by decide +kernel
  have hpending : (s₀.ledger .blank before).published.drop (s₀.delivered before).length = [⟨2, 6, 0⟩] := by
    decide +kernel
  obtain ⟨_, _, hopen, hsnapshot, _, hsame⟩ := split_again_forgets_unpublished hsession before
  obtain ⟨_, _, hruns⟩ := hsame hfresh
  simp only [hpending] at hsnapshot hruns
  exact ⟨hsession, rfl, hclosed, hopen, hdelivered, hsnapshot, fun steps => (hruns steps).1⟩

end CompletionRing
