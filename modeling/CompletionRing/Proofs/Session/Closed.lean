import CompletionRing.Proofs.Session.Accounting

namespace CompletionRing

variable {ring : Mapping} {α : Type}

-- Whether a step makes a new queue.
def Step.splits : Step α → Bool
  | .split => true
  | _ => false

-- Whether a step is taken by the far side of the ring.
def Step.acts : Step α → Bool
  | .act _ => true
  | _ => false

-- A queue that hands out nothing, shows nothing and writes nothing, whatever the memory holds. No handler is
-- called: a state of any kind that it might change stays as it is.
structure Queue.Inert (q : Queue ring) : Prop where
  drain_eq : ∀ {σ ε : Type} (h : Handler ring σ ε) (m : Memory ring) (state : σ),
    q.drain h m state = ⟨q, m, state, 0, .emptied⟩
  reap_eq : ∀ (max : Nat) (m : Memory ring), q.reap max m = ⟨q, m, #[], 0, .emptied⟩
  snapshot_eq : ∀ m, q.snapshot m = []
  count_eq : ∀ m, q.count m = 0
  hasCompletions_eq : ∀ m, q.hasCompletions m = false
  sighting : ∀ atHead atTail, let seen := Sighting.between q atHead atTail
    seen.closed = true ∧ seen.count = 0 ∧ seen.hasCompletions = false
  closeEvents_eq : q.closeEvents = []

theorem Queue.inert_of_closed (q : Queue ring) (hclosed : q.closed = true) : q.Inert where
  drain_eq := fun h m state => q.drain_of_closed hclosed h m state
  reap_eq := fun max m => q.reap_of_closed hclosed max m
  snapshot_eq := fun m => by simp [snapshot, hclosed]
  count_eq := fun m => by simp [count, hclosed]
  hasCompletions_eq := fun m => by simp [hasCompletions, hclosed]
  sighting := fun _ _ => by simp [Sighting.between, Sighting.count, Sighting.hasCompletions, hclosed]
  closeEvents_eq := by simp [closeEvents, hclosed]

namespace Session

-- The state that a run comes to, whoever acts on the far side.
def reached [Actor α] (s : Session ring) (steps : List (Step α)) : Session ring :=
  steps.foldl (fun s next => (s.step next).2.2) s

-- A session after its queue was closed, as it was then and as it is now.
structure Shut (α : Type) [Actor α] (s now : Session ring) : Prop where
  queue_eq : now.halves.queue = ⟨s.halves.queue.head, true⟩
  inert : now.halves.queue.Inert
  monitors_le : s.monitors ≤ now.monitors
  drain_answer : ∀ conduct : Conduct α, (now.step (.drain conduct)).1 = .report ⟨0, .emptied, .empty⟩
  reap_answer : ∀ max, (now.step (.reap max : Step α)).1 = .records []
  snapshot_answer : (now.step (.snapshot : Step α)).1 = .records []
  monitor_answer : ∀ index < now.monitors, ∃ seen : Sighting,
    (now.step (.readMonitor index : Step α)).1 = .sighting seen ∧
      seen.closed = true ∧ seen.count = 0 ∧ seen.hasCompletions = false
  events_eq : ∀ next : Step α, next.splits = false → (now.step next).2.1 = []
  halves_eq : ∀ next : Step α, next.splits = false → next.acts = false → (now.step next).2.2.halves = now.halves

-- One step over a closed queue. It emits nothing, and unless it is one of the far side it leaves the ring as
-- it was.
theorem step_of_closed [Actor α] {now : Session ring} (hclosed : now.halves.queue.closed = true)
    (next : Step α) (hnext : next.splits = false) :
    (now.step next).2.1 = [] ∧ (now.step next).2.2.halves.queue = now.halves.queue ∧
      now.monitors ≤ (now.step next).2.2.monitors ∧
      (next.acts = false → (now.step next).2.2.halves = now.halves) := by
  obtain ⟨⟨m, p, head, closed⟩, monitors⟩ := now
  obtain rfl : closed = true := hclosed
  cases next with
  | split => cases hnext
  | act action => exact ⟨rfl, rfl, Nat.le_refl _, fun hacts => by cases hacts⟩
  | makeMonitor => exact ⟨rfl, rfl, Nat.le_succ _, fun _ => rfl⟩
  | cloneMonitor index =>
      rw [step_cloneMonitor]
      split
      · exact ⟨rfl, rfl, Nat.le_succ _, fun _ => rfl⟩
      · exact ⟨rfl, rfl, Nat.le_refl _, fun _ => rfl⟩
  | readMonitor index =>
      rw [step_readMonitor]
      split <;> exact ⟨rfl, rfl, Nat.le_refl _, fun _ => rfl⟩
  | reap max =>
      have hreap := Queue.reap_of_closed (⟨head, true⟩ : Queue ring) rfl max m
      exact ⟨congrArg Drained.events hreap, congrArg Drained.queue hreap, Nat.le_refl _,
        fun _ => congrArg (fun d => Halves.mk d.memory p d.queue) hreap⟩
  | drain | snapshot | text | fieldText | fieldLines | close | state | layout =>
      exact ⟨rfl, rfl, Nat.le_refl _, fun _ => rfl⟩

-- What is asked of a closed queue is answered with nothing.
theorem shut_of_closed [Actor α] {s now : Session ring}
    (hqueue : now.halves.queue = ⟨s.halves.queue.head, true⟩) (hmonitors : s.monitors ≤ now.monitors) :
    Shut α s now := by
  have hclosed : now.halves.queue.closed = true := congrArg Queue.closed hqueue
  have hinert := now.halves.queue.inert_of_closed hclosed
  constructor
  case queue_eq => exact hqueue
  case inert => exact hinert
  case monitors_le => exact hmonitors
  case drain_answer =>
    intro conduct
    have hdrain := hinert.drain_eq (Conduct.handler conduct) now.halves.memory
      (now.halves.producer, Trace.empty)
    exact congrArg (fun d => Answer.report ⟨d.processed, d.ending, d.state.2⟩) hdrain
  case reap_answer =>
    intro max
    exact congrArg (fun d => Answer.records (Array.toList d.state)) (hinert.reap_eq max now.halves.memory)
  case snapshot_answer => exact congrArg Answer.records (hinert.snapshot_eq now.halves.memory)
  case monitor_answer =>
    intro index hindex
    rw [step_readMonitor, if_pos hindex]
    exact ⟨_, rfl, hinert.sighting now.halves.memory now.halves.memory⟩
  case events_eq => exact fun next hnext => (step_of_closed hclosed next hnext).1
  case halves_eq => exact fun next hnext => (step_of_closed hclosed next hnext).2.2.2

theorem Shut.step [Actor α] {s now : Session ring} (h : Shut α s now) (next : Step α)
    (hnext : next.splits = false) : Shut α s (now.step next).2.2 := by
  have hclosed : now.halves.queue.closed = true := congrArg Queue.closed h.queue_eq
  obtain ⟨_, hqueue, hmonitors, _⟩ := step_of_closed hclosed next hnext
  exact shut_of_closed (hqueue.trans h.queue_eq) (h.monitors_le.trans hmonitors)

theorem Shut.reached [Actor α] {s now : Session ring} (h : Shut α s now) (later : List (Step α))
    (hlater : ∀ next ∈ later, next.splits = false) : Shut α s (now.reached later) := by
  induction later generalizing now with
  | nil => exact h
  | cons next later ih =>
      obtain ⟨hnext, hrest⟩ := List.forall_mem_cons.mp hlater
      exact ih (h.step next hnext) hrest

theorem shut_close [Actor α] (s : Session ring) : Shut α s (s.step (.close : Step α)).2.2 :=
  shut_of_closed rfl (Nat.le_refl _)

variable {s now : Session ring} {l : Ledger} {start : UInt32} {released : Nat}

theorem Shut.handed (h : Shut Feeding s now) (next : Step Feeding) :
    next.handed (now.step next).1 = [] := by
  cases next with
  | drain conduct =>
      rw [h.drain_answer conduct]
      rfl
  | reap max =>
      rw [h.reap_answer max]
      rfl
  | _ => rfl

theorem Shut.grows_enter (h : Shut Feeding s now) (hshown : l.shown ≤ l.pushed.length) (next : Step Feeding)
    (hnext : next.splits = false) : l.Grows (now.enter l next) := by
  cases next with
  | act f => exact l.grows_enter hshown f _
  | drain conduct =>
      have hwatched := h.inert.drain_eq ((Conduct.handler conduct).noting (Conduct.note conduct))
        now.halves.memory ((now.halves.producer, Trace.empty), ⟨l, []⟩)
      have henter : now.enter l (.drain conduct) = l := congrArg (fun d => d.state.2.ledger) hwatched
      rw [henter]
      exact .refl l
  | split => cases hnext
  | _ => exact .refl l

-- A closed queue releases nothing more, while the ledger goes on.
theorem Shut.settled_step (h : Shut Feeding s now) (hnow : now.Settled l start released) (next : Step Feeding) :
    (now.step next).2.2.Settled (now.enter l next) start released := by
  obtain ⟨released', hsettled, htake⟩ := hnow.step next
  have hle := hnow.describes.released_le.trans hnow.describes.shown_le
  have hle' := hsettled.describes.released_le.trans hsettled.describes.shown_le
  have hlength := congrArg List.length htake
  rw [h.handed next, List.append_nil, List.length_take, List.length_take, Nat.min_eq_left hle,
    Nat.min_eq_left hle'] at hlength
  exact hlength ▸ hsettled

theorem Shut.settled_after (h : Shut Feeding s now) (hnow : now.Settled l start released)
    (later : List (Step Feeding)) (hlater : ∀ next ∈ later, next.splits = false) :
    (now.after later).Settled (now.ledger l later) start released ∧ l.Grows (now.ledger l later) := by
  induction later generalizing now l with
  | nil => exact ⟨hnow, .refl l⟩
  | cons next later ih =>
      obtain ⟨hnext, hrest⟩ := List.forall_mem_cons.mp hlater
      have hgrows := h.grows_enter hnow.describes.shown_le next hnext
      obtain ⟨hsettled, hgrows'⟩ := ih (h.step next hnext) (h.settled_step hnow next) hrest
      exact ⟨hsettled, hgrows.trans hgrows'⟩

end Session

namespace Ledger.Describes

variable {l : Ledger} {start : UInt32} {released : Nat} {m : Memory ring} {p : Producer ring}

theorem available_add (h : l.Describes start released m p) :
    (p.available m).toNat + l.pushed.length = released + ring.size := by
  have hsum := h.balanced.sum_eq
  rw [h.toNat_unpublished, h.toNat_count] at hsum
  have hreleased := h.released_le
  have hshown := h.shown_le
  unfold Mapping.size
  omega

-- A record is taken as long as there is room for it.
theorem outcome_of_push (h : l.Describes start released m p) (c : Completion) :
    let outcome : Outcome :=
      if l.pushed.length < released + ring.size then .done else .refused ⟨ring.entries, ring.entries⟩
    ((Feeding.push c).perform p m).1 = outcome ∧ ((Feeding.post c).perform p m).1 = outcome := by
  by_cases hroom : l.pushed.length < released + ring.size
  · simp only [Feeding.perform, Producer.post, h.push_of_room c hroom, bind, Except.bind, hroom, if_true,
      and_self]
  · simp only [Feeding.perform, Producer.post, h.push_of_full c hroom, bind, Except.bind, hroom, if_false,
      and_self]

end Ledger.Describes

-- Once a queue is closed, no step but a split of the ring gets anything from it: no handler is called, nothing
-- is handed out, shown or counted by the queue or by any of its monitors, and neither its own head nor the
-- shared one is touched. The first closing is the last event. The producer of a simulated ring fills the slots
-- that were free at the closing, and finds the ring full from then on.
theorem closed_queue_stays_inert :
    (∀ {ring : Mapping} {α : Type} [Actor α] (s : Session ring) (later : List (Step α)),
      (∀ next ∈ later, next.splits = false) →
      let closed := s.step (.close : Step α)
      closed.2.1 =
          (if s.halves.queue.closed then [] else [.queueClosed ring.layout.fd s.halves.queue.head]) ∧
        closed.2.2.halves = ⟨s.halves.memory, s.halves.producer, s.halves.queue.close⟩ ∧
        Session.Shut α s (closed.2.2.reached later)) ∧
    ∀ {ring : Mapping} {entries start : UInt32} {base : UInt64} {s₀ : Session ring} {events : List Event},
      Simulated.session entries start base = .ok ⟨ring, s₀, events⟩ →
      ∀ before later : List (Step Feeding), (∀ next ∈ later, next.splits = false) →
      let s := s₀.after before
      let room := (s.halves.producer.available s.halves.memory).toNat
      let closed := (s.step (.close : Step Feeding)).2.2
      let now := closed.after later
      ∃ since : List Completion,
        (closed.ledger (s₀.ledger .blank before) later).pushed = (s₀.ledger .blank before).pushed ++ since ∧
        since.length ≤ room ∧
        (now.halves.producer.available now.halves.memory).toNat = room - since.length ∧
        ∀ c : Completion,
          let outcome : Outcome := if since.length < room then .done else .refused ⟨entries, entries⟩
          (now.step (.act (Feeding.push c))).1 = .outcome outcome ∧
          (now.step (.act (Feeding.post c))).1 = .outcome outcome := by
  constructor
  · intro ring α _ s later hlater closed
    exact ⟨rfl, rfl, s.shut_close.reached later hlater⟩
  · intro ring entries start base s₀ events h before later hlater s room closed now
    have hbegin := Simulated.settled_of_session h
    obtain ⟨_, hring, _⟩ := (Simulated.session_eq_ok_iff entries start base s₀ events).mp h
    have hentries : ring.entries = entries := congrArg Layout.entries hring
    obtain ⟨released, hs, _⟩ := hbegin.run before
    have hclosed : closed.Settled (s₀.ledger .blank before) start released := ⟨hs.describes, hs.head_eq⟩
    let l := s₀.ledger .blank before
    have hlast : now.Settled (closed.ledger l later) start released ∧ l.Grows (closed.ledger l later) :=
      s.shut_close.settled_after hclosed later hlater
    obtain ⟨hnow, ⟨since, hsince⟩, _⟩ := hlast
    let left := (now.halves.producer.available now.halves.memory).toNat
    have hlength : (closed.ledger l later).pushed.length = l.pushed.length + since.length := by
      rw [← hsince, List.length_append]
    have hroom : room + l.pushed.length = released + ring.size := hs.describes.available_add
    have hleft : left + (closed.ledger l later).pushed.length = released + ring.size :=
      hnow.describes.available_add
    have hlt : (closed.ledger l later).pushed.length < released + ring.size ↔ since.length < room := by
      omega
    refine ⟨since, hsince.symm, by omega, (by omega : left = room - since.length), fun c => ?_⟩
    obtain ⟨hpush, hpost⟩ := hnow.describes.outcome_of_push c
    simp only [hlt, hentries] at hpush hpost
    exact ⟨congrArg Answer.outcome hpush, congrArg Answer.outcome hpost⟩

-- The cursors of the first ring claim more than it holds and are moved again after the closing. The second
-- ring has one slot free when its queue is closed.
theorem closed_queue_stays_inert_under_tampering :
    let ring : Mapping := ⟨(⟨2, 4294967295⟩ : Simulated).layout 4096, rfl⟩
    let raw := (Session.begin ((⟨4294967295, 3, [⟨1, 5, 0⟩]⟩ : RawMemory).memory ring)).1
    let meddling : List (Step Tampering) :=
      [.makeMonitor, .act (.setTail 9), .drain fun _ _ => .answer .proceed]
    let s₀ := (Session.begin (Memory.fresh ring 4294967295)).1
    let before : List (Step Feeding) := [.act (.post ⟨1, 5, 0⟩)]
    let later : List (Step Feeding) := [.act (.push ⟨2, 6, 0⟩), .reap 5]
    let closed := ((s₀.after before).step (.close : Step Feeding)).2.2
    (∀ next ∈ meddling, next.splits = false) ∧
      (raw.step (.close : Step Tampering)).2.1 = [.queueClosed (-1) 4294967295] ∧
      Session.Shut Tampering raw ((raw.step (.close : Step Tampering)).2.2.reached meddling) ∧
      Simulated.session 2 4294967295 4096 =
        .ok ⟨ring, s₀, (Session.begin (Memory.fresh ring 4294967295)).2⟩ ∧
      (∀ next ∈ later, next.splits = false) ∧
      ((closed.after later).step (.act (Feeding.push ⟨3, 7, 0⟩))).1 = .outcome (.refused ⟨2, 2⟩) := by
  intro ring raw meddling s₀ before later closed
  have hmeddling : ∀ next ∈ meddling, next.splits = false := by simp [meddling, Step.splits]
  have hlater : ∀ next ∈ later, next.splits = false := by simp [later, Step.splits]
  have hsession : Simulated.session 2 4294967295 4096 =
      .ok ⟨ring, s₀, (Session.begin (Memory.fresh ring 4294967295)).2⟩ := rfl
  obtain ⟨hinert, hproducer⟩ := closed_queue_stays_inert
  obtain ⟨hevents, _, hshut⟩ := hinert raw meddling hmeddling
  obtain ⟨since, hsince, _, _, hnext⟩ := hproducer hsession before later hlater
  have hpushed : (s₀.ledger .blank before).pushed = [⟨1, 5, 0⟩] := by decide +kernel
  have hall : (closed.ledger (s₀.ledger .blank before) later).pushed = [⟨1, 5, 0⟩, ⟨2, 6, 0⟩] := by
    decide +kernel
  have hroom : ((s₀.after before).halves.producer.available (s₀.after before).halves.memory).toNat = 1 := by
    decide +kernel
  rw [hpushed, hall] at hsince
  obtain rfl : since = [⟨2, 6, 0⟩] := (List.cons.inj hsince).2.symm
  rw [hroom] at hnext
  exact ⟨hmeddling, hevents, hshut, hsession, hlater, (hnext ⟨3, 7, 0⟩).1⟩

end CompletionRing
