import CompletionRing.Proofs.Session.Snapshot
import Mathlib.Data.List.Forall2

namespace CompletionRing

variable {ring₁ ring₂ : Mapping} {l : Ledger} {start₁ start₂ : UInt32} {released : Nat}

-- A layout as it looks from the address of its region.
def Layout.relative (l : Layout) : Layout :=
  { l with
    headAddress := l.headAddress - l.address
    tailAddress := l.tailAddress - l.address
    entriesAddress := l.entriesAddress - l.address
    address := 0 }

theorem Mapping.entries_congr (h : ring₁.layout.relative = ring₂.layout.relative) :
    ring₁.entries = ring₂.entries := by
  have hentries := congrArg Layout.entries h
  exact hentries

theorem Mapping.fd_congr (h : ring₁.layout.relative = ring₂.layout.relative) :
    ring₁.layout.fd = ring₂.layout.fd := by
  have hfd := congrArg Layout.fd h
  exact hfd

theorem Mapping.size_congr (hentries : ring₁.entries = ring₂.entries) : ring₁.size = ring₂.size :=
  congrArg UInt32.toNat hentries

namespace Ledger.Describes

variable {m₁ : Memory ring₁} {m₂ : Memory ring₂} {p₁ : Producer ring₁} {p₂ : Producer ring₂}

theorem pushAll_go_congr (record : Nat → Completion) (pushed left : Nat)
    (h₁ : l.Describes start₁ released m₁ p₁) (h₂ : l.Describes start₂ released m₂ p₂)
    (hentries : ring₁.entries = ring₂.entries) :
    let result₁ := Producer.pushAll.go record pushed left p₁ m₁
    let result₂ := Producer.pushAll.go record pushed left p₂ m₂
    result₁.1 = result₂.1 ∧ result₁.2.1 = result₂.2.1 := by
  induction left generalizing l pushed m₁ m₂ p₁ p₂ with
  | zero => exact ⟨rfl, rfl⟩
  | succ left ih =>
      unfold Producer.pushAll.go
      by_cases hroom : l.pushed.length < released + ring₁.size
      · have hroom' : l.pushed.length < released + ring₂.size := Mapping.size_congr hentries ▸ hroom
        rw [h₁.push_of_room (record pushed) hroom, h₂.push_of_room (record pushed) hroom']
        exact ih (pushed + 1) (h₁.write (record pushed) hroom) (h₂.write (record pushed) hroom')
      · have hfull : ¬ l.pushed.length < released + ring₂.size := Mapping.size_congr hentries ▸ hroom
        rw [h₁.push_of_full (record pushed) hroom, h₂.push_of_full (record pushed) hfull, hentries]
        exact ⟨rfl, rfl⟩

-- What comes of an action is decided by the ledger and the number of slots.
theorem outcome_congr (h₁ : l.Describes start₁ released m₁ p₁) (h₂ : l.Describes start₂ released m₂ p₂)
    (hentries : ring₁.entries = ring₂.entries) (f : Feeding) :
    (f.perform p₁ m₁).1 = (f.perform p₂ m₂).1 := by
  have hsize := Mapping.size_congr hentries
  cases f with
  | push c =>
      by_cases hroom : l.pushed.length < released + ring₁.size
      · simp only [Feeding.perform, h₁.push_of_room c hroom, h₂.push_of_room c (hsize ▸ hroom)]
      · simp only [Feeding.perform, h₁.push_of_full c hroom, h₂.push_of_full c (hsize ▸ hroom), hentries]
  | post c =>
      by_cases hroom : l.pushed.length < released + ring₁.size
      · simp only [Feeding.perform, Producer.post, h₁.push_of_room c hroom,
          h₂.push_of_room c (hsize ▸ hroom), bind, Except.bind]
      · simp only [Feeding.perform, Producer.post, h₁.push_of_full c hroom,
          h₂.push_of_full c (hsize ▸ hroom), bind, Except.bind, hentries]
  | publish => rfl
  | pushAll records =>
      obtain ⟨hcount, hoverflow⟩ := pushAll_go_congr records.record 0 records.count h₁ h₂ hentries
      exact congrArg₂ Outcome.pushed hcount hoverflow

end Ledger.Describes

-- Two rings that hold the records of one ledger. They may begin at different cursors and lie in different
-- places, and outside the stretch that is not released yet their slots may hold anything.
structure Moment.Twins (now₁ : Moment ring₁) (now₂ : Moment ring₂) (l : Ledger)
    (start₁ start₂ : UInt32) (released : Nat) : Prop where
  first : now₁.Since l start₁ released
  second : now₂.Since l start₂ released
  ledger_eq : now₁.ledger = now₂.ledger
  entries_eq : ring₁.entries = ring₂.entries

namespace Moment.Twins

variable {now₁ : Moment ring₁} {now₂ : Moment ring₂}

theorem count_eq (h : now₁.Twins now₂ l start₁ start₂ released) : now₁.count = now₂.count := by
  rw [← UInt32.toNat_inj]
  have hcount₁ : now₁.count.toNat = now₁.ledger.shown - released := h.first.describes.toNat_count
  have hcount₂ : now₂.count.toNat = now₂.ledger.shown - released := h.second.describes.toNat_count
  rw [hcount₁, hcount₂, h.ledger_eq]

theorem act (h : now₁.Twins now₂ l start₁ start₂ released) (f : Feeding) :
    (now₁.act f).1 = (now₂.act f).1 ∧ (now₁.act f).2.Twins (now₂.act f).2 l start₁ start₂ released := by
  obtain ⟨ledger, p₁, m₁⟩ := now₁
  obtain ⟨ledger₂, p₂, m₂⟩ := now₂
  obtain rfl : ledger = ledger₂ := h.ledger_eq
  have houtcome : (f.perform p₁ m₁).1 = (f.perform p₂ m₂).1 :=
    h.first.describes.outcome_congr h.second.describes h.entries_eq f
  exact ⟨houtcome, h.first.act f, h.second.act f, congrArg (ledger.enter f) houtcome, h.entries_eq⟩

-- A record that was shown when the stretch began is the same in both.
theorem read_eq (h : now₁.Twins now₂ l start₁ start₂ released) (hshown : l.shown ≤ l.pushed.length)
    {i : Nat} (hi : released + i < l.shown) :
    now₁.memory.read (start₁ + .ofNat (released + i)) = now₂.memory.read (start₂ + .ofNat (released + i)) := by
  have hlt : i < (l.published.drop released).length := by
    rw [List.length_drop, Ledger.published, List.length_take, Nat.min_eq_left hshown]
    omega
  rw [cursor_add, cursor_add, h.first.read_eq hshown hlt, h.second.read_eq hshown hlt]

end Moment.Twins

namespace Course

theorem run_look {ring : Mapping} (next : UInt32 → Course Feeding) (now : Moment ring) (trace : Trace) :
    (look next).run now.memory now.producer trace =
      (next now.count).run now.memory now.producer
        { trace with observed := trace.observed.push now.count } := rfl

theorem run_act {ring : Mapping} (f : Feeding) (next : Outcome → Course Feeding) (now : Moment ring)
    (trace : Trace) :
    (act f next).run now.memory now.producer trace =
      (next (now.act f).1).run (now.act f).2.memory (now.act f).2.producer
        { trace with acted := trace.acted.push (now.act f).1 } := rfl

variable {now₁ : Moment ring₁} {now₂ : Moment ring₂}

-- A course asks for no more than counts and outcomes, so it goes the same way over both.
theorem run_congr (course : Course Feeding) (h : now₁.Twins now₂ l start₁ start₂ released) (trace : Trace) :
    let result₁ := course.run now₁.memory now₁.producer trace
    let result₂ := course.run now₂.memory now₂.producer trace
    result₁.1 = result₂.1 ∧ result₁.2.2.2 = result₂.2.2.2 ∧
      (course.last now₁).Twins (course.last now₂) l start₁ start₂ released ∧
      List.Forall₂ (fun now₁ now₂ => now₁.Twins now₂ l start₁ start₂ released)
        (course.moments now₁) (course.moments now₂) := by
  induction course generalizing now₁ now₂ trace with
  | answer verdict => exact ⟨rfl, rfl, h, .cons h .nil⟩
  | look next ih =>
      simp only [run_look, last, moments, ← h.count_eq]
      exact ih now₁.count h _
  | act f next ih =>
      obtain ⟨houtcome, hact⟩ := h.act f
      simp only [run_act, last, moments, ← houtcome]
      obtain ⟨hverdict, htrace, hlast, hmoments⟩ := ih (now₁.act f).1 hact
        { trace with acted := trace.acted.push (now₁.act f).1 }
      exact ⟨hverdict, htrace, hlast, .cons h hmoments⟩

end Course

-- The cursors of a sighting counted from its head. A monitor tells no more of them than how far they are
-- apart.
def Sighting.relative (s : Sighting) : Sighting :=
  ⟨s.closed, 0, s.tail - s.head⟩

-- An answer as far as it does not depend on where the ring lies and where its cursors have begun.
def Answer.relative : Answer → Answer
  | .sighting s => .sighting s.relative
  | .layout l => .layout l.relative
  | answer => answer

-- The listings of a queue's fields show its head as it stands.
def Step.showsHead : Step Feeding → Bool
  | .fieldText | .fieldLines => true
  | _ => false

theorem Drained.events_congr {σ₁ σ₂ ε : Type} {d₁ : Drained ring₁ σ₁ ε} {d₂ : Drained ring₂ σ₂ ε}
    (hprocessed : d₁.processed = d₂.processed) (hending : d₁.ending = d₂.ending) : d₁.events = d₂.events := by
  unfold events
  rw [hending, hprocessed]

namespace Queue

variable {q₁ : Queue ring₁} {q₂ : Queue ring₂} {m₁ : Memory ring₁} {m₂ : Memory ring₂}

theorem text_congr (hclosed : q₁.closed = q₂.closed) (hsnapshot : q₁.snapshot m₁ = q₂.snapshot m₂) :
    q₁.text m₁ = q₂.text m₂ :=
  congrArg₂ (fun (closed : Bool) (shown : List Completion) =>
    "CompletionQueue [" ++ (if closed then "closed" else ", ".intercalate (shown.map Completion.text)) ++ "]")
    hclosed hsnapshot

theorem attachEvent_congr (hlayout : ring₁.layout.relative = ring₂.layout.relative)
    (hhead : q₁.head = q₂.head) : q₁.attachEvent = q₂.attachEvent := by
  have hfd : ring₁.layout.fd = ring₂.layout.fd := Mapping.fd_congr hlayout
  unfold attachEvent
  rw [hfd, Mapping.entries_congr hlayout, hhead]

theorem namedFields_congr (hlayout : ring₁.layout.relative = ring₂.layout.relative)
    (hhead : q₁.head = q₂.head) (hclosed : q₁.closed = q₂.closed) (hcount : q₁.count m₁ = q₂.count m₂) :
    q₁.namedFields m₁ = q₂.namedFields m₂ := by
  have hfd : ring₁.layout.fd = ring₂.layout.fd := Mapping.fd_congr hlayout
  unfold namedFields
  rw [hfd, Mapping.entries_congr hlayout, hhead, hclosed, hcount]

end Queue

namespace Session

variable {s₁ : Session ring₁} {s₂ : Session ring₂}

-- Two sessions over twin rings, at the same point between two steps.
structure Twins (s₁ : Session ring₁) (s₂ : Session ring₂) (l : Ledger) (start₁ start₂ : UInt32)
    (released : Nat) : Prop where
  first : s₁.Settled l start₁ released
  second : s₂.Settled l start₂ released
  closed_eq : s₁.halves.queue.closed = s₂.halves.queue.closed
  monitors_eq : s₁.monitors = s₂.monitors
  layout_eq : ring₁.layout.relative = ring₂.layout.relative

namespace Twins

theorem moment (h : s₁.Twins s₂ l start₁ start₂ released) :
    (⟨l, s₁.halves.producer, s₁.halves.memory⟩ : Moment ring₁).Twins
      (⟨l, s₂.halves.producer, s₂.halves.memory⟩ : Moment ring₂) l start₁ start₂ released :=
  ⟨h.first.since, h.second.since, rfl, Mapping.entries_congr h.layout_eq⟩

theorem pending_eq (h : s₁.Twins s₂ l start₁ start₂ released) :
    s₁.halves.memory.tail - s₁.halves.queue.head = s₂.halves.memory.tail - s₂.halves.queue.head := by
  rw [h.first.head_eq, ← h.first.describes.head_eq, h.second.head_eq, ← h.second.describes.head_eq]
  exact h.moment.count_eq

theorem count_eq (h : s₁.Twins s₂ l start₁ start₂ released) :
    s₁.halves.queue.count s₁.halves.memory = s₂.halves.queue.count s₂.halves.memory := by
  rw [Queue.count, Queue.count, h.closed_eq, h.pending_eq]

theorem snapshot_eq (h : s₁.Twins s₂ l start₁ start₂ released) :
    s₁.halves.queue.snapshot s₁.halves.memory = s₂.halves.queue.snapshot s₂.halves.memory := by
  cases hclosed : s₁.halves.queue.closed with
  | true => simp [Queue.snapshot, hclosed, ← h.closed_eq]
  | false => rw [h.first.snapshot_eq hclosed, h.second.snapshot_eq (h.closed_eq ▸ hclosed)]

theorem sighting_eq (h : s₁.Twins s₂ l start₁ start₂ released) :
    (Sighting.of s₁.halves.queue s₁.halves.memory).relative =
      (Sighting.of s₂.halves.queue s₂.halves.memory).relative := by
  have hcount : s₁.halves.memory.tail - s₁.halves.memory.head =
      s₂.halves.memory.tail - s₂.halves.memory.head := h.moment.count_eq
  simp only [Sighting.of, Sighting.between, Sighting.relative, h.closed_eq, hcount]

end Twins

-- Two drains side by side before a pair of calls, with what has been noted about them so far.
structure TwinCalls (l : Ledger) (start₁ start₂ : UInt32) (released : Nat)
    (now₁ : Memory ring₁ × (Producer ring₁ × Trace) × Watch ring₁)
    (now₂ : Memory ring₂ × (Producer ring₂ × Trace) × Watch ring₂) : Prop where
  now : (⟨now₁.2.2.ledger, now₁.2.1.1, now₁.1⟩ : Moment ring₁).Twins
    (⟨now₂.2.2.ledger, now₂.2.1.1, now₂.1⟩ : Moment ring₂) l start₁ start₂ released
  trace_eq : now₁.2.1.2 = now₂.2.1.2
  moments : List.Forall₂ (fun now₁ now₂ => now₁.Twins now₂ l start₁ start₂ released)
    now₁.2.2.moments now₂.2.2.moments

theorem TwinCalls.call {now₁ : Memory ring₁ × (Producer ring₁ × Trace) × Watch ring₁}
    {now₂ : Memory ring₂ × (Producer ring₂ × Trace) × Watch ring₂}
    (h : TwinCalls l start₁ start₂ released now₁ now₂) (hshown : l.shown ≤ l.pushed.length) {i : Nat}
    (hi : released + i < l.shown) (conduct : Conduct Feeding) :
    let result₁ := (Conduct.handler conduct).noting (Conduct.note conduct)
      (now₁.1.read (start₁ + .ofNat (released + i))) now₁.1 now₁.2
    let result₂ := (Conduct.handler conduct).noting (Conduct.note conduct)
      (now₂.1.read (start₂ + .ofNat (released + i))) now₂.1 now₂.2
    result₁.1 = result₂.1 ∧ TwinCalls l start₁ start₂ released result₁.2 result₂.2 := by
  obtain ⟨m₁, ⟨p₁, trace⟩, ledger₁, moments₁⟩ := now₁
  obtain ⟨m₂, ⟨p₂, trace₂⟩, ledger₂, moments₂⟩ := now₂
  obtain ⟨hnow, htrace, hmoments⟩ := h
  obtain rfl : trace = trace₂ := htrace
  have hread : m₁.read (start₁ + .ofNat (released + i)) = m₂.read (start₂ + .ofNat (released + i)) :=
    hnow.read_eq hshown hi
  rw [hread]
  let c := m₂.read (start₂ + .ofNat (released + i))
  let course := conduct trace c
  let now₁ : Moment ring₁ := ⟨ledger₁, p₁, m₁⟩
  let now₂ : Moment ring₂ := ⟨ledger₂, p₂, m₂⟩
  obtain ⟨hverdict, htrace', hlast, hcourse⟩ :=
    course.run_congr hnow { trace with seen := trace.seen.push c }
  obtain ⟨hm₁, hp₁, _⟩ := course.run_eq_last now₁ { trace with seen := trace.seen.push c }
  obtain ⟨hm₂, hp₂, _⟩ := course.run_eq_last now₂ { trace with seen := trace.seen.push c }
  refine ⟨hverdict, ?_, htrace', List.rel_append hmoments hcourse⟩
  change (⟨(course.last now₁).ledger, (course.run m₁ p₁ _).2.2.1, (course.run m₁ p₁ _).2.1⟩ :
      Moment ring₁).Twins ⟨(course.last now₂).ledger, (course.run m₂ p₂ _).2.2.1, (course.run m₂ p₂ _).2.1⟩
    l start₁ start₂ released
  rw [hm₁, hp₁, hm₂, hp₂]
  exact hlast

namespace Twins

theorem watched (h : s₁.Twins s₂ l start₁ start₂ released) (conduct : Conduct Feeding) :
    let d₁ := s₁.watched l conduct
    let d₂ := s₂.watched l conduct
    d₁.processed = d₂.processed ∧ d₁.ending = d₂.ending ∧ d₁.queue.closed = d₂.queue.closed ∧
      ∃ m₁ m₂, TwinCalls l start₁ start₂ released (m₁, d₁.state) (m₂, d₂.state) := by
  have hzero : TwinCalls l start₁ start₂ released
      (s₁.halves.memory, (s₁.halves.producer, Trace.empty), ⟨l, []⟩)
      (s₂.halves.memory, (s₂.halves.producer, Trace.empty), ⟨l, []⟩) := ⟨h.moment, rfl, .nil⟩
  cases hclosed : s₁.halves.queue.closed with
  | true =>
      rw [Session.watched, Session.watched, Queue.drain_of_closed _ hclosed,
        Queue.drain_of_closed _ (h.closed_eq ▸ hclosed)]
      exact ⟨rfl, rfl, h.closed_eq, _, _, hzero⟩
  | false =>
      have hcalls := Queue.drain_lockstep s₁.halves.queue s₂.halves.queue hclosed (h.closed_eq ▸ hclosed)
        ((Conduct.handler conduct).noting (Conduct.note conduct))
        ((Conduct.handler conduct).noting (Conduct.note conduct)) s₁.halves.memory s₂.halves.memory
        ((s₁.halves.producer, Trace.empty), ⟨l, []⟩) ((s₂.halves.producer, Trace.empty), ⟨l, []⟩)
        h.pending_eq (fun _ => TwinCalls l start₁ start₂ released) hzero (by
          intro i now₁ now₂ hi hnow
          rw [h.first.toNat_pending] at hi
          rw [h.first.head_eq, h.second.head_eq, ← cursor_add, ← cursor_add]
          exact hnow.call h.first.describes.shown_le (by omega) conduct)
      obtain ⟨hprocessed, hending, hstate⟩ := hcalls
      obtain ⟨_, _, hqueue₁, _⟩ := h.first.watched conduct
      obtain ⟨_, _, hqueue₂, _⟩ := h.second.watched conduct
      refine ⟨hprocessed, hending, ?_, hstate⟩
      rw [hqueue₁, hqueue₂]
      exact h.closed_eq

theorem reap (h : s₁.Twins s₂ l start₁ start₂ released) (max : Nat) :
    let d₁ := s₁.halves.queue.reap max s₁.halves.memory
    let d₂ := s₂.halves.queue.reap max s₂.halves.memory
    d₁.state = d₂.state ∧ d₁.events = d₂.events := by
  cases hclosed : s₁.halves.queue.closed with
  | true =>
      rw [Queue.reap_of_closed _ hclosed, Queue.reap_of_closed _ (h.closed_eq ▸ hclosed)]
      exact ⟨rfl, rfl⟩
  | false =>
      by_cases hmax : max = 0
      · subst hmax
        exact ⟨rfl, rfl⟩
      simp only [Queue.reap, hmax, if_false]
      have hcalls := Queue.drain_lockstep s₁.halves.queue s₂.halves.queue hclosed (h.closed_eq ▸ hclosed)
        (Queue.collect max) (Queue.collect max) s₁.halves.memory s₂.halves.memory #[] #[] h.pending_eq
        (fun _ now₁ now₂ => now₁.1 = s₁.halves.memory ∧ now₂.1 = s₂.halves.memory ∧ now₁.2 = now₂.2)
        ⟨rfl, rfl, rfl⟩ (by
          rintro i ⟨_, kept⟩ ⟨_, _⟩ hi ⟨rfl, rfl, rfl⟩
          rw [h.first.toNat_pending] at hi
          have hread := h.moment.read_eq h.first.describes.shown_le (by omega : released + i < l.shown)
          simp only [h.first.head_eq, h.second.head_eq, ← cursor_add, Queue.collect, hread, and_self])
      obtain ⟨hprocessed, hending, _, _, _, _, hkept⟩ := hcalls
      exact ⟨hkept, Drained.events_congr hprocessed hending⟩

theorem enter_congr (h : s₁.Twins s₂ l start₁ start₂ released) (next : Step Feeding) :
    s₁.enter l next = s₂.enter l next := by
  cases next with
  | act f =>
      have hentries := Mapping.entries_congr h.layout_eq
      exact congrArg (l.enter f) (h.first.describes.outcome_congr h.second.describes hentries f)
  | drain conduct =>
      obtain ⟨_, _, _, _, _, hcalls⟩ := h.watched conduct
      exact hcalls.now.ledger_eq
  | _ => rfl

end Twins

-- What two sessions tell of one step: the same, but for cursors that began apart.
structure Corresponds (start₁ start₂ : UInt32) (next : Step Feeding)
    (result₁ : Answer × List Event × Session ring₁) (result₂ : Answer × List Event × Session ring₂) : Prop where
  answer : start₁ = start₂ ∨ next.showsHead = false → result₁.1.relative = result₂.1.relative
  events : start₁ = start₂ → result₁.2.1 = result₂.2.1
  handed : next.handed result₁.1 = next.handed result₂.1
  closed_eq : result₁.2.2.halves.queue.closed = result₂.2.2.halves.queue.closed
  monitors_eq : result₁.2.2.monitors = result₂.2.2.monitors

namespace Twins

theorem corresponds (h : s₁.Twins s₂ l start₁ start₂ released) (next : Step Feeding) :
    Corresponds start₁ start₂ next (s₁.step next) (s₂.step next) := by
  have hhead (hstart : start₁ = start₂) : s₁.halves.queue.head = s₂.halves.queue.head := by
    rw [h.first.head_eq, h.second.head_eq, hstart]
  have hmonitor : Answer.monitor s₁.monitors = .monitor s₂.monitors := congrArg Answer.monitor h.monitors_eq
  have hmade : s₁.monitors + 1 = s₂.monitors + 1 := congrArg (· + 1) h.monitors_eq
  cases next with
  | act f =>
      have hentries := Mapping.entries_congr h.layout_eq
      have houtcome := h.first.describes.outcome_congr h.second.describes hentries f
      exact ⟨fun _ => congrArg Answer.outcome houtcome, fun _ => rfl, rfl, h.closed_eq, h.monitors_eq⟩
  | drain conduct =>
      obtain ⟨hprocessed, hending, hclosed, _, _, hcalls⟩ := h.watched conduct
      have htrace : (s₁.watched l conduct).state.1.2 = (s₂.watched l conduct).state.1.2 := hcalls.trace_eq
      rw [s₁.step_drain l conduct, s₂.step_drain l conduct]
      refine ⟨fun _ => ?_, fun _ => Drained.events_congr hprocessed hending,
        congrArg (fun trace => Array.toList trace.seen) htrace, hclosed, h.monitors_eq⟩
      simp only [Drained.forget, hprocessed, hending, htrace]
  | reap max =>
      obtain ⟨hkept, hevents⟩ := h.reap max
      obtain ⟨_, hqueue₁, _⟩ := h.first.reap max
      obtain ⟨_, hqueue₂, _⟩ := h.second.reap max
      have hclosed : (s₁.halves.queue.reap max s₁.halves.memory).queue.closed =
          (s₂.halves.queue.reap max s₂.halves.memory).queue.closed := by
        rw [hqueue₁, hqueue₂]
        exact h.closed_eq
      exact ⟨fun _ => congrArg (fun kept => Answer.records (Array.toList kept)) hkept, fun _ => hevents,
        congrArg Array.toList hkept, hclosed, h.monitors_eq⟩
  | snapshot =>
      exact ⟨fun _ => congrArg Answer.records h.snapshot_eq, fun _ => rfl, rfl, h.closed_eq, h.monitors_eq⟩
  | text =>
      refine ⟨fun _ => ?_, fun _ => rfl, rfl, h.closed_eq, h.monitors_eq⟩
      simp only [Session.step, Queue.text_congr h.closed_eq h.snapshot_eq]
  | fieldText | fieldLines =>
      refine ⟨fun hsame => ?_, fun _ => rfl, Eq.refl ([] : List Completion), h.closed_eq, h.monitors_eq⟩
      have hfields := Queue.namedFields_congr h.layout_eq (hhead (hsame.resolve_right Bool.noConfusion))
        h.closed_eq h.count_eq
      simp only [Session.step, Queue.fieldText, Queue.fieldLines, hfields]
  | close =>
      refine ⟨fun _ => rfl, fun hstart => ?_, rfl, rfl, h.monitors_eq⟩
      simp only [Session.step, Queue.closeEvents, h.closed_eq, Mapping.fd_congr h.layout_eq, hhead hstart]
  | state => exact ⟨fun _ => rfl, fun _ => rfl, rfl, h.closed_eq, h.monitors_eq⟩
  | layout =>
      exact ⟨fun _ => congrArg Answer.layout h.layout_eq, fun _ => rfl, rfl, h.closed_eq, h.monitors_eq⟩
  | makeMonitor => exact ⟨fun _ => hmonitor, fun _ => rfl, rfl, h.closed_eq, hmade⟩
  | cloneMonitor index =>
      rw [step_cloneMonitor, step_cloneMonitor, h.monitors_eq]
      split
      · exact ⟨fun _ => hmonitor, fun _ => rfl, rfl, h.closed_eq, hmade⟩
      · exact ⟨fun _ => rfl, fun _ => rfl, rfl, h.closed_eq, h.monitors_eq⟩
  | readMonitor index =>
      rw [step_readMonitor, step_readMonitor, h.monitors_eq]
      split
      · exact ⟨fun _ => congrArg Answer.sighting h.sighting_eq, fun _ => rfl, rfl, h.closed_eq, h.monitors_eq⟩
      · exact ⟨fun _ => rfl, fun _ => rfl, rfl, h.closed_eq, h.monitors_eq⟩
  | split =>
      refine ⟨fun _ => rfl, fun hstart => ?_, rfl, rfl, rfl⟩
      have hreleased : s₁.halves.memory.head = s₂.halves.memory.head := by
        rw [h.first.describes.head_eq, h.second.describes.head_eq, hstart]
      exact congrArg ([·]) (Queue.attachEvent_congr h.layout_eq hreleased)

-- Both sessions release what they hand out, and they hand out the same.
theorem step (h : s₁.Twins s₂ l start₁ start₂ released) (next : Step Feeding) :
    ∃ released', (s₁.step next).2.2.Twins (s₂.step next).2.2 (s₁.enter l next) start₁ start₂ released' := by
  have hcorresponds := h.corresponds next
  have hledger := h.enter_congr next
  obtain ⟨released₁, hsettled₁, htake₁⟩ := h.first.step next
  obtain ⟨released₂, hsettled₂, htake₂⟩ := h.second.step next
  rw [← hledger] at hsettled₂ htake₂
  rw [← hcorresponds.handed, ← htake₁] at htake₂
  have hreleased : released₂ = released₁ := by
    have hlength := congrArg List.length htake₂
    have hle₁ := hsettled₁.describes.released_le.trans hsettled₁.describes.shown_le
    have hle₂ := hsettled₂.describes.released_le.trans hsettled₂.describes.shown_le
    rwa [List.length_take, List.length_take, Nat.min_eq_left hle₁, Nat.min_eq_left hle₂] at hlength
  exact ⟨released₁, hsettled₁, hreleased ▸ hsettled₂, hcorresponds.closed_eq, hcorresponds.monitors_eq,
    h.layout_eq⟩

theorem after (h : s₁.Twins s₂ l start₁ start₂ released) (steps : List (Step Feeding)) :
    ∃ released', (s₁.after steps).Twins (s₂.after steps) (s₁.ledger l steps) start₁ start₂ released' := by
  induction steps generalizing s₁ s₂ l released with
  | nil => exact ⟨released, h⟩
  | cons next steps ih =>
      obtain ⟨_, hstep⟩ := h.step next
      exact ih hstep

theorem ledger_congr (h : s₁.Twins s₂ l start₁ start₂ released) (steps : List (Step Feeding)) :
    s₁.ledger l steps = s₂.ledger l steps := by
  induction steps generalizing s₁ s₂ l released with
  | nil => rfl
  | cons next steps ih =>
      obtain ⟨_, hstep⟩ := h.step next
      rw [Session.ledger, Session.ledger, ← h.enter_congr next]
      exact ih hstep

end Twins

end Session

end CompletionRing
