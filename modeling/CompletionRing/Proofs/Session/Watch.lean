import CompletionRing.Proofs.Drain
import CompletionRing.Proofs.Ledger
import CompletionRing.Session

namespace CompletionRing

variable {ring : Mapping}

-- A moment before or after an action of a producer, with the ledger of all that was done by then.
structure Moment (ring : Mapping) where
  ledger : Ledger
  producer : Producer ring
  memory : Memory ring

namespace Moment

def count (now : Moment ring) : UInt32 :=
  Sighting.count ⟨false, now.memory.head, now.memory.tail⟩

def act (now : Moment ring) (f : Feeding) : Outcome × Moment ring :=
  let (outcome, p, m) := f.perform now.producer now.memory
  (outcome, ⟨now.ledger.enter f outcome, p, m⟩)

-- A moment that has come about since a ledger was kept, with nothing released in between.
structure Since (now : Moment ring) (l : Ledger) (start : UInt32) (released : Nat) : Prop where
  grows : l.Grows now.ledger
  describes : now.ledger.Describes start released now.memory now.producer

theorem Since.act {now : Moment ring} {l : Ledger} {start : UInt32} {released : Nat}
    (h : now.Since l start released) (f : Feeding) : (now.act f).2.Since l start released where
  grows := h.grows.trans (now.ledger.grows_enter h.describes.shown_le f _)
  describes := h.describes.perform f

end Moment

namespace Course

def last : Course Feeding → Moment ring → Moment ring
  | .answer _, now => now
  | .look next, now => (next now.count).last now
  | .act f next, now => (next (now.act f).1).last (now.act f).2

-- Every moment of a course: the one it begins at, and one after each of its actions.
def moments : Course Feeding → Moment ring → List (Moment ring)
  | .answer _, now => [now]
  | .look next, now => (next now.count).moments now
  | .act f next, now => now :: (next (now.act f).1).moments (now.act f).2

theorem mem_moments (course : Course Feeding) (now : Moment ring) : now ∈ course.moments now := by
  induction course with
  | answer verdict => exact List.mem_singleton.mpr rfl
  | look next ih => exact ih _
  | act f next ih => exact List.mem_cons_self

theorem last_mem_moments (course : Course Feeding) (now : Moment ring) :
    course.last now ∈ course.moments now := by
  induction course generalizing now with
  | answer verdict => exact List.mem_singleton.mpr rfl
  | look next ih => exact ih _ now
  | act f next ih => exact List.mem_cons_of_mem _ (ih _ _)

theorem since_of_mem_moments (course : Course Feeding) {now : Moment ring} {l : Ledger} {start : UInt32}
    {released : Nat} (h : now.Since l start released) :
    ∀ moment ∈ course.moments now, moment.Since l start released := by
  induction course generalizing now with
  | answer verdict =>
      intro moment hmem
      rw [List.mem_singleton.mp hmem]
      exact h
  | look next ih => exact ih _ h
  | act f next ih =>
      intro moment hmem
      rcases List.mem_cons.mp hmem with rfl | hmem
      · exact h
      · exact ih _ (h.act f) moment hmem

-- A course that is run leaves the ring as its last moment has it. It sees no further record.
theorem run_eq_last (course : Course Feeding) (now : Moment ring) (trace : Trace) :
    let result := course.run now.memory now.producer trace
    result.2.1 = (course.last now).memory ∧ result.2.2.1 = (course.last now).producer ∧
      result.2.2.2.seen = trace.seen := by
  induction course generalizing now trace with
  | answer verdict => exact ⟨rfl, rfl, rfl⟩
  | look next ih => exact ih now.count now _
  | act f next ih => exact ih (now.act f).1 (now.act f).2 _

theorem observed_of_run (course : Course Feeding) (now : Moment ring) (trace : Trace) :
    ∀ count ∈ (course.run now.memory now.producer trace).2.2.2.observed,
      count ∈ trace.observed ∨ ∃ moment ∈ course.moments now, count = moment.count := by
  induction course generalizing now trace with
  | answer verdict => exact fun count hmem => Or.inl hmem
  | look next ih =>
      intro count hmem
      rcases ih now.count now _ count hmem with hmem | hmoment
      · rcases Array.mem_push.mp hmem with hmem | rfl
        · exact Or.inl hmem
        · exact Or.inr ⟨now, (next now.count).mem_moments now, rfl⟩
      · exact Or.inr hmoment
  | act f next ih =>
      intro count hmem
      rcases ih (now.act f).1 (now.act f).2 _ count hmem with hmem | ⟨moment, hmem, hcount⟩
      · exact Or.inl hmem
      · exact Or.inr ⟨moment, List.mem_cons_of_mem _ hmem, hcount⟩

end Course

-- What is noted while a drain runs: the ledger so far, and every moment at which its handler was called or
-- had acted.
structure Watch (ring : Mapping) where
  ledger : Ledger
  moments : List (Moment ring)

def Conduct.note (conduct : Conduct Feeding) (c : Completion) (m : Memory ring)
    (state : Producer ring × Trace) (watch : Watch ring) : Watch ring :=
  let now : Moment ring := ⟨watch.ledger, state.1, m⟩
  let course := conduct state.2 c
  ⟨(course.last now).ledger, watch.moments ++ course.moments now⟩

namespace Session

def watched (s : Session ring) (l : Ledger) (conduct : Conduct Feeding) :
    Drained ring ((Producer ring × Trace) × Watch ring) String :=
  s.halves.queue.drain ((Conduct.handler conduct).noting (Conduct.note conduct)) s.halves.memory
    ((s.halves.producer, Trace.empty), ⟨l, []⟩)

def watch (s : Session ring) (l : Ledger) (conduct : Conduct Feeding) : Watch ring :=
  (s.watched l conduct).state.2

-- The ledger after a step. Looking at a ring, draining it and closing it enter nothing of their own.
def enter (s : Session ring) (l : Ledger) : Step Feeding → Ledger
  | .act f => l.enter f (f.perform s.halves.producer s.halves.memory).1
  | .drain conduct => (s.watch l conduct).ledger
  | .split => l.split
  | _ => l

-- Between two steps both heads stand behind the records that have been released.
structure Settled (s : Session ring) (l : Ledger) (start : UInt32) (released : Nat) : Prop where
  describes : l.Describes start released s.halves.memory s.halves.producer
  head_eq : s.halves.queue.head = start + .ofNat released

variable {s : Session ring} {l : Ledger} {start : UInt32} {released : Nat}

theorem settled_begin (ring : Mapping) (start : UInt32) :
    (begin (Memory.fresh ring start)).1.Settled .blank start 0 where
  describes := .fresh ring start
  head_eq := (Ledger.Describes.fresh ring start).head_eq

-- The rule for a drain between two steps: its calls are for the records that were shown, and what they keep
-- holds where it has stopped. A closed queue makes no call.
theorem Settled.drain {σ ε : Type} (h : s.Settled l start released) (handler : Handler ring σ ε)
    (state : σ) (I : Nat → Memory ring → σ → Prop) (hzero : I 0 s.halves.memory state)
    (hsucc : ∀ i m state, released + i < l.shown → I i m state →
      let result := handler (m.read (start + .ofNat (released + i))) m state
      I (i + 1) result.2.1 result.2.2) :
    let d := s.halves.queue.drain handler s.halves.memory state
    ∃ n, released + n ≤ l.shown ∧ ∃ m, I n m d.state ∧
      d.queue = { s.halves.queue with head := start + .ofNat (released + n) } ∧
      d.memory = { m with head := start + .ofNat (released + n) } := by
  obtain ⟨⟨m, p, head, closed⟩, monitors⟩ := s
  obtain ⟨hdescribes, hhead⟩ := h
  simp only at hdescribes hhead hzero ⊢
  have hreleased := hdescribes.released_le
  subst hhead
  cases closed with
  | true =>
      refine ⟨0, hreleased, m, hzero, rfl, ?_⟩
      rw [Nat.add_zero, ← hdescribes.head_eq]
      rfl
  | false =>
      have hlimit := hdescribes.toNat_tail_sub (Nat.le_refl _) hreleased
      obtain ⟨n, hn, m', hI, hqueue, hmemory⟩ := Queue.drain_invariant
        ⟨start + .ofNat released, false⟩ rfl handler m state I hzero (by
          intro i m' state' hi hI
          have hi' : i < l.shown - released := hi.trans_eq hlimit
          rw [← cursor_add]
          exact hsucc i m' state' (by omega) hI)
      have hn' : n ≤ l.shown - released := hn.trans_eq hlimit
      rw [← cursor_add] at hqueue hmemory
      exact ⟨n, by omega, m', hI, hqueue, hmemory⟩

structure Watched (l : Ledger) (start : UInt32) (released : Nat) (calls : Nat) (m : Memory ring)
    (state : (Producer ring × Trace) × Watch ring) : Prop where
  since : (⟨state.2.ledger, state.1.1, m⟩ : Moment ring).Since l start released
  seen_eq : state.1.2.seen.toList = (l.pushed.drop released).take calls
  moments : ∀ moment ∈ state.2.moments, moment.Since l start released
  observed : ∀ count ∈ state.1.2.observed, ∃ moment ∈ state.2.moments, count = moment.count

-- One call of a handler. Its record was shown before the drain began, so it is the one the ledger had then.
theorem Watched.call {calls : Nat} {m : Memory ring} {state : (Producer ring × Trace) × Watch ring}
    (h : Watched l start released calls m state) (hshown : l.shown ≤ l.pushed.length)
    (hcalls : released + calls < l.shown) (conduct : Conduct Feeding) :
    let result := (Conduct.handler conduct).noting (Conduct.note conduct)
      (m.read (start + .ofNat (released + calls))) m state
    Watched l start released (calls + 1) result.2.1 result.2.2 := by
  obtain ⟨⟨p, trace⟩, ledger, moments⟩ := state
  have hlt : released + calls < l.pushed.length := by omega
  have hread : m.read (start + .ofNat (released + calls)) = l.pushed[released + calls] := by
    have hlt' := hlt.trans_le h.since.grows.pushed.length_le
    rw [h.since.describes.read_eq _ hlt' (Nat.le_add_right _ _), h.since.grows.getElem_eq hlt]
  rw [hread]
  let c := l.pushed[released + calls]
  let now : Moment ring := ⟨ledger, p, m⟩
  let course := conduct trace c
  have hnow : now.Since l start released := h.since
  have hmoments := course.since_of_mem_moments hnow
  have hlast := hmoments _ (course.last_mem_moments now)
  obtain ⟨hm, hp, hseen⟩ := course.run_eq_last now { trace with seen := trace.seen.push c }
  refine ⟨⟨hlast.grows, ?_⟩, ?_, ?_, ?_⟩
  · change (course.last now).ledger.Describes start released (course.run m p _).2.1 (course.run m p _).2.2.1
    rw [hm, hp]
    exact hlast.describes
  · change (course.run m p _).2.2.2.seen.toList = _
    rw [hseen, Array.toList_push, h.seen_eq, l.take_drop_succ hlt]
  · intro moment hmem
    rcases List.mem_append.mp hmem with hmem | hmem
    · exact h.moments moment hmem
    · exact hmoments moment hmem
  · intro count hmem
    rcases course.observed_of_run now _ count hmem with hmem | ⟨moment, hmem, hcount⟩
    · obtain ⟨moment, hmem, hcount⟩ := h.observed count hmem
      exact ⟨moment, List.mem_append_left _ hmem, hcount⟩
    · exact ⟨moment, List.mem_append_right _ hmem, hcount⟩

-- A drain releases some of the records that were shown, and has handed out just these.
theorem Settled.watched (h : s.Settled l start released) (conduct : Conduct Feeding) :
    let d := s.watched l conduct
    ∃ n, released + n ≤ l.shown ∧
      d.queue = { s.halves.queue with head := start + .ofNat (released + n) } ∧
      d.state.2.ledger.Describes start (released + n) d.memory d.state.1.1 ∧
      l.Grows d.state.2.ledger ∧
      d.state.1.2.seen.toList = (l.pushed.drop released).take n ∧
      (∀ moment ∈ d.state.2.moments, moment.Since l start released) ∧
      ∀ count ∈ d.state.1.2.observed, ∃ moment ∈ d.state.2.moments, count = moment.count := by
  have hzero : Watched l start released 0 s.halves.memory ((s.halves.producer, Trace.empty), ⟨l, []⟩) :=
    ⟨⟨.refl l, h.describes⟩, rfl, by simp, by simp [Trace.empty]⟩
  obtain ⟨n, hn, m, hI, hqueue, hmemory⟩ := h.drain _ _ (Watched l start released) hzero
    (fun i m state hi hI => hI.call h.describes.shown_le hi conduct)
  refine ⟨n, hn, hqueue, ?_, hI.since.grows, hI.seen_eq, hI.moments, hI.observed⟩
  have hmemory' : (s.watched l conduct).memory = _ := hmemory
  rw [hmemory']
  exact hI.since.describes.release (Nat.le_add_right _ _) (hn.trans hI.since.grows.shown)

end Session

end CompletionRing
