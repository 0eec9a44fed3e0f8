import CompletionRing.Proofs.Session.Watch
import CompletionRing.Proofs.Simulated

namespace CompletionRing

variable {ring : Mapping}

-- The records that a step has handed out, by its answer. A snapshot shows records and hands out none.
def Step.handed (step : Step Feeding) (answer : Answer) : List Completion :=
  match step, answer with
  | .drain _, .report report => report.trace.seen.toList
  | .reap _, .records records => records
  | _, _ => []

namespace Session

variable {s : Session ring} {l : Ledger} {start : UInt32} {released : Nat}

def after (s : Session ring) (steps : List (Step Feeding)) : Session ring :=
  steps.foldl (fun s next => (s.step next).2.2) s

def ledger (s : Session ring) (l : Ledger) : List (Step Feeding) → Ledger
  | [] => l
  | next :: steps => (s.step next).2.2.ledger (s.enter l next) steps

-- All records that the steps of a run have handed out, in the order of the calls.
def delivered (s : Session ring) (steps : List (Step Feeding)) : List Completion :=
  ((steps.zip (s.run steps)).map fun done => done.1.handed done.2.1).flatten

theorem delivered_cons (s : Session ring) (next : Step Feeding) (steps : List (Step Feeding)) :
    s.delivered (next :: steps) =
      next.handed (s.step next).1 ++ (s.step next).2.2.delivered steps := rfl

-- A step of a drain is the drain with its notes left out.
theorem step_drain (s : Session ring) (l : Ledger) (conduct : Conduct Feeding) :
    s.step (.drain conduct) =
      let d := (s.watched l conduct).forget
      (.report ⟨d.processed, d.ending, d.state.2⟩, d.events, ⟨⟨d.memory, d.state.1, d.queue⟩, s.monitors⟩) := by
  obtain ⟨⟨m, p, q⟩, monitors⟩ := s
  rw [watched, Queue.drain_noting]
  rfl

theorem step_cloneMonitor {α : Type} [Actor α] (s : Session ring) (index : Nat) :
    s.step (.cloneMonitor index : Step α) =
      if index < s.monitors then s.addMonitor else (.noSuchMonitor, [], s) := rfl

theorem step_readMonitor {α : Type} [Actor α] (s : Session ring) (index : Nat) :
    s.step (.readMonitor index : Step α) =
      if index < s.monitors then (.sighting (Sighting.of s.halves.queue s.halves.memory), [], s)
      else (.noSuchMonitor, [], s) := rfl

-- What is reaped are the first records that were shown and not released, none of them from a closed queue.
theorem Settled.reap (h : s.Settled l start released) (max : Nat) :
    let d := s.halves.queue.reap max s.halves.memory
    let n := if s.halves.queue.closed then 0 else min max (l.shown - released)
    released + n ≤ l.shown ∧
      d.queue = { s.halves.queue with head := start + .ofNat (released + n) } ∧
      l.Describes start (released + n) d.memory s.halves.producer ∧
      d.state.toList = (l.pushed.drop released).take n := by
  obtain ⟨⟨m, p, head, closed⟩, monitors⟩ := s
  obtain ⟨hdescribes, rfl⟩ := h
  have hreleased := hdescribes.released_le
  cases closed with
  | true =>
      simp only [Queue.reap_of_closed ⟨start + .ofNat released, true⟩ rfl]
      exact ⟨hreleased, rfl, hdescribes, rfl⟩
  | false =>
      have hlimit := hdescribes.toNat_tail_sub (Nat.le_refl _) hreleased
      have hshown := hdescribes.shown_le
      obtain ⟨hkept, hqueue, hmemory⟩ :=
        Queue.reap_eq_window ⟨start + .ofNat released, false⟩ rfl max m hdescribes.head_eq
      simp only [hlimit, ← cursor_add] at hkept hqueue hmemory
      have hn : released + min max (l.shown - released) ≤ l.shown := by omega
      refine ⟨hn, hqueue, ?_, ?_⟩
      · rw [hmemory]
        exact hdescribes.release (Nat.le_add_right _ _) hn
      · rw [hkept]
        exact hdescribes.window_eq (Nat.le_refl _) (hn.trans hshown)

-- What a step hands out is what it releases, so the records handed out so far are those before the head.
theorem Settled.step (h : s.Settled l start released) (next : Step Feeding) :
    ∃ released', (s.step next).2.2.Settled (s.enter l next) start released' ∧
      (s.enter l next).pushed.take released' = l.pushed.take released ++ next.handed (s.step next).1 := by
  have hshown := h.describes.shown_le
  have hreleased := h.describes.released_le.trans hshown
  cases next with
  | act f =>
      refine ⟨released, ⟨h.describes.perform f, h.head_eq⟩, ?_⟩
      have hgrows := l.grows_enter hshown f (f.perform s.halves.producer s.halves.memory).1
      exact (hgrows.take_eq hreleased).trans (List.append_nil _).symm
  | drain conduct =>
      obtain ⟨n, hn, hqueue, hdescribes, hgrows, hseen, _⟩ := h.watched conduct
      rw [s.step_drain l conduct]
      refine ⟨released + n, ⟨hdescribes, ?_⟩, ?_⟩
      · exact congrArg Queue.head hqueue
      · change (s.watched l conduct).state.2.ledger.pushed.take (released + n) =
          l.pushed.take released ++ (s.watched l conduct).state.1.2.seen.toList
        rw [hgrows.take_eq (hn.trans hshown), List.take_add, hseen]
  | reap max =>
      obtain ⟨_, hqueue, hdescribes, hkept⟩ := h.reap max
      refine ⟨_, ⟨hdescribes, congrArg Queue.head hqueue⟩, ?_⟩
      exact List.take_add.trans (congrArg (l.pushed.take released ++ ·) hkept.symm)
  | split =>
      refine ⟨released, ⟨h.describes.split, h.describes.head_eq⟩, ?_⟩
      have htake : l.split.pushed.take released = l.pushed.take released := by
        simp only [Ledger.split, Ledger.published, List.take_take]
        rw [Nat.min_eq_left h.describes.released_le]
      exact htake.trans (List.append_nil _).symm
  | snapshot | text | fieldText | fieldLines | close | state | layout | makeMonitor =>
      exact ⟨released, ⟨h.describes, h.head_eq⟩, (List.append_nil _).symm⟩
  | cloneMonitor index | readMonitor index =>
      refine ⟨released, ?_⟩
      simp only [Session.step]
      split <;> exact ⟨⟨h.describes, h.head_eq⟩, (List.append_nil _).symm⟩

theorem Settled.run (h : s.Settled l start released) (steps : List (Step Feeding)) :
    ∃ released', (s.after steps).Settled (s.ledger l steps) start released' ∧
      (s.ledger l steps).pushed.take released' = l.pushed.take released ++ s.delivered steps := by
  induction steps generalizing s l released with
  | nil => exact ⟨released, h, (List.append_nil _).symm⟩
  | cons next steps ih =>
      obtain ⟨middle, hmiddle, hhanded⟩ := h.step next
      obtain ⟨last, hlast, hdelivered⟩ := ih hmiddle
      refine ⟨last, hlast, ?_⟩
      rw [delivered_cons, ← List.append_assoc, ← hhanded]
      exact hdelivered

-- What a run releases is what it hands out.
theorem Settled.after (h : s.Settled l start released) (steps : List (Step Feeding)) :
    (s.after steps).Settled (s.ledger l steps) start (released + (s.delivered steps).length) := by
  obtain ⟨last, hlast, hdelivered⟩ := h.run steps
  have hreleased := h.describes.released_le.trans h.describes.shown_le
  have hreleased' := hlast.describes.released_le.trans hlast.describes.shown_le
  have hlength := congrArg List.length hdelivered
  rw [List.length_append, List.length_take, List.length_take, Nat.min_eq_left hreleased,
    Nat.min_eq_left hreleased'] at hlength
  exact hlength ▸ hlast

end Session

namespace Simulated

theorem session_eq_ok_iff (entries start : UInt32) (base : UInt64) (s : Session ring)
    (events : List Event) :
    session entries start base = .ok ⟨ring, s, events⟩ ↔
      (isPowerOfTwo entries = true ∧ entries ≤ Limits.maxEntries) ∧
        ring.layout = (⟨entries, start⟩ : Simulated).layout base ∧
        (s, events) = Session.begin (Memory.fresh ring start) := by
  rw [← Mapping.of?_eq_ok_iff]
  unfold session
  cases hcreate : create entries start with
  | error fault =>
      have hnot : ¬ (isPowerOfTwo entries = true ∧ entries ≤ Limits.maxEntries) := by
        intro haccepted
        have hok := (create_eq_ok_iff entries start ⟨entries, start⟩).mpr ⟨haccepted, rfl⟩
        simp [hcreate] at hok
      simp [bind, Except.bind, hnot]
  | ok simulated =>
      obtain ⟨haccepted, rfl⟩ := (create_eq_ok_iff entries start simulated).mp hcreate
      cases hring : Mapping.of? ((⟨entries, start⟩ : Simulated).layout base) with
      | error fault => simp [hring, bind, Except.bind]
      | ok other =>
          simp only [hring, bind, Except.bind, Except.ok.injEq, Sigma.mk.injEq, haccepted, and_self, true_and]
          constructor
          · rintro ⟨rfl, h⟩
            exact ⟨rfl, (eq_of_heq h).symm⟩
          · rintro ⟨rfl, h⟩
            exact ⟨rfl, heq_of_eq h.symm⟩

theorem eq_begin_of_session {entries start : UInt32} {base : UInt64} {s : Session ring}
    {events : List Event} (h : session entries start base = .ok ⟨ring, s, events⟩) :
    s = (Session.begin (Memory.fresh ring start)).1 :=
  congrArg Prod.fst ((session_eq_ok_iff entries start base s events).mp h).2.2

theorem settled_of_session {entries start : UInt32} {base : UInt64} {s : Session ring}
    {events : List Event} (h : session entries start base = .ok ⟨ring, s, events⟩) :
    s.Settled .blank start 0 := by
  rw [eq_begin_of_session h]
  exact Session.settled_begin ring start

end Simulated

-- What a run has handed out and what still lies between the queue's head and the shared tail are together
-- the records that were pushed and published, each once, in the order of the pushes and as they were
-- pushed.
theorem delivered_append_pending_eq_published {entries start : UInt32} {base : UInt64} {s : Session ring}
    {events : List Event} (h : Simulated.session entries start base = .ok ⟨ring, s, events⟩)
    (steps : List (Step Feeding)) :
    let q := (s.after steps).halves.queue
    let m := (s.after steps).halves.memory
    s.delivered steps ++ m.window q.head (m.tail - q.head).toNat = (s.ledger .blank steps).published := by
  intro q m
  have hbegin : s.Settled .blank start 0 := by
    rw [Simulated.eq_begin_of_session h]
    exact Session.settled_begin ring start
  obtain ⟨released, hlast, hdelivered⟩ := hbegin.run steps
  have hreleased := hlast.describes.released_le
  have hshown := hlast.describes.shown_le
  have htail := hlast.describes.toNat_tail_sub (Nat.le_refl _) hreleased
  have hwindow := hlast.describes.window_eq (Nat.le_refl released)
    (by omega : released + ((s.ledger .blank steps).shown - released) ≤ _)
  have hhead : q.head = start + .ofNat released := hlast.head_eq
  have hdelivered' : s.delivered steps = (s.ledger .blank steps).pushed.take released := by
    rw [hdelivered]
    rfl
  rw [hhead, htail, hwindow, hdelivered', Ledger.published, ← List.take_add]
  congr 1
  omega

-- A ring of two slots whose cursors wrap. The handler pushes into the slot that is still free, finds no room
-- for the second record, shows the first and fails; that record waits for the next call.
theorem delivered_append_pending_across_wrap :
    let ring : Mapping := ⟨(⟨2, 4294967295⟩ : Simulated).layout 4096, rfl⟩
    let s := (Session.begin (Memory.fresh ring 4294967295)).1
    let steps : List (Step Feeding) :=
      [.act (.post ⟨1, 5, 0⟩),
        .drain fun _ _ => .act (.push ⟨2, -11, 1⟩) fun _ => .act (.push ⟨3, 0, 0⟩) fun _ =>
          .act .publish fun _ => .answer (.fail "late"),
        .act (.push ⟨4, 7, 0⟩), .reap 5, .act (.post ⟨5, 8, 0⟩), .close]
    Simulated.session 2 4294967295 4096 = .ok ⟨ring, s, (Session.begin (Memory.fresh ring 4294967295)).2⟩ ∧
      s.delivered steps = [⟨1, 5, 0⟩, ⟨2, -11, 1⟩] ∧
      (s.after steps).halves.memory.window (s.after steps).halves.queue.head
        ((s.after steps).halves.memory.tail - (s.after steps).halves.queue.head).toNat =
          [⟨4, 7, 0⟩, ⟨5, 8, 0⟩] ∧
      (s.ledger .blank steps).published = [⟨1, 5, 0⟩, ⟨2, -11, 1⟩, ⟨4, 7, 0⟩, ⟨5, 8, 0⟩] := by
  intro ring s steps
  have hsession : Simulated.session 2 4294967295 4096 =
      .ok ⟨ring, s, (Session.begin (Memory.fresh ring 4294967295)).2⟩ := rfl
  have hdelivered : s.delivered steps = [⟨1, 5, 0⟩, ⟨2, -11, 1⟩] := by decide +kernel
  have hwindow : (s.after steps).halves.memory.window (s.after steps).halves.queue.head
      ((s.after steps).halves.memory.tail - (s.after steps).halves.queue.head).toNat =
        [⟨4, 7, 0⟩, ⟨5, 8, 0⟩] := by decide +kernel
  have hall := delivered_append_pending_eq_published hsession steps
  simp only [hdelivered, hwindow] at hall
  exact ⟨hsession, hdelivered, hwindow, hall.symm⟩

end CompletionRing
