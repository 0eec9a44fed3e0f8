import CompletionRing.Proofs.Drain

namespace CompletionRing

variable {ring : Mapping} {σ ε : Type}

namespace Memory

theorem window_append (m : Memory ring) (start : UInt32) (i j : Nat) :
    m.window start (i + j) = m.window start i ++ m.window (start + .ofNat i) j := by
  unfold window
  rw [List.range_add, List.map_append, List.map_map]
  congr 1
  apply List.map_congr_left
  intro k _
  simp only [Function.comp_apply, cursor_add]

theorem take_window (m : Memory ring) (start : UInt32) (i j : Nat) :
    (m.window start j).take i = m.window start (min i j) := by
  unfold window
  rw [← List.map_take, List.take_range]

end Memory

namespace Handler

-- A handler that leaves the memory as it is.
def Reads (h : Handler ring σ ε) : Prop :=
  ∀ c m state, (h c m state).2.1 = m

-- A handler that asks for every record there is.
def takeAll : Handler ring Unit Empty := fun _ m state => (.proceed, m, state)

end Handler

theorem Walk.before_of_reads (w : Walk ring σ ε) (h : w.handler.Reads) (i : Nat) :
    (w.before i).1 = w.memory := by
  induction i with
  | zero => rfl
  | succ i ih => exact (h _ _ _).trans ih

namespace Queue

-- What a reaping returns, and what it leaves.
def reaped (q : Queue ring) (max : Nat) (m : Memory ring) : List Completion × Queue ring × Memory ring :=
  let r := q.reap max m
  (r.state.toList, r.queue, r.memory)

theorem reaped_zero (q : Queue ring) (m : Memory ring) : q.reaped 0 m = ([], q, m) := rfl

theorem reaped_of_pos (q : Queue ring) (hopen : q.closed = false) {max : Nat} (hmax : max ≠ 0)
    (m : Memory ring) :
    let n := min max (m.tail - q.head).toNat
    q.reaped max m =
      (m.window q.head n, { q with head := q.head + .ofNat n }, { m with head := q.head + .ofNat n }) := by
  obtain ⟨hkept, hqueue, hmemory⟩ := q.reap_of_pos hopen hmax m
  exact Prod.ext hkept (Prod.ext hqueue hmemory)

theorem closed_reaped (q : Queue ring) (hopen : q.closed = false) (max : Nat) (m : Memory ring) :
    (q.reaped max m).2.1.closed = false := by
  by_cases hmax : max = 0
  · subst hmax
    exact hopen
  · rw [q.reaped_of_pos hopen hmax]
    exact hopen

-- What is left of a distance once a part of it has been taken.
theorem toNat_sub_taken (head tail : UInt32) {n : Nat} (hn : n ≤ (tail - head).toNat) :
    (tail - (head + .ofNat n)).toNat = (tail - head).toNat - n := by
  have hlt := (tail - head).toNat_lt
  have hsub := toNat_cursor_sub head hn (by omega)
  rwa [← cursor_eq_add] at hsub

theorem reaped_reaped (q : Queue ring) (hopen : q.closed = false) (a b : Nat) (m : Memory ring) :
    let first := q.reaped a m
    let second := first.2.1.reaped b first.2.2
    (first.1 ++ second.1, second.2) = q.reaped (a + b) m := by
  intro first second
  by_cases ha : a = 0
  · subst ha
    simp only [first, second, reaped_zero, List.nil_append, Nat.zero_add]
  by_cases hb : b = 0
  · subst hb
    simp only [first, second, reaped_zero, List.append_nil, Nat.add_zero]
  let d := (m.tail - q.head).toNat
  have hfirst : first = (m.window q.head (min a d), { q with head := q.head + .ofNat (min a d) },
      { m with head := q.head + .ofNat (min a d) }) := q.reaped_of_pos hopen ha m
  have hrest : (m.tail - (q.head + .ofNat (min a d))).toNat = d - min a d :=
    toNat_sub_taken q.head m.tail (Nat.min_le_right a d)
  have hsum : min a d + min b (d - min a d) = min (a + b) d := by omega
  have hsecond := reaped_of_pos first.2.1 (q.closed_reaped hopen a m) hb first.2.2
  simp only [hfirst, hrest, ← cursor_add, hsum] at hsecond
  rw [q.reaped_of_pos hopen (by omega : a + b ≠ 0) m]
  change (first.1 ++ (first.2.1.reaped b first.2.2).1, (first.2.1.reaped b first.2.2).2) = _
  rw [hfirst, hsecond]
  change (m.window q.head (min a d) ++ m.window (q.head + .ofNat (min a d)) (min b (d - min a d)), _) = _
  rw [← Memory.window_append, hsum]

end Queue

-- A call that takes records off a queue. A drain comes with the number of records after which it is to stop.
inductive Draw (ring : Mapping) : Type 1
  | drain {σ ε : Type} (h : Handler ring σ ε) (state : σ) (count : Nat)
  | reap (max : Nat)

namespace Draw

def count : Draw ring → Nat
  | .drain _ _ count => count
  | .reap max => max

-- What a call hands out, and what it leaves.
def run : Draw ring → Queue ring → Memory ring → List Completion × Queue ring × Memory ring
  | .drain h state _, q, m =>
      let d := q.drain h m state
      ((q.drain h.recording m (state, #[])).state.2.toList, d.queue, d.memory)
  | .reap max, q, m => q.reaped max m

-- Whether a call is for as many records as it says. The handler of a drain writes nothing, goes on after each
-- record but the last of these, and does not go on after the last, however it ends; it may find fewer.
def Counts : Draw ring → Queue ring → Memory ring → Prop
  | @drain _ σ ε h state count, q, m =>
      let w : Walk ring σ ε := ⟨h, q.head, m, state⟩
      1 ≤ count ∧ h.Reads ∧
        ∀ i < (m.tail - q.head).toNat, i < count → ((w.verdict i).proceeds = true ↔ i + 1 < count)
  | .reap _, _, _ => True

theorem run_eq_reaped (draw : Draw ring) (q : Queue ring) (hopen : q.closed = false) (m : Memory ring)
    (h : draw.Counts q m) : draw.run q m = q.reaped draw.count m := by
  cases draw with
  | reap max => rfl
  | @drain σ ε h state count =>
      obtain ⟨hcount, hreads, hproceeds⟩ := h
      let w : Walk ring σ ε := ⟨h, q.head, m, state⟩
      obtain ⟨n, hn, heq⟩ := q.drain_eq hopen h m state
      have hlength : n = min count (m.tail - q.head).toNat := hn.eq_min hcount hproceeds
      have hrecords : (List.range n).map w.record = m.window q.head n := by
        apply List.map_congr_left
        intro i _
        exact congrArg (fun memory => memory.read (q.head + .ofNat i)) (w.before_of_reads hreads i)
      have hseen : (q.drain h.recording m (state, #[])).state.2.toList =
          (List.range (q.drain h m state).processed).map w.record := q.drain_recording hopen h m state
      have hprocessed : (q.drain h m state).processed = n := congrArg Drained.processed heq
      rw [hprocessed, hrecords] at hseen
      rw [Draw.count, q.reaped_of_pos hopen (by omega) m, ← hlength]
      simp only [run, hseen, heq]
      rw [w.before_of_reads hreads n]

end Draw

namespace Queue

-- Calls one after another, with nobody else at the ring in between: all that they hand out, and what the last
-- one leaves.
def drawAll : List (Draw ring) → Queue ring → Memory ring → List Completion × Queue ring × Memory ring
  | [], q, m => ([], q, m)
  | draw :: draws, q, m =>
      let first := draw.run q m
      let others := drawAll draws first.2.1 first.2.2
      (first.1 ++ others.1, others.2)

def AllCount : List (Draw ring) → Queue ring → Memory ring → Prop
  | [], _, _ => True
  | draw :: draws, q, m =>
      let first := draw.run q m
      draw.Counts q m ∧ AllCount draws first.2.1 first.2.2

def totalCount : List (Draw ring) → Nat
  | [] => 0
  | draw :: draws => draw.count + totalCount draws

theorem drawAll_eq_reaped (draws : List (Draw ring)) (q : Queue ring) (hopen : q.closed = false)
    (m : Memory ring) (h : AllCount draws q m) : drawAll draws q m = q.reaped (totalCount draws) m := by
  induction draws generalizing q m with
  | nil => rfl
  | cons draw draws ih =>
      obtain ⟨hdraw, hdraws⟩ := h
      have hfirst := draw.run_eq_reaped q hopen m hdraw
      rw [hfirst] at hdraws
      have hothers := ih _ (q.closed_reaped hopen draw.count m) _ hdraws
      simp only [drawAll, hfirst, hothers]
      exact q.reaped_reaped hopen draw.count (totalCount draws) m

theorem takeAll_recorded (q : Queue ring) (hopen : q.closed = false) (m : Memory ring) :
    (q.drain Handler.takeAll.recording m ((), #[])).state.2.toList =
      m.window q.head (m.tail - q.head).toNat := by
  let d := (m.tail - q.head).toNat
  have hcounts : (Draw.drain Handler.takeAll () (d + 1)).Counts q m := by
    refine ⟨by omega, fun _ _ _ => rfl, ?_⟩
    intro i hi _
    exact ⟨fun _ => Nat.succ_lt_succ hi, fun _ => rfl⟩
  have hrun := Draw.run_eq_reaped _ q hopen m hcounts
  rw [Draw.count, q.reaped_of_pos hopen (Nat.succ_ne_zero d)] at hrun
  refine (congrArg Prod.fst hrun).trans ?_
  exact congrArg (m.window q.head) (Nat.min_eq_right (Nat.le_succ d))

end Queue

-- However the taking of records is cut into calls, drains or reapings, what they hand out together and what they
-- leave is what one reaping of as many does. A reaping of none does not even publish the head, and is one of
-- none again.
theorem batches_add_up (q : Queue ring) (hopen : q.closed = false) (m : Memory ring) :
    (∀ draws : List (Draw ring), Queue.AllCount draws q m →
      let d := (m.tail - q.head).toNat
      let all := (q.drain Handler.takeAll.recording m ((), #[])).state.2.toList
      let total := Queue.totalCount draws
      let once := q.reap total m
      all.length = d ∧
        Queue.drawAll draws q m = (all.take (min total d), once.queue, once.memory) ∧
        once.state.toList = all.take (min total d)) ∧
    ∀ a b : Nat,
      let first := q.reap a m
      let second := first.queue.reap b first.memory
      let once := q.reap (a + b) m
      first.state.toList ++ second.state.toList = once.state.toList ∧
        second.queue = once.queue ∧ second.memory = once.memory := by
  constructor
  · intro draws hdraws d all total once
    have hall : all = m.window q.head d := q.takeAll_recorded hopen m
    have hkept : once.state.toList = all.take (min total d) := by
      rw [hall, Memory.take_window, Nat.min_assoc, Nat.min_self]
      by_cases htotal : total = 0
      · simp only [once, htotal, Nat.zero_min]
        rfl
      · exact (q.reap_of_pos hopen htotal m).1
    refine ⟨by rw [hall, Memory.length_window], ?_, hkept⟩
    rw [Queue.drawAll_eq_reaped draws q hopen m hdraws, ← hkept]
    rfl
  · intro a b first second once
    have hsame := q.reaped_reaped hopen a b m
    exact ⟨congrArg (fun r => r.1) hsame, congrArg (fun r => r.2.1) hsame, congrArg (fun r => r.2.2) hsame⟩

-- Six records are claimed of a ring of four slots, whose shared head stands elsewhere. The second call fails with
-- its second record, and the last one finds a single record.
theorem batches_add_up_past_size :
    let ring : Mapping := ⟨⟨4096, 4160, 3, 4, 4224, 0, 0, -1, 4⟩, rfl⟩
    let q : Queue ring := ⟨4294967294, false⟩
    let m : Memory ring := { (Memory.fresh ring 0).write 6 ⟨1, 5, 0⟩ |>.write 7 ⟨2, -4, 1⟩ with tail := 4 }
    let failing : Handler ring Nat String := fun _ m calls =>
      (if calls = 1 then .fail "late" else .proceed, m, calls + 1)
    let draws : List (Draw ring) :=
      [.reap 0, .drain failing 0 2, .reap 3, .drain Handler.takeAll () 5]
    q.closed = false ∧ Queue.AllCount draws q m ∧ Queue.totalCount draws = 10 ∧
      (Queue.drawAll draws q m).1 = [⟨1, 5, 0⟩, ⟨2, -4, 1⟩, .blank, .blank, ⟨1, 5, 0⟩, ⟨2, -4, 1⟩] ∧
      (Queue.drawAll draws q m).2.1.head = 4 ∧ (Queue.drawAll draws q m).2.2.head = 4 ∧
      (q.reap 2 m).state.toList ++ ((q.reap 2 m).queue.reap 3 (q.reap 2 m).memory).state.toList =
        (q.reap 5 m).state.toList := by
  intro ring q m failing draws
  have hfailing : failing.Reads := fun _ _ _ => rfl
  have htakeAll : (Handler.takeAll : Handler ring Unit Empty).Reads := fun _ _ _ => rfl
  have hcounts : Queue.AllCount draws q m :=
    ⟨trivial, ⟨by decide, hfailing, by decide +kernel⟩, trivial, ⟨by decide, htakeAll, by decide +kernel⟩,
      trivial⟩
  obtain ⟨hdraws, hreaps⟩ := batches_add_up q rfl m
  obtain ⟨_, hdrawn, _⟩ := hdraws draws hcounts
  rw [hdrawn]
  exact ⟨rfl, hcounts, rfl, by decide +kernel, by decide +kernel, by decide +kernel, (hreaps 2 3).1⟩

end CompletionRing
