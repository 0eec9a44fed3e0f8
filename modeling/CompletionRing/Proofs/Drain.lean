import CompletionRing.Proofs.Cursor
import CompletionRing.Queue.Drain
import Mathlib.Order.Bounds.Basic

namespace CompletionRing

variable {ring : Mapping} {σ γ ε : Type}

namespace Verdict

def proceeds : Verdict ε → Bool
  | .proceed => true
  | _ => false

-- How a drain ends after its last verdict. Nothing remains when even the last one asks for more.
def ending (remaining : Nat) : Verdict ε → Ending ε
  | .proceed => .emptied
  | .stop => .stopped remaining
  | .fail error => .failed error
  | .panic message => .panicked message

end Verdict

-- A handler that is called with the record of one cursor after another, whatever its verdicts.
structure Walk (ring : Mapping) (σ ε : Type) where
  handler : Handler ring σ ε
  head : UInt32
  memory : Memory ring
  state : σ

namespace Walk

-- The memory and the state as the calls before this one have left them.
def before (w : Walk ring σ ε) : Nat → Memory ring × σ
  | 0 => (w.memory, w.state)
  | i + 1 =>
      let now := w.before i
      (w.handler (now.1.read (w.head + .ofNat i)) now.1 now.2).2

def record (w : Walk ring σ ε) (i : Nat) : Completion :=
  (w.before i).1.read (w.head + .ofNat i)

def verdict (w : Walk ring σ ε) (i : Nat) : Verdict ε :=
  (w.handler (w.record i) (w.before i).1 (w.before i).2).1

-- The number of calls up to the first that asks for no more, or a limit if that comes before.
def IsLength (w : Walk ring σ ε) (limit : Nat) : Nat → Prop :=
  IsLeast {k | k = limit ∨ ∃ i, k = i + 1 ∧ (w.verdict i).proceeds = false}

def ending (w : Walk ring σ ε) (limit : Nat) : Nat → Ending ε
  | 0 => .emptied
  | i + 1 => (w.verdict i).ending (limit - (i + 1))

-- The same walk from its second call on.
def next (w : Walk ring σ ε) : Walk ring σ ε :=
  ⟨w.handler, w.head + 1, (w.before 1).1, (w.before 1).2⟩

theorem next_before (w : Walk ring σ ε) (i : Nat) : w.next.before i = w.before (i + 1) := by
  induction i with
  | zero => rfl
  | succ i ih =>
      simp only [before, next] at ih ⊢
      rw [ih, cursor_one_add]

theorem next_verdict (w : Walk ring σ ε) (i : Nat) : w.next.verdict i = w.verdict (i + 1) := by
  unfold verdict record
  rw [next_before]
  simp only [next, cursor_one_add]

theorem isLength_zero (w : Walk ring σ ε) : w.IsLength 0 0 :=
  ⟨Or.inl rfl, fun _ _ => Nat.zero_le _⟩

theorem isLength_one (w : Walk ring σ ε) (limit : Nat) (hv : (w.verdict 0).proceeds = false) :
    w.IsLength (limit + 1) 1 := by
  refine ⟨Or.inr ⟨0, rfl, hv⟩, ?_⟩
  rintro k (rfl | ⟨i, rfl, _⟩) <;> omega

theorem isLength_succ (w : Walk ring σ ε) {limit n : Nat} (hv : (w.verdict 0).proceeds = true)
    (hn : w.next.IsLength limit n) : w.IsLength (limit + 1) (n + 1) := by
  obtain ⟨hmem, hleast⟩ := hn
  constructor
  · rcases hmem with rfl | ⟨i, rfl, hi⟩
    · exact Or.inl rfl
    · exact Or.inr ⟨i + 1, rfl, by rwa [← next_verdict]⟩
  · rintro k (rfl | ⟨i, rfl, hi⟩)
    · exact Nat.succ_le_succ (hleast (Or.inl rfl))
    · cases i with
      | zero => rw [hv] at hi; cases hi
      | succ i => exact Nat.succ_le_succ (hleast (Or.inr ⟨i, rfl, by rwa [next_verdict]⟩))

theorem IsLength.le {w : Walk ring σ ε} {limit n : Nat} (h : w.IsLength limit n) : n ≤ limit :=
  h.2 (Or.inl rfl)

theorem next_ending (w : Walk ring σ ε) {limit n : Nat} (hv : (w.verdict 0).proceeds = true)
    (hn : w.next.IsLength limit n) : w.next.ending limit n = w.ending (limit + 1) (n + 1) := by
  cases n with
  | zero =>
      have hempty : (w.verdict 0).ending limit = .emptied := by
        cases hcall : w.verdict 0 <;> simp_all [Verdict.proceeds, Verdict.ending]
      exact hempty.symm
  | succ n =>
      simp only [ending, next_verdict]
      congr 1
      omega

theorem drainLoop_succ (w : Walk ring σ ε) (left processed : Nat) (closed : Bool) :
    Queue.drainLoop w.handler (left + 1) processed ⟨w.head, closed⟩ w.memory w.state =
      if (w.verdict 0).proceeds then
        Queue.drainLoop w.handler left (processed + 1) ⟨w.head + 1, closed⟩ w.next.memory w.next.state
      else
        ⟨⟨w.head + 1, closed⟩, { w.next.memory with head := w.head + 1 }, w.next.state, processed + 1,
          (w.verdict 0).ending left⟩ := by
  have hread : w.memory.read (w.head + .ofNat 0) = w.memory.read w.head := by simp
  simp only [Queue.drainLoop, verdict, record, next, before, hread]
  cases w.handler (w.memory.read w.head) w.memory w.state with
  | mk v rest => cases v <;> rfl

-- A drain is the walk of its handler up to the walk's length, and the head it has come to is published
-- over whatever stands there.
theorem drainLoop_eq (w : Walk ring σ ε) (left processed : Nat) (closed : Bool) :
    ∃ n, w.IsLength left n ∧
      Queue.drainLoop w.handler left processed ⟨w.head, closed⟩ w.memory w.state =
        ⟨⟨w.head + .ofNat n, closed⟩, { (w.before n).1 with head := w.head + .ofNat n },
          (w.before n).2, processed + n, w.ending left n⟩ := by
  induction left generalizing w processed with
  | zero => exact ⟨0, w.isLength_zero, by simp [Queue.drainLoop, Queue.release, before, ending]⟩
  | succ left ih =>
      rw [drainLoop_succ]
      cases hv : (w.verdict 0).proceeds with
      | false =>
          refine ⟨1, w.isLength_one left hv, ?_⟩
          simp [next, ending]
      | true =>
          obtain ⟨n, hn, heq⟩ := ih w.next (processed + 1)
          refine ⟨n + 1, w.isLength_succ hv hn, ?_⟩
          have hcount : processed + 1 + n = processed + (n + 1) := by omega
          rw [hcount] at heq
          rw [← next_ending w hv hn, ← next_before, ← cursor_one_add]
          exact heq

-- What holds before the first call and is kept by every call holds before each of them.
theorem before_induct (w : Walk ring σ ε) {I : Nat → Memory ring → σ → Prop} {limit : Nat}
    (hzero : I 0 w.memory w.state)
    (hsucc : ∀ i m s, i < limit → I i m s →
      let result := w.handler (m.read (w.head + .ofNat i)) m s
      I (i + 1) result.2.1 result.2.2) (i : Nat) (hi : i ≤ limit) :
    I i (w.before i).1 (w.before i).2 := by
  induction i with
  | zero => exact hzero
  | succ i ih => exact hsucc i _ _ hi (ih (by omega))

end Walk

namespace Queue

theorem drain_of_closed (q : Queue ring) (hclosed : q.closed = true) (h : Handler ring σ ε)
    (m : Memory ring) (s : σ) : q.drain h m s = ⟨q, m, s, 0, .emptied⟩ :=
  if_pos hclosed

theorem reap_of_closed (q : Queue ring) (hclosed : q.closed = true) (max : Nat) (m : Memory ring) :
    q.reap max m = ⟨q, m, #[], 0, .emptied⟩ := by
  rw [reap, q.drain_of_closed hclosed, ite_self]

theorem drain_eq (q : Queue ring) (hopen : q.closed = false) (h : Handler ring σ ε) (m : Memory ring)
    (s : σ) :
    let w : Walk ring σ ε := ⟨h, q.head, m, s⟩
    let limit := (m.tail - q.head).toNat
    ∃ n, w.IsLength limit n ∧
      q.drain h m s =
        ⟨{ q with head := q.head + .ofNat n }, { (w.before n).1 with head := q.head + .ofNat n },
          (w.before n).2, n, w.ending limit n⟩ := by
  obtain ⟨head, closed⟩ := q
  subst hopen
  simpa [drain] using Walk.drainLoop_eq ⟨h, head, m, s⟩ (m.tail - head).toNat 0 false

-- The rule for a drain: an invariant of its calls, counted from the first, holds where it has stopped.
theorem drain_invariant (q : Queue ring) (hopen : q.closed = false) (h : Handler ring σ ε)
    (m : Memory ring) (s : σ) (I : Nat → Memory ring → σ → Prop) (hzero : I 0 m s)
    (hsucc : ∀ i m' s', i < (m.tail - q.head).toNat → I i m' s' →
      let result := h (m'.read (q.head + .ofNat i)) m' s'
      I (i + 1) result.2.1 result.2.2) :
    ∃ n ≤ (m.tail - q.head).toNat, ∃ m', I n m' (q.drain h m s).state ∧
      (q.drain h m s).queue = { q with head := q.head + .ofNat n } ∧
      (q.drain h m s).memory = { m' with head := q.head + .ofNat n } := by
  obtain ⟨n, hn, heq⟩ := q.drain_eq hopen h m s
  rw [heq]
  exact ⟨n, hn.le, _, Walk.before_induct ⟨h, q.head, m, s⟩ hzero hsucc n hn.le, rfl, rfl⟩

end Queue

def Handler.noting (h : Handler ring σ ε) (note : Completion → Memory ring → σ → γ → γ) :
    Handler ring (σ × γ) ε := fun c m state =>
  let (verdict, m', inner) := h c m state.1
  (verdict, m', inner, note c m state.1 state.2)

def Drained.forget (d : Drained ring (σ × γ) ε) : Drained ring σ ε :=
  ⟨d.queue, d.memory, d.state.1, d.processed, d.ending⟩

namespace Walk

variable (w : Walk ring σ ε) (note : Completion → Memory ring → σ → γ → γ) (notes : γ)

def noting : Walk ring (σ × γ) ε :=
  ⟨w.handler.noting note, w.head, w.memory, (w.state, notes)⟩

theorem noting_before (i : Nat) :
    ((w.noting note notes).before i).1 = (w.before i).1 ∧
      ((w.noting note notes).before i).2.1 = (w.before i).2 := by
  induction i with
  | zero => exact ⟨rfl, rfl⟩
  | succ i ih =>
      simp only [before, noting, Handler.noting] at ih ⊢
      rw [ih.1, ih.2]
      exact ⟨rfl, rfl⟩

theorem noting_record (i : Nat) : (w.noting note notes).record i = w.record i := by
  unfold record
  rw [(w.noting_before note notes i).1]
  rfl

theorem noting_verdict (i : Nat) : (w.noting note notes).verdict i = w.verdict i := by
  unfold verdict
  rw [noting_record, (w.noting_before note notes i).1, ← (w.noting_before note notes i).2]
  rfl

theorem noting_isLength (limit n : Nat) :
    (w.noting note notes).IsLength limit n ↔ w.IsLength limit n := by
  simp only [IsLength, noting_verdict]

theorem noting_ending (limit n : Nat) :
    (w.noting note notes).ending limit n = w.ending limit n := by
  cases n with
  | zero => rfl
  | succ n => simp only [ending, noting_verdict]

end Walk

-- Keeping notes changes nothing else about a drain.
theorem Queue.drain_noting (q : Queue ring) (h : Handler ring σ ε)
    (note : Completion → Memory ring → σ → γ → γ) (m : Memory ring) (s : σ) (notes : γ) :
    (q.drain (h.noting note) m (s, notes)).forget = q.drain h m s := by
  cases hclosed : q.closed with
  | true => simp [drain, hclosed, Drained.forget]
  | false =>
      let w : Walk ring σ ε := ⟨h, q.head, m, s⟩
      obtain ⟨n, hn, heq⟩ := q.drain_eq hclosed h m s
      obtain ⟨k, hk, heq'⟩ := q.drain_eq hclosed (h.noting note) m (s, notes)
      have hk' : w.IsLength (m.tail - q.head).toNat k := (w.noting_isLength note notes _ k).mp hk
      obtain rfl : n = k := hn.unique hk'
      have hbefore := w.noting_before note notes n
      rw [heq, heq']
      change (⟨_, { ((w.noting note notes).before n).1 with head := _ }, ((w.noting note notes).before n).2.1,
        n, (w.noting note notes).ending _ n⟩ : Drained ring σ ε) = _
      rw [hbefore.1, hbefore.2, w.noting_ending]

namespace Walk

theorem recording_before (w : Walk ring σ ε) (n : Nat) :
    ((w.noting (fun c _ _ kept => kept.push c) #[]).before n).2.2.toList =
      (List.range n).map w.record := by
  induction n with
  | zero => rfl
  | succ n ih =>
      rw [List.range_succ, List.map_append, ← ih, List.map_singleton,
        ← w.noting_record (fun c _ _ kept => kept.push c) #[] n, ← Array.toList_push]
      rfl

end Walk

-- The records that a handler is called with are those of its walk.
theorem Queue.drain_recording (q : Queue ring) (hopen : q.closed = false) (h : Handler ring σ ε)
    (m : Memory ring) (s : σ) :
    let w : Walk ring σ ε := ⟨h, q.head, m, s⟩
    (q.drain h.recording m (s, #[])).state.2.toList =
      (List.range (q.drain h m s).processed).map w.record := by
  intro w
  obtain ⟨n, hn, heq⟩ := q.drain_eq hopen h m s
  obtain ⟨k, hk, heq'⟩ := q.drain_eq hopen h.recording m (s, #[])
  have hk' : w.IsLength (m.tail - q.head).toNat k := by
    rw [← w.noting_isLength (fun c _ _ kept => kept.push c) #[]]
    exact hk
  obtain rfl : n = k := hn.unique hk'
  rw [heq, heq']
  exact w.recording_before n

namespace Walk

theorem collect_before (w : Walk ring (Array Completion) Empty) {max : Nat}
    (hhandler : w.handler = Queue.collect max) (hstate : w.state = #[]) (i : Nat) :
    (w.before i).1 = w.memory ∧ (w.before i).2.toList = w.memory.window w.head i := by
  induction i with
  | zero => simp [before, hstate, Memory.window]
  | succ i ih =>
      obtain ⟨hmemory, hkept⟩ := ih
      simp only [before, hhandler, Queue.collect, Array.toList_push, hkept, hmemory, Memory.window,
        List.range_succ, List.map_append, List.map_singleton, and_self]

-- A walk whose handler goes on before a count of calls and no further stops at the count, unless it is at its
-- limit before.
theorem IsLength.eq_min {w : Walk ring σ ε} {limit n count : Nat} (hn : w.IsLength limit n)
    (hcount : 1 ≤ count)
    (hproceeds : ∀ i < limit, i < count → ((w.verdict i).proceeds = true ↔ i + 1 < count)) :
    n = min count limit := by
  have hle := hn.le
  have hmost : n ≤ count := by
    by_contra hlonger
    have hstop : (w.verdict (count - 1)).proceeds = false := by
      rw [Bool.eq_false_iff, Ne, hproceeds (count - 1) (by omega) (by omega)]
      omega
    exact hlonger (hn.2 (Or.inr ⟨count - 1, by omega, hstop⟩))
  rcases hn.1 with hlimit | ⟨i, hi, hstop⟩
  · omega
  · have hlast : ¬ i + 1 < count := by
      rw [← hproceeds i (by omega) (by omega), hstop]
      exact Bool.false_ne_true
    omega

theorem collect_isLength (w : Walk ring (Array Completion) Empty) {max limit n : Nat}
    (hhandler : w.handler = Queue.collect max) (hstate : w.state = #[]) (hmax : max ≠ 0)
    (hn : w.IsLength limit n) : n = min max limit := by
  refine hn.eq_min (by omega) fun i _ _ => ?_
  have hsize : (w.before i).2.size = i := by
    rw [← Array.length_toList, (w.collect_before hhandler hstate i).2, Memory.length_window]
  by_cases hlt : i + 1 < max <;>
    simp [verdict, hhandler, Queue.collect, hsize, hlt, Verdict.proceeds]

end Walk

-- What is reaped are the first records as they lie in the ring, and the head comes to stand behind them.
theorem Queue.reap_of_pos (q : Queue ring) (hopen : q.closed = false) {max : Nat} (hmax : max ≠ 0)
    (m : Memory ring) :
    let r := q.reap max m
    let n := min max (m.tail - q.head).toNat
    r.state.toList = m.window q.head n ∧ r.queue = { q with head := q.head + .ofNat n } ∧
      r.memory = { m with head := q.head + .ofNat n } := by
  let w : Walk ring (Array Completion) Empty := ⟨collect max, q.head, m, #[]⟩
  obtain ⟨n, hn, heq⟩ := q.drain_eq hopen (collect max) m #[]
  have hlength : n = min max (m.tail - q.head).toNat := w.collect_isLength rfl rfl hmax hn
  obtain ⟨hmemory, hkept⟩ := w.collect_before rfl rfl n
  have hreap : q.reap max m = _ := (if_neg hmax).trans heq
  rw [hreap, ← hlength]
  refine ⟨hkept, rfl, ?_⟩
  rw [hmemory]

-- Where both heads are one, a limit of zero is no exception.
theorem Queue.reap_eq_window (q : Queue ring) (hopen : q.closed = false) (max : Nat) (m : Memory ring)
    (hhead : m.head = q.head) :
    let r := q.reap max m
    let n := min max (m.tail - q.head).toNat
    r.state.toList = m.window q.head n ∧ r.queue = { q with head := q.head + .ofNat n } ∧
      r.memory = { m with head := q.head + .ofNat n } := by
  by_cases hmax : max = 0
  · subst hmax
    refine ⟨by simp [reap, Memory.window], ?_, ?_⟩
    · simp [reap]
    · simp [reap, ← hhead]
  · exact q.reap_of_pos hopen hmax m

-- The handler is called for the records up to the tail that was loaded, or up to the first that it does not
-- ask to go on after. Each call finds the memory as the calls before have left it, and on each way out
-- the consumed records are released, the last one included, and nothing else is written.
theorem Queue.drain_releases_consumed (q : Queue ring) (hopen : q.closed = false)
    (h : Handler ring σ ε) (m : Memory ring) (s : σ) :
    let w : Walk ring σ ε := ⟨h, q.head, m, s⟩
    let d := (m.tail - q.head).toNat
    let out := q.drain h m s
    ∃ n, IsLeast {k | k = d ∨ ∃ i, k = i + 1 ∧ (w.verdict i).proceeds = false} n ∧
      (q.drain h.recording m (s, #[])).state.2.toList =
        (List.range n).map (fun i => (w.before i).1.slotAt (ring.slot (q.head + .ofNat i))) ∧
      out.queue = { q with head := q.head + .ofNat n } ∧
      out.memory = { (w.before n).1 with head := q.head + .ofNat n } ∧
      out.state = (w.before n).2 ∧
      out.processed = n ∧
      out.ending = w.ending d n := by
  intro w d out
  obtain ⟨n, hn, heq⟩ := q.drain_eq hopen h m s
  obtain ⟨k, hk, heq'⟩ := q.drain_eq hopen h.recording m (s, #[])
  have hk' : w.IsLength d k := by
    rw [← w.noting_isLength (fun c _ _ kept => kept.push c) #[]]
    exact hk
  obtain rfl : n = k := hn.unique hk'
  have hout : out = _ := heq
  refine ⟨n, hn, ?_, ?_⟩
  · rw [heq']
    exact w.recording_before n
  · rw [hout]
    exact ⟨rfl, rfl, rfl, rfl, rfl⟩

-- A tail six ahead in a ring of four slots, over a handler that moves the shared head and writes over the
-- slots: it is called for all six and fails with the last.
theorem Queue.drain_releases_consumed_past_size :
    let ring : Mapping := ⟨⟨4096, 4160, 3, 4, 4224, 0, 0, -1, 4⟩, rfl⟩
    let q : Queue ring := ⟨4294967294, false⟩
    let m : Memory ring := { Memory.fresh ring 0 with tail := 4 }
    let h : Handler ring Nat Unit := fun c m calls =>
      (if calls = 5 then .fail () else .proceed, { m.write 7 c with head := 77, tail := 0 }, calls + 1)
    let out := q.drain h m 0
    q.closed = false ∧ out.processed = 6 ∧ out.queue.head = 4 ∧ out.memory.head = 4 ∧ out.memory.tail = 0 ∧
      out.ending = .failed () := by
  intro ring q m h out
  have hprocessed : out.processed = 6 := by decide +kernel
  obtain ⟨n, _, _, hqueue, hmemory, _, hn, hending⟩ := q.drain_releases_consumed rfl h m 0
  obtain rfl : n = 6 := hn.symm.trans hprocessed
  refine ⟨rfl, hprocessed, ?_, ?_, ?_, ?_⟩
  · exact (congrArg Queue.head hqueue).trans (by decide)
  · exact (congrArg Memory.head hmemory).trans (by decide)
  · exact (congrArg Memory.tail hmemory).trans (by decide +kernel)
  · exact hending.trans rfl

end CompletionRing
