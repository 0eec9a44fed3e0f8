import CompletionRing.Proofs.Drain.Lockstep
import CompletionRing.Proofs.Session.Accounting

namespace CompletionRing

variable {ring : Mapping} {τ ε : Type}

-- A series of actions of a producer, whatever comes of each.
def Feeding.performAll (feedings : List Feeding) (p : Producer ring) (m : Memory ring) :
    Producer ring × Memory ring :=
  feedings.foldl (fun now f => (f.perform now.1 now.2).2) (p, m)

-- A handler that changes the ring as its producer and in no other way. When it acts, what it pushes and what
-- it decides may depend on all it can see.
def Handler.Feeds (h : Handler ring (Producer ring × τ) ε) : Prop :=
  ∀ c m p t, ∃ feedings : List Feeding,
    ((h c m (p, t)).2.2.1, (h c m (p, t)).2.1) = Feeding.performAll feedings p m

theorem Course.exists_performAll (course : Course Feeding) (p : Producer ring) (m : Memory ring)
    (trace : Trace) : ∃ feedings : List Feeding,
      ((course.run m p trace).2.2.1, (course.run m p trace).2.1) = Feeding.performAll feedings p m := by
  induction course generalizing p m trace with
  | answer verdict => exact ⟨[], rfl⟩
  | look next ih => exact ih _ p m _
  | act f next ih =>
      obtain ⟨feedings, hrest⟩ := ih (f.perform p m).1 (f.perform p m).2.1 (f.perform p m).2.2
        { trace with acted := trace.acted.push (f.perform p m).1 }
      exact ⟨f :: feedings, hrest⟩

theorem Conduct.handler_feeds (conduct : Conduct Feeding) :
    (Conduct.handler conduct : Handler ring (Producer ring × Trace) String).Feeds :=
  fun c m p trace => (conduct trace c).exists_performAll p m _

namespace Moment

variable {l : Ledger} {start : UInt32} {released : Nat}

theorem Since.performAll {now : Moment ring} (h : now.Since l start released) (feedings : List Feeding) :
    ∃ later : Moment ring, later.Since l start released ∧
      (later.producer, later.memory) = Feeding.performAll feedings now.producer now.memory := by
  induction feedings generalizing now with
  | nil => exact ⟨now, h, rfl⟩
  | cons f feedings ih => exact ih (h.act f)

-- What was shown before stays where it is and as it is, for as long as nothing is released.
theorem Since.window_eq {now : Moment ring} (h : now.Since l start released)
    (hshown : l.shown ≤ l.pushed.length) :
    now.memory.window (start + .ofNat released) (l.shown - released) = l.published.drop released := by
  have hreleased := h.describes.released_le.trans h.describes.shown_le
  have hlength := h.grows.pushed.length_le
  rw [h.describes.window_eq (Nat.le_refl _) (by omega), ← List.drop_take, h.grows.take_eq hshown]
  rfl

theorem Since.read_eq {now : Moment ring} (h : now.Since l start released)
    (hshown : l.shown ≤ l.pushed.length) {i : Nat} (hi : i < (l.published.drop released).length) :
    now.memory.read (start + .ofNat released + .ofNat i) = (l.published.drop released)[i] := by
  have hwindow := h.window_eq hshown
  simp only [← hwindow, Memory.window, List.getElem_map, List.getElem_range]

end Moment

theorem Completion.text_eq (c : Completion) :
    c.text = "(res=" ++ toString c.result.toInt ++ ", flags=" ++ toString c.flags.toNat ++ ", udata=" ++
      toString c.userData.toNat ++ ")" := by
  simp only [text, Decimal.text_eq_toString]
  rfl

theorem Queue.text_of_open (q : Queue ring) (m : Memory ring) (hopen : q.closed = false) :
    q.text m = "CompletionQueue [" ++ ", ".intercalate ((q.snapshot m).map Completion.text) ++ "]" := by
  have hinside : (if q.closed then "closed" else ", ".intercalate ((q.snapshot m).map Completion.text)) =
      ", ".intercalate ((q.snapshot m).map Completion.text) := by
    rw [hopen]
    exact if_neg Bool.false_ne_true
  exact congrArg (fun inside => "CompletionQueue [" ++ inside ++ "]") hinside

namespace Session

variable {s : Session ring} {l : Ledger} {start : UInt32} {released : Nat}

theorem Settled.since (h : s.Settled l start released) :
    (⟨l, s.halves.producer, s.halves.memory⟩ : Moment ring).Since l start released :=
  ⟨.refl l, h.describes⟩

theorem Settled.length_published_drop (h : s.Settled l start released) :
    (l.published.drop released).length = l.shown - released := by
  rw [List.length_drop, Ledger.published, List.length_take, Nat.min_eq_left h.describes.shown_le]

-- A snapshot shows the published records that have not been released.
theorem Settled.snapshot_eq (h : s.Settled l start released) (hopen : s.halves.queue.closed = false) :
    s.halves.queue.snapshot s.halves.memory = l.published.drop released := by
  have hcount := h.toNat_count hopen
  have hfits := h.describes.fits
  have hshown := h.describes.shown_le
  have hle : s.halves.queue.count s.halves.memory ≤ ring.entries := by
    rw [UInt32.le_iff_toNat_le, hcount]
    unfold Mapping.size at hfits
    omega
  have hmin : min (s.halves.queue.count s.halves.memory) ring.entries =
      s.halves.queue.count s.halves.memory := if_pos hle
  rw [Queue.snapshot, hopen, hmin, hcount, h.head_eq]
  exact h.since.window_eq hshown

-- Before each call of a drain the records that its snapshot showed still lie in the ring.
theorem Settled.before_since (h : s.Settled l start released) (handler : Handler ring (Producer ring × τ) ε)
    (hfeeds : handler.Feeds) (t : τ) (i : Nat) :
    let w : Walk ring (Producer ring × τ) ε :=
      ⟨handler, s.halves.queue.head, s.halves.memory, (s.halves.producer, t)⟩
    ∃ now : Moment ring, now.Since l start released ∧
      now.memory = (w.before i).1 ∧ now.producer = (w.before i).2.1 := by
  intro w
  induction i with
  | zero => exact ⟨_, h.since, rfl, rfl⟩
  | succ i ih =>
      obtain ⟨now, hnow, hm, hp⟩ := ih
      obtain ⟨feedings, hacted⟩ := hfeeds (w.record i) (w.before i).1 (w.before i).2.1 (w.before i).2.2
      obtain ⟨later, hlater, hperformed⟩ := hnow.performAll feedings
      rw [hm, hp, ← hacted] at hperformed
      exact ⟨later, hlater, congrArg Prod.snd hperformed, congrArg Prod.fst hperformed⟩

-- What a drain hands out are the first records of the snapshot taken when it began.
theorem Settled.seen_eq_take (h : s.Settled l start released) (hopen : s.halves.queue.closed = false)
    (handler : Handler ring (Producer ring × τ) ε) (hfeeds : handler.Feeds) (t : τ) :
    let q := s.halves.queue
    let m := s.halves.memory
    let n := (q.drain handler m (s.halves.producer, t)).processed
    n ≤ (q.snapshot m).length ∧
      (q.drain handler.recording m ((s.halves.producer, t), #[])).state.2.toList =
        (q.snapshot m).take n := by
  intro q m n
  let w : Walk ring (Producer ring × τ) ε := ⟨handler, q.head, m, (s.halves.producer, t)⟩
  have hsnapshot : q.snapshot m = l.published.drop released := h.snapshot_eq hopen
  have hlimit : (m.tail - q.head).toNat = (q.snapshot m).length := by
    rw [hsnapshot, h.length_published_drop, h.toNat_pending]
  have hle : n ≤ (q.snapshot m).length := by
    obtain ⟨k, hk, heq⟩ := q.drain_eq hopen handler m (s.halves.producer, t)
    have hprocessed : n = k := congrArg Drained.processed heq
    rw [hprocessed, ← hlimit]
    exact hk.le
  refine ⟨hle, ?_⟩
  have hrecorded := q.drain_recording hopen handler m (s.halves.producer, t)
  rw [hrecorded]
  apply List.ext_getElem
  · rw [List.length_map, List.length_range, List.length_take, Nat.min_eq_left hle]
  · intro i hi _
    simp only [List.length_map, List.length_range] at hi
    obtain ⟨now, hnow, hm, _⟩ := h.before_since handler hfeeds t i
    have hlt : i < (l.published.drop released).length := by
      rw [← hsnapshot]
      exact hi.trans_le hle
    have hread := hnow.read_eq h.describes.shown_le hlt
    rw [hm, ← h.head_eq] at hread
    simp only [List.getElem_map, List.getElem_range, List.getElem_take, hsnapshot]
    exact hread

-- A drain whose handler goes on in the same places hands out as many records, whatever it pushes.
theorem processed_eq_of_agree {τ' ε' : Type} (q : Queue ring) (hopen : q.closed = false) (m : Memory ring)
    (p : Producer ring) (h₁ : Handler ring (Producer ring × τ) ε) (h₂ : Handler ring (Producer ring × τ') ε')
    (t₁ : τ) (t₂ : τ') :
    let d₁ := q.drain h₁ m (p, t₁)
    let d₂ := q.drain h₂ m (p, t₂)
    (∀ i, i < d₁.processed → i < d₂.processed →
      ((⟨h₁, q.head, m, (p, t₁)⟩ : Walk ring (Producer ring × τ) ε).verdict i).proceeds =
        ((⟨h₂, q.head, m, (p, t₂)⟩ : Walk ring (Producer ring × τ') ε').verdict i).proceeds) →
    d₁.processed = d₂.processed ∧ d₁.queue = d₂.queue ∧ d₁.memory.head = d₂.memory.head := by
  intro d₁ d₂ hagree
  obtain ⟨n₁, hn₁, heq₁⟩ := q.drain_eq hopen h₁ m (p, t₁)
  obtain ⟨n₂, hn₂, heq₂⟩ := q.drain_eq hopen h₂ m (p, t₂)
  have hd₁ : d₁ = _ := heq₁
  have hd₂ : d₂ = _ := heq₂
  rw [hd₁, hd₂] at hagree ⊢
  obtain rfl : n₁ = n₂ := hn₁.eq_of_agree hn₂ hagree
  exact ⟨rfl, rfl, rfl⟩

theorem Settled.reap_eq_take (h : s.Settled l start released) (hopen : s.halves.queue.closed = false)
    (max : Nat) :
    let q := s.halves.queue
    let m := s.halves.memory
    let r := q.reap max m
    r.state.toList = (q.snapshot m).take max ∧ r.queue.snapshot r.memory = (q.snapshot m).drop max := by
  intro q m r
  have hsnapshot : q.snapshot m = l.published.drop released := h.snapshot_eq hopen
  have hlength := h.length_published_drop
  obtain ⟨_, hqueue, hdescribes, hkept⟩ := h.reap max
  rw [hopen, if_neg Bool.false_ne_true] at hqueue hdescribes hkept
  have htake : l.published.drop released = (l.pushed.drop released).take (l.shown - released) :=
    List.drop_take
  constructor
  · rw [hsnapshot, htake, List.take_take]
    exact hkept
  · let after : Session ring := ⟨⟨r.memory, s.halves.producer, r.queue⟩, s.monitors⟩
    have hafter : after.Settled l start (released + min max (l.shown - released)) :=
      ⟨hdescribes, congrArg Queue.head hqueue⟩
    have hopen' : r.queue.closed = false := (congrArg Queue.closed hqueue).trans hopen
    have hrest : r.queue.snapshot r.memory = _ := hafter.snapshot_eq hopen'
    rw [hrest, hsnapshot, ← List.drop_drop, ← hlength]
    rcases Nat.le_total max (l.published.drop released).length with hle | hle
    · rw [Nat.min_eq_left hle]
    · rw [Nat.min_eq_right hle, List.drop_length, List.drop_eq_nil_of_le hle]

end Session

-- While a drain runs its records are safe from the producer, for their slots are not free before the head is
-- published. So a snapshot tells what a drain or a reaping will hand out, and what a handler pushes meanwhile
-- changes nothing about it.
theorem drain_hands_out_snapshot {entries start : UInt32} {base : UInt64} {s₀ : Session ring}
    {events : List Event} (h : Simulated.session entries start base = .ok ⟨ring, s₀, events⟩)
    (steps : List (Step Feeding)) :
    let s := s₀.after steps
    let q := s.halves.queue
    let m := s.halves.memory
    let p := s.halves.producer
    let shown := q.snapshot m
    q.closed = false →
    shown.length = (q.count m).toNat ∧
    (∀ {τ ε : Type} (handler : Handler ring (Producer ring × τ) ε) (t : τ), handler.Feeds →
      let w : Walk ring (Producer ring × τ) ε := ⟨handler, q.head, m, (p, t)⟩
      let n := (q.drain handler m (p, t)).processed
      n ≤ shown.length ∧
      (q.drain handler.recording m ((p, t), #[])).state.2.toList = shown.take n ∧
      ∀ i ≤ n, ∀ feedings : List Feeding,
        (Feeding.performAll feedings (w.before i).2.1 (w.before i).1).2.window q.head shown.length = shown) ∧
    (∀ {τ τ' ε ε' : Type} (handler : Handler ring (Producer ring × τ) ε)
      (handler' : Handler ring (Producer ring × τ') ε') (t : τ) (t' : τ'), handler.Feeds → handler'.Feeds →
      let w : Walk ring (Producer ring × τ) ε := ⟨handler, q.head, m, (p, t)⟩
      let w' : Walk ring (Producer ring × τ') ε' := ⟨handler', q.head, m, (p, t')⟩
      let d := q.drain handler m (p, t)
      let d' := q.drain handler' m (p, t')
      (∀ i, i < d.processed → i < d'.processed → (w.verdict i).proceeds = (w'.verdict i).proceeds) →
      (q.drain handler.recording m ((p, t), #[])).state.2 =
          (q.drain handler'.recording m ((p, t'), #[])).state.2 ∧
        d.queue = d'.queue ∧ d.memory.head = d'.memory.head) ∧
    (∀ max, let r := q.reap max m
      r.state.toList = shown.take max ∧ r.queue.snapshot r.memory = shown.drop max) ∧
    q.text m = "CompletionQueue [" ++ ", ".intercalate (shown.map fun c =>
      "(res=" ++ toString c.result.toInt ++ ", flags=" ++ toString c.flags.toNat ++ ", udata=" ++
        toString c.userData.toNat ++ ")") ++ "]" := by
  intro s q m p shown hopen
  have hbegin := Simulated.settled_of_session h
  obtain ⟨released, hs, _⟩ := hbegin.run steps
  let l := s₀.ledger .blank steps
  have hs : s.Settled l start released := hs
  have hsnapshot : shown = l.published.drop released := hs.snapshot_eq hopen
  have hlength : shown.length = l.shown - released := by
    rw [hsnapshot]
    exact hs.length_published_drop
  refine ⟨hlength.trans (hs.toNat_count hopen).symm, ?_, ?_, hs.reap_eq_take hopen, ?_⟩
  · intro τ ε handler t hfeeds w n
    obtain ⟨hle, hseen⟩ := hs.seen_eq_take hopen handler hfeeds t
    refine ⟨hle, hseen, ?_⟩
    intro i _ feedings
    obtain ⟨now, hnow, hm, hp⟩ := hs.before_since handler hfeeds t i
    obtain ⟨later, hlater, hperformed⟩ := hnow.performAll feedings
    rw [hm, hp] at hperformed
    have hlast : (Feeding.performAll feedings (w.before i).2.1 (w.before i).1).2 = later.memory :=
      (congrArg Prod.snd hperformed).symm
    have hwindow := hlater.window_eq hs.describes.shown_le
    rw [← hs.head_eq, ← hlength, ← hsnapshot] at hwindow
    rw [hlast]
    exact hwindow
  · intro τ τ' ε ε' handler handler' t t' hfeeds hfeeds' w w' d d' hagree
    obtain ⟨_, hseen⟩ := hs.seen_eq_take hopen handler hfeeds t
    obtain ⟨_, hseen'⟩ := hs.seen_eq_take hopen handler' hfeeds' t'
    obtain ⟨hn, hqueue, hhead⟩ :=
      Session.processed_eq_of_agree q hopen m p handler handler' t t' hagree
    refine ⟨?_, hqueue, hhead⟩
    rw [← Array.toList_inj, hseen, hseen', hn]
  · simp only [← Completion.text_eq]
    exact q.text_of_open m hopen

-- A full ring of two slots whose cursors wrap, one record of it a failed operation. The handler finds no room while
-- it holds the records, shows nothing new, and stops at the second.
theorem drain_hands_out_snapshot_of_full_ring :
    let ring : Mapping := ⟨(⟨2, 4294967295⟩ : Simulated).layout 4096, rfl⟩
    let s₀ := (Session.begin (Memory.fresh ring 4294967295)).1
    let steps : List (Step Feeding) := [.act (.post ⟨1, 5, 0⟩), .act (.post ⟨2, -11, 3⟩)]
    let s := s₀.after steps
    let q := s.halves.queue
    let conduct : Conduct Feeding := fun trace _ => .act (.post ⟨3, 7, 0⟩) fun _ =>
      .answer (if trace.seen.size < 1 then .proceed else .stop)
    let handler : Handler ring (Producer ring × Trace) String := Conduct.handler conduct
    Simulated.session 2 4294967295 4096 =
        .ok ⟨ring, s₀, (Session.begin (Memory.fresh ring 4294967295)).2⟩ ∧
      q.closed = false ∧ handler.Feeds ∧
      q.snapshot s.halves.memory = [⟨1, 5, 0⟩, ⟨2, -11, 3⟩] ∧
      (q.drain handler.recording s.halves.memory ((s.halves.producer, Trace.empty), #[])).state.2.toList =
        [⟨1, 5, 0⟩, ⟨2, -11, 3⟩] ∧
      (q.reap 1 s.halves.memory).state.toList = [⟨1, 5, 0⟩] ∧
      q.text s.halves.memory =
        "CompletionQueue [(res=5, flags=0, udata=1), (res=-11, flags=3, udata=2)]" := by
  intro ring s₀ steps s q conduct handler
  have hsession : Simulated.session 2 4294967295 4096 =
      .ok ⟨ring, s₀, (Session.begin (Memory.fresh ring 4294967295)).2⟩ := rfl
  have hopen : (s₀.after steps).halves.queue.closed = false := by decide +kernel
  have hsnapshot : q.snapshot s.halves.memory = [⟨1, 5, 0⟩, ⟨2, -11, 3⟩] := by decide +kernel
  have hprocessed : (q.drain handler s.halves.memory (s.halves.producer, Trace.empty)).processed = 2 := by
    decide +kernel
  obtain ⟨_, hdrain, _, hreap, htext⟩ := drain_hands_out_snapshot hsession steps hopen
  obtain ⟨_, hseen, _⟩ := hdrain handler Trace.empty conduct.handler_feeds
  refine ⟨hsession, by decide +kernel, conduct.handler_feeds, hsnapshot, ?_, ?_, ?_⟩
  · rw [hseen, hprocessed, hsnapshot]
    rfl
  · rw [(hreap 1).1, hsnapshot]
    rfl
  · rw [htext, hsnapshot]
    decide +kernel

end CompletionRing
