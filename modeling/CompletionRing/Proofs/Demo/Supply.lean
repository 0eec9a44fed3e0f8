import CompletionRing.Proofs.Demo.Feed
import CompletionRing.Proofs.Drain.Batches
import CompletionRing.Simulated

namespace CompletionRing

variable {ring : Mapping}

-- The consuming side of a ring, whatever it does about the records, and the tail that it has loaded last.
structure Intake (ring : Mapping) where
  queue : Queue ring
  tail : UInt32

namespace Intake

-- A drain is a load, some records taken one after another, and a release, with the producer acting in between.
inductive Move where
  | load
  | take
  | release
  | close
deriving DecidableEq

def step (i : Intake ring) (m : Memory ring) : Move → Intake ring × Memory ring
  | .load => if i.queue.closed then (i, m) else ({ i with tail := m.tail }, m)
  | .take => if i.queue.head = i.tail then (i, m) else ({ i with queue := i.queue.advance }, m)
  | .release => (i, { m with head := i.queue.head })
  | .close => ({ i with queue := i.queue.close }, m)

end Intake

-- A producing loop at one end of a ring, and anything that takes records at the other.
structure Supply (ring : Mapping) where
  feed : Feed
  producer : Producer ring
  memory : Memory ring
  intake : Intake ring

namespace Supply

-- The consuming side goes on by single moves, or by a whole drain whose handler may decide as it likes.
inductive Turn (ring : Mapping) : Type 1
  | feed
  | intake (move : Intake.Move)
  | drain {σ ε : Type} (handler : Handler ring σ ε) (reads : handler.Reads) (state : σ)

def start (halves : Halves ring) (total batch : Nat) : Supply ring :=
  ⟨.start total batch, halves.producer, halves.memory, ⟨halves.queue, halves.queue.head⟩⟩

def step (s : Supply ring) : Turn ring → Supply ring
  | .feed =>
      let (feed, p, m) := s.feed.step s.intake.queue.closed s.producer s.memory
      ⟨feed, p, m, s.intake⟩
  | .intake move =>
      let (intake, m) := s.intake.step s.memory move
      ⟨s.feed, s.producer, m, intake⟩
  | .drain handler _ state =>
      let d := s.intake.queue.drain handler s.memory state
      ⟨s.feed, s.producer, d.memory, ⟨d.queue, d.queue.head⟩⟩

def run (s : Supply ring) (turns : List (Turn ring)) : Supply ring :=
  turns.foldl step s

-- What the loop does to its ring in a turn, with what comes of it.
def act? (s : Supply ring) : Turn ring → Option (Feeding × Outcome)
  | .feed => s.feed.action?.map fun f => (f, (f.perform s.producer s.memory).1)
  | .intake _ => none
  | .drain .. => none

-- The ring as an act leaves it, if there is one.
def leaves (s : Supply ring) : Option (Feeding × Outcome) → Producer ring × Memory ring
  | some (action, _) => (action.perform s.producer s.memory).2
  | none => (s.producer, s.memory)

def acts (s : Supply ring) : List (Turn ring) → List (Feeding × Outcome)
  | [] => []
  | turn :: turns => (s.act? turn).toList ++ (s.step turn).acts turns

def pushed? : Feeding × Outcome → Option Completion
  | (.push c, .done) => some c
  | _ => none

-- The records among some acts that were pushed.
def pushes (acts : List (Feeding × Outcome)) : List Completion :=
  acts.filterMap pushed?

def isPublication : Feeding × Outcome → Bool
  | (.publish, _) => true
  | _ => false

def publications (acts : List (Feeding × Outcome)) : Nat :=
  acts.countP isPublication

-- What a step of the loop can do.
inductive Fed : Supply ring → Option (Feeding × Outcome) → Supply ring → Prop where
  | begin {total batch next : Nat} {p : Producer ring} {m : Memory ring} {i : Intake ring} (hlt : next < total)
      (hopen : i.queue.closed = false) :
      Fed ⟨⟨total, batch, next, .check⟩, p, m, i⟩ none ⟨⟨total, batch, next, .fill 0⟩, p, m, i⟩
  | finish {total batch next : Nat} {p : Producer ring} {m : Memory ring} {i : Intake ring}
      (hend : ¬ next < total ∨ i.queue.closed = true) :
      Fed ⟨⟨total, batch, next, .check⟩, p, m, i⟩ none ⟨⟨total, batch, next, .finished⟩, p, m, i⟩
  | push {total batch next pushed : Nat} {p p' : Producer ring} {m m' : Memory ring} {i : Intake ring}
      (hlt : pushed < batch) (hnext : next < total) (htaken : p.push m (demoRecord next) = .ok (p', m')) :
      Fed ⟨⟨total, batch, next, .fill pushed⟩, p, m, i⟩ (some (.push (demoRecord next), .done))
        ⟨⟨total, batch, next + 1, .fill (pushed + 1)⟩, p', m', i⟩
  | refuse {total batch next pushed : Nat} {p : Producer ring} {m : Memory ring} {i : Intake ring} {overflow : Overflow}
      (hnext : next < total) (hrefused : p.push m (demoRecord next) = .error overflow) :
      Fed ⟨⟨total, batch, next, .fill pushed⟩, p, m, i⟩ (some (.push (demoRecord next), .refused overflow))
        ⟨⟨total, batch, next, .publish⟩, p, m, i⟩
  | stop {total batch next pushed : Nat} {p : Producer ring} {m : Memory ring} {i : Intake ring}
      (hend : ¬ (pushed < batch ∧ next < total)) :
      Fed ⟨⟨total, batch, next, .fill pushed⟩, p, m, i⟩ none ⟨⟨total, batch, next, .publish⟩, p, m, i⟩
  | publish {total batch next : Nat} {p : Producer ring} {m : Memory ring} {i : Intake ring} :
      Fed ⟨⟨total, batch, next, .publish⟩, p, m, i⟩ (some (.publish, .done))
        ⟨⟨total, batch, next, .check⟩, p, p.publish m, i⟩
  | rest {total batch next : Nat} {p : Producer ring} {m : Memory ring} {i : Intake ring} :
      Fed ⟨⟨total, batch, next, .finished⟩, p, m, i⟩ none ⟨⟨total, batch, next, .finished⟩, p, m, i⟩

theorem fed_step (s : Supply ring) : Fed s (s.act? .feed) (s.step .feed) := by
  obtain ⟨⟨total, batch, next, phase⟩, p, m, i⟩ := s
  cases phase with
  | publish => exact .publish
  | finished => exact .rest
  | check =>
      by_cases hgo : next < total ∧ i.queue.closed = false
      · simp only [step, Feed.step, hgo, decide_true, Bool.not_false, Bool.and_self, ↓reduceIte]
        exact .begin hgo.1 hgo.2
      · have hno : (next < total && !i.queue.closed) = false := by simpa using hgo
        simp only [step, Feed.step, hno]
        refine .finish ?_
        by_cases hlt : next < total
        · exact .inr (Bool.not_eq_false _ ▸ fun hopen => hgo ⟨hlt, hopen⟩)
        · exact .inl hlt
  | fill pushed =>
      by_cases hgo : pushed < batch ∧ next < total
      · simp only [step, Feed.step, act?, Feed.action?, hgo, decide_true, Bool.and_self, ↓reduceIte, Option.map_some,
          Feeding.perform]
        cases hpush : p.push m (demoRecord next) with
        | ok after => exact .push hgo.1 hgo.2 hpush
        | error overflow => exact .refuse hgo.2 hpush
      · have hno : (pushed < batch && next < total) = false := by simpa using hgo
        simp only [step, Feed.step, act?, Feed.action?, hno]
        exact .stop hgo

variable {s s' : Supply ring} {act : Option (Feeding × Outcome)}

-- The acts of a loop are all that it does to its ring.
theorem Fed.leaves_eq (h : Fed s act s') : (s'.producer, s'.memory) = s.leaves act := by
  cases h with
  | begin | finish | stop | publish | rest => rfl
  | push _ _ htaken => simp only [leaves, Feeding.perform, htaken]
  | refuse _ hrefused => simp only [leaves, Feeding.perform, hrefused]

theorem Fed.bounds_eq (h : Fed s act s') : s'.feed.total = s.feed.total ∧ s'.feed.batch = s.feed.batch := by
  cases h <;> exact ⟨rfl, rfl⟩

-- A record that is refused remains the next one.
theorem Fed.pushes_eq (h : Fed s act s') :
    (List.range s.feed.next).map demoRecord ++ pushes act.toList = (List.range s'.feed.next).map demoRecord := by
  cases h with
  | begin | finish | refuse | stop | publish | rest => exact List.append_nil _
  | @push _ _ next =>
      change (List.range next).map demoRecord ++ [demoRecord next] = (List.range (next + 1)).map demoRecord
      rw [List.range_succ, List.map_append, List.map_singleton]

theorem pushes_acts (s : Supply ring) (turns : List (Turn ring)) :
    (List.range s.feed.next).map demoRecord ++ pushes (s.acts turns) =
      (List.range (s.run turns).feed.next).map demoRecord := by
  induction turns generalizing s with
  | nil => exact List.append_nil _
  | cons turn turns ih =>
      have hrest := ih (s.step turn)
      have hone : (List.range s.feed.next).map demoRecord ++ pushes (s.act? turn).toList =
          (List.range (s.step turn).feed.next).map demoRecord := by
        cases turn with
        | intake | drain => exact List.append_nil _
        | feed => exact s.fed_step.pushes_eq
      have hsplit : pushes (s.acts (turn :: turns)) =
          pushes (s.act? turn).toList ++ pushes ((s.step turn).acts turns) := List.filterMap_append
      rw [hsplit, ← List.append_assoc, hone]
      exact hrest

theorem bounds_run (s : Supply ring) (turns : List (Turn ring)) :
    (s.run turns).feed.total = s.feed.total ∧ (s.run turns).feed.batch = s.feed.batch := by
  induction turns generalizing s with
  | nil => exact ⟨rfl, rfl⟩
  | cons turn turns ih =>
      obtain ⟨htotal, hbatch⟩ := ih (s.step turn)
      cases turn with
      | intake | drain => exact ⟨htotal, hbatch⟩
      | feed =>
          obtain ⟨htotal', hbatch'⟩ := s.fed_step.bounds_eq
          exact ⟨htotal.trans htotal', hbatch.trans hbatch'⟩

end Supply

namespace Feed

-- The most steps that a loop has before it which is never refused: three for a batch and one for each of its records,
-- which are at least one.
def left (f : Feed) : Nat :=
  match f.phase with
  | .check => 4 * (f.total - f.next) + 2
  | .fill 0 => 4 * (f.total - f.next) + 1
  | .fill (_ + 1) => 4 * (f.total - f.next) + 4
  | .publish => 4 * (f.total - f.next) + 3
  | .finished => 0

theorem phase_of_left_eq_zero {f : Feed} (h : f.left = 0) : f.phase = .finished := by
  unfold left at h
  cases hphase : f.phase with
  | finished => rfl
  | check | publish =>
      rw [hphase] at h
      exact absurd h (Nat.succ_ne_zero _)
  | fill pushed =>
      rw [hphase] at h
      cases pushed <;> exact absurd h (Nat.succ_ne_zero _)

end Feed

-- What the records that are pushed and not shown come to at each point of a loop.
def Feed.Owes (f : Feed) (owed : Nat) (closed : Bool) : Prop :=
  match f.phase with
  | .check => owed = 0
  | .fill pushed => owed = pushed ∧ pushed ≤ f.batch
  | .publish => owed ≤ f.batch
  | .finished => owed = 0 ∧ (f.next = f.total ∨ closed = true)

theorem Feed.Owes.le_batch {f : Feed} {owed : Nat} {closed : Bool} (h : f.Owes owed closed) : owed ≤ f.batch := by
  unfold Owes at h
  split at h <;> omega

theorem Feed.Owes.close {f : Feed} {owed : Nat} {closed : Bool} (h : f.Owes owed closed) : f.Owes owed true := by
  unfold Owes at *
  split at h
  · exact h
  · exact h
  · exact h
  · exact ⟨h.1, .inr rfl⟩

namespace Intake

variable {l : Ledger} {start : UInt32} {released : Nat} {m : Memory ring} {p : Producer ring} {i : Intake ring}

-- What is taken is some of what was shown when the tail was loaded.
def Within (i : Intake ring) (l : Ledger) (start : UInt32) (released : Nat) : Prop :=
  ∃ taken limit, released ≤ taken ∧ taken ≤ limit ∧ limit ≤ l.shown ∧
    i.queue.head = start + .ofNat taken ∧ i.tail = start + .ofNat limit

theorem Within.grows (h : i.Within l start released) {later : Ledger} (hle : l.shown ≤ later.shown) :
    i.Within later start released := by
  obtain ⟨taken, limit, hreleased, htaken, hlimit, hhead, htail⟩ := h
  exact ⟨taken, limit, hreleased, htaken, hlimit.trans hle, hhead, htail⟩

theorem Within.step (h : i.Within l start released) (hring : l.Describes start released m p) (move : Move) :
    ∃ released', released ≤ released' ∧ (i.step m move).1.Within l start released' ∧
      l.Describes start released' (i.step m move).2 p := by
  obtain ⟨taken, limit, hreleased, htaken, hlimit, hhead, htail⟩ := h
  have hkeep : i.Within l start released := ⟨taken, limit, hreleased, htaken, hlimit, hhead, htail⟩
  cases move with
  | load =>
      refine ⟨released, Nat.le_refl _, ?_⟩
      cases hclosed : i.queue.closed with
      | true =>
          simp only [Intake.step, hclosed, ↓reduceIte]
          exact ⟨hkeep, hring⟩
      | false =>
          simp only [Intake.step, hclosed, Bool.false_eq_true, ↓reduceIte]
          exact ⟨⟨taken, l.shown, hreleased, htaken.trans hlimit, Nat.le_refl _, hhead, hring.tail_eq⟩, hring⟩
  | take =>
      refine ⟨released, Nat.le_refl _, ?_⟩
      by_cases hend : i.queue.head = i.tail
      · simp only [Intake.step, hend, ↓reduceIte]
        exact ⟨hkeep, hring⟩
      · have hlt : taken < limit := by
          refine lt_of_le_of_ne htaken fun heq => hend ?_
          rw [hhead, htail, heq]
        simp only [Intake.step, hend, ↓reduceIte]
        refine ⟨⟨taken + 1, limit, by omega, hlt, hlimit, ?_, htail⟩, hring⟩
        simp only [Queue.advance, hhead, cursor_succ]
  | release =>
      refine ⟨taken, hreleased, ⟨taken, limit, Nat.le_refl _, htaken, hlimit, hhead, htail⟩, ?_⟩
      simp only [Intake.step, hhead]
      exact hring.release hreleased (htaken.trans hlimit)
  | close => exact ⟨released, Nat.le_refl _, hkeep, hring⟩

theorem Within.drain {σ ε : Type} (h : i.Within l start released) (hring : l.Describes start released m p)
    (handler : Handler ring σ ε) (hreads : handler.Reads) (state : σ) :
    let d := i.queue.drain handler m state
    d.queue.closed = i.queue.closed ∧ d.memory.tail = m.tail ∧
      ∃ released', (⟨d.queue, d.queue.head⟩ : Intake ring).Within l start released' ∧
        l.Describes start released' d.memory p := by
  obtain ⟨taken, limit, hreleased, htaken, hlimit, hhead, _⟩ := h
  cases hclosed : i.queue.closed with
  | true =>
      rw [i.queue.drain_of_closed hclosed handler m state]
      exact ⟨hclosed, rfl, released, ⟨taken, taken, hreleased, Nat.le_refl _, htaken.trans hlimit, hhead, hhead⟩, hring⟩
  | false =>
      obtain ⟨n, hn, heq⟩ := i.queue.drain_eq hclosed handler m state
      have hmemory := Walk.before_of_reads ⟨handler, i.queue.head, m, state⟩ hreads n
      have hle := hn.le
      rw [hhead, hring.toNat_tail_sub hreleased (htaken.trans hlimit)] at hle
      have hcursor : i.queue.head + .ofNat n = start + .ofNat (taken + n) := by rw [hhead, cursor_add]
      simp only [heq, hmemory, hcursor, true_and]
      refine ⟨hclosed, taken + n, ⟨taken + n, taken + n, Nat.le_refl _, Nat.le_refl _, by omega, rfl, rfl⟩, ?_⟩
      exact hring.release (by omega) (by omega)

end Intake

namespace Supply

variable {s : Supply ring} {l : Ledger} {start : UInt32} {base released : Nat}

-- A loop that began when a number of records were in the ledger, all of them shown.
structure Sound (s : Supply ring) (l : Ledger) (start : UInt32) (base released : Nat) : Prop where
  describes : l.Describes start released s.memory s.producer
  within : s.intake.Within l start released
  length_eq : l.pushed.length = base + s.feed.next
  next_le : s.feed.next ≤ s.feed.total
  owes : s.feed.Owes (l.pushed.length - l.shown) s.intake.queue.closed

-- The ledger after an act of the loop.
def note (l : Ledger) : Option (Feeding × Outcome) → Ledger
  | some (action, outcome) => l.enter action outcome
  | none => l

theorem enter_eq_note (s : Supply ring) (l : Ledger) : s.feed.enter s.producer s.memory l = note l (s.act? .feed) := by
  unfold Feed.enter act?
  cases s.feed.action? <;> rfl

theorem Sound.fed {s' : Supply ring} {act : Option (Feeding × Outcome)} (h : s.Sound l start base released)
    (hfed : Fed s act s') : s'.Sound (note l act) start base released := by
  obtain ⟨hring, hwithin, hlength, hnext, howes⟩ := h
  have hshown := hring.shown_le
  cases hfed with
  | begin => exact ⟨hring, hwithin, hlength, hnext, howes, Nat.zero_le _⟩
  | @finish total _ next _ _ _ hend =>
      refine ⟨hring, hwithin, hlength, hnext, howes, hend.imp_left fun hge => ?_⟩
      exact Nat.le_antisymm hnext (Nat.le_of_not_lt hge)
  | @push total batch next pushed p _ m _ _ hlt hsome htaken =>
      obtain ⟨howed, _⟩ := howes
      have hroom : l.pushed.length < released + ring.size := by
        by_contra hfull
        rw [hring.push_of_full _ hfull] at htaken
        cases htaken
      rw [hring.push_of_room _ hroom] at htaken
      cases htaken
      have hpushed : (l.push [demoRecord next]).pushed.length = l.pushed.length + 1 := List.length_append
      refine ⟨hring.write _ hroom, hwithin.grows (Nat.le_refl _), ?_, hsome, ?_, hlt⟩
      · exact hpushed.trans (congrArg (· + 1) hlength)
      · change (l.push [demoRecord next]).pushed.length - l.shown = pushed + 1
        rw [hpushed, ← howed]
        exact Nat.succ_sub hshown
  | refuse | stop => exact ⟨hring, hwithin, hlength, hnext, howes.1.trans_le howes.2⟩
  | publish => exact ⟨hring.publish, hwithin.grows hshown, hlength, hnext, Nat.sub_self _⟩
  | rest => exact ⟨hring, hwithin, hlength, hnext, howes⟩

theorem Sound.step (h : s.Sound l start base released) (turn : Turn ring) :
    ∃ l' released', (s.step turn).Sound l' start base released' := by
  cases turn with
  | feed => exact ⟨_, released, h.fed s.fed_step⟩
  | drain handler hreads state =>
      obtain ⟨hclosed, _, released', hwithin, hring⟩ := h.within.drain h.describes handler hreads state
      refine ⟨l, released', hring, hwithin, h.length_eq, h.next_le, ?_⟩
      change s.feed.Owes _ (s.intake.queue.drain handler s.memory state).queue.closed
      rw [hclosed]
      exact h.owes
  | intake move =>
      obtain ⟨released', _, hwithin, hring⟩ := h.within.step h.describes move
      refine ⟨l, released', hring, hwithin, h.length_eq, h.next_le, ?_⟩
      cases move with
      | close => exact h.owes.close
      | release => exact h.owes
      | load | take =>
          simp only [Supply.step, Intake.step]
          split <;> exact h.owes

theorem Sound.run (h : s.Sound l start base released) (turns : List (Turn ring)) :
    ∃ l' released', (s.run turns).Sound l' start base released' := by
  induction turns generalizing s l released with
  | nil => exact ⟨l, released, h⟩
  | cons turn turns ih =>
      obtain ⟨_, _, hstep⟩ := h.step turn
      exact ih hstep

-- Only a publication moves the shared tail, and what it shows is owed.
theorem Sound.toNat_shown_le (h : s.Sound l start base released) (turn : Turn ring) :
    ((s.step turn).memory.tail - s.memory.tail).toNat ≤ s.feed.batch := by
  have howed := h.owes.le_batch
  have hunpublished := h.describes.toNat_unpublished
  have hsame : (s.memory.tail - s.memory.tail).toNat ≤ s.feed.batch := by simp
  cases turn with
  | drain handler hreads state =>
      obtain ⟨_, htail, _⟩ := h.within.drain h.describes handler hreads state
      change ((s.intake.queue.drain handler s.memory state).memory.tail - s.memory.tail).toNat ≤ s.feed.batch
      rw [htail]
      exact hsame
  | intake move =>
      cases move with
      | release | close => exact hsame
      | load | take =>
          simp only [Supply.step, Intake.step]
          split <;> exact hsame
  | feed =>
      have hfed := s.fed_step
      generalize s.step .feed = s', s.act? .feed = act at hfed
      cases hfed with
      | begin | finish | refuse | stop | rest => exact hsame
      | publish => exact hunpublished.trans_le howed
      | push _ _ htaken =>
          unfold Producer.push at htaken
          split at htaken <;> cases htaken
          exact hsame

end Supply

end CompletionRing
