import CompletionRing.Demo.Feed
import CompletionRing.Proofs.Ledger

namespace CompletionRing

theorem isError_demoRecord (n : Nat) : (demoRecord n).isError = true ↔ n % 7 = 6 := by
  unfold demoRecord Completion.isError
  by_cases h : n % 7 = 6 <;> simp [h]

namespace Feed

variable {ring : Mapping} {f : Feed} {l : Ledger} {start : UInt32} {released : Nat} {m : Memory ring}
  {p : Producer ring}

-- What the next step of a loop does to its ring, if anything.
def action? (f : Feed) : Option Feeding :=
  match f.phase with
  | .check => none
  | .fill pushed =>
      if pushed < f.batch && f.next < f.total then some (.push (demoRecord f.next)) else none
  | .publish => some .publish
  | .finished => none

def enter (f : Feed) (p : Producer ring) (m : Memory ring) (l : Ledger) : Ledger :=
  match f.action? with
  | some action => l.enter action (action.perform p m).1
  | none => l

theorem grows_enter (f : Feed) (p : Producer ring) (m : Memory ring) (hshown : l.shown ≤ l.pushed.length) :
    l.Grows (f.enter p m l) := by
  unfold enter
  cases f.action? with
  | none => exact Ledger.Grows.refl l
  | some action => exact l.grows_enter hshown action _

-- The ledger holds the records of the loop up to its next one, each once and in order.
structure Entered (f : Feed) (l : Ledger) : Prop where
  pushed_eq : l.pushed = (List.range f.next).map demoRecord
  next_le : f.next ≤ f.total

theorem entered_start (total batch : Nat) : (Feed.start total batch).Entered .blank where
  pushed_eq := rfl
  next_le := Nat.zero_le _

theorem Entered.length_pushed (h : f.Entered l) : l.pushed.length = f.next := by
  rw [h.pushed_eq, List.length_map, List.length_range]

theorem Entered.getElem_eq (h : f.Entered l) {i : Nat} (hi : i < l.pushed.length) :
    l.pushed[i] = demoRecord i := by
  simp [h.pushed_eq]

theorem Entered.published_eq (h : f.Entered l) (hshown : l.shown ≤ l.pushed.length) :
    l.published = (List.range l.shown).map demoRecord := by
  have hnext := h.length_pushed
  rw [Ledger.published, h.pushed_eq, ← List.map_take, List.take_range, Nat.min_eq_left (by omega)]

theorem total_step (f : Feed) (closed : Bool) (p : Producer ring) (m : Memory ring) :
    (f.step closed p m).1.total = f.total := by
  unfold Feed.step
  repeat' split
  all_goals rfl

-- A step keeps to the records of the loop. A record that is refused stays the next one.
theorem Entered.step (h : f.Entered l) (hring : l.Describes start released m p) (closed : Bool) :
    let after := f.step closed p m
    after.1.Entered (f.enter p m l) ∧ (f.enter p m l).Describes start released after.2.2 after.2.1 := by
  obtain ⟨total, batch, next, phase⟩ := f
  have hpushed : l.pushed = (List.range next).map demoRecord := h.pushed_eq
  cases phase with
  | check =>
      by_cases hgo : (next < total && !closed) = true
      · simp only [Feed.step, hgo, ↓reduceIte]
        exact ⟨⟨hpushed, h.next_le⟩, hring⟩
      · simp only [Feed.step, hgo]
        exact ⟨⟨hpushed, h.next_le⟩, hring⟩
  | fill pushed =>
      by_cases hgo : (pushed < batch && next < total) = true
      · have hperform := hring.perform (.push (demoRecord next))
        simp only [Feed.step, enter, action?, hgo, ↓reduceIte]
        by_cases hroom : l.pushed.length < released + ring.size
        · simp only [Feeding.perform, hring.push_of_room _ hroom] at hperform ⊢
          refine ⟨⟨?_, ?_⟩, hperform⟩
          · simp only [Ledger.enter, Ledger.push]
            rw [hpushed, List.range_succ, List.map_append, List.map_singleton]
          · simp only [Bool.and_eq_true, decide_eq_true_eq] at hgo
            exact hgo.2
        · simp only [Feeding.perform, hring.push_of_full _ hroom] at hperform ⊢
          exact ⟨⟨hpushed, h.next_le⟩, hperform⟩
      · simp only [Feed.step, enter, action?, hgo]
        exact ⟨⟨hpushed, h.next_le⟩, hring⟩
  | publish => exact ⟨⟨h.pushed_eq, h.next_le⟩, hring.publish⟩
  | finished => exact ⟨h, hring⟩

end Feed

end CompletionRing
