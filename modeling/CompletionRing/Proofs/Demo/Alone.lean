import CompletionRing.Proofs.Demo.Supply

namespace CompletionRing

variable {ring : Mapping}

theorem Producer.available_eq_zero_iff (p : Producer ring) (m : Memory ring) :
    p.available m = 0 ↔ ring.entries ≤ p.pending m := by
  unfold available
  by_cases hle : p.pending m ≤ ring.entries
  · rw [if_pos hle, ← UInt32.toNat_inj, UInt32.toNat_sub_of_le _ _ hle, UInt32.le_iff_toNat_le]
    rw [UInt32.le_iff_toNat_le] at hle
    simp only [UInt32.toNat_zero]
    omega
  · rw [if_neg hle]
    exact iff_of_true rfl (UInt32.le_of_lt (UInt32.not_le.mp hle))

namespace Feed

-- The most steps to the next end of a loop that can push nothing.
def toEnd (f : Feed) : Nat :=
  match f.phase with
  | .fill _ => 3
  | .publish => 2
  | .check => 1
  | .finished => 0

end Feed

namespace Supply

-- Whether one more record is left that a batch could take and the ring has a slot for.
def HasRoom (s : Supply ring) : Prop :=
  0 < s.feed.batch ∧ s.feed.next < s.feed.total ∧ s.producer.available s.memory ≠ 0

instance (s : Supply ring) : Decidable s.HasRoom :=
  inferInstanceAs (Decidable (_ ∧ _ ∧ _))

-- The most steps of a loop to its end, with nobody else at its ring, or to where it waits for a slot.
def leftAlone (s : Supply ring) : Nat :=
  if s.HasRoom then s.feed.left else s.feed.toEnd

variable {s s' : Supply ring} {act : Option (Feeding × Outcome)}

theorem leftAlone_lt (hroom : s'.HasRoom ↔ s.HasRoom) (hleft : s.HasRoom → s'.feed.left < s.feed.left)
    (hend : ¬ s.HasRoom → s'.feed.toEnd < s.feed.toEnd) : s'.leftAlone < s.leftAlone := by
  unfold leftAlone
  by_cases h : s.HasRoom
  · rw [if_pos h, if_pos (hroom.mpr h)]
    exact hleft h
  · rw [if_neg h, if_neg fun h' => h (hroom.mp h')]
    exact hend h

-- A loop that is neither at its end nor waiting comes nearer to one of both with each step.
theorem Fed.leftAlone_lt (h : Fed s act s') (hgoing : s.feed.phase ≠ .finished)
    (hfree : s.feed.isBlocked s.intake.queue.closed s.producer s.memory = false) : s'.leftAlone < s.leftAlone := by
  cases h with
  | rest => exact absurd rfl hgoing
  | publish => exact Supply.leftAlone_lt Iff.rfl (fun _ => Nat.lt_succ_self _) fun _ => Nat.lt_succ_self _
  | finish =>
      simp only [leftAlone, Feed.left, Feed.toEnd]
      split <;> split <;> omega
  | begin hlt hopen =>
      simp only [Feed.isBlocked, hlt, hopen, decide_true, Bool.not_false, Bool.and_true, Bool.true_and,
        Bool.or_eq_false_iff, decide_eq_false_iff_not] at hfree
      exact Supply.leftAlone_lt Iff.rfl (fun _ => Nat.lt_succ_self _)
        fun hfull => absurd ⟨Nat.pos_of_ne_zero hfree.1, hlt, hfree.2⟩ hfull
  | @refuse _ _ _ _ p m _ _ _ hrefused =>
      have hnone : p.available m = 0 := by
        rw [p.available_eq_zero_iff m]
        by_contra hnot
        simp [Producer.push, hnot] at hrefused
      exact Supply.leftAlone_lt Iff.rfl (fun hroom => absurd hnone hroom.2.2) fun _ => Nat.lt_succ_self _
  | @stop _ _ _ pushed _ _ _ hend =>
      refine Supply.leftAlone_lt Iff.rfl (fun hroom => ?_) fun _ => Nat.lt_succ_self _
      -- the batch is full, so it has a record
      cases pushed with
      | zero => exact absurd ⟨hroom.1, hroom.2.1⟩ hend
      | succ pushed => exact Nat.lt_succ_self _
  | @push total batch next pushed p p' m m' i hlt hnext htaken =>
      have hroom : HasRoom ⟨⟨total, batch, next, .fill pushed⟩, p, m, i⟩ := by
        refine ⟨Nat.zero_lt_of_lt hlt, hnext, fun hnone => ?_⟩
        simp [Producer.push, (p.available_eq_zero_iff m).mp hnone] at htaken
      have hbefore : 4 * (total - next) + 1 ≤ leftAlone ⟨⟨total, batch, next, .fill pushed⟩, p, m, i⟩ := by
        rw [leftAlone, if_pos hroom]
        cases pushed with
        | zero => exact Nat.le_refl _
        | succ pushed => exact Nat.add_le_add_left (by decide) _
      have hafter : leftAlone ⟨⟨total, batch, next + 1, .fill (pushed + 1)⟩, p', m', i⟩ ≤
          4 * (total - (next + 1)) + 4 := by
        simp only [leftAlone, Feed.left, Feed.toEnd]
        split <;> omega
      exact hafter.trans_lt (lt_of_lt_of_le (by omega) hbefore)

theorem leftAlone_step_lt (s : Supply ring)
    (hgoing : ¬ (s.feed.phase = .finished ∨ s.feed.isBlocked s.intake.queue.closed s.producer s.memory = true)) :
    (s.step .feed).leftAlone < s.leftAlone := by
  obtain ⟨hunfinished, hfree⟩ := not_or.mp hgoing
  exact s.fed_step.leftAlone_lt hunfinished (Bool.eq_false_iff.mpr hfree)

end Supply

namespace Feed

-- The run of a loop with anything at the other end, which does nothing in the meantime.
variable (i : Intake ring) (f : Feed) (p : Producer ring) (m : Memory ring)

theorem runSteps_ends (left : Nat) (hleft : Supply.leftAlone ⟨f, p, m, i⟩ ≤ left) :
    let out := runSteps i.queue.closed left f p m
    out.1.phase = .finished ∨ out.1.isBlocked i.queue.closed out.2.1 out.2.2 = true := by
  induction left generalizing f p m with
  | zero =>
      by_contra hgoing
      have hlt := Supply.leftAlone_step_lt ⟨f, p, m, i⟩ hgoing
      omega
  | succ left ih =>
      unfold runSteps
      by_cases hends : f.phase = .finished ∨ f.isBlocked i.queue.closed p m = true
      · rw [if_pos (by simpa using hends)]
        exact hends
      · have hlt := Supply.leftAlone_step_lt ⟨f, p, m, i⟩ hends
        rw [if_neg (by simpa using hends)]
        exact ih _ _ _ (Nat.le_of_lt_succ (hlt.trans_le hleft))

-- So the steps that a run is given are enough, whatever it begins with.
theorem run_ends :
    let out := f.run i.queue.closed p m
    out.1.phase = .finished ∨ out.1.isBlocked i.queue.closed out.2.1 out.2.2 = true := by
  apply runSteps_ends
  simp only [Supply.leftAlone, left, toEnd]
  split <;> split <;> omega

end Feed

namespace Supply

variable {s : Supply ring} {l : Ledger} {start : UInt32} {base released : Nat}

theorem Sound.feeds (h : s.Sound l start base released) (count : Nat) :
    let alone := List.replicate count .feed
    (s.run alone).intake = s.intake ∧ ∃ l', (s.run alone).Sound l' start base released := by
  induction count generalizing s l with
  | zero => exact ⟨rfl, l, h⟩
  | succ count ih => exact ih (h.fed s.fed_step)

-- With more records than there are free slots, and nobody to drain, a loop goes on for ever.
theorem Sound.unfinished (h : s.Sound l start base released) (hopen : s.intake.queue.closed = false)
    (hlarge : released + ring.size < base + s.feed.total) (count : Nat) :
    (s.run (List.replicate count .feed)).feed.phase ≠ .finished := by
  intro hfinished
  obtain ⟨hintake, l', hlast⟩ := h.feeds count
  obtain ⟨htotal, _⟩ := s.bounds_run (List.replicate count .feed)
  have howes := hlast.owes
  unfold Feed.Owes at howes
  rw [hfinished, hintake] at howes
  have hall := howes.2.resolve_right (Bool.eq_false_iff.mp hopen)
  have hlength := hlast.length_eq
  have hfits := hlast.describes.fits
  omega

end Supply

end CompletionRing
