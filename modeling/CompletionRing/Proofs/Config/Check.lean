import CompletionRing.Config

namespace CompletionRing.Config

theorem check_eq_ok_iff (c : Config) :
    c.check = .ok () ↔
      isPowerOfTwo c.entries = true ∧ c.entries ≤ Limits.maxEntries ∧ c.batchLimit ≠ 0 ∧
        c.producerBatch ≠ 0 ∧ c.producerBatch ≤ c.entries := by
  rw [← UInt32.not_lt, ← UInt32.not_lt]
  unfold check
  cases hpow : isPowerOfTwo c.entries with
  | false => simp
  | true =>
      by_cases hmax : Limits.maxEntries < c.entries
      · simp [hmax]
      · by_cases hlimit : c.batchLimit = 0
        · simp [hmax, hlimit]
        · by_cases hbatch : c.producerBatch = 0
          · simp [hmax, hlimit, hbatch]
          · by_cases hlt : c.entries < c.producerBatch <;> simp [hmax, hlimit, hbatch, hlt]

-- What the check of a configuration comes to: the configuration as it is, or the rule that it breaks.
inductive Judged (c : Config) : Except Fault Config → Prop where
  | accepted (h : c.check = .ok ()) : Judged c (.ok c)
  | refused {fault : Fault} (h : c.check = .error fault) : Judged c (.error fault)

variable {c c' : Config} {result result' : Except Fault Config}

theorem Judged.eq_checked (h : c.Judged result) : result = c.checked := by
  cases h with
  | accepted h => simp only [checked, h, bind, Except.bind]
  | refused h => simp only [checked, h, bind, Except.bind]

theorem Judged.unique (h : c.Judged result) (h' : c.Judged result') : result = result' :=
  h.eq_checked.trans h'.eq_checked.symm

theorem judged_checked (c : Config) : c.Judged c.checked := by
  cases h : c.check with
  | ok _ =>
      have hchecked : c.checked = .ok c := by simp only [checked, h, bind, Except.bind]
      rw [hchecked]
      exact .accepted h
  | error fault =>
      have hchecked : c.checked = .error fault := by simp only [checked, h, bind, Except.bind]
      rw [hchecked]
      exact .refused h

theorem checked_eq_ok_iff : c.checked = .ok c' ↔ c.check = .ok () ∧ c = c' := by
  unfold checked
  cases hcheck : c.check with
  | error fault => simp [bind, Except.bind]
  | ok _ => simp [bind, Except.bind]

end CompletionRing.Config
