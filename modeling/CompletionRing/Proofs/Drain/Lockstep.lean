import CompletionRing.Proofs.Drain

namespace CompletionRing

variable {ring₁ ring₂ : Mapping} {σ₁ σ₂ ε ε₁ ε₂ : Type}

namespace Walk

-- The length of a walk depends on nothing but which of its calls ask for more.
theorem IsLength.le_of_agree {w₁ : Walk ring₁ σ₁ ε₁} {w₂ : Walk ring₂ σ₂ ε₂} {limit n₁ n₂ : Nat}
    (h₁ : w₁.IsLength limit n₁) (h₂ : w₂.IsLength limit n₂)
    (hagree : ∀ i, i < n₁ → i < n₂ → (w₁.verdict i).proceeds = (w₂.verdict i).proceeds) : n₂ ≤ n₁ := by
  by_contra hlonger
  rcases h₁.1 with rfl | ⟨i, rfl, hi⟩
  · exact hlonger h₂.le
  · have hstop : (w₂.verdict i).proceeds = false := by
      rw [← hagree i (by omega) (by omega)]
      exact hi
    exact hlonger (h₂.2 (Or.inr ⟨i, rfl, hstop⟩))

theorem IsLength.eq_of_agree {w₁ : Walk ring₁ σ₁ ε₁} {w₂ : Walk ring₂ σ₂ ε₂} {limit n₁ n₂ : Nat}
    (h₁ : w₁.IsLength limit n₁) (h₂ : w₂.IsLength limit n₂)
    (hagree : ∀ i, i < n₁ → i < n₂ → (w₁.verdict i).proceeds = (w₂.verdict i).proceeds) : n₁ = n₂ :=
  Nat.le_antisymm (h₂.le_of_agree h₁ fun i hi₂ hi₁ => (hagree i hi₁ hi₂).symm) (h₁.le_of_agree h₂ hagree)

-- What holds of two walks at their first calls and is kept by each pair of calls holds before every pair,
-- and the verdicts of each pair are equal.
theorem lockstep (w₁ : Walk ring₁ σ₁ ε) (w₂ : Walk ring₂ σ₂ ε)
    {R : Nat → Memory ring₁ × σ₁ → Memory ring₂ × σ₂ → Prop} {limit : Nat}
    (hzero : R 0 (w₁.memory, w₁.state) (w₂.memory, w₂.state))
    (hsucc : ∀ i now₁ now₂, i < limit → R i now₁ now₂ →
      let result₁ := w₁.handler (now₁.1.read (w₁.head + .ofNat i)) now₁.1 now₁.2
      let result₂ := w₂.handler (now₂.1.read (w₂.head + .ofNat i)) now₂.1 now₂.2
      result₁.1 = result₂.1 ∧ R (i + 1) result₁.2 result₂.2) :
    (∀ i ≤ limit, R i (w₁.before i) (w₂.before i)) ∧ ∀ i < limit, w₁.verdict i = w₂.verdict i := by
  have hbefore : ∀ i ≤ limit, R i (w₁.before i) (w₂.before i) := by
    intro i hi
    induction i with
    | zero => exact hzero
    | succ i ih => exact (hsucc i _ _ hi (ih (by omega))).2
  exact ⟨hbefore, fun i hi => (hsucc i _ _ hi (hbefore i hi.le)).1⟩

end Walk

-- The rule for two drains side by side: they make as many calls and end alike.
theorem Queue.drain_lockstep (q₁ : Queue ring₁) (q₂ : Queue ring₂) (hopen₁ : q₁.closed = false)
    (hopen₂ : q₂.closed = false) (h₁ : Handler ring₁ σ₁ ε) (h₂ : Handler ring₂ σ₂ ε) (m₁ : Memory ring₁)
    (m₂ : Memory ring₂) (s₁ : σ₁) (s₂ : σ₂) (hlimit : m₁.tail - q₁.head = m₂.tail - q₂.head)
    (R : Nat → Memory ring₁ × σ₁ → Memory ring₂ × σ₂ → Prop) (hzero : R 0 (m₁, s₁) (m₂, s₂))
    (hsucc : ∀ i now₁ now₂, i < (m₁.tail - q₁.head).toNat → R i now₁ now₂ →
      let result₁ := h₁ (now₁.1.read (q₁.head + .ofNat i)) now₁.1 now₁.2
      let result₂ := h₂ (now₂.1.read (q₂.head + .ofNat i)) now₂.1 now₂.2
      result₁.1 = result₂.1 ∧ R (i + 1) result₁.2 result₂.2) :
    let d₁ := q₁.drain h₁ m₁ s₁
    let d₂ := q₂.drain h₂ m₂ s₂
    d₁.processed = d₂.processed ∧ d₁.ending = d₂.ending ∧
      ∃ m₁' m₂', R d₁.processed (m₁', d₁.state) (m₂', d₂.state) := by
  let w₁ : Walk ring₁ σ₁ ε := ⟨h₁, q₁.head, m₁, s₁⟩
  let w₂ : Walk ring₂ σ₂ ε := ⟨h₂, q₂.head, m₂, s₂⟩
  obtain ⟨hbefore, hverdict⟩ := w₁.lockstep w₂ hzero hsucc
  obtain ⟨n₁, hn₁, heq₁⟩ := q₁.drain_eq hopen₁ h₁ m₁ s₁
  obtain ⟨n₂, hn₂, heq₂⟩ := q₂.drain_eq hopen₂ h₂ m₂ s₂
  rw [← hlimit] at hn₂ heq₂
  obtain rfl : n₁ = n₂ := hn₁.eq_of_agree hn₂ fun i hi _ =>
    congrArg Verdict.proceeds (hverdict i (hi.trans_le hn₁.le))
  have hending : w₁.ending (m₁.tail - q₁.head).toNat n₁ = w₂.ending (m₁.tail - q₁.head).toNat n₁ := by
    cases n₁ with
    | zero => rfl
    | succ n => exact congrArg (Verdict.ending _) (hverdict n hn₁.le)
  rw [heq₁, heq₂]
  exact ⟨rfl, hending, _, _, hbefore n₁ hn₁.le⟩

end CompletionRing
