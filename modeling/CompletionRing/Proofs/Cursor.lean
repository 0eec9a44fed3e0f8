import CompletionRing.Memory
import Mathlib.Data.Nat.ModEq

namespace CompletionRing

-- Cursors are counted as naturals from a start, and only their words wrap.
theorem cursor_add (start : UInt32) (i j : Nat) :
    start + .ofNat (i + j) = start + .ofNat i + .ofNat j := by
  rw [UInt32.ofNat_add, UInt32.add_assoc]

theorem cursor_succ (start : UInt32) (i : Nat) : start + .ofNat (i + 1) = start + .ofNat i + 1 :=
  cursor_add start i 1

theorem cursor_one_add (start : UInt32) (i : Nat) : start + 1 + .ofNat i = start + .ofNat (i + 1) := by
  rw [Nat.add_comm i 1, cursor_add]
  rfl

theorem cursor_sub (start : UInt32) {a b : Nat} (hab : a ≤ b) :
    (start + .ofNat b) - (start + .ofNat a) = .ofNat (b - a) := by
  obtain ⟨distance, rfl⟩ := Nat.exists_eq_add_of_le hab
  rw [cursor_add, UInt32.add_comm (start + .ofNat a), UInt32.add_sub_cancel, Nat.add_sub_cancel_left]

-- Two counts less than 2^32 apart keep their distance.
theorem toNat_cursor_sub (start : UInt32) {a b : Nat} (hab : a ≤ b) (hlt : b - a < 2 ^ 32) :
    ((start + .ofNat b) - (start + .ofNat a)).toNat = b - a := by
  rw [cursor_sub start hab, UInt32.toNat_ofNat', Nat.mod_eq_of_lt hlt]

theorem cursor_eq_add (head tail : UInt32) : tail = head + .ofNat (tail - head).toNat := by
  rw [UInt32.ofNat_toNat, UInt32.add_comm, UInt32.sub_add_cancel]

theorem isPowerOfTwo_iff (n : UInt32) : isPowerOfTwo n = true ↔ ∃ k, n.toNat = 2 ^ k := by
  by_cases hzero : n = 0
  · subst hzero
    constructor
    · intro h
      exact absurd h (by decide)
    · rintro ⟨k, hk⟩
      exact absurd hk (Nat.two_pow_pos k).ne
  · have hne : n.toNat ≠ 0 := fun h => hzero (UInt32.toNat_inj.mp h)
    have hone : 1 ≤ n := UInt32.le_iff_toNat_le.mpr (Nat.one_le_iff_ne_zero.mpr hne)
    have hand : n &&& (n - 1) = 0 ↔ n.toNat &&& (n.toNat - 1) = 0 := by
      rw [← UInt32.toNat_inj, UInt32.toNat_and, UInt32.toNat_sub_of_le _ _ hone]
      rfl
    have htest : isPowerOfTwo n = true ↔ n &&& (n - 1) = 0 := by simp [isPowerOfTwo, hzero]
    rw [htest, hand]
    exact Nat.and_sub_one_eq_zero_iff_isPowerOfTwo hne

namespace Mapping

variable (ring : Mapping)

theorem size_eq_two_pow : ∃ k < 32, ring.size = 2 ^ k := by
  obtain ⟨k, hk⟩ := (isPowerOfTwo_iff ring.entries).mp ring.isPowerOfTwo_entries
  refine ⟨k, ?_, hk⟩
  have hlt : 2 ^ k < 2 ^ 32 := hk ▸ ring.entries.toNat_lt
  exact (Nat.pow_lt_pow_iff_right (by decide)).mp hlt

theorem size_lt : ring.size < 2 ^ 32 := ring.entries.toNat_lt

theorem size_dvd : ring.size ∣ 2 ^ 32 := by
  obtain ⟨k, hk, hsize⟩ := ring.size_eq_two_pow
  rw [hsize]
  exact pow_dvd_pow 2 hk.le

theorem val_slot (cursor : UInt32) : (ring.slot cursor).val = cursor.toNat % ring.size := by
  obtain ⟨k, _, hsize⟩ := ring.size_eq_two_pow
  have hone : 1 ≤ ring.entries := by
    rw [UInt32.le_iff_toNat_le]
    exact ring.size_pos
  have hmask : ring.mask.toNat = 2 ^ k - 1 := by
    rw [ring.mask_eq, UInt32.toNat_sub_of_le _ _ hone, ← hsize]
    rfl
  change (cursor &&& ring.mask).toNat = _
  rw [UInt32.toNat_and, hmask, Nat.and_two_pow_sub_one_eq_mod, hsize]

-- The size divides 2^32, so counting on past the last word keeps the slots in turn.
theorem val_slot_cursor (start : UInt32) (i : Nat) :
    (ring.slot (start + .ofNat i)).val = (start.toNat + i) % ring.size := by
  rw [val_slot, UInt32.toNat_add, UInt32.toNat_ofNat', Nat.add_mod_mod,
    Nat.mod_mod_of_dvd _ ring.size_dvd]

-- No two of as many cursors in a row as there are slots share one.
theorem slot_cursor_ne (start : UInt32) {i j : Nat} (hij : i < j) (hj : j < i + ring.size) :
    ring.slot (start + .ofNat i) ≠ ring.slot (start + .ofNat j) := by
  intro h
  have hval := congrArg Fin.val h
  rw [val_slot_cursor, val_slot_cursor] at hval
  have hmod : i ≡ j [MOD ring.size] := Nat.ModEq.add_left_cancel' start.toNat hval
  have hdvd : ring.size ∣ j - i := (Nat.modEq_iff_dvd' hij.le).mp hmod
  have hle : ring.size ≤ j - i := Nat.le_of_dvd (by omega) hdvd
  omega

end Mapping

end CompletionRing
