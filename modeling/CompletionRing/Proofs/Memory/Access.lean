import CompletionRing.Producer
import CompletionRing.Proofs.Cursor
import CompletionRing.Queue.Drain
import Mathlib.Data.List.Perm.Subperm

namespace CompletionRing

-- The record that a mask picks for a cursor. Whether the array is that long is another matter.
def maskedIndex (mask cursor : UInt32) : Nat :=
  (cursor &&& mask).toNat

-- The records that it picks for a number of cursors in a row.
def maskedWindow (mask start : UInt32) (count : Nat) : List Nat :=
  (List.range count).map fun i => maskedIndex mask (start + .ofNat i)

theorem maskedIndex_self (mask : UInt32) : maskedIndex mask mask = mask.toNat := by
  simp [maskedIndex]

theorem maskedIndex_le (mask cursor : UInt32) : maskedIndex mask cursor ≤ mask.toNat := by
  rw [maskedIndex, UInt32.toNat_and]
  exact Nat.and_le_right

theorem maskedIndex_and (mask cursor : UInt32) :
    maskedIndex mask cursor &&& mask.toNat = maskedIndex mask cursor := by
  rw [maskedIndex, UInt32.toNat_and, Nat.and_assoc, Nat.and_self]

namespace Mapping

variable (ring : Mapping)

theorem maskedIndex_eq_mod (cursor : UInt32) : maskedIndex ring.mask cursor = cursor.toNat % ring.size :=
  ring.val_slot cursor

theorem maskedIndex_lt (cursor : UInt32) : maskedIndex ring.mask cursor < ring.size :=
  ring.toNat_and_mask_lt cursor

theorem nodup_maskedWindow (start : UInt32) {count : Nat} (hcount : count ≤ ring.size) :
    (maskedWindow ring.mask start count).Nodup := by
  apply List.pairwise_map.mpr
  refine List.pairwise_lt_range.imp_of_mem ?_
  intro i j _ hj hij
  have hnear : j < i + ring.size := by
    have hlt := List.mem_range.mp hj
    omega
  exact fun heq => ring.slot_cursor_ne start hij hnear (Fin.ext heq)

-- Once round the ring, each slot comes up exactly once.
theorem maskedWindow_perm (start : UInt32) :
    (maskedWindow ring.mask start ring.size).Perm (List.range ring.size) := by
  have hsubset : maskedWindow ring.mask start ring.size ⊆ List.range ring.size := by
    intro index hmem
    obtain ⟨i, _, rfl⟩ := List.mem_map.mp hmem
    exact List.mem_range.mpr (ring.maskedIndex_lt _)
  have hsubperm := List.subperm_of_subset (ring.nodup_maskedWindow start le_rfl) hsubset
  exact hsubperm.perm_of_length_le (by simp [maskedWindow])

end Mapping

-- A number whose predecessor has the bits of every lesser number is a power of two. Otherwise the highest bit and
-- all bits below it would be in the predecessor, which is then no less than the number.
theorem exists_two_pow_of_and_pred {n : Nat} (hpos : 0 < n) (hkept : ∀ i < n, i &&& (n - 1) = i) :
    ∃ k, n = 2 ^ k := by
  obtain ⟨k, hfloor, hceil⟩ : ∃ k, 2 ^ k ≤ n ∧ n < 2 ^ (k + 1) :=
    ⟨n.log2, Nat.log2_self_le hpos.ne', Nat.lt_log2_self⟩
  refine ⟨k, ?_⟩
  by_contra hne
  have hpower := Nat.two_pow_pos k
  have hlow : (n - 1) % 2 ^ k = 2 ^ k - 1 := by
    rw [← Nat.and_two_pow_sub_one_eq_mod, Nat.and_comm]
    exact hkept _ (by omega)
  have hhigh : 2 ^ k * 1 ≤ 2 ^ k * ((n - 1) / 2 ^ k) :=
    Nat.mul_le_mul_left _ (Nat.div_pos (by omega) hpower)
  have hsplit := Nat.div_add_mod (n - 1) (2 ^ k)
  rw [Nat.pow_succ] at hceil
  omega

namespace Layout

theorem check_eq_ok_iff (l : Layout) :
    l.check = .ok () ↔
      (checkAddress .head l.headAddress = .ok () ∧ checkAddress .tail l.tailAddress = .ok () ∧
        checkAddress .entries l.entriesAddress = .ok ()) ∧
      isPowerOfTwo l.entries = true ∧ l.mask = l.entries - 1 := by
  unfold check
  cases hhead : checkAddress .head l.headAddress with
  | error _ => simp [bind, Except.bind]
  | ok _ =>
      cases htail : checkAddress .tail l.tailAddress with
      | error _ => simp [bind, Except.bind]
      | ok _ =>
          cases hentries : checkAddress .entries l.entriesAddress with
          | error _ => simp [bind, Except.bind]
          | ok _ =>
              by_cases hpow : isPowerOfTwo l.entries = true <;> by_cases hmask : l.mask = l.entries - 1 <;>
                simp [bind, Except.bind, hpow, hmask]

-- Where each full window meets every slot once, the mask keeps all numbers below the size as they are.
theorem entries_rules_of_windows (l : Layout) (hne : l.entries ≠ 0)
    (hwindows : ∀ start, (maskedWindow l.mask start l.entries.toNat).Perm (List.range l.entries.toNat)) :
    isPowerOfTwo l.entries = true ∧ l.mask = l.entries - 1 := by
  have hpos : 0 < l.entries.toNat := Nat.pos_of_ne_zero fun h => hne (UInt32.toNat_inj.mp h)
  have hone : 1 ≤ l.entries := UInt32.le_iff_toNat_le.mpr hpos
  have hmem (start : UInt32) (index : Nat) :
      index ∈ maskedWindow l.mask start l.entries.toNat ↔ index < l.entries.toNat := by
    rw [(hwindows start).mem_iff, List.mem_range]
  have hlt : l.mask.toNat < l.entries.toNat := by
    rw [← hmem l.mask, ← maskedIndex_self l.mask]
    exact List.mem_map.mpr ⟨0, List.mem_range.mpr hpos, by simp⟩
  have hkept : ∀ index < l.entries.toNat, index &&& l.mask.toNat = index := by
    intro index hindex
    obtain ⟨i, _, rfl⟩ := List.mem_map.mp ((hmem 0 index).mpr hindex)
    exact maskedIndex_and l.mask _
  have hmask : l.mask.toNat = l.entries.toNat - 1 := by
    have hle : (l.entries.toNat - 1) &&& l.mask.toNat ≤ l.mask.toNat := Nat.and_le_right
    rw [hkept _ (by omega)] at hle
    omega
  constructor
  · rw [hmask] at hkept
    exact (isPowerOfTwo_iff l.entries).mpr (exists_two_pow_of_and_pred hpos hkept)
  · rw [← UInt32.toNat_inj, UInt32.toNat_sub_of_le _ _ hone]
    exact hmask

-- Of the layouts whose addresses are in order, the check lets pass those whose full windows meet every slot once, and
-- no others.
theorem check_eq_ok_iff_windows (l : Layout) :
    l.check = .ok () ↔
      (checkAddress .head l.headAddress = .ok () ∧ checkAddress .tail l.tailAddress = .ok () ∧
        checkAddress .entries l.entriesAddress = .ok ()) ∧
      l.entries ≠ 0 ∧
        ∀ start, (maskedWindow l.mask start l.entries.toNat).Perm (List.range l.entries.toNat) := by
  constructor
  · intro hcheck
    let ring : Mapping := ⟨l, hcheck⟩
    refine ⟨(l.check_eq_ok_iff.mp hcheck).1, fun hzero => ?_, ring.maskedWindow_perm⟩
    exact ring.size_pos.ne' (congrArg UInt32.toNat hzero)
  · rintro ⟨haddresses, hne, hwindows⟩
    exact l.check_eq_ok_iff.mpr ⟨haddresses, l.entries_rules_of_windows hne hwindows⟩

end Layout

variable {ring : Mapping} {σ ε : Type}

namespace Memory

-- Records as a bare index reaches them, without a promise that it lies inside the array. Outside, an access faults.
def fetch? (m : Memory ring) (index : Nat) : Option Completion :=
  if h : index < ring.size then some (m.slotAt ⟨index, h⟩) else none

def store? (m : Memory ring) (index : Nat) (c : Completion) : Option (Memory ring) :=
  if h : index < ring.size then some (m.setSlot ⟨index, h⟩ c) else none

theorem fetch?_masked (m : Memory ring) (cursor : UInt32) :
    m.fetch? (maskedIndex ring.mask cursor) = some (m.read cursor) :=
  dif_pos (ring.maskedIndex_lt cursor)

theorem store?_masked (m : Memory ring) (cursor : UInt32) (c : Completion) :
    m.store? (maskedIndex ring.mask cursor) c = some (m.write cursor c) :=
  dif_pos (ring.maskedIndex_lt cursor)

theorem mapM_fetch? (m : Memory ring) {mask : UInt32} (hmask : mask.toNat < ring.size) (start : UInt32)
    (count : Nat) :
    (maskedWindow mask start count).mapM m.fetch? =
      some ((List.range count).map fun i =>
        m.slotAt ⟨maskedIndex mask (start + .ofNat i), (maskedIndex_le mask _).trans_lt hmask⟩) := by
  have hfetch : (m.fetch? ∘ fun i => maskedIndex mask (start + .ofNat i)) = fun i =>
      some (m.slotAt ⟨maskedIndex mask (start + .ofNat i), (maskedIndex_le mask _).trans_lt hmask⟩) :=
    funext fun i => dif_pos _
  rw [maskedWindow, List.mapM_map, hfetch]
  exact List.mapM_pure

end Memory

-- A handler that reaches records by bare indices itself, so that it may fault.
abbrev BareHandler (ring : Mapping) (σ ε : Type) :=
  Completion → Memory ring → σ → Option (Verdict ε × Memory ring × σ)

-- The operations as they run over bare indices, with any mask. A fault ends them without a result.
namespace Queue

def drainLoop? (mask : UInt32) (h : BareHandler ring σ ε) :
    (left processed : Nat) → Queue ring → Memory ring → σ → Option (Drained ring σ ε)
  | 0, processed, q, m, state => some (q.release m state processed .emptied)
  | left + 1, processed, q, m, state => do
      let c ← m.fetch? (maskedIndex mask q.head)
      match ← h c m state with
      | (.proceed, m, state) => drainLoop? mask h left (processed + 1) q.advance m state
      | (.stop, m, state) => some (q.advance.release m state (processed + 1) (.stopped left))
      | (.fail error, m, state) => some (q.advance.release m state (processed + 1) (.failed error))
      | (.panic message, m, state) => some (q.advance.release m state (processed + 1) (.panicked message))

def drain? (q : Queue ring) (mask : UInt32) (h : BareHandler ring σ ε) (m : Memory ring) (state : σ) :
    Option (Drained ring σ ε) :=
  if q.closed then some ⟨q, m, state, 0, .emptied⟩
  else drainLoop? mask h (m.tail - q.head).toNat 0 q m state

def reap? (q : Queue ring) (mask : UInt32) (max : Nat) (m : Memory ring) :
    Option (Drained ring (Array Completion) Empty) :=
  if max = 0 then some ⟨q, m, #[], 0, .emptied⟩
  else q.drain? mask (fun c m kept => some (collect max c m kept)) m #[]

def snapshot? (q : Queue ring) (mask : UInt32) (m : Memory ring) : Option (List Completion) :=
  if q.closed then some []
  else (maskedWindow mask q.head (min (q.count m) ring.entries).toNat).mapM m.fetch?

theorem drainLoop?_masked {bare : BareHandler ring σ ε} {h : Handler ring σ ε}
    (hbare : ∀ c m s, bare c m s = some (h c m s)) (left processed : Nat) (q : Queue ring) (m : Memory ring)
    (s : σ) :
    drainLoop? ring.mask bare left processed q m s = some (drainLoop h left processed q m s) := by
  induction left generalizing processed q m s with
  | zero => rfl
  | succ left ih =>
      rw [drainLoop?, drainLoop, m.fetch?_masked, Option.bind_eq_bind, Option.bind_some, hbare]
      obtain ⟨verdict, m', s'⟩ := h (m.read q.head) m s
      cases verdict with
      | proceed => exact ih (processed + 1) q.advance m' s'
      | stop => rfl
      | fail _ => rfl
      | panic _ => rfl

theorem drain?_masked {bare : BareHandler ring σ ε} {h : Handler ring σ ε}
    (hbare : ∀ c m s, bare c m s = some (h c m s)) (q : Queue ring) (m : Memory ring) (s : σ) :
    q.drain? ring.mask bare m s = some (q.drain h m s) := by
  unfold drain? drain
  split
  · rfl
  · exact drainLoop?_masked hbare _ _ q m s

theorem reap?_masked (q : Queue ring) (max : Nat) (m : Memory ring) :
    q.reap? ring.mask max m = some (q.reap max m) := by
  unfold reap? reap
  split
  · rfl
  · exact drain?_masked (fun _ _ _ => rfl) q m #[]

theorem snapshot?_masked (q : Queue ring) (m : Memory ring) :
    q.snapshot? ring.mask m = some (q.snapshot m) := by
  unfold snapshot? snapshot
  split
  · rfl
  · have hmask : ring.mask.toNat < ring.size := maskedIndex_self ring.mask ▸ ring.maskedIndex_lt ring.mask
    exact m.mapM_fetch? hmask _ _

-- The cursors are arbitrary, so nothing keeps the snapshots inside the array but a mask that does not reach past the
-- last slot.
theorem exists_snapshot?_eq_none_iff (mask : UInt32) :
    (∃ (q : Queue ring) (m : Memory ring), q.snapshot? mask m = none) ↔ ring.size ≤ mask.toNat := by
  constructor
  · rintro ⟨q, m, hfault⟩
    by_contra hmask
    unfold snapshot? at hfault
    split at hfault
    · cases hfault
    · rw [m.mapM_fetch? (Nat.not_le.mp hmask)] at hfault
      cases hfault
  · intro hmask
    let q : Queue ring := ⟨mask, false⟩
    let m : Memory ring := { Memory.fresh ring 0 with tail := mask + 1 }
    have hcount : q.count m = 1 := by
      change mask + 1 - mask = 1
      rw [UInt32.add_comm, UInt32.add_sub_cancel]
    have hone : (min (q.count m) ring.entries).toNat = 1 := by
      have hle : (1 : UInt32) ≤ ring.entries := UInt32.le_iff_toNat_le.mpr ring.size_pos
      rw [hcount]
      exact congrArg UInt32.toNat (if_pos hle)
    have hfetch : m.fetch? (maskedIndex mask mask) = none := by
      rw [maskedIndex_self]
      exact dif_neg (Nat.not_lt.mpr hmask)
    refine ⟨q, m, ?_⟩
    unfold snapshot?
    rw [hone]
    simp [q, maskedWindow, hfetch]

end Queue

def Producer.push? (p : Producer ring) (mask : UInt32) (m : Memory ring) (c : Completion) :
    Option (Except Overflow (Producer ring × Memory ring)) :=
  if ring.entries ≤ p.pending m then some (.error ⟨p.pending m, ring.entries⟩)
  else do
    let m ← m.store? (maskedIndex mask p.tail) c
    some (.ok (⟨p.tail + 1⟩, m))

theorem Producer.push?_masked (p : Producer ring) (m : Memory ring) (c : Completion) :
    p.push? ring.mask m c = some (p.push m c) := by
  unfold push? push
  split
  · rfl
  · rw [m.store?_masked]
    rfl

-- The mask of a checked layout is its size as a modulus, so as many cursors in a row as there are slots pick each slot
-- once, wherever they start. Over bare indices each operation therefore does what it does over slots and never faults,
-- whatever the cursors are and whatever a handler makes of them, as long as the handler itself does not fault.
theorem accesses_stay_inside (ring : Mapping) :
    (∀ cursor, maskedIndex ring.mask cursor = cursor.toNat % ring.entries.toNat ∧
      maskedIndex ring.mask cursor < ring.entries.toNat) ∧
    (∀ start count, count ≤ ring.entries.toNat → (maskedWindow ring.mask start count).Nodup) ∧
    (∀ start, (maskedWindow ring.mask start ring.entries.toNat).Perm (List.range ring.entries.toNat)) ∧
    (∀ (q : Queue ring) (m : Memory ring), q.snapshot? ring.mask m = some (q.snapshot m)) ∧
    (∀ (q : Queue ring) (max : Nat) (m : Memory ring), q.reap? ring.mask max m = some (q.reap max m)) ∧
    (∀ (p : Producer ring) (m : Memory ring) (c : Completion), p.push? ring.mask m c = some (p.push m c)) ∧
    ∀ (σ ε : Type) (q : Queue ring) (bare : BareHandler ring σ ε) (h : Handler ring σ ε) (m : Memory ring)
      (s : σ),
      (∀ c m s, bare c m s = some (h c m s)) → q.drain? ring.mask bare m s = some (q.drain h m s) := by
  refine ⟨fun cursor => ⟨ring.maskedIndex_eq_mod cursor, ring.maskedIndex_lt cursor⟩,
    fun start count hcount => ring.nodup_maskedWindow start hcount, ring.maskedWindow_perm, ?_⟩
  refine ⟨Queue.snapshot?_masked, Queue.reap?_masked, Producer.push?_masked, fun σ ε q bare h m s hbare => ?_⟩
  exact Queue.drain?_masked hbare q m s

-- Four slots under a tail that is six ahead, over the place where the cursor wraps, with a handler that pushes by bare
-- indices and moves both shared cursors. A mask of 7 would lead the same drain out of the array.
theorem accesses_stay_inside_of_wild_cursors :
    let ring : Mapping := ⟨⟨4096, 4160, 3, 4, 4224, 0, 0, -1, 4⟩, rfl⟩
    let q : Queue ring := ⟨4294967294, false⟩
    let m : Memory ring := { Memory.fresh ring 0 with tail := 4 }
    let next (pushed : Except Overflow (Producer ring × Memory ring)) (m : Memory ring) (p : Producer ring) :
        Verdict Empty × Memory ring × Producer ring :=
      match pushed with
      | .ok (p, m) => (.proceed, { m with head := 77, tail := p.tail }, p)
      | .error _ => (.proceed, { m with head := p.tail }, p)
    let bare : BareHandler ring (Producer ring) Empty := fun c m p => do
      let pushed ← p.push? ring.mask m c
      some (next pushed m p)
    let h : Handler ring (Producer ring) Empty := fun c m p => next (p.push m c) m p
    maskedWindow ring.mask 4294967294 4 = [2, 3, 0, 1] ∧ (maskedWindow ring.mask 4294967294 4).Nodup ∧
      q.drain? ring.mask bare m ⟨75⟩ = some (q.drain h m ⟨75⟩) ∧ (q.drain h m ⟨75⟩).processed = 6 ∧
      (q.drain? 7 bare m ⟨75⟩).isNone := by
  intro ring q m next bare h
  obtain ⟨_, hnodup, _, _, _, hpush, hdrain⟩ := accesses_stay_inside ring
  have hbare : ∀ c m p, bare c m p = some (h c m p) := by
    intro c m p
    change (p.push? ring.mask m c).bind (fun pushed => some (next pushed m p)) = _
    rw [hpush, Option.bind_some]
  refine ⟨by decide, hnodup _ 4 (by decide), hdrain _ _ q bare h m ⟨75⟩ hbare, ?_, ?_⟩
  · decide +kernel
  · decide +kernel

end CompletionRing
