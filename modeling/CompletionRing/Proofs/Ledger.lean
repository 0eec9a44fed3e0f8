import CompletionRing.Proofs.Cursor
import CompletionRing.Session.Action
import CompletionRing.Queue

namespace CompletionRing

-- What a producer has done, without any ring: the records that it has pushed and how many of them it has
-- shown.
structure Ledger where
  pushed : List Completion
  shown : Nat

namespace Ledger

def blank : Ledger := ⟨[], 0⟩

-- The records that the last publication covers.
def published (l : Ledger) : List Completion :=
  l.pushed.take l.shown

def push (l : Ledger) (records : List Completion) : Ledger :=
  { l with pushed := l.pushed ++ records }

def publish (l : Ledger) : Ledger :=
  { l with shown := l.pushed.length }

-- Splitting a ring again drops what was pushed and never shown.
def split (l : Ledger) : Ledger :=
  { l with pushed := l.published }

-- Enters an action and what came of it. A record that was refused is not pushed, and a post that was refused
-- shows nothing.
def enter (l : Ledger) : Feeding → Outcome → Ledger
  | .push c, .done => l.push [c]
  | .post c, .done => (l.push [c]).publish
  | .publish, .done => l.publish
  | .pushAll records, .pushed count _ => l.push ((List.range count).map records.record)
  | _, _ => l

-- A later ledger has the same records in the same places, and shows as many at least.
structure Grows (l later : Ledger) : Prop where
  pushed : l.pushed <+: later.pushed
  shown : l.shown ≤ later.shown

theorem Grows.refl (l : Ledger) : l.Grows l :=
  ⟨List.prefix_refl _, Nat.le_refl _⟩

theorem Grows.trans {l later last : Ledger} (h : l.Grows later) (h' : later.Grows last) : l.Grows last :=
  ⟨h.pushed.trans h'.pushed, h.shown.trans h'.shown⟩

theorem grows_push (l : Ledger) (records : List Completion) : l.Grows (l.push records) :=
  ⟨List.prefix_append _ _, Nat.le_refl _⟩

theorem grows_publish (l : Ledger) (hshown : l.shown ≤ l.pushed.length) : l.Grows l.publish :=
  ⟨List.prefix_refl _, hshown⟩

theorem grows_enter (l : Ledger) (hshown : l.shown ≤ l.pushed.length) (f : Feeding) (outcome : Outcome) :
    l.Grows (l.enter f outcome) := by
  unfold enter
  split
  · exact l.grows_push _
  · refine (l.grows_push _).trans (grows_publish _ ?_)
    simp only [push, List.length_append]
    omega
  · exact l.grows_publish hshown
  · exact l.grows_push _
  · exact Grows.refl l

theorem Grows.getElem_eq {l later : Ledger} (h : l.Grows later) {i : Nat} (hi : i < l.pushed.length)
    (hi' : i < later.pushed.length) : later.pushed[i] = l.pushed[i] :=
  (h.pushed.getElem hi).symm

theorem Grows.take_eq {l later : Ledger} (h : l.Grows later) {n : Nat} (hn : n ≤ l.pushed.length) :
    later.pushed.take n = l.pushed.take n := by
  obtain ⟨rest, hrest⟩ := h.pushed
  rw [← hrest, List.take_append_of_le_length hn]

theorem take_drop_succ (l : Ledger) {released i : Nat} (hi : released + i < l.pushed.length) :
    (l.pushed.drop released).take (i + 1) =
      (l.pushed.drop released).take i ++ [l.pushed[released + i]] := by
  rw [List.take_add_one, List.getElem?_drop, List.getElem?_eq_getElem hi]
  rfl

-- What has been published since is what stands behind the earlier published records.
theorem Grows.published_eq {l later : Ledger} (h : l.Grows later) (hshown : l.shown ≤ l.pushed.length) :
    later.published = l.published ++ (later.pushed.drop l.shown).take (later.shown - l.shown) := by
  unfold published
  rw [← h.take_eq hshown, ← List.take_add]
  congr 1
  have := h.shown
  omega

variable {ring : Mapping} {l : Ledger} {start : UInt32} {released : Nat} {m : Memory ring} {p : Producer ring}

-- A ring as the stretch of a ledger that has not been released yet. Its cursors are counted from a start,
-- and every record on the stretch lies in its own slot.
structure Describes (l : Ledger) (start : UInt32) (released : Nat) (m : Memory ring) (p : Producer ring) :
    Prop where
  released_le : released ≤ l.shown
  shown_le : l.shown ≤ l.pushed.length
  fits : l.pushed.length ≤ released + ring.size
  head_eq : m.head = start + .ofNat released
  tail_eq : m.tail = start + .ofNat l.shown
  own_tail_eq : p.tail = start + .ofNat l.pushed.length
  read_eq : ∀ i (hi : i < l.pushed.length), released ≤ i → m.read (start + .ofNat i) = l.pushed[i]

namespace Describes

theorem fresh (ring : Mapping) (start : UInt32) :
    blank.Describes start 0 (Memory.fresh ring start) (Producer.attach (Memory.fresh ring start)) where
  released_le := Nat.le_refl _
  shown_le := Nat.le_refl _
  fits := Nat.zero_le _
  head_eq := by simp [Memory.fresh]
  tail_eq := by simp [Memory.fresh, blank]
  own_tail_eq := by simp [Memory.fresh, Producer.attach, blank]
  read_eq := fun i hi => absurd hi (Nat.not_lt_zero i)

theorem toNat_pending (h : l.Describes start released m p) :
    (p.pending m).toNat = l.pushed.length - released := by
  have := h.released_le
  have := h.shown_le
  have := h.fits
  have := ring.size_lt
  rw [Producer.pending, h.own_tail_eq, h.head_eq, toNat_cursor_sub] <;> omega

theorem pending_le (h : l.Describes start released m p) : p.pending m ≤ ring.entries := by
  have hfits := h.fits
  unfold Mapping.size at hfits
  rw [UInt32.le_iff_toNat_le, h.toNat_pending]
  omega

theorem toNat_available (h : l.Describes start released m p) :
    (p.available m).toNat = released + ring.size - l.pushed.length := by
  have hreleased := h.released_le.trans h.shown_le
  rw [Producer.available, if_pos h.pending_le, UInt32.toNat_sub_of_le _ _ h.pending_le, h.toNat_pending]
  unfold Mapping.size
  omega

theorem toNat_unpublished (h : l.Describes start released m p) :
    (p.unpublished m).toNat = l.pushed.length - l.shown := by
  have := h.released_le
  have := h.shown_le
  have := h.fits
  have := ring.size_lt
  rw [Producer.unpublished, h.own_tail_eq, h.tail_eq, toNat_cursor_sub] <;> omega

theorem toNat_tail_sub (h : l.Describes start released m p) {consumed : Nat} (hlo : released ≤ consumed)
    (hhi : consumed ≤ l.shown) : (m.tail - (start + .ofNat consumed)).toNat = l.shown - consumed := by
  have := h.shown_le
  have := h.fits
  have := ring.size_lt
  rw [h.tail_eq, toNat_cursor_sub] <;> omega

theorem toNat_count (h : l.Describes start released m p) :
    (m.tail - m.head).toNat = l.shown - released := by
  rw [h.head_eq]
  exact h.toNat_tail_sub (Nat.le_refl _) h.released_le

theorem push_of_room (h : l.Describes start released m p) (c : Completion)
    (hroom : l.pushed.length < released + ring.size) :
    p.push m c = .ok (⟨p.tail + 1⟩, m.write p.tail c) := by
  have hpending := h.toNat_pending
  have hnot : ¬ ring.entries ≤ p.pending m := by
    rw [UInt32.le_iff_toNat_le, hpending]
    have := h.released_le
    have := h.shown_le
    unfold Mapping.size at hroom
    omega
  simp [Producer.push, hnot]

theorem push_of_full (h : l.Describes start released m p) (c : Completion)
    (hfull : ¬ l.pushed.length < released + ring.size) :
    p.push m c = .error ⟨ring.entries, ring.entries⟩ := by
  have hpending : p.pending m = ring.entries := by
    rw [← UInt32.toNat_inj, h.toNat_pending]
    have := h.fits
    unfold Mapping.size at *
    omega
  simp [Producer.push, hpending]

-- The slot of the next record is none of those on the stretch, even with all but one of them taken.
theorem write (h : l.Describes start released m p) (c : Completion)
    (hroom : l.pushed.length < released + ring.size) :
    (l.push [c]).Describes start released (m.write p.tail c) ⟨p.tail + 1⟩ where
  released_le := h.released_le
  shown_le := by
    have := h.shown_le
    simp only [push, List.length_append, List.length_singleton]
    omega
  fits := by
    simp only [push, List.length_append, List.length_singleton]
    omega
  head_eq := h.head_eq
  tail_eq := h.tail_eq
  own_tail_eq := by
    simp only [push, List.length_append, List.length_singleton]
    rw [h.own_tail_eq, cursor_succ]
  read_eq := by
    intro i hi hle
    simp only [push, List.length_append, List.length_singleton] at hi
    by_cases hlast : i = l.pushed.length
    · subst hlast
      simp [push, ← h.own_tail_eq]
    · have hlt : i < l.pushed.length := by omega
      have hslot : ring.slot p.tail ≠ ring.slot (start + .ofNat i) := by
        rw [h.own_tail_eq]
        exact (ring.slot_cursor_ne start hlt (by omega)).symm
      rw [Memory.read_write_of_ne m c hslot, h.read_eq i hlt hle]
      exact (List.getElem_append_left hlt).symm

theorem publish (h : l.Describes start released m p) :
    l.publish.Describes start released (p.publish m) p where
  released_le := h.released_le.trans h.shown_le
  shown_le := Nat.le_refl _
  fits := h.fits
  head_eq := h.head_eq
  tail_eq := h.own_tail_eq
  own_tail_eq := h.own_tail_eq
  read_eq := h.read_eq

theorem release (h : l.Describes start released m p) {consumed : Nat} (hlo : released ≤ consumed)
    (hhi : consumed ≤ l.shown) :
    l.Describes start consumed { m with head := start + .ofNat consumed } p where
  released_le := hhi
  shown_le := h.shown_le
  fits := by
    have := h.fits
    omega
  head_eq := rfl
  tail_eq := h.tail_eq
  own_tail_eq := h.own_tail_eq
  read_eq := fun i hi hle => h.read_eq i hi (hlo.trans hle)

theorem split (h : l.Describes start released m p) :
    l.split.Describes start released m (Producer.attach m) where
  released_le := h.released_le
  shown_le := by
    simp only [Ledger.split, published, List.length_take]
    exact Nat.le_min.mpr ⟨Nat.le_refl _, h.shown_le⟩
  fits := by
    have := h.fits
    simp only [Ledger.split, published, List.length_take]
    omega
  head_eq := h.head_eq
  tail_eq := h.tail_eq
  own_tail_eq := by
    have hlength : l.split.pushed.length = l.shown := by
      simp [Ledger.split, published, h.shown_le]
    rw [hlength]
    exact h.tail_eq
  read_eq := by
    intro i hi hle
    have hi' : i < l.pushed.length := by
      simp only [Ledger.split, published, List.length_take] at hi
      omega
    rw [h.read_eq i hi' hle]
    simp [Ledger.split, published]

-- A series that is pushed one by one is entered up to the record that found the ring full.
theorem pushAll_go (record : Nat → Completion) (pushed left : Nat)
    (h : (l.push ((List.range pushed).map record)).Describes start released m p) :
    let result := Producer.pushAll.go record pushed left p m
    (l.push ((List.range result.1).map record)).Describes start released result.2.2.2 result.2.2.1 := by
  induction left generalizing pushed m p with
  | zero => exact h
  | succ left ih =>
      unfold Producer.pushAll.go
      by_cases hroom : (l.push ((List.range pushed).map record)).pushed.length < released + ring.size
      · rw [h.push_of_room (record pushed) hroom]
        apply ih
        have hwrite := h.write (record pushed) hroom
        rw [List.range_succ, List.map_append, List.map_singleton]
        simpa only [push, List.append_assoc] using hwrite
      · rw [h.push_of_full (record pushed) hroom]
        exact h

-- Whatever a producer does, the ledger in which it is entered with its outcome describes what it leaves.
theorem perform (h : l.Describes start released m p) (f : Feeding) :
    (l.enter f (f.perform p m).1).Describes start released (f.perform p m).2.2 (f.perform p m).2.1 := by
  cases f with
  | push c =>
      by_cases hroom : l.pushed.length < released + ring.size
      · simp only [Feeding.perform, h.push_of_room c hroom]
        exact h.write c hroom
      · simp only [Feeding.perform, h.push_of_full c hroom]
        exact h
  | post c =>
      by_cases hroom : l.pushed.length < released + ring.size
      · simp only [Feeding.perform, Producer.post, h.push_of_room c hroom, bind, Except.bind]
        exact (h.write c hroom).publish
      · simp only [Feeding.perform, Producer.post, h.push_of_full c hroom, bind, Except.bind]
        exact h
  | publish => exact h.publish
  | pushAll records =>
      have hnone : l.push ((List.range 0).map records.record) = l := by simp [push]
      exact pushAll_go records.record 0 records.count (hnone.symm ▸ h)

theorem window_eq (h : l.Describes start released m p) {consumed count : Nat} (hlo : released ≤ consumed)
    (hhi : consumed + count ≤ l.pushed.length) :
    m.window (start + .ofNat consumed) count = (l.pushed.drop consumed).take count := by
  apply List.ext_getElem
  · simp only [Memory.length_window, List.length_take, List.length_drop]
    omega
  · intro i hi _
    rw [Memory.length_window] at hi
    simp only [Memory.window, List.getElem_map, List.getElem_range, List.getElem_take, List.getElem_drop]
    rw [← cursor_add, h.read_eq (consumed + i) (by omega) (by omega)]

end Describes

end Ledger

end CompletionRing
