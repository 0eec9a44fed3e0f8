import CompletionRing.Proofs.Completion.Image
import CompletionRing.Proofs.Drain

namespace CompletionRing

-- The array of a ring's records as it lies in memory, sixteen bytes for each slot.
abbrev EntryBytes (ring : Mapping) := Vector UInt8 (16 * ring.size)

variable {ring : Mapping}

namespace EntryBytes

-- The bytes from 16 * slot up to 16 * slot + 16.
def image (bytes : EntryBytes ring) (slot : Fin ring.size) : Completion.Image :=
  .ofFn fun k => bytes[16 * slot.val + k.val]

-- What a reader decodes at a cursor.
def read (bytes : EntryBytes ring) (cursor : UInt32) : Completion :=
  .ofImage (bytes.image ⟨(cursor &&& ring.mask).toNat, ring.toNat_and_mask_lt cursor⟩)

-- Sixteen bytes written at a slot and nowhere else.
def put (bytes : EntryBytes ring) (slot : Fin ring.size) (image : Completion.Image) : EntryBytes ring :=
  .ofFn fun k =>
    if h : 16 * slot.val ≤ k.val ∧ k.val < 16 * slot.val + 16 then image[k.val - 16 * slot.val] else bytes[k]

theorem image_put_self (bytes : EntryBytes ring) (slot : Fin ring.size) (image : Completion.Image) :
    (bytes.put slot image).image slot = image := by
  apply Vector.ext
  intro k hk
  simp [EntryBytes.image, put]

theorem image_put_of_ne (bytes : EntryBytes ring) {slot other : Fin ring.size} (image : Completion.Image)
    (h : slot ≠ other) : (bytes.put slot image).image other = bytes.image other := by
  have hval : slot.val ≠ other.val := fun heq => h (Fin.ext heq)
  apply Vector.ext
  intro k hk
  have houtside : ¬ (16 * slot.val ≤ 16 * other.val + k ∧ 16 * other.val + k < 16 * slot.val + 16) := by omega
  simp [EntryBytes.image, put, houtside]

theorem read_put (bytes : EntryBytes ring) (slot : Fin ring.size) (image : Completion.Image) (cursor : UInt32) :
    (bytes.put slot image).read cursor =
      if (cursor &&& ring.mask).toNat = slot.val then .ofImage image else bytes.read cursor := by
  unfold read
  by_cases h : (cursor &&& ring.mask).toNat = slot.val
  · obtain rfl : ⟨(cursor &&& ring.mask).toNat, ring.toNat_and_mask_lt cursor⟩ = slot := Fin.ext h
    rw [image_put_self, if_pos rfl]
  · have hne : slot ≠ ⟨(cursor &&& ring.mask).toNat, ring.toNat_and_mask_lt cursor⟩ :=
      fun heq => h (congrArg Fin.val heq).symm
    rw [image_put_of_ne bytes image hne, if_neg h]

-- Every byte belongs to a slot.
theorem ext_image {bytes bytes' : EntryBytes ring} (h : ∀ slot, bytes.image slot = bytes'.image slot) :
    bytes = bytes' := by
  apply Vector.ext
  intro k hk
  have hslot : k / 16 < ring.size := by omega
  have hbyte := congrArg (fun image : Completion.Image => image[k % 16]) (h ⟨k / 16, hslot⟩)
  simpa [EntryBytes.image, Nat.div_add_mod] using hbyte

end EntryBytes

namespace Memory

-- The images of all slots, one behind the other.
def bytes (m : Memory ring) : EntryBytes ring :=
  .ofFn fun k => (m.slotAt ⟨k.val / 16, by omega⟩).image[k.val % 16]

theorem image_bytes (m : Memory ring) (slot : Fin ring.size) : m.bytes.image slot = (m.slotAt slot).image := by
  apply Vector.ext
  intro k hk
  have hslot : (16 * slot.val + k) / 16 = slot.val := by omega
  simp [EntryBytes.image, bytes, hslot, Nat.mod_eq_of_lt hk]

theorem read_bytes (m : Memory ring) (cursor : UInt32) : m.bytes.read cursor = m.read cursor := by
  rw [EntryBytes.read, image_bytes, Completion.ofImage_image]
  rfl

-- A record is written to its own sixteen bytes.
theorem bytes_setSlot (m : Memory ring) (slot : Fin ring.size) (c : Completion) :
    (m.setSlot slot c).bytes = m.bytes.put slot c.image := by
  apply EntryBytes.ext_image
  intro other
  rw [image_bytes]
  by_cases h : slot = other
  · subst h
    rw [slotAt_setSlot_self, EntryBytes.image_put_self]
  · rw [slotAt_setSlot_of_ne m c h, EntryBytes.image_put_of_ne _ _ h, image_bytes]

-- Every slot written from its part of some bytes.
def load (m : Memory ring) (bytes : EntryBytes ring) : Memory ring :=
  (List.finRange ring.size).foldl (fun m slot => m.setSlot slot (.ofImage (bytes.image slot))) m

-- What has been written to a slot stands there whichever slots are written after it.
theorem slotAt_foldl_setSlot (record : Fin ring.size → Completion) (slots : List (Fin ring.size)) (m : Memory ring)
    (slot : Fin ring.size) (h : slot ∈ slots ∨ m.slotAt slot = record slot) :
    (slots.foldl (fun m slot => m.setSlot slot (record slot)) m).slotAt slot = record slot := by
  induction slots generalizing m with
  | nil => exact h.resolve_left List.not_mem_nil
  | cons first slots ih =>
      apply ih (m.setSlot first (record first))
      by_cases hfirst : first = slot
      · subst hfirst
        exact .inr (slotAt_setSlot_self m first _)
      · rw [slotAt_setSlot_of_ne m _ hfirst]
        exact h.imp_left fun hmem => (List.mem_cons.mp hmem).resolve_left (Ne.symm hfirst)

theorem load_cursors (m : Memory ring) (bytes : EntryBytes ring) :
    (m.load bytes).head = m.head ∧ (m.load bytes).tail = m.tail := by
  unfold load
  induction List.finRange ring.size generalizing m with
  | nil => exact ⟨rfl, rfl⟩
  | cons slot slots ih => exact ih (m.setSlot slot (.ofImage (bytes.image slot)))

theorem bytes_load (m : Memory ring) (bytes : EntryBytes ring) : (m.load bytes).bytes = bytes := by
  apply EntryBytes.ext_image
  intro slot
  rw [image_bytes, load, slotAt_foldl_setSlot _ _ _ _ (.inl (List.mem_finRange slot)), Completion.image_ofImage]

theorem window_bytes (m : Memory ring) (start : UInt32) (count : Nat) :
    m.window start count = (List.range count).map fun i => m.bytes.read (start + .ofNat i) := by
  simp only [window, read_bytes]

end Memory

namespace Queue

variable {σ ε : Type}

theorem snapshot_bytes (q : Queue ring) (m : Memory ring) :
    q.snapshot m = (List.range (min (q.count m) ring.entries).toNat).map fun i => m.bytes.read (q.head + .ofNat i) := by
  cases hclosed : q.closed with
  | true =>
      have hzero : min (0 : UInt32) ring.entries = 0 := if_pos UInt32.zero_le
      simp [snapshot, count, hclosed, hzero]
  | false => simp [snapshot, hclosed, Memory.window_bytes]

theorem reap_bytes (q : Queue ring) (max : Nat) (m : Memory ring) :
    (q.reap max m).state.toList =
      (List.range (min max (q.count m).toNat)).map fun i => m.bytes.read (q.head + .ofNat i) := by
  cases hclosed : q.closed with
  | true => simp [q.reap_of_closed hclosed, count, hclosed]
  | false =>
      by_cases hmax : max = 0
      · simp [hmax, reap]
      · rw [(q.reap_of_pos hclosed hmax m).1, Memory.window_bytes]
        simp [count, hclosed]

theorem drain_bytes (q : Queue ring) (h : Handler ring σ ε) (m : Memory ring) (s : σ) :
    let w : Walk ring σ ε := ⟨h, q.head, m, s⟩
    (q.drain h.recording m (s, #[])).state.2.toList =
      (List.range (q.drain h m s).processed).map fun i => (w.before i).1.bytes.read (q.head + .ofNat i) := by
  intro w
  cases hclosed : q.closed with
  | true => simp [q.drain_of_closed hclosed]
  | false =>
      rw [q.drain_recording hclosed h m s]
      simp only [Memory.read_bytes]
      rfl

end Queue

theorem Walk.bytes_before {σ ε : Type} (w : Walk ring σ ε)
    (h : ∀ c m s, (w.handler c m s).2.1.bytes = m.bytes) (i : Nat) : (w.before i).1.bytes = w.memory.bytes := by
  induction i with
  | zero => rfl
  | succ i ih => exact (h _ _ _).trans ih

-- Images and records are in one-to-one correspondence, and a ring hands out for each cursor what the sixteen bytes of
-- its slot stand for, whatever bytes these are. A handler that writes to the slots meets its own bytes.
theorem ring_keeps_images :
    (∀ c : Completion, Completion.ofImage c.image = c) ∧
    (∀ image : Completion.Image, (Completion.ofImage image).image = image) ∧
    (∀ c : Completion, c.LaidOutIn c.image) ∧
    ∀ ring : Mapping,
      (∀ (m : Memory ring) (bytes : EntryBytes ring),
        (m.load bytes).bytes = bytes ∧ (m.load bytes).head = m.head ∧ (m.load bytes).tail = m.tail) ∧
      (∀ (m : Memory ring) (slot : Fin ring.size) (image : Completion.Image),
        (m.setSlot slot (.ofImage image)).bytes = m.bytes.put slot image ∧
        ∀ cursor, (m.bytes.put slot image).read cursor =
          if (cursor &&& ring.mask).toNat = slot.val then .ofImage image else m.bytes.read cursor) ∧
      (∀ (q : Queue ring) (m : Memory ring), q.snapshot m =
        (List.range (min (q.count m) ring.entries).toNat).map fun i => m.bytes.read (q.head + .ofNat i)) ∧
      (∀ (q : Queue ring) (max : Nat) (m : Memory ring), (q.reap max m).state.toList =
        (List.range (min max (q.count m).toNat)).map fun i => m.bytes.read (q.head + .ofNat i)) ∧
      ∀ (σ ε : Type) (q : Queue ring) (h : Handler ring σ ε) (m : Memory ring) (s : σ),
        let w : Walk ring σ ε := ⟨h, q.head, m, s⟩
        let handed := (q.drain h.recording m (s, #[])).state.2.toList
        let cursors := List.range (q.drain h m s).processed
        handed = cursors.map (fun i => (w.before i).1.bytes.read (q.head + .ofNat i)) ∧
        ((∀ c m s, (h c m s).2.1.bytes = m.bytes) →
          handed = cursors.map fun i => m.bytes.read (q.head + .ofNat i)) := by
  refine ⟨Completion.ofImage_image, Completion.image_ofImage, Completion.laidOutIn_image, fun ring => ?_⟩
  refine ⟨fun m bytes => ⟨m.bytes_load bytes, m.load_cursors bytes⟩, fun m slot image => ?_, Queue.snapshot_bytes,
    Queue.reap_bytes, fun σ ε q h m s => ?_⟩
  · exact ⟨by rw [Memory.bytes_setSlot, Completion.image_ofImage], m.bytes.read_put slot image⟩
  · intro w handed cursors
    have hhanded : handed = cursors.map _ := q.drain_bytes h m s
    refine ⟨hhanded, fun hleaves => ?_⟩
    rw [hhanded]
    simp only [w.bytes_before hleaves, w]

-- Two records on either side of the place where the cursor wraps, out of the bytes 0 to 63 in four slots, and what
-- is left of them after the first slot is written.
theorem ring_keeps_images_across_wrap :
    let ring : Mapping := ⟨⟨4096, 4160, 3, 4, 4224, 0, 0, -1, 4⟩, rfl⟩
    let bytes : EntryBytes ring := .ofFn fun k => .ofNat k.val
    let m : Memory ring := Memory.load { Memory.fresh ring 4294967295 with tail := 1 } bytes
    let q : Queue ring := ⟨4294967295, false⟩
    let leave : Handler ring Unit Unit := fun _ m s => (.proceed, m, s)
    let last : Completion := ⟨0x3736353433323130, 0x3b3a3938, 0x3f3e3d3c⟩
    let first : Completion := ⟨0x0706050403020100, 0x0b0a0908, 0x0f0e0d0c⟩
    let image : Completion.Image := .replicate 16 255
    m.bytes = bytes ∧ (q.drain leave.recording m ((), #[])).state.2.toList = [last, first] ∧
      (m.setSlot (ring.slot 0) (.ofImage image)).bytes.read 4 = ⟨18446744073709551615, -1, 4294967295⟩ ∧
      (m.setSlot (ring.slot 0) (.ofImage image)).bytes.read 7 = last := by
  intro ring bytes m q leave last first image
  obtain ⟨_, _, _, hring⟩ := ring_keeps_images
  obtain ⟨hload, hwrite, _, _, hdrain⟩ := hring ring
  have hbytes : m.bytes = bytes := (hload _ bytes).1
  have hprocessed : (q.drain leave m ()).processed = 2 := by decide +kernel
  have hhanded := (hdrain Unit Unit q leave m ()).2 fun _ _ _ => rfl
  rw [hprocessed, hbytes] at hhanded
  obtain ⟨hput, hread⟩ := hwrite m (ring.slot 0) image
  rw [hput, hread, hread, hbytes]
  refine ⟨rfl, hhanded.trans (by decide +kernel), by decide +kernel, by decide +kernel⟩

end CompletionRing
