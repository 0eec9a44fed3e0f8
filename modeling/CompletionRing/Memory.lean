import CompletionRing.Completion
import CompletionRing.Layout
import Std.Data.TreeMap

namespace CompletionRing

-- The memory that both sides of a ring share. The consumer publishes the head, the producer the tail;
-- both cursors count on past every end and wrap at 32 bits. Only slots that were written take any room,
-- for a ring may be far larger than what ever lies in it. The two words and the records are taken to lie apart, so
-- that a write to one leaves the others as they are. No check of a layout asks for that. Those who place the ring see
-- to it, as the layout of a simulated one does.
structure Memory (ring : Mapping) where
  head : UInt32
  tail : UInt32
  slots : Std.TreeMap (Fin ring.size) Completion

namespace Memory

variable {ring : Mapping}

def fresh (ring : Mapping) (start : UInt32) : Memory ring :=
  ⟨start, start, ∅⟩

def slotAt (m : Memory ring) (slot : Fin ring.size) : Completion :=
  m.slots.getD slot .blank

def setSlot (m : Memory ring) (slot : Fin ring.size) (c : Completion) : Memory ring :=
  { m with slots := m.slots.insert slot c }

def read (m : Memory ring) (cursor : UInt32) : Completion :=
  m.slotAt (ring.slot cursor)

def write (m : Memory ring) (cursor : UInt32) (c : Completion) : Memory ring :=
  m.setSlot (ring.slot cursor) c

-- The records of a number of cursors in a row.
def window (m : Memory ring) (start : UInt32) (count : Nat) : List Completion :=
  (List.range count).map fun i => m.read (start + .ofNat i)

@[simp] theorem length_window (m : Memory ring) (start : UInt32) (count : Nat) :
    (m.window start count).length = count := by
  simp [window]

@[simp] theorem slotAt_setSlot_self (m : Memory ring) (slot : Fin ring.size) (c : Completion) :
    (m.setSlot slot c).slotAt slot = c := by
  simp [slotAt, setSlot]

theorem slotAt_setSlot_of_ne (m : Memory ring) {slot other : Fin ring.size} (c : Completion)
    (h : slot ≠ other) : (m.setSlot slot c).slotAt other = m.slotAt other := by
  simp [slotAt, setSlot, Std.TreeMap.getD_insert, h]

@[simp] theorem read_write_self (m : Memory ring) (cursor : UInt32) (c : Completion) :
    (m.write cursor c).read cursor = c :=
  slotAt_setSlot_self m _ c

theorem read_write_of_ne (m : Memory ring) {cursor other : UInt32} (c : Completion)
    (h : ring.slot cursor ≠ ring.slot other) : (m.write cursor c).read other = m.read other :=
  slotAt_setSlot_of_ne m c h

end Memory

end CompletionRing
