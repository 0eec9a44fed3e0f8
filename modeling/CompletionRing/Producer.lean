import CompletionRing.Memory

namespace CompletionRing

-- The producer of a ring. Its own tail runs ahead of the shared one by the records it has not published.
structure Producer (ring : Mapping) where
  tail : UInt32

structure Overflow where
  pending : UInt32
  capacity : UInt32
deriving DecidableEq

def Overflow.error (o : Overflow) : RingError :=
  .overflow o.pending o.capacity

namespace Producer

variable {ring : Mapping}

def attach (m : Memory ring) : Producer ring :=
  ⟨m.tail⟩

-- The records between the consumer's published head and the producer's tail.
def pending (p : Producer ring) (m : Memory ring) : UInt32 :=
  p.tail - m.head

-- Writes a record behind the others without showing it to the consumer.
def push (p : Producer ring) (m : Memory ring) (c : Completion) :
    Except Overflow (Producer ring × Memory ring) :=
  if ring.entries ≤ p.pending m then .error ⟨p.pending m, ring.entries⟩
  else .ok (⟨p.tail + 1⟩, m.write p.tail c)

def publish (p : Producer ring) (m : Memory ring) : Memory ring :=
  { m with tail := p.tail }

def post (p : Producer ring) (m : Memory ring) (c : Completion) :
    Except Overflow (Producer ring × Memory ring) := do
  let (p, m) ← p.push m c
  .ok (p, p.publish m)

def unpublished (p : Producer ring) (m : Memory ring) : UInt32 :=
  p.tail - m.tail

-- The free slots as far as the producer knows; none if more is pending than fits.
def available (p : Producer ring) (m : Memory ring) : UInt32 :=
  if p.pending m ≤ ring.entries then ring.entries - p.pending m else 0

-- Pushes a number of records one after another until the ring is full. Gives how many there were, and
-- the overflow if one stopped them.
def pushAll (p : Producer ring) (m : Memory ring) (count : Nat) (record : Nat → Completion) :
    Nat × Option Overflow × Producer ring × Memory ring :=
  go 0 count p m
where
  go (pushed : Nat) : Nat → Producer ring → Memory ring →
      Nat × Option Overflow × Producer ring × Memory ring
    | 0, p, m => (pushed, none, p, m)
    | left + 1, p, m =>
        match p.push m (record pushed) with
        | .ok (p, m) => go (pushed + 1) left p m
        | .error overflow => (pushed, some overflow, p, m)

end Producer

end CompletionRing
