import CompletionRing.Log
import CompletionRing.Memory

namespace CompletionRing

-- The consumer of a ring. Outside a drain its own head equals the published one.
structure Queue (ring : Mapping) where
  head : UInt32
  closed : Bool

namespace Queue

variable {ring : Mapping}

def attach (m : Memory ring) : Queue ring :=
  ⟨m.head, false⟩

def attachEvent (q : Queue ring) : Event :=
  .queueAttached ring.layout.fd ring.entries q.head

-- A closed queue hands out nothing more. The memory is left alone.
def close (q : Queue ring) : Queue ring :=
  { q with closed := true }

def closeEvents (q : Queue ring) : List Event :=
  if q.closed then [] else [.queueClosed ring.layout.fd q.head]

-- The number of published records that have not been consumed.
def count (q : Queue ring) (m : Memory ring) : UInt32 :=
  if q.closed then 0 else m.tail - q.head

def hasCompletions (q : Queue ring) (m : Memory ring) : Bool :=
  !q.closed && q.head != m.tail

-- The records that are pending, in order and unconsumed. Where the cursors claim more than the ring
-- can hold, only a ring full of them.
def snapshot (q : Queue ring) (m : Memory ring) : List Completion :=
  if q.closed then [] else m.window q.head (min (q.count m) ring.entries).toNat

def text (q : Queue ring) (m : Memory ring) : String :=
  let inside := if q.closed then "closed" else ", ".intercalate ((q.snapshot m).map Completion.text)
  "CompletionQueue [" ++ inside ++ "]"

def namedFields (q : Queue ring) (m : Memory ring) : List (String × String) :=
  [("ring_fd", Decimal.text ring.layout.fd.toInt), ("ring_entries", Decimal.text ring.entries.toNat),
    ("head", Decimal.text q.head.toNat), ("pending", Decimal.text (q.count m).toNat),
    ("closed", Text.truth q.closed)]

def fieldText (q : Queue ring) (m : Memory ring) : String :=
  Text.fields "CompletionQueue" (q.namedFields m)

def fieldLines (q : Queue ring) (m : Memory ring) : String :=
  Text.fieldLines "CompletionQueue" (q.namedFields m)

end Queue

-- What a monitor sees of a queue in one look: the shared head first and the shared tail second.
structure Sighting where
  closed : Bool
  head : UInt32
  tail : UInt32
deriving DecidableEq

namespace Sighting

variable {ring : Mapping}

-- The ring may move on between the two loads.
def between (q : Queue ring) (atHead atTail : Memory ring) : Sighting :=
  ⟨q.closed, atHead.head, atTail.tail⟩

def of (q : Queue ring) (m : Memory ring) : Sighting :=
  between q m m

def count (s : Sighting) : UInt32 :=
  if s.closed then 0 else s.tail - s.head

def hasCompletions (s : Sighting) : Bool :=
  !s.closed && s.head != s.tail

def fieldText (s : Sighting) : String :=
  Text.fields "CompletionQueueMonitor" [("pending", Decimal.text s.count.toNat),
    ("closed", Text.truth s.closed)]

end Sighting

end CompletionRing
