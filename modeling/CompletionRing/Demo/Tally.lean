import CompletionRing.Queue.Drain

namespace CompletionRing

-- Counts what a drain hands out, checks that tokens follow each other, and wants a limited number of
-- records at a time.
structure Tally where
  limit : Nat
  inBatch : Nat
  -- the token that has to come next
  expected : UInt64
  received : Nat
  failures : Nat
  outOfOrder : Nat
deriving DecidableEq

namespace Tally

def start (limit : Nat) : Tally :=
  ⟨limit, 0, 0, 0, 0, 0⟩

def newBatch (t : Tally) : Tally :=
  { t with inBatch := 0 }

def count (t : Tally) (c : Completion) : Tally where
  limit := t.limit
  inBatch := t.inBatch + 1
  expected := c.userData + 1
  received := t.received + 1
  failures := if c.isError then t.failures + 1 else t.failures
  outOfOrder := if c.userData ≠ t.expected then t.outOfOrder + 1 else t.outOfOrder

-- A record is always taken. Only then is it asked whether there is room for more.
def wantsMore (t : Tally) : Bool :=
  t.inBatch < t.limit

def handler {ring : Mapping} : Handler ring Tally Empty := fun c m t =>
  let t := t.count c
  (if t.wantsMore then .proceed else .stop, m, t)

end Tally

-- One drain as the log tells of it.
structure Span where
  batch : Nat
  processed : Nat

namespace Span

def start (batch : Nat) : Span :=
  ⟨batch, 0⟩

-- The last count that is recorded is the one that holds.
def record (s : Span) (processed : Nat) : Span :=
  { s with processed }

-- A drain that handed out nothing is not told.
def events (s : Span) : List Event :=
  if 0 < s.processed then [.drainFinished s.batch s.processed] else []

end Span

end CompletionRing
