import CompletionRing.Demo.Tally
import CompletionRing.Simulated

namespace CompletionRing

structure DrainLoop (ring : Mapping) where
  queue : Queue ring
  memory : Memory ring
  tally : Tally
  -- the number of batches so far
  batch : Nat
  events : Array Event

namespace DrainLoop

variable {ring : Mapping}

-- One batch: a new count, a drain, and its two lines in the log.
def runBatch (l : DrainLoop ring) : DrainLoop ring :=
  let d := l.queue.drain Tally.handler l.memory l.tally.newBatch
  let span := (Span.start l.batch).record d.processed
  ⟨d.queue, d.memory, d.state, l.batch + 1, l.events ++ d.events ++ span.events⟩

def runBatches : Nat → DrainLoop ring → DrainLoop ring
  | 0, l => l
  | left + 1, l =>
      if l.queue.hasCompletions l.memory then runBatches left l.runBatch else l

-- Batches until nothing is pending. Each takes a record at least, so there are no more batches than
-- records.
def tick (l : DrainLoop ring) : DrainLoop ring :=
  runBatches (l.queue.count l.memory).toNat l

def isComplete (l : DrainLoop ring) (total : Nat) : Bool :=
  total ≤ l.tally.received

end DrainLoop

-- A clock cannot tick with no time between its ticks.
structure ZeroPeriod where
deriving DecidableEq

def ZeroPeriod.message (_ : ZeroPeriod) : String :=
  "`period` must be non-zero."

-- Drains on every tick of a clock until a total has arrived. With nobody to fill the ring the first tick
-- takes all there is: the loop is then complete, or nothing more can come.
def drainUntil {ring : Mapping} (queue : Queue ring) (memory : Memory ring) (tally : Tally) (period : Nat) :
    Except ZeroPeriod (DrainLoop ring) :=
  if period = 0 then .error {} else .ok (DrainLoop.tick ⟨queue, memory, tally, 0, #[]⟩)

-- Some records for the ring, and then a drain of all of them.
structure Round where
  records : Array Completion
  series : Progression
  close : Bool
  period : Nat

structure RoundReport (ring : Mapping) where
  -- the last record that found the ring full
  overflow : Option Overflow
  batches : Except ZeroPeriod Nat
  halves : Halves ring
  tally : Tally
  events : List Event

def Round.run {ring : Mapping} (round : Round) (halves : Halves ring) (tally : Tally) : RoundReport ring :=
  let ⟨m, p, q⟩ := halves
  let (_, first, p, m) := p.pushAll m round.records.size fun i => (round.records[i]?).getD .blank
  let (_, second, p, m) := p.pushAll m round.series.count round.series.record
  let m := p.publish m
  let (q, closing) := if round.close then (q.close, q.closeEvents) else (q, [])
  let overflow := second.or first
  match drainUntil q m tally round.period with
  | .error fault => ⟨overflow, .error fault, ⟨m, p, q⟩, tally, closing⟩
  | .ok l => ⟨overflow, .ok l.batch, ⟨l.memory, p, l.queue⟩, l.tally, closing ++ l.events.toList⟩

def runRounds {ring : Mapping} (halves : Halves ring) (tally : Tally) : List Round → List (RoundReport ring)
  | [] => []
  | round :: rounds =>
      let report := round.run halves tally
      report :: runRounds report.halves report.tally rounds

end CompletionRing
